import Componentry.Main
import Componentry.Persist.Loading
import Componentry.Proofs.DefinitionOrder
import Componentry.Proofs.FieldReads
import Componentry.Proofs.HostImports
import Componentry.Proofs.Hygiene
import Componentry.Proofs.InterfaceNames
import Componentry.Proofs.JoinedPoints
import Componentry.Proofs.Lookup
import Componentry.Proofs.Lossless
import Componentry.Proofs.MostSpecific
import Componentry.Proofs.Narrowing
import Componentry.Proofs.Outputs
import Componentry.Proofs.Payloads
import Componentry.Proofs.Placement
import Componentry.Proofs.Reannotation
import Componentry.Proofs.Reordering
import Componentry.Proofs.Sessions
