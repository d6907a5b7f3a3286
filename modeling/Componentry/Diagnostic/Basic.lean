import Componentry.Diagnostic.Place
import Componentry.Host.Registry

/-!
# Diagnostics

Every reason for which a source is refused is a `Cause`, and every remark on an accepted one a
`Remark`. Their wording is given here once, by `Cause.message` and `Remark.message`; a diagnostic
adds the place that it is about.
-/

namespace Componentry

/-- Names that start like this belong to generated code. -/
def generatedStart : String := "_hc_"

def accessorName : String := "get_component"

def castName : String := "cast"

/-- The decorator of components that may be defined again. -/
def redefinableName : String := "redefinable"

/-- The field that holds the serialized state of a component. -/
def serializedField : String := "_serialized_data"

/-- What to do when a component declares a method twice. -/
inductive DuplicatePolicy where
  | keepLast
  | keepFirst
  | refuse
deriving DecidableEq, Repr

/-- Why a source or a definition is refused. -/
inductive Cause where
  | emptySource
  | invalidSyntax
  | registry (error : Registry.Error)
  -- Module level
  | globalTarget
  | unannotatedGlobal
  | topLevelStatement (kind : String)
  | generatedName (name : String)
  | constructName (name : String)
  | duplicateName (name : String)
  | expectedName (label : String)
  -- Components
  | componentDecorator
  | componentKeywords
  | componentBase
  | componentBody
  | fieldTarget
  | methodDecorators
  | reservedMethod (name : String)
  | groupDecorators
  | groupBases
  | groupBody
  | emptyGroup (interface : String)
  -- Functions
  | helperDecorators
  | returnAnnot
  | variadicParams
  | irregularParams
  | missingReceiver (method : String)
  | annotatedReceiver
  -- Statements
  | chainedAssignment
  | annotatedTarget
  | conflictingAnnot (name : String)
  | augmentedOperator (name : String)
  | notACall
  | whileElse
  | forElse
  | forTarget
  | outsideLoop (word : String)
  | statement (kind : String)
  | caseGuard
  | captureAll
  | earlyDefault
  | casePattern
  | captureNames (first second : String)
  | sliceAssignment
  | assignmentTarget
  -- Expressions
  | unknownVariable (name : String)
  | constantKind
  | dictUnpacking
  | slice
  | binaryOperator (name : String)
  | unaryOperator (name : String)
  | chainedComparison
  | expression (kind : String)
  | keywordArguments
  | starArguments
  | castArity
  | accessArity
  -- Definitions
  | lateMessage (name : String)
  | declaration (kind : String)
  | unknownMessage (name : String)
  | defaultInterface (name : String)
  | duplicateMethod (name : String) (count : Nat) (component : String)
  | invalidField (name component : String)
  | generatedField (name : String)
  | reservedField
  | duplicateField (name component : String)
  | fieldClash (name component : String)
deriving DecidableEq, Repr

def duplicateText (name : String) (count : Nat) (component : String) : String :=
  "Method '" ++ name ++ "' is declared " ++ toString count ++ " times in component '" ++ component
    ++ "'."

def Cause.message : Cause → String
  | emptySource => "Source is empty."
  | invalidSyntax => "Invalid Python syntax"
  | registry error => error.message
  | globalTarget => "Module-level declaration target must be a name."
  | unannotatedGlobal => "Module-level values must be annotated, e.g. `speed: float = 1.0`."
  | topLevelStatement kind => "Unsupported top-level statement: " ++ kind
  | generatedName name =>
    "Name '" ++ name ++ "' uses the reserved '" ++ generatedStart ++ "' prefix."
  | constructName name => "'" ++ name ++ "' is a built-in construct and cannot be redefined."
  | duplicateName name => "Duplicate top-level name '" ++ name ++ "'."
  | expectedName label => "Expected " ++ label ++ " name."
  | componentDecorator => "Only @" ++ redefinableName ++ " is allowed on components."
  | componentKeywords => "Component class keywords are not supported."
  | componentBase => "Components must extend MonoBehaviour only."
  | componentBody =>
    "Component body can only contain annotated fields, methods, and interface groups."
  | fieldTarget => "Component field target must be a name."
  | methodDecorators => "Decorators are not allowed on component methods."
  | reservedMethod name => "Method name '" ++ name ++ "' is reserved."
  | groupDecorators => "Interface groups cannot have decorators or keywords."
  | groupBases => "Interface groups name exactly one interface."
  | groupBody => "Interface groups can only contain methods."
  | emptyGroup interface => "Interface group '" ++ interface ++ "' declares no methods."
  | helperDecorators => "Decorators are not allowed on helper functions."
  | returnAnnot => "Return annotations are not supported; call results are not tracked."
  | variadicParams => "Variadic parameters are not allowed."
  | irregularParams => "Only regular positional parameters are allowed."
  | missingReceiver method =>
    "Method '" ++ method ++ "' must take the component as first parameter."
  | annotatedReceiver => "The component parameter cannot be annotated."
  | chainedAssignment => "Chained assignment is not allowed."
  | annotatedTarget => "Only local names can be annotated."
  | conflictingAnnot name => "Conflicting annotation for '" ++ name ++ "'."
  | augmentedOperator name => "Unsupported augmented operator: " ++ name
  | notACall => "Only call expressions can be used as statements."
  | whileElse => "while-else is not supported."
  | forElse => "for-else is not supported."
  | forTarget => "for loop target must be a simple name."
  | outsideLoop word => "'" ++ word ++ "' is only allowed inside loops."
  | statement kind => "Unsupported statement: " ++ kind
  | caseGuard => "Guards are not supported in type dispatch cases."
  | captureAll => "Capture-all cases are not supported; use `case _:` as the default."
  | earlyDefault => "`case _:` must be the last case."
  | casePattern => "Type dispatch cases must be class patterns like `case GameObject() as obj:`."
  | captureNames first second =>
    "All cases must capture the same name ('" ++ first ++ "' vs '" ++ second ++ "')."
  | sliceAssignment => "Slice assignment is not supported."
  | assignmentTarget => "Assignment target must be a variable, attribute, or item."
  | unknownVariable name => "Unknown variable '" ++ name ++ "'."
  | constantKind => "Only int, float, str, bool, and None constants are allowed."
  | dictUnpacking => "Dict unpacking is not supported."
  | slice => "Slice expressions are not supported."
  | binaryOperator name => "Unsupported binary operator: " ++ name
  | unaryOperator name => "Unsupported unary operator: " ++ name
  | chainedComparison => "Chained comparisons are not supported."
  | expression kind => "Unsupported expression: " ++ kind
  | keywordArguments => "Keyword arguments are not supported."
  | starArguments => "Star arguments are not supported."
  | castArity => "cast expects exactly 2 arguments: (type, value)."
  | accessArity => "get_component expects exactly 2 arguments: (object, target)."
  | lateMessage name =>
    "Message '" ++ name ++ "' must be declared before explicit interface groups."
  | declaration kind => "Unsupported declaration: " ++ kind
  | unknownMessage name =>
    "Method '" ++ name
      ++ "' is not a known message. Declare it inside an explicit interface group."
  | defaultInterface name =>
    "Default method '" ++ name ++ "' needs an interface or a known message name."
  | duplicateMethod name count component => duplicateText name count component
  | invalidField name component =>
    "Invalid field name '" ++ name ++ "' in component '" ++ component ++ "'."
  | generatedField name =>
    "Field '" ++ name ++ "' uses the reserved '" ++ generatedStart ++ "' prefix."
  | reservedField => "Field '" ++ serializedField ++ "' is reserved for serialized state."
  | duplicateField name component =>
    "Duplicate field '" ++ name ++ "' in component '" ++ component ++ "'."
  | fieldClash name component =>
    "Field '" ++ name ++ "' clashes with a method of component '" ++ component ++ "'."

/-- The families of causes that callers tell apart. -/
inductive CauseKind where
  | validation
  | unresolvedType
  | missingInterface
  | duplicateMessage
deriving DecidableEq, Repr

def Cause.kind : Cause → CauseKind
  | registry (.unresolved _) => .unresolvedType
  | unknownMessage _ => .missingInterface
  | defaultInterface _ => .missingInterface
  | duplicateMethod _ _ _ => .duplicateMessage
  | _ => .validation

/-- A refusal: its cause and the place it is about. -/
structure Diagnostic where
  cause : Cause
  place : Option Place := none
deriving DecidableEq, Repr

/-- The text of a refusal, quoting from the source if there is one. -/
def Diagnostic.text (d : Diagnostic) (source : Option String) : String :=
  located source d.place d.cause.message

/-- Something worth telling about an accepted source. -/
inductive Remark where
  | noMethods (component : String)
  | unusedHelper (name : String)
  | duplicateMethod (name : String) (count : Nat) (component : String) (keptLast : Bool)
deriving DecidableEq, Repr

def Remark.message : Remark → String
  | noMethods component =>
    "Component '" ++ component
      ++ "' declares no methods; only default lifecycle methods will be generated."
  | unusedHelper name => "Helper '" ++ name ++ "' is never called by any component or helper."
  | duplicateMethod name count component keptLast =>
    duplicateText name count component ++
      if keptLast then " Keeping the last declaration." else " Keeping the first declaration."

structure Warning where
  remark : Remark
  place : Option Place := none
deriving DecidableEq, Repr

def Warning.text (w : Warning) (source : Option String) : String :=
  located source w.place w.remark.message

/-! ## Reports on syntax -/

/-- What a reader of source texts reports about a text that it refuses. -/
structure SyntaxReport where
  message : String
  line : Int := 0
  column : Int := 0
  text : String := ""
deriving DecidableEq, Repr

/-- The line that a report quotes: its own text, or else the line of the source. -/
def SyntaxReport.snippet (r : SyntaxReport) (source : String) : List Char :=
  let own := Text.trim r.text.toList
  if own.isEmpty then ((Place.lineOf? r.line source.toList).map Text.trim).getD [] else own

def SyntaxReport.render (r : SyntaxReport) (source : String) : String :=
  let snippet := r.snippet source
  let location := if 0 < r.line then
      ["Location: line " ++ toString r.line ++ ", column "
        ++ toString (if 0 < r.column then r.column else 1)]
    else []
  let code := if snippet.isEmpty then [] else ["Code: " ++ String.ofList snippet]
  Text.joinWith "\n" ((Cause.invalidSyntax.message ++ ": " ++ r.message) :: location ++ code)

end Componentry
