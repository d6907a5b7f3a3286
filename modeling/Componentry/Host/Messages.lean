import Componentry.Table

/-!
# Lifecycle messages

The host calls a component through messages, and each message belongs to an interface. `Messages`
maps message names to interfaces, and the last segment of every known interface back to its full
name.
-/

namespace Componentry

/-- The known messages with their interfaces, and the full names of interfaces by short name. -/
structure Messages where
  interfaces : Table String := .empty
  shortNames : Table String := .empty
deriving DecidableEq, Repr

namespace Messages

/-- A message was declared twice. -/
inductive Error where
  | declared (name : String)
deriving DecidableEq, Repr

def Error.message : Error → String
  | .declared name => "Message '" ++ name ++ "' already declared."

def serializationInterface : String := "UnityEngine.ISerializationCallbackReceiver"

def interfaceOf (name : String) : String := "hostcomp.messages.I" ++ name

/-- The part of a dotted name after its last dot. -/
def lastSegment (name : String) : String :=
  String.ofList (name.toList.reverse.takeWhile (· != '.')).reverse

/-- Makes an interface known by its last segment; the first interface of a segment stays. -/
def addInterface (m : Messages) (interface : String) : Messages :=
  { m with shortNames := m.shortNames.putNew (lastSegment interface) interface }

/-- Declares a message and gives its interface. An empty interface name counts as none. -/
def register (m : Messages) (name : String) (interface : Option String) :
    Except Error (String × Messages) :=
  if m.interfaces.contains name then .error (.declared name)
  else
    let full := match interface with
      | none | some "" => interfaceOf name
      | some i => i
    .ok (full, { m with interfaces := m.interfaces.put name full }.addInterface full)

def registerAll (m : Messages) : List String → Except Error Messages
  | [] => .ok m
  | name :: rest => do
    let (_, m) ← m.register name none
    m.registerAll rest

/-- A registry of the given messages that also knows the serialization interface. -/
def ofNames (names : List String) : Except Error Messages := do
  let m ← ({} : Messages).registerAll names
  .ok (m.addInterface serializationInterface)

/-- Messages the host knows from the start. -/
def defaultNames : List String :=
  ["Awake", "Start", "Update", "FixedUpdate", "LateUpdate", "OnEnable", "OnDisable", "OnDestroy",
    "OnValidate", "Reset", "OnGUI", "OnDrawGizmos", "OnDrawGizmosSelected", "OnCollisionEnter",
    "OnCollisionStay", "OnCollisionExit", "OnTriggerEnter", "OnTriggerStay", "OnTriggerExit",
    "OnControllerColliderHit", "OnMouseDown", "OnMouseUp", "OnMouseEnter", "OnMouseExit",
    "OnBecameVisible", "OnBecameInvisible", "OnApplicationPause", "OnApplicationQuit",
    "OnAnimatorMove", "OnAnimatorIK", "OnJointBreak", "OnParticleCollision", "OnRenderObject",
    "OnWillRenderObject", "OnTransformChildrenChanged", "OnTransformParentChanged"]

/-- The registry of the default messages, which are all different. -/
def standard : Messages :=
  (defaultNames.foldl
    (fun (m : Messages) name =>
      { m with interfaces := m.interfaces.put name (interfaceOf name) }.addInterface
        (interfaceOf name)) {}).addInterface serializationInterface

def has (m : Messages) (name : String) : Bool := m.interfaces.contains name

def interfaceFor (m : Messages) (name : String) : Option String := m.interfaces.get? name

/-- The full name of an interface written by its short name. A dotted name is full already. -/
def canonical (m : Messages) (interface : String) : String :=
  if interface.toList.contains '.' then interface
  else (m.shortNames.get? interface).getD interface

end Messages

end Componentry
