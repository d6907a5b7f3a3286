import Componentry.Host.Registry

/-!
# The host engine's object model

The built-in types of the engine and the facts that specialization rests on: which object shapes
answer a component lookup, and which kinds of target a lookup takes.
-/

namespace Componentry.Host

/-! ## Full names -/

def objectName : String := "System.Object"
def stringName : String := "System.String"
def typeName : String := "System.Type"
def int32Name : String := "System.Int32"
def singleName : String := "System.Single"
def booleanName : String := "System.Boolean"
def engineObjectName : String := "UnityEngine.Object"
def gameObjectName : String := "UnityEngine.GameObject"
def componentName : String := "UnityEngine.Component"
def monoBehaviourName : String := "UnityEngine.MonoBehaviour"

def accessMethod : String := "GetComponent"

/-! ## Shapes and targets -/

/-- The two kinds of host object that answer a component lookup. -/
inductive ObjectShape where
  | gameObject
  | component
deriving DecidableEq, Repr

def ObjectShape.all : List ObjectShape := [.gameObject, .component]

def ObjectShape.fullName : ObjectShape → String
  | .gameObject => gameObjectName
  | .component => componentName

/-- How a lookup describes the component it wants: by type or by name. -/
inductive TargetKind where
  | type
  | name
deriving DecidableEq, Repr

def TargetKind.all : List TargetKind := [.type, .name]

def TargetKind.fullName : TargetKind → String
  | .type => typeName
  | .name => stringName

/-! ## Built-in types -/

/-- Methods of everything that has components. -/
def lookupMethods : List String :=
  [accessMethod, "GetComponents", "GetComponentInChildren", "GetComponentInParent", "CompareTag",
    "SendMessage"]

/-- Every built-in type with its extra aliases; bases come before their subtypes. -/
def builtinTypes : List (HostType × List String) :=
  [ ({ name := "Object", fullName := objectName, methods := ["ToString", "GetType", "Equals"],
       codeName := "object" }, ["object"]),
    ({ name := "String", fullName := stringName, base := some objectName, codeName := "str",
       serializable := true }, ["str"]),
    ({ name := "Type", fullName := typeName, base := some objectName, methods := ["IsSubclassOf"],
       codeName := "type" }, ["type"]),
    ({ name := "Int32", fullName := int32Name, base := some objectName, codeName := "int",
       serializable := true }, ["int"]),
    ({ name := "Single", fullName := singleName, base := some objectName, codeName := "float",
       serializable := true }, ["float"]),
    ({ name := "Boolean", fullName := booleanName, base := some objectName, codeName := "bool",
       serializable := true }, ["bool"]),
    ({ name := "Object", fullName := engineObjectName, base := some objectName,
       methods := ["GetInstanceID"], fields := [("name", stringName)], codeName := "UnityObject",
       serializable := true }, ["UnityObject"]),
    ({ name := "GameObject", fullName := gameObjectName, base := some engineObjectName,
       methods := lookupMethods ++ ["AddComponent", "SetActive"],
       fields := [("transform", "UnityEngine.Transform"), ("tag", stringName),
         ("activeSelf", booleanName)], serializable := true }, []),
    ({ name := "Component", fullName := componentName, base := some engineObjectName,
       methods := lookupMethods,
       fields := [("gameObject", gameObjectName), ("transform", "UnityEngine.Transform"),
         ("tag", stringName)], serializable := true }, []),
    ({ name := "Transform", fullName := "UnityEngine.Transform", base := some componentName,
       methods := ["Translate", "Rotate", "LookAt", "Find", "SetParent"],
       fields := [("parent", "UnityEngine.Transform"), ("position", "UnityEngine.Vector3"),
         ("rotation", "UnityEngine.Quaternion")], serializable := true }, []),
    ({ name := "Behaviour", fullName := "UnityEngine.Behaviour", base := some componentName,
       fields := [("enabled", booleanName)], serializable := true }, []),
    ({ name := "MonoBehaviour", fullName := monoBehaviourName, base := some "UnityEngine.Behaviour",
       methods := ["Invoke", "StartCoroutine", "StopAllCoroutines"], serializable := true }, []),
    ({ name := "Camera", fullName := "UnityEngine.Camera", base := some "UnityEngine.Behaviour",
       serializable := true }, []),
    ({ name := "Rigidbody", fullName := "UnityEngine.Rigidbody", base := some componentName,
       methods := ["AddForce", "MovePosition"],
       fields := [("velocity", "UnityEngine.Vector3"), ("mass", singleName)],
       serializable := true }, []),
    ({ name := "Collider", fullName := "UnityEngine.Collider", base := some componentName,
       fields := [("isTrigger", booleanName)], serializable := true }, []),
    ({ name := "Renderer", fullName := "UnityEngine.Renderer", base := some componentName,
       serializable := true }, []),
    ({ name := "Vector3", fullName := "UnityEngine.Vector3", base := some objectName,
       methods := ["Normalize"],
       fields := [("x", singleName), ("y", singleName), ("z", singleName)],
       serializable := true }, []),
    ({ name := "Quaternion", fullName := "UnityEngine.Quaternion", base := some objectName,
       serializable := true }, []),
    ({ name := "Collision", fullName := "UnityEngine.Collision", base := some objectName,
       fields := [("gameObject", gameObjectName), ("collider", "UnityEngine.Collider"),
         ("transform", "UnityEngine.Transform")] }, []),
    ({ name := "Time", fullName := "UnityEngine.Time", base := some objectName,
       fields := [("deltaTime", singleName)] }, []),
    ({ name := "Debug", fullName := "UnityEngine.Debug", base := some objectName,
       methods := ["Log"] }, []),
    ({ name := "Input", fullName := "UnityEngine.Input", base := some objectName,
       methods := ["GetKey", "GetAxis"] }, []),
    ({ name := "Mathf", fullName := "UnityEngine.Mathf", base := some objectName,
       methods := ["Clamp", "Lerp"] }, []) ]

def builtin : Registry := builtinTypes.foldl (fun r entry => r.add entry.1 entry.2) .empty

/-- Names of types that generated code has without importing them. -/
def ambientNames : List String := ["object", "str", "type", "int", "float", "bool"]

end Componentry.Host
