import ObjectCourier.Fault
import ObjectCourier.Schema.Member

/-!
What takes part in a graph. A policy says which types are walked and which fields may be walked
through; a registry of types, with the fields marked opaque on top of the declared ones, is one.
-/

namespace ObjectCourier

/-- The decisions that a walk over a graph asks for. -/
structure Policy where
  /-- The field of the owner may be walked. -/
  mayWalk : (ownerKey field : String) → Bool
  /-- Objects of the type get records of their own. -/
  isCapable : (typeKey : String) → Bool

/-- A node of the target type in the field of the owner gets a record of its own. -/
def Policy.walks (policy : Policy) (ownerKey field targetKey : String) : Bool :=
  policy.mayWalk ownerKey field && policy.isCapable targetKey

/-- The registered types and the fields that are opaque beside the declared ones. -/
structure Registry where
  types : List ObjType := []
  marked : List (String × String) := []

namespace Registry

def type? (registry : Registry) (typeKey : String) : Option ObjType :=
  registry.types.find? (·.key = typeKey)

def contains (registry : Registry) (typeKey : String) : Bool :=
  (registry.type? typeKey).isSome

/-- Add a type. A type that is registered already stays as it is. -/
def register (registry : Registry) (type : ObjType) : Registry :=
  if registry.contains type.key then registry
  else { registry with types := registry.types ++ [type] }

def markOpaque (registry : Registry) (typeKey field : String) : Registry :=
  if (typeKey, field) ∈ registry.marked then registry
  else { registry with marked := registry.marked ++ [(typeKey, field)] }

def resolve (registry : Registry) (typeKey : String) : Except Fault ObjType :=
  match registry.type? typeKey with
  | some type => .ok type
  | none => .error (.unknownType typeKey)

/-- A field may be walked unless its type declares it opaque or it is marked so. -/
def mayWalk (registry : Registry) (typeKey field : String) : Bool :=
  let declared := match registry.type? typeKey with
    | some type => field ∈ type.opaqueFields
    | none => false
  !(declared || (typeKey, field) ∈ registry.marked)

def policy (registry : Registry) : Policy where
  mayWalk := registry.mayWalk
  isCapable := registry.contains

end Registry

end ObjectCourier
