import ObjectCourier.Codec.Varint

/-!
The five operations that can be asked of a business type. Update and execute work on an object, the
others on criteria; every operation but delete answers with an object.
-/

namespace ObjectCourier

inductive Operation where
  | create
  | fetch
  | update
  | delete
  | execute
  deriving DecidableEq, Repr, Inhabited

namespace Operation

def all : List Operation := [create, fetch, update, delete, execute]

def name : Operation → String
  | create => "create"
  | fetch => "fetch"
  | update => "update"
  | delete => "delete"
  | execute => "execute"

def ofName? (name : String) : Option Operation := all.find? (·.name == name)

/-- The operation works on an object rather than on criteria. -/
def targetsObject : Operation → Bool
  | update | execute => true
  | create | fetch | delete => false

/-- A success of the operation carries an object. -/
def returnsObject : Operation → Bool
  | delete => false
  | create | fetch | update | execute => true

def number : Operation → Nat
  | create => 0
  | fetch => 1
  | update => 2
  | delete => 3
  | execute => 4

end Operation

namespace Codec

def operation : Codec Operation where
  encode value := Varint.encode value.number
  decode := do
    match ← Varint.decode 4 with
    | 0 => return .create
    | 1 => return .fetch
    | 2 => return .update
    | 3 => return .delete
    | 4 => return .execute
    | _ => throw .unknownCase

end Codec

end ObjectCourier
