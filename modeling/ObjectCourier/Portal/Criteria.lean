import ObjectCourier.Object.FieldWire

/-!
Criteria: the positional parameters of a create, fetch or delete. A parameter is kept as a wire
value and read at the type that the reader expects.
-/

namespace ObjectCourier

structure Criteria where
  values : List WireValue := []

namespace Criteria

instance : Inhabited Criteria := ⟨{}⟩

def push (criteria : Criteria) (value : WireValue) : Criteria :=
  ⟨criteria.values ++ [value]⟩

def get (criteria : Criteria) (type : FieldType) (index : Nat) :
    Except Fault (type.Val Embedded) :=
  match criteria.values[index]? with
  | some value => type.ofWire s!"criteria[{index}]" value
  | none => .error (.missingParameter criteria.values.length index)

end Criteria

namespace Codec

def criteria : Codec Criteria := (list WireValue.codec).map Criteria.mk Criteria.values

end Codec

end ObjectCourier
