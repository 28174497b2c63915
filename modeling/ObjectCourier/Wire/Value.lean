import ObjectCourier.Number.Binary
import ObjectCourier.Number.IntKind

/-!
Values as they travel inside a record. All signed integers share one kind and all unsigned ones
another; an embedded object is a blob under the full name of its type.
-/

namespace ObjectCourier

inductive WireValue where
  | null
  | bool (value : Bool)
  | int (value : IntKind.i64.Value)
  | uint (value : IntKind.u64.Value)
  | float (value : Binary64)
  | text (value : String)
  | bytes (value : Bytes)
  | list (items : List WireValue)
  | embedded (typeName : String) (body : Bytes)

namespace WireValue

instance : Inhabited WireValue := ⟨null⟩

def kindName : WireValue → String
  | null => "null"
  | bool _ => "bool"
  | int _ => "int"
  | uint _ => "uint"
  | float _ => "float"
  | text _ => "text"
  | bytes _ => "bytes"
  | list _ => "list"
  | embedded .. => "opaque"

mutual

def encode : WireValue → Bytes
  | null => [0]
  | bool value => 1 :: Codec.bool.encode value
  | int value => 2 :: IntKind.i64.encode value
  | uint value => 3 :: IntKind.u64.encode value
  | float value => 4 :: Codec.binary64.encode value
  | text value => 5 :: Codec.text.encode value
  | bytes value => 6 :: Codec.blob.encode value
  | list items => 7 :: (Varint.encode items.length ++ encodeAll items)
  | embedded typeName body => 8 :: (Codec.text.encode typeName ++ Codec.blob.encode body)

def encodeAll : List WireValue → Bytes
  | [] => []
  | first :: others => encode first ++ encodeAll others

end

/-- A value; if it is a list, the given decoder reads its items from their number. -/
def decodeBy (items : Nat → Decoder (List WireValue)) : Decoder WireValue := do
  match ← Varint.decode 4 with
  | 0 => return null
  | 1 => return bool (← Codec.bool.decode)
  | 2 => return int (← IntKind.i64.decode)
  | 3 => return uint (← IntKind.u64.decode)
  | 4 => return float (← Codec.binary64.decode)
  | 5 => return text (← Codec.text.decode)
  | 6 => return bytes (← Codec.blob.decode)
  | 7 => return list (← items (← Varint.decode 8))
  | 8 =>
      let typeName ← Codec.text.decode
      return embedded typeName (← Codec.blob.decode)
  | _ => throw .unknownCase

/-- A value of at most the given number of levels. -/
def decodeWithin : (depth : Nat) → Decoder WireValue
  | 0 => throw .unexpectedEnd
  | depth + 1 => decodeBy (decodeWithin depth).times

/-- Every level of a value takes a byte of its own, so the number of bytes bounds the levels of the
items. -/
def decode : Decoder WireValue :=
  decodeBy fun count bytes => (decodeWithin bytes.length).times count bytes

def codec : Codec WireValue where
  encode := encode
  decode := decode

end WireValue

end ObjectCourier
