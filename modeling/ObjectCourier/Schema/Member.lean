import ObjectCourier.Schema.FieldType

/-!
The fields of the business types. `RecordType.members` lists them in declaration order, which is the
order in which they are recorded, embedded and restored.
-/

namespace ObjectCourier

/-- How a field keeps its value. -/
inductive Form where
  /-- The value itself. -/
  | bare (type : FieldType)
  /-- A container with a name, a dirty flag and possibly no value yet. -/
  | container (type : FieldType)
  /-- A value that is embedded with its object but never recorded. -/
  | aside (type : FieldType)
  /-- The count of outstanding loads, which stays with the instance. -/
  | loads
  /-- A number that stays with the instance. -/
  | memo
  deriving DecidableEq, Repr

/-- A field of a new object has a value from the start. -/
def Form.startable : Form → Bool
  | bare type | aside type => type.startable
  | container _ | loads | memo => true

/-- A field of a business type. An opaque field is carried by value and never walked. -/
structure Member where
  name : String
  form : Form
  isOpaque : Bool := false
  startable : form.startable = true := by rfl
  deriving DecidableEq, Repr

namespace RecordType

open Form FieldType

def members : RecordType → List Member
  | customer =>
      [{ name := "name", form := container text },
       { name := "balance", form := bare float64, isOpaque := true },
       { name := "contacts", form := container (handle (.list .contact)) },
       { name := "primary", form := bare (option (handle (.record .contact))), isOpaque := true },
       { name := "is_new", form := bare bool },
       { name := "loads", form := loads }]
  | contact =>
      [{ name := "name", form := container text },
       { name := "owner", form := bare (option (handle (.record .customer))) }]
  | link =>
      [{ name := "index", form := bare (int .u32) },
       { name := "next", form := bare (option (handle (.record .link))) }]
  | gadget =>
      [{ name := "id", form := bare (int .u32) },
       { name := "label", form := bare text },
       { name := "tags", form := bare (vector text) },
       { name := "price", form := bare (option float64) },
       { name := "cache", form := aside (vector (int .u8)) },
       { name := "part", form := bare (option (handle (.record .part))), isOpaque := true },
       { name := "spare", form := container (handle (.record .part)) }]
  | part =>
      [{ name := "serial", form := bare (int .i64) }]
  | marker => []
  | scalars =>
      [{ name := "a", form := bare (int .i8) },
       { name := "b", form := bare (int .i16) },
       { name := "c", form := bare (int .i32) },
       { name := "d", form := bare (int .i64) },
       { name := "e", form := bare (int .u8) },
       { name := "f", form := bare (int .u16) },
       { name := "g", form := bare (int .u32) },
       { name := "h", form := bare (int .u64) },
       { name := "i", form := bare float32 },
       { name := "j", form := bare float64 },
       { name := "k", form := bare bool },
       { name := "l", form := bare text },
       { name := "m", form := bare (option (option (int .i32))) },
       { name := "n", form := bare (vector (vector (int .i16))) },
       { name := "o", form := container (int .u8) },
       { name := "p", form := container bool }]
  | node =>
      [{ name := "label", form := container text },
       { name := "score", form := container (option (int .i64)) },
       { name := "weights", form := container (vector float64) },
       { name := "left", form := bare (option (handle (.record .node))) },
       { name := "right", form := container (handle (.record .node)) },
       { name := "maybe", form := container (option (handle (.record .node))) },
       { name := "kids", form := bare (handle (.list .node)) },
       { name := "bag", form := container (handle (.list .part)) },
       { name := "parts", form := bare (vector (handle (.record .part))) },
       { name := "blob", form := bare (option (handle (.record .node))), isOpaque := true },
       { name := "boxed", form := container (handle (.record .part)), isOpaque := true },
       { name := "marks", form := bare (vector text) },
       { name := "cache", form := memo }]

end RecordType

/-- What an object is made of: fields, or elements of one type. -/
inductive Shape where
  | fields (members : List Member)
  | elements (type : ObjType)

namespace ObjType

def shape : ObjType → Shape
  | record type => .fields type.members
  | list element => .elements (.record element)

/-- The names of the opaque fields, in declaration order. -/
def opaqueFields : ObjType → List String
  | record type => (type.members.filter (·.isOpaque)).map (·.name)
  | list _ => []

end ObjType

end ObjectCourier
