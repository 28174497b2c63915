import ObjectCourier.Number.IntKind

/-!
The types of objects and of the values in their fields. An object is a record of one of the business
types or a list of such records; a field holds scalars, options, vectors and handles to objects.
-/

namespace ObjectCourier

/-- The business types that have fields. -/
inductive RecordType where
  | customer
  | contact
  | link
  | gadget
  | part
  | marker
  | scalars
  | node
  deriving DecidableEq, Repr

namespace RecordType

/-- The identity of the type in payloads and registries. -/
def key : RecordType → String
  | customer => "tests::Customer"
  | contact => "tests::Contact"
  | link => "tests::Link"
  | gadget => "oracle::model::Gadget"
  | part => "demo::Part"
  | marker => "oracle::model::Marker"
  | scalars => "oracle::Scalars"
  | node => "oracle::Node"

def name : RecordType → String
  | customer => "Customer"
  | contact => "Contact"
  | link => "Link"
  | gadget => "Gadget"
  | part => "Part"
  | marker => "Marker"
  | scalars => "Scalars"
  | node => "Node"

/-- The full name of the type, which embedded values and mismatches carry. -/
def typeName (type : RecordType) : String := "oracle::model::" ++ type.name

/-- Objects of the type answer status questions. -/
def tracks : RecordType → Bool
  | customer | contact | node => true
  | link | gadget | part | marker | scalars => false

end RecordType

inductive ObjType where
  | record (type : RecordType)
  | list (element : RecordType)
  deriving DecidableEq, Repr

namespace ObjType

def key : ObjType → String
  | record type => type.key
  | list element => s!"ChildList<{element.key}>"

def name : ObjType → String
  | record type => type.name
  | list element => s!"ChildList<{element.name}>"

def typeName : ObjType → String
  | record type => type.typeName
  | list element => s!"graphportal::list::ChildList<{element.typeName}>"

/-- A list answers status questions when its elements do. -/
def tracks : ObjType → Bool
  | record type => type.tracks
  | list element => element.tracks

end ObjType

inductive FieldType where
  | int (kind : IntKind)
  | float32
  | float64
  | bool
  | text
  | option (type : FieldType)
  | vector (type : FieldType)
  | handle (type : ObjType)
  deriving DecidableEq, Repr

namespace FieldType

def typeName : FieldType → String
  | int kind => kind.name
  | float32 => "f32"
  | float64 => "f64"
  | bool => "bool"
  | text => "alloc::string::String"
  | option type => s!"core::option::Option<{type.typeName}>"
  | vector type => s!"alloc::vec::Vec<{type.typeName}>"
  | handle type => s!"graphportal::graph::node::Mobile<{type.typeName}>"

/-- Values of the type answer status questions through the object they lead to. -/
def tracks : FieldType → Bool
  | option type => type.tracks
  | handle type => type.tracks
  | int _ | float32 | float64 | bool | text | vector _ => false

/-- The type has a first value that needs no record to exist already. -/
def startable : FieldType → Bool
  | handle (.record _) => false
  | _ => true

end FieldType

end ObjectCourier
