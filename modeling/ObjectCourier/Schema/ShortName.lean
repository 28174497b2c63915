import ObjectCourier.Schema.FieldType

/-!
Short names of field types, such as `Option<Mobile<Part>>`. The names of object types are looked up
in a given list.
-/

namespace ObjectCourier

/-- What is left of a text between a start and one closing character. -/
def within? (start text : List Char) : Option (List Char) :=
  if start.isPrefixOf text then some (text.drop start.length).dropLast else none

namespace FieldType

/-- The type of a name that has at most the given number of levels. -/
def ofChars? (types : List ObjType) : (depth : Nat) → List Char → Option FieldType
  | 0, _ => none
  | depth + 1, name =>
      if let some inner := within? "Option<".toList name then
        (ofChars? types depth inner).map option
      else if let some inner := within? "Vec<".toList name then
        (ofChars? types depth inner).map vector
      else if let some inner := within? "Mobile<".toList name then
        (types.find? (·.name.toList = inner)).map handle
      else
        let named (type : FieldType) : Bool := type.typeName.toList = name
        if name = "String".toList then some text
        else ([bool, float32, float64] ++ IntKind.all.map int).find? named

def ofShortName? (types : List ObjType) (name : String) : Option FieldType :=
  ofChars? types (name.length + 1) name.toList

end FieldType

end ObjectCourier
