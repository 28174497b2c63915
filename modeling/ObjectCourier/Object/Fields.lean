import ObjectCourier.Object.Store

/-!
Access to the fields of live objects by name. The content of a field comes with its type; a field
takes a new content only at its own form and type.
-/

namespace ObjectCourier

/-- What can be seen and replaced of a field. -/
inductive FieldContent where
  | bare (type : FieldType) (value : type.Val Carrier.live.Handle)
  | container (type : FieldType) (holder : Container (type.Val Carrier.live.Handle))
  /-- The field belongs to the instance alone. -/
  | closed

namespace FieldContent

def node? : FieldContent → Option Node
  | bare type value => type.liveNode? value
  | container type holder => holder.value?.bind type.liveNode?
  | closed => none

end FieldContent

namespace Form

def content : (form : Form) → form.Val Carrier.live → FieldContent
  | bare type, value => .bare type value
  | container type, value => .container type value
  | aside type, value => .bare type value
  | memo, value => .bare (.int .u32) value
  | loads, _ => .closed

/-- The content as a value of the form, if it is one. -/
def accept? : (form : Form) → FieldContent → Option (form.Val Carrier.live)
  | bare type, .bare given value | aside type, .bare given value =>
      if same : given = type then some (same ▸ value) else none
  | memo, .bare given value =>
      if same : given = FieldType.int .u32 then
        some (show FieldType.Val Carrier.live.Handle (.int .u32) from same ▸ value)
      else none
  | container type, .container given holder =>
      if same : given = type then some (same ▸ holder) else none
  | _, _ => none

end Form

namespace Members

def content? (name : String) :
    (members : List Member) → Members Carrier.live members → Option FieldContent
  | [], _ => none
  | member :: others, (first, rest) =>
      if member.name = name then some (member.form.content first) else content? name others rest

/-- Give the field of a name a new content. Nothing happens if it does not take it. -/
def setContent (name : String) (content : FieldContent) :
    (members : List Member) → Members Carrier.live members → Members Carrier.live members
  | [], data => data
  | member :: others, (first, rest) =>
      if member.name = name then ((member.form.accept? content).getD first, rest)
      else (first, setContent name content others rest)

end Members

namespace Shape

def content? (name : String) : (shape : Shape) → shape.Data Carrier.live → Option FieldContent
  | fields members, data => Members.content? name members data
  | elements _, _ => none

def setContent (name : String) (content : FieldContent) :
    (shape : Shape) → shape.Data Carrier.live → shape.Data Carrier.live
  | fields members, data => Members.setContent name content members data
  | elements _, data => data

end Shape

namespace Store

def field? (store : Store) (node : Node) (name : String) : Except Fault (Option FieldContent) :=
  (store.read node.type node.ref).map (node.type.shape.content? name)

def setField (store : Store) (node : Node) (name : String) (content : FieldContent) : Store :=
  store.modify node.type node.ref (node.type.shape.setContent name content)

def items (store : Store) (element : RecordType) (ref : Ref) : Except Fault (List Ref) :=
  store.read (.list element) ref

end Store

end ObjectCourier
