import ObjectCourier.Status.Basic

/-!
The status of the business types. A customer looks at its contacts, a list at its elements; a
contact and a node look only at themselves. Status is read from poisoned objects as well.
-/

namespace ObjectCourier

namespace Status

/-- The status of a text field, which always answers for itself. -/
def ofText (field : Container String) : Status := field.status fun _ => none

def ofContact (data : (ObjType.record .contact).Data Carrier.live) : Status :=
  let (name, _) := data
  let dirty := (ofText name).dirty
  withSavable
    { dirty := dirty, selfDirty := dirty, child := true, valid := true, selfValid := true }

/-- The words in a node's marks stand for its flags. -/
def ofNode (data : (ObjType.record .node).Data Carrier.live) : Status :=
  let (label, _, _, _, _, _, _, _, _, _, _, marks, _) := data
  let marked (word : String) : Bool := List.contains (α := String) marks word
  let selfDirty := (ofText label).dirty
  let selfValid := !marked "self_invalid"
  withSavable
    { dirty := marked "dirty" || selfDirty
      selfDirty := selfDirty
      isNew := marked "new"
      deleted := marked "deleted"
      child := marked "child"
      valid := !marked "invalid" && selfValid
      selfValid := selfValid
      busy := marked "busy" }

end Status

namespace Store

/-- The status of an object that looks at no other tracked object. -/
def ownStatus? (store : Store) (type : RecordType) (ref : Ref) : Option Status :=
  match type with
  | .contact => (store.data? (.record .contact) ref).map Status.ofContact
  | .node => (store.data? (.record .node) ref).map Status.ofNode
  | .customer | .link | .gadget | .part | .marker | .scalars => none

/-- The status of a list whose elements look at no other tracked object. -/
def ownListStatus? (store : Store) (element : RecordType) (ref : Ref) : Option Status :=
  if element.tracks then
    (store.data? (.list element) ref).map fun items =>
      .ofElements (List.filterMap (store.ownStatus? element) items)
  else none

def customerStatus (store : Store) (data : (ObjType.record .customer).Data Carrier.live) :
    Status :=
  let (name, _, contacts, _, isNew, loads, _) := data
  let contactsStatus :=
    Container.status (α := Ref) (store.ownListStatus? .contact) contacts
  let selfDirty := (Status.ofText name).dirty
  let selfValid := ((Container.value? (α := String) name).getD "") ≠ ""
  Status.withSavable
    { dirty := selfDirty || contactsStatus.dirty
      selfDirty := selfDirty
      isNew := isNew
      valid := selfValid && contactsStatus.valid
      selfValid := selfValid
      busy := 0 < store.outstanding loads }

def recordStatus? (store : Store) (type : RecordType) (ref : Ref) : Option Status :=
  match type with
  | .customer => (store.data? (.record .customer) ref).map store.customerStatus
  | other => store.ownStatus? other ref

/-- The status of a list by its elements, whether or not they track status. -/
def elementsStatus? (store : Store) (element : RecordType) (ref : Ref) : Option Status :=
  (store.data? (.list element) ref).map fun items =>
    .ofElements (List.filterMap (store.recordStatus? element) items)

/-- The status of an object, when its type tracks status. -/
def status? (store : Store) (type : ObjType) (ref : Ref) : Option Status :=
  match type with
  | .record type => store.recordStatus? type ref
  | .list element => if element.tracks then store.elementsStatus? element ref else none

def nodeStatus? (store : Store) (node : Node) : Option Status :=
  store.status? node.type node.ref

end Store

/-- The status that a value answers with, through options, when it is a handle. -/
def FieldType.status? (store : Store) (type : FieldType) (value : type.Val Carrier.live.Handle) :
    Option Status :=
  (type.liveNode? value).bind store.nodeStatus?

end ObjectCourier
