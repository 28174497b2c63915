import ObjectCourier.Fault
import ObjectCourier.Wire.Entries
import ObjectCourier.Wire.Value

/-!
Records and payloads. A record describes one object: its values, and its child slots, which name the
records of other objects by reference id. A payload is a list of records and the id of its root.
-/

namespace ObjectCourier

/-- A slot of a record: the record of the child, and the dirty flag of the field that holds it. -/
structure ChildSlot where
  target : RefId
  dirty : Bool
  deriving DecidableEq, Repr, Inhabited

structure Record where
  id : RefId
  typeKey : String
  values : Entries WireValue := []
  children : Entries ChildSlot := []

namespace Record

instance : Inhabited Record := ⟨{ id := default, typeKey := "" }⟩

def addValue (name : String) (value : WireValue) (record : Record) : Record :=
  { record with values := record.values.put name value }

def addChild (slot : String) (target : RefId) (dirty : Bool) (record : Record) : Record :=
  { record with children := record.children.put slot { target := target, dirty := dirty } }

def value? (record : Record) (name : String) : Option WireValue := record.values.get? name

def child? (record : Record) (slot : String) : Option ChildSlot := record.children.get? slot

def require (record : Record) (name : String) : Except Fault WireValue :=
  match record.value? name with
  | some value => .ok value
  | none => .error (.missingValue record.id record.typeKey name)

/-- The name of the value that holds the number of elements of a list. -/
def countName : String := "count"

def elementSlot (index : Nat) : String := toString index

end Record

structure Payload where
  root : RefId
  records : List Record

namespace Payload

def record? (payload : Payload) (id : RefId) : Option Record :=
  payload.records.find? (·.id = id)

def rootKey? (payload : Payload) : Option String :=
  (payload.record? payload.root).map (·.typeKey)

end Payload

namespace Codec

def childSlot : Codec ChildSlot where
  encode slot := refId.encode slot.target ++ bool.encode slot.dirty
  decode := do
    let target ← refId.decode
    let dirty ← bool.decode
    return { target := target, dirty := dirty }

def record : Codec Record where
  encode record :=
    refId.encode record.id ++ text.encode record.typeKey
      ++ (list (pair text WireValue.codec)).encode record.values
      ++ (list (pair text childSlot)).encode record.children
  decode := do
    let id ← refId.decode
    let typeKey ← text.decode
    let values ← (list (pair text WireValue.codec)).decode
    let children ← (list (pair text childSlot)).decode
    return { id := id, typeKey := typeKey, values := values, children := children }

def payload : Codec Payload where
  encode payload := refId.encode payload.root ++ (list record).encode payload.records
  decode := do
    let root ← refId.decode
    let records ← (list record).decode
    return { root := root, records := records }

end Codec

end ObjectCourier
