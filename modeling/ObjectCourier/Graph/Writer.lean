import ObjectCourier.Event
import ObjectCourier.Graph.Registry
import ObjectCourier.Graph.RefTable
import ObjectCourier.Object.FieldWire
import ObjectCourier.Wire.Record

/-!
Writing a graph as a payload. The walk goes depth first, fields in declaration order and elements by
index. An object gets its id before its children are visited, so a cycle ends at the id it meets
again. Each object gives one record: first its values, then its children.
-/

namespace ObjectCourier

structure WriterState where
  table : RefTable := {}
  /-- The finished records. -/
  records : Std.TreeMap RefId Record := {}
  log : List Event := []

/-- A step of a writing pass. What it has done stays done when it fails. -/
abbrev Writing := ExceptT Fault (StateM WriterState)

namespace Writing

def note (event : Event) : Writing Unit :=
  modify fun state => { state with log := state.log ++ [event] }

def assign (node : Node) : Writing RefId := do
  let (id, table) ← (← get).table.assign node
  modify fun state => { state with table := table }
  return id

def finish (record : Record) : Writing Unit :=
  modify fun state => { state with records := state.records.insert record.id record }

end Writing

/-- What the fields of an object need to write themselves: the objects, the policy, and the visit
that gives a child its id. -/
structure WriterScope where
  store : Store
  policy : Policy
  visit : Node → Writing RefId

namespace FieldType

/-- The value of a field that is no node. -/
def writeState (type : FieldType) (scope : WriterScope) (name : String)
    (value : type.Val Carrier.live.Handle) (record : Record) : Writing Record :=
  match type.liveNode? value with
  | some _ => pure record
  | none => do
      return record.addValue name (← scope.store.toWire type value)

/-- The child slot of a field that is a node, or its value if the node is not walked. -/
def writeChild (type : FieldType) (scope : WriterScope) (name : String) (permitted dirty : Bool)
    (value : type.Val Carrier.live.Handle) (record : Record) : Writing Record :=
  match type.liveNode? value with
  | none => pure record
  | some node => do
      if permitted && scope.policy.walks record.typeKey name node.typeKey then
        let id ← scope.visit node
        return record.addChild name id dirty
      else
        return record.addValue name (← scope.store.toWire type value)

end FieldType

/-- The parts of a container that are recorded whatever it holds. -/
def Container.writeLabels {α : Type} (name : String) (container : Container α) (record : Record) :
    Record :=
  record.addValue (name ++ ".name") (.text container.name)
    |>.addValue (name ++ ".dirty") (.bool container.dirty)
    |>.addValue (name ++ ".serializable") (.bool container.serializable)

namespace Form

def writeState (scope : WriterScope) (name : String) :
    (form : Form) → form.Val Carrier.live → Record → Writing Record
  | bare type, value, record => type.writeState scope name value record
  | container type, value, record =>
      let container : Container (type.Val Carrier.live.Handle) := value
      let labelled := container.writeLabels name record
      match container.value? with
      | some held => type.writeState scope name held labelled
      | none => pure labelled
  | aside _, _, record | loads, _, record | memo, _, record => pure record

def writeChildren (scope : WriterScope) (name : String) :
    (form : Form) → form.Val Carrier.live → Record → Writing Record
  | bare type, value, record => type.writeChild scope name true false value record
  | container type, value, record =>
      let container : Container (type.Val Carrier.live.Handle) := value
      match container.value? with
      | some held =>
          type.writeChild scope name container.serializable container.dirty held record
      | none => pure record
  | aside _, _, record | loads, _, record | memo, _, record => pure record

end Form

namespace Members

def writeState (scope : WriterScope) :
    (members : List Member) → Members Carrier.live members → Record → Writing Record
  | [], _, record => pure record
  | member :: others, (first, rest), record => do
      writeState scope others rest (← member.form.writeState scope member.name first record)

def writeChildren (scope : WriterScope) :
    (members : List Member) → Members Carrier.live members → Record → Writing Record
  | [], _, record => pure record
  | member :: others, (first, rest), record => do
      writeChildren scope others rest (← member.form.writeChildren scope member.name first record)

end Members

def writeElements (scope : WriterScope) (type : ObjType) :
    (index : Nat) → List Ref → Record → Writing Record
  | _, [], record => pure record
  | index, item :: others, record => do
      let id ← scope.visit ⟨type, item⟩
      writeElements scope type (index + 1) others
        (record.addChild (Record.elementSlot index) id false)

namespace Shape

def writeState (scope : WriterScope) :
    (shape : Shape) → shape.Data Carrier.live → Record → Writing Record
  | fields members, data, record => Members.writeState scope members data record
  | elements _, data, record =>
      let items : List Ref := data
      match IntKind.u64.ofInt? items.length with
      | some count => pure (record.addValue Record.countName (.uint count))
      | none => throw .oversized

def writeChildren (scope : WriterScope) :
    (shape : Shape) → shape.Data Carrier.live → Record → Writing Record
  | fields members, data, record => Members.writeChildren scope members data record
  | elements type, data, record =>
      if scope.policy.isCapable type.key then writeElements scope type 0 data record
      else throw (.unregisteredElements type.key)

end Shape

/-- Write the object of a node unless it has an id already, and return its id. -/
def Store.writeObject (store : Store) (policy : Policy) :
    (depth : Nat) → (node : Node) → Writing RefId
  | 0, _ => throw .walkTooDeep
  | depth + 1, node => do
      match (← get).table.lookup node.ref with
      | some id =>
          Writing.note (.backReference id node.typeKey)
          return id
      | none =>
          let scope : WriterScope :=
            { store := store, policy := policy, visit := writeObject store policy depth }
          let id ← Writing.assign node
          let data ← store.readNode node
          let blank : Record := { id := id, typeKey := node.typeKey }
          let stated ← node.type.shape.writeState scope data blank
          let finished ← node.type.shape.writeChildren scope data stated
          Writing.finish finished
          return id

namespace Store

/-- Write an object and everything that can be walked from it. Every level of the walk gives an
object its id, so the number of objects in the store bounds the number of levels. -/
def write (store : Store) (policy : Policy) (node : Node) : Writing RefId :=
  store.writeObject policy (store.cells.size + 1) node

/-- Write the root of a graph and end the pass. The records come in the order of their ids. -/
def writeRoot (store : Store) (policy : Policy) (root : Node) : Writing Payload := do
  if !policy.isCapable root.typeKey then throw (.unregisteredRoot root.typeKey)
  let id ← store.write policy root
  let state ← get
  Writing.note (.serialized state.records.size id)
  return { root := id, records := state.records.values }

/-- The payload of a graph, and what the pass reports. -/
def serialize (store : Store) (policy : Policy) (root : Node) :
    Except Fault Payload × List Event :=
  let (outcome, state) := (store.writeRoot policy root).run.run {}
  (outcome, state.log)

end Store

end ObjectCourier
