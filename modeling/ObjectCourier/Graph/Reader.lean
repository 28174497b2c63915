import ObjectCourier.Event
import ObjectCourier.Graph.Registry
import ObjectCourier.Object.FieldWire
import ObjectCourier.Object.Initial
import ObjectCourier.Wire.Record

/-!
Reading a payload as a graph. The payload is checked as a whole; then every record is read for its
values, and then every record for its slots. Only when all records are accepted are objects made, so
a payload that is refused leaves nothing behind. What a record needs to be accepted is in the record
itself, the registry, and the types of the records that its slots name.
-/

namespace ObjectCourier

namespace Payload

/-- The first id that was seen before. -/
def repeatedId? : (seen : Std.TreeSet RefId) → List Record → Option RefId
  | _, [] => none
  | seen, record :: others =>
      if seen.contains record.id then some record.id
      else repeatedId? (seen.insert record.id) others

def danglingSlot? (ids : Std.TreeSet RefId) (record : Record) : Option (String × ChildSlot) :=
  record.children.find? fun slot => !ids.contains slot.2.target

/-- Ids are distinct, the root has a record, and no slot names a missing one. -/
def validate (payload : Payload) : Except Fault Unit := do
  if let some id := repeatedId? {} payload.records then throw (.repeatedId id)
  let ids : Std.TreeSet RefId := .ofList (payload.records.map (·.id))
  if !ids.contains payload.root then throw (.missingRoot payload.root)
  payload.records.forM fun record =>
    match danglingSlot? ids record with
    | some (slot, child) => throw (.danglingSlot record.id slot child.target)
    | none => return ()

end Payload

/-- What will stand in the place of a handle: a copy by value, or the object of a record. -/
inductive Source (type : ObjType) where
  | copy (embedded : Embedded type)
  | record (id : RefId)

/-- The content of an object that is not made yet. -/
abbrev Carrier.sourced : Carrier := .byValue Source

/-- A value whose handles are all copies. -/
def FieldType.sourced (type : FieldType) (value : type.Val Embedded) : type.Val Source :=
  Id.run (type.traverse (fun _ embedded => pure (.copy embedded)) value)

/-- The value of a field after the first pass over its record. A field with a child slot waits for
the second pass. -/
def Form.Draft : Form → Type
  | bare type => ChildSlot ⊕ type.Val Embedded
  | container type => Container (type.Val Embedded) × Option ChildSlot
  | aside _ | loads | memo => Unit

def Form.draft (record : Record) (name : String) : (form : Form) → Except Fault form.Draft
  | bare type =>
      match record.child? name with
      | some slot => .ok (.inl slot)
      | none => do
          let value ← type.ofWire name (← record.require name)
          return .inr value
  | container type => do
      let text (part : String) : Except Fault String := do
        FieldType.text.ofWire part (← record.require part)
      let flag (part : String) : Except Fault Bool := do
        FieldType.bool.ofWire part (← record.require part)
      let ownName ← text (name ++ ".name")
      let dirty ← flag (name ++ ".dirty")
      let serializable ← flag (name ++ ".serializable")
      let held : Held (type.Val Embedded) ← match record.value? name with
        | some wire => do
            let value ← type.ofWire name wire
            pure (Held.wrap type.tracks value)
        | none => pure Held.empty
      let container : Container (type.Val Embedded) :=
        { name := ownName, held := held, dirty := dirty, serializable := serializable }
      return (container, record.child? name)
  | aside _ | loads | memo => .ok ()

def MembersDraft : List Member → Type
  | [] => Unit
  | member :: others => member.form.Draft × MembersDraft others

def MembersDraft.read (record : Record) :
    (members : List Member) → Except Fault (MembersDraft members)
  | [] => .ok ()
  | member :: others => do
      let first ← member.form.draft record member.name
      let rest ← read record others
      return (first, rest)

/-- The first pass over a record. Of a list only the number of elements is known after it. -/
def Shape.Draft : Shape → Type
  | fields members => MembersDraft members
  | elements _ => IntKind.usize.Value

def Shape.draft (record : Record) : (shape : Shape) → Except Fault shape.Draft
  | fields members => MembersDraft.read record members
  | elements _ => do
      (FieldType.int .usize).ofWire Record.countName (← record.require Record.countName)

/-- The types of the records that slots may name. -/
abbrev TypeOf := RefId → Option ObjType

def FieldType.ofSlot (type : FieldType) (typeOf : TypeOf) (name : String) (slot : ChildSlot) :
    Except Fault (type.Val Source) :=
  match typeOf slot.target with
  | some target => type.ofHandle name target (.record slot.target)
  | none => .error (.unresolvedId slot.target)

/-- The second pass over a field. A slot replaces what a container held, and brings its dirty flag
along. -/
def Form.link (typeOf : TypeOf) (name : String) :
    (form : Form) → form.startable = true → form.Draft → Except Fault (form.Val Carrier.sourced)
  | bare type, _, draft =>
      match (show ChildSlot ⊕ type.Val Embedded from draft) with
      | .inl slot => type.ofSlot typeOf name slot
      | .inr value => .ok (type.sourced value)
  | container type, _, draft =>
      let (holder, slot?) := (show Container (type.Val Embedded) × Option ChildSlot from draft)
      match slot? with
      | some slot => do
          let value ← type.ofSlot typeOf name slot
          return { name := holder.name
                   held := Held.wrap type.tracks value
                   dirty := slot.dirty
                   serializable := holder.serializable : Container (type.Val Source) }
      | none =>
          let linked : Container (type.Val Source) :=
            Id.run (holder.traverse fun value => pure (type.sourced value))
          .ok linked
  | aside type, startable, _ => .ok (type.sourced (type.first startable))
  | loads, _, _ => .ok ()
  | memo, _, _ => .ok ()

def Members.link (typeOf : TypeOf) : (members : List Member) → MembersDraft members →
    Except Fault (Members Carrier.sourced members)
  | [], _ => .ok ()
  | member :: others, (first, rest) => do
      let linked ← member.form.link typeOf member.name member.startable first
      let remaining ← link typeOf others rest
      return (linked, remaining)

/-- The elements of a list from the given index on. The first index without a slot ends the reading,
however many elements the record promises. -/
def linkElements (typeOf : TypeOf) (record : Record) (element : ObjType) :
    (remaining : Nat) → (index : Nat) → Except Fault (List (Source element))
  | 0, _ => .ok []
  | remaining + 1, index => do
      let name := Record.elementSlot index
      match record.child? name with
      | none => throw (.missingElement record.id index)
      | some slot =>
          let first ← (FieldType.handle element).ofSlot typeOf name slot
          let others ← linkElements typeOf record element remaining (index + 1)
          return first :: others

def Shape.link (typeOf : TypeOf) (record : Record) :
    (shape : Shape) → shape.Draft → Except Fault (shape.Data Carrier.sourced)
  | fields members, draft => Members.link typeOf members draft
  | elements type, draft =>
      let count : IntKind.usize.Value := draft
      linkElements typeOf record type count.val.toNat 0

/-- A record after the first pass. -/
structure RecordDraft where
  record : Record
  type : ObjType
  draft : type.shape.Draft

/-- A record after the second pass: an object that can be made. -/
structure ObjectPlan where
  id : RefId
  type : ObjType
  data : type.Data Carrier.sourced

/-- The objects that a payload describes, none of them made yet. -/
structure GraphPlan where
  root : RefId
  rootType : ObjType
  objects : List ObjectPlan

def RecordDraft.read (registry : Registry) (record : Record) : Except Fault RecordDraft := do
  let type ← registry.resolve record.typeKey
  let draft ← type.shape.draft record
  return { record := record, type := type, draft := draft }

def RecordDraft.link (typeOf : TypeOf) (draft : RecordDraft) : Except Fault ObjectPlan := do
  let data ← draft.type.shape.link typeOf draft.record draft.draft
  return { id := draft.record.id, type := draft.type, data := data }

/-- The types of the objects that the records are about to become. -/
def RecordDraft.types (drafts : List RecordDraft) : Std.TreeMap RefId ObjType :=
  .ofList (drafts.map fun draft => (draft.record.id, draft.type))

def GraphPlan.read (registry : Registry) (payload : Payload) : Except Fault GraphPlan := do
  payload.validate
  let drafts ← payload.records.mapM (RecordDraft.read registry)
  let types := RecordDraft.types drafts
  let typeOf : TypeOf := fun id => types[id]?
  let objects ← drafts.mapM (RecordDraft.link typeOf)
  match typeOf payload.root with
  | some rootType => return { root := payload.root, rootType := rootType, objects := objects }
  | none => throw (.unresolvedId payload.root)

/-- Contents whose copies are made and whose other handles still are ids of records. -/
def Carrier.halfway : Carrier where
  Handle _ := Ref ⊕ RefId
  Loads := CounterId
  Memo := IntKind.u32.Value

/-- Make the copies of an object, and what belongs to its instance. -/
def Carrier.Visitor.plantingCopies :
    Carrier.Visitor (StateM Store) Carrier.sourced Carrier.halfway where
  handle _ source := match source with
    | .copy embedded => do return .inl (← embedded.plant)
    | .record id => return .inr id
  loads _ := Store.newCounter
  memo _ := pure (IntKind.zero .u32)

def Carrier.Visitor.placing (place : RefId → Ref) :
    Carrier.Visitor Id Carrier.halfway Carrier.live where
  handle _ handle := match handle with
    | .inl ref => ref
    | .inr id => place id
  loads loads := loads
  memo memo := memo

structure HalfwayObject where
  type : ObjType
  data : type.Data Carrier.halfway

def ObjectPlan.plantCopies (plan : ObjectPlan) : StateM Store HalfwayObject := do
  let data ← plan.type.traverse .plantingCopies plan.data
  return { type := plan.type, data := data }

def HalfwayObject.alloc (place : RefId → Ref) (object : HalfwayObject) : StateM Store Node :=
  object.type.alloc (Id.run (object.type.traverse (.placing place) object.data))

def GraphPlan.positions (plan : GraphPlan) : Std.TreeMap RefId Nat :=
  .ofList (plan.objects.zipIdx.map fun (object, position) => (object.id, position))

/-- Make all objects of a plan, and return its root. The objects of the records take adjacent places
behind the copies. -/
def GraphPlan.build (plan : GraphPlan) : StateM Store Node := do
  let halfway ← plan.objects.mapM ObjectPlan.plantCopies
  let base := (← get).cells.size
  let positions := plan.positions
  let absent := plan.objects.length
  let place (id : RefId) : Ref := ⟨base + positions.getD id absent⟩
  let _ ← halfway.mapM (HalfwayObject.alloc place)
  return { type := plan.rootType, ref := place plan.root }

end ObjectCourier
