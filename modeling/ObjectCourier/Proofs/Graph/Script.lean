import ObjectCourier.Graph.Writer

/-!
What an object has to say in its record. The script of an object lists, in the order of writing, the
values and slots of its record, and the fault at which the writing ends. Writing an object is running
its script with a visit to the child of every slot.
-/

namespace ObjectCourier

structure Slot where
  name : String
  child : Node
  dirty : Bool
  deriving DecidableEq, Repr

inductive WriteStep where
  | value (name : String) (wire : WireValue)
  | slot (slot : Slot)

/-- The steps of writing a record, up to the first one that fails. -/
abbrev Script := List (Except Fault WriteStep)

namespace Script

def run (visit : Node → Writing RefId) : Script → Record → Writing Record
  | [], record => pure record
  | .error fault :: _, _ => throw fault
  | .ok (.value name wire) :: others, record => run visit others (record.addValue name wire)
  | .ok (.slot slot) :: others, record => do
      let id ← visit slot.child
      run visit others (record.addChild slot.name id slot.dirty)

theorem run_append (visit : Node → Writing RefId) (first second : Script) (record : Record) :
    run visit (first ++ second) record = run visit first record >>= run visit second := by
  induction first generalizing record with
  | nil => rw [List.nil_append, run, pure_bind]
  | cons step others ih =>
      match step with
      | .error fault => rfl
      | .ok (.value name wire) => exact ih _
      | .ok (.slot slot) =>
          rw [List.cons_append, run, run, bind_assoc]
          exact bind_congr fun id => ih _

end Script

section Scripts

variable (store : Store) (policy : Policy)

namespace FieldType

def stateScript (name : String) (type : FieldType) (value : type.Val Carrier.live.Handle) :
    Script :=
  match type.liveNode? value with
  | some _ => []
  | none => [(store.toWire type value).map (.value name)]

def slots (typeKey name : String) (permitted dirty : Bool) (type : FieldType)
    (value : type.Val Carrier.live.Handle) : List Slot :=
  match type.liveNode? value with
  | some node =>
      if permitted && policy.walks typeKey name node.typeKey then [⟨name, node, dirty⟩] else []
  | none => []

def childScript (typeKey name : String) (permitted dirty : Bool) (type : FieldType)
    (value : type.Val Carrier.live.Handle) : Script :=
  match type.liveNode? value with
  | none => []
  | some node =>
      if permitted && policy.walks typeKey name node.typeKey then
        [.ok (.slot ⟨name, node, dirty⟩)]
      else [(store.toWire type value).map (.value name)]

end FieldType

def Container.labelScript {α : Type} (name : String) (container : Container α) : Script :=
  [.ok (.value (name ++ ".name") (.text container.name)),
   .ok (.value (name ++ ".dirty") (.bool container.dirty)),
   .ok (.value (name ++ ".serializable") (.bool container.serializable))]

namespace Form

def stateScript (name : String) : (form : Form) → form.Val Carrier.live → Script
  | bare type, value => type.stateScript store name value
  | container type, value =>
      let container : Container (type.Val Carrier.live.Handle) := value
      container.labelScript name ++
        match container.value? with
        | some held => type.stateScript store name held
        | none => []
  | aside _, _ | loads, _ | memo, _ => []

def slots (typeKey name : String) : (form : Form) → form.Val Carrier.live → List Slot
  | bare type, value => type.slots policy typeKey name true false value
  | container type, value =>
      let container : Container (type.Val Carrier.live.Handle) := value
      match container.value? with
      | some held =>
          type.slots policy typeKey name container.serializable container.dirty held
      | none => []
  | aside _, _ | loads, _ | memo, _ => []

def childScript (typeKey name : String) : (form : Form) → form.Val Carrier.live → Script
  | bare type, value => type.childScript store policy typeKey name true false value
  | container type, value =>
      let container : Container (type.Val Carrier.live.Handle) := value
      match container.value? with
      | some held =>
          type.childScript store policy typeKey name container.serializable container.dirty held
      | none => []
  | aside _, _ | loads, _ | memo, _ => []

end Form

namespace Members

def stateScript : (members : List Member) → Members Carrier.live members → Script
  | [], _ => []
  | member :: others, (first, rest) =>
      member.form.stateScript store member.name first ++ stateScript others rest

def slots (typeKey : String) : (members : List Member) → Members Carrier.live members → List Slot
  | [], _ => []
  | member :: others, (first, rest) =>
      member.form.slots policy typeKey member.name first ++ slots typeKey others rest

def childScript (typeKey : String) :
    (members : List Member) → Members Carrier.live members → Script
  | [], _ => []
  | member :: others, (first, rest) =>
      member.form.childScript store policy typeKey member.name first ++ childScript typeKey others rest

end Members

def elementSlots (type : ObjType) : (index : Nat) → List Ref → List Slot
  | _, [] => []
  | index, item :: others =>
      ⟨Record.elementSlot index, ⟨type, item⟩, false⟩ :: elementSlots type (index + 1) others

namespace Shape

def stateScript : (shape : Shape) → shape.Data Carrier.live → Script
  | fields members, data => Members.stateScript store members data
  | elements _, data =>
      let items : List Ref := data
      match IntKind.u64.ofInt? items.length with
      | some count => [.ok (.value Record.countName (.uint count))]
      | none => [.error .oversized]

def slots (typeKey : String) : (shape : Shape) → shape.Data Carrier.live → List Slot
  | fields members, data => Members.slots policy typeKey members data
  | elements type, data => elementSlots type 0 data

def childScript (typeKey : String) : (shape : Shape) → shape.Data Carrier.live → Script
  | fields members, data => Members.childScript store policy typeKey members data
  | elements type, data =>
      if policy.isCapable type.key then (elementSlots type 0 data).map fun slot => .ok (.slot slot)
      else [.error (.unregisteredElements type.key)]

end Shape

/-- The script of the object of a node. -/
def Store.script (node : Node) : Script :=
  match store.readNode node with
  | .error fault => [.error fault]
  | .ok data =>
      node.type.shape.stateScript store data ++
        node.type.shape.childScript store policy node.typeKey data

/-- The slots of the object of a node. -/
def Store.slots (node : Node) : List Slot :=
  match store.data? node.type node.ref with
  | some data => node.type.shape.slots policy node.typeKey data
  | none => []

end Scripts

/-! ### Writing runs the script -/

namespace Script

private theorem run_value (visit : Node → Writing RefId) (name : String)
    (outcome : Except Fault WireValue) (record : Record) :
    run visit [outcome.map (.value name)] record =
      (do return record.addValue name (← outcome)) := by
  cases outcome <;> rfl

theorem run_bind_congr {α : Type} (visit : Node → Writing RefId) (script : Script)
    {left right : Record → Writing α} {record : Record}
    (agree : ∀ written : Record, written.typeKey = record.typeKey → left written = right written) :
    run visit script record >>= left = run visit script record >>= right := by
  induction script generalizing record with
  | nil =>
      rw [run, pure_bind, pure_bind]
      exact agree record rfl
  | cons step others ih =>
      match step with
      | .error fault => rfl
      | .ok (.value name wire) => exact ih fun written same => agree written same
      | .ok (.slot slot) =>
          rw [run, bind_assoc, bind_assoc]
          exact bind_congr fun id => ih fun written same => agree written same

end Script

section Running

variable (scope : WriterScope)

theorem FieldType.writeState_eq (name : String) (type : FieldType)
    (value : type.Val Carrier.live.Handle) (record : Record) :
    type.writeState scope name value record =
      Script.run scope.visit (type.stateScript scope.store name value) record := by
  unfold writeState stateScript
  cases type.liveNode? value with
  | some node => rfl
  | none => exact (Script.run_value _ _ _ _).symm

private theorem FieldType.writeChild_eq (name : String) (permitted dirty : Bool) (type : FieldType)
    (value : type.Val Carrier.live.Handle) (record : Record) :
    type.writeChild scope name permitted dirty value record =
      Script.run scope.visit (type.childScript scope.store scope.policy record.typeKey name permitted
        dirty value) record := by
  unfold writeChild childScript
  cases type.liveNode? value with
  | none => rfl
  | some node =>
      simp only
      split
      · rfl
      · exact (Script.run_value _ _ _ _).symm

theorem Form.writeState_eq (name : String) (form : Form) (value : form.Val Carrier.live)
    (record : Record) :
    form.writeState scope name value record =
      Script.run scope.visit (form.stateScript scope.store name value) record := by
  cases form with
  | bare type => exact FieldType.writeState_eq scope name type value record
  | container type =>
      obtain ⟨ownName, held, dirty, serializable⟩ := value
      cases held with
      | empty => rfl
      | plain inner | tracked inner => exact FieldType.writeState_eq scope name type inner _
  | aside _ | loads | memo => rfl

theorem Form.writeChildren_eq (name : String) (form : Form) (value : form.Val Carrier.live)
    (record : Record) :
    form.writeChildren scope name value record =
      Script.run scope.visit (form.childScript scope.store scope.policy record.typeKey name value)
        record := by
  cases form with
  | bare type => exact FieldType.writeChild_eq scope name true false type value record
  | container type =>
      obtain ⟨ownName, held, dirty, serializable⟩ := value
      cases held with
      | empty => rfl
      | plain inner | tracked inner =>
          exact FieldType.writeChild_eq scope name serializable dirty type inner record
  | aside _ | loads | memo => rfl

theorem Members.writeState_eq (members : List Member) (data : Members Carrier.live members)
    (record : Record) :
    Members.writeState scope members data record =
      Script.run scope.visit (Members.stateScript scope.store members data) record := by
  induction members generalizing record with
  | nil => rfl
  | cons member others ih =>
      obtain ⟨first, rest⟩ := data
      rw [writeState, stateScript, Script.run_append, Form.writeState_eq]
      exact bind_congr fun written => ih rest written

theorem Members.writeChildren_eq (members : List Member) (data : Members Carrier.live members)
    (record : Record) :
    Members.writeChildren scope members data record =
      Script.run scope.visit
        (Members.childScript scope.store scope.policy record.typeKey members data) record := by
  induction members generalizing record with
  | nil => rfl
  | cons member others ih =>
      obtain ⟨first, rest⟩ := data
      rw [writeChildren, childScript, Script.run_append, Form.writeChildren_eq]
      refine Script.run_bind_congr scope.visit _ fun written same => ?_
      rw [ih rest written, same]

private theorem writeElements_eq (type : ObjType) (index : Nat) (items : List Ref)
    (record : Record) : writeElements scope type index items record =
      Script.run scope.visit ((elementSlots type index items).map fun slot => .ok (.slot slot))
        record := by
  induction items generalizing index record with
  | nil => rfl
  | cons item others ih =>
      rw [writeElements, elementSlots, List.map_cons, Script.run]
      exact bind_congr fun id => ih (index + 1) _

theorem Shape.writeState_eq (shape : Shape) (data : shape.Data Carrier.live) (record : Record) :
    shape.writeState scope data record =
      Script.run scope.visit (shape.stateScript scope.store data) record := by
  cases shape with
  | fields members => exact Members.writeState_eq scope members data record
  | elements type =>
      simp only [writeState, stateScript]
      cases IntKind.u64.ofInt? (List.length (show List Ref from data)) <;> rfl

theorem Shape.writeChildren_eq (shape : Shape) (data : shape.Data Carrier.live) (record : Record) :
    shape.writeChildren scope data record =
      Script.run scope.visit (shape.childScript scope.store scope.policy record.typeKey data)
        record := by
  cases shape with
  | fields members => exact Members.writeChildren_eq scope members data record
  | elements type =>
      simp only [writeChildren, childScript]
      by_cases capable : scope.policy.isCapable type.key = true
      · rw [if_pos capable, if_pos capable]
        exact writeElements_eq scope type 0 data record
      · rw [if_neg capable, if_neg capable]
        rfl

end Running

/-- Writing an object that has no id yet gives it one, runs its script and keeps its record. -/
theorem Store.writeObject_succ (store : Store) (policy : Policy) (depth : Nat) (node : Node) :
    store.writeObject policy (depth + 1) node = (do
      match (← get).table.lookup node.ref with
      | some id =>
          Writing.note (.backReference id node.typeKey)
          return id
      | none =>
          let id ← Writing.assign node
          let finished ← Script.run (store.writeObject policy depth) (store.script policy node)
            { id := id, typeKey := node.typeKey }
          Writing.finish finished
          return id) := by
  rw [writeObject]
  refine bind_congr fun state => ?_
  cases state.table.lookup node.ref with
  | some id => rfl
  | none =>
      refine bind_congr fun id => ?_
      unfold script
      cases store.readNode node with
      | error fault => rfl
      | ok data =>
          simp only [Script.run_append, bind_assoc]
          change (node.type.shape.writeState _ data _ >>= _) = _
          rw [Shape.writeState_eq]
          refine Script.run_bind_congr _ _ fun written same => ?_
          rw [Shape.writeChildren_eq, same]

/-! ### What a script makes of a record -/

namespace WriteStep

def slot? : WriteStep → Option Slot
  | .value _ _ => none
  | .slot given => some given

def add (number : Ref → RefId) (record : Record) : WriteStep → Record
  | .value name wire => record.addValue name wire
  | .slot given => record.addChild given.name (number given.child.ref) given.dirty

end WriteStep

namespace Script

def Sound (script : Script) : Prop := ∀ step ∈ script, ∃ done, step = .ok done

def steps (script : Script) : List WriteStep := script.filterMap Except.toOption

def slots (script : Script) : List Slot := script.steps.filterMap WriteStep.slot?

/-- What the script makes of a record, given the ids of all objects. -/
def fill (number : Ref → RefId) (script : Script) (record : Record) : Record :=
  script.steps.foldl (WriteStep.add number) record

theorem slots_append (first second : Script) : slots (first ++ second) = slots first ++ slots second := by
  simp only [slots, steps, List.filterMap_append]

private theorem slots_value (name : String) (outcome : Except Fault WireValue) :
    slots [outcome.map (.value name)] = [] := by
  cases outcome <;> rfl

theorem Sound.cons {step : WriteStep} {others : Script} (sound : Sound others) :
    Sound (.ok step :: others) := by
  intro other member
  rcases List.mem_cons.mp member with rfl | later
  · exact ⟨step, rfl⟩
  · exact sound other later

theorem Sound.tail {step : Except Fault WriteStep} {others : Script}
    (sound : Sound (step :: others)) : Sound others :=
  fun other member => sound other (List.mem_cons_of_mem _ member)

theorem sound_append {first second : Script} :
    Sound (first ++ second) ↔ Sound first ∧ Sound second := by
  constructor
  · intro sound
    exact ⟨fun step member => sound step (List.mem_append_left _ member),
      fun step member => sound step (List.mem_append_right _ member)⟩
  · rintro ⟨early, late⟩ step member
    exact (List.mem_append.mp member).elim (early step) (late step)

end Script

section Slots

variable (store : Store) (policy : Policy)

theorem FieldType.slots_stateScript (name : String) (type : FieldType)
    (value : type.Val Carrier.live.Handle) : (type.stateScript store name value).slots = [] := by
  unfold stateScript
  cases type.liveNode? value with
  | some node => rfl
  | none => exact Script.slots_value _ _

theorem FieldType.slots_childScript (typeKey name : String) (permitted dirty : Bool)
    (type : FieldType) (value : type.Val Carrier.live.Handle) :
    (type.childScript store policy typeKey name permitted dirty value).slots =
      type.slots policy typeKey name permitted dirty value := by
  unfold childScript slots
  cases type.liveNode? value with
  | none => rfl
  | some node =>
      simp only
      split
      · rfl
      · exact Script.slots_value _ _

theorem Form.slots_stateScript (name : String) (form : Form) (value : form.Val Carrier.live) :
    (form.stateScript store name value).slots = [] := by
  cases form with
  | bare type => exact FieldType.slots_stateScript store name type value
  | container type =>
      obtain ⟨ownName, held, dirty, serializable⟩ := value
      cases held with
      | empty => rfl
      | plain inner | tracked inner =>
          exact (Script.slots_append _ _).trans (FieldType.slots_stateScript store name type inner)
  | aside _ | loads | memo => rfl

theorem Form.slots_childScript (typeKey name : String) (form : Form) (value : form.Val Carrier.live) :
    (form.childScript store policy typeKey name value).slots =
      form.slots policy typeKey name value := by
  cases form with
  | bare type => exact FieldType.slots_childScript store policy typeKey name true false type value
  | container type =>
      obtain ⟨ownName, held, dirty, serializable⟩ := value
      cases held with
      | empty => rfl
      | plain inner | tracked inner =>
          exact FieldType.slots_childScript store policy typeKey name serializable dirty type inner
  | aside _ | loads | memo => rfl

theorem Members.slots_stateScript (members : List Member) (data : Members Carrier.live members) :
    (Members.stateScript store members data).slots = [] := by
  induction members with
  | nil => rfl
  | cons member others ih =>
      obtain ⟨first, rest⟩ := data
      rw [stateScript, Script.slots_append, Form.slots_stateScript, ih]
      rfl

theorem Members.slots_childScript (typeKey : String) (members : List Member)
    (data : Members Carrier.live members) :
    (Members.childScript store policy typeKey members data).slots =
      Members.slots policy typeKey members data := by
  induction members with
  | nil => rfl
  | cons member others ih =>
      obtain ⟨first, rest⟩ := data
      rw [childScript, Script.slots_append, Form.slots_childScript, ih, slots]

private theorem Script.slots_map (slots : List Slot) :
    Script.slots (slots.map fun slot => .ok (.slot slot)) = slots := by
  induction slots with
  | nil => rfl
  | cons first others ih => exact congrArg (List.cons first) ih

theorem Shape.slots_stateScript (shape : Shape) (data : shape.Data Carrier.live) :
    (shape.stateScript store data).slots = [] := by
  cases shape with
  | fields members => exact Members.slots_stateScript store members data
  | elements type =>
      simp only [stateScript]
      cases IntKind.u64.ofInt? (List.length (show List Ref from data)) <;> rfl

theorem Shape.slots_childScript {typeKey : String} {shape : Shape} {data : shape.Data Carrier.live}
    (sound : (shape.childScript store policy typeKey data).Sound) :
    (shape.childScript store policy typeKey data).slots = shape.slots policy typeKey data := by
  cases shape with
  | fields members => exact Members.slots_childScript store policy typeKey members data
  | elements type =>
      simp only [childScript] at sound ⊢
      by_cases capable : policy.isCapable type.key = true
      · rw [if_pos capable]
        exact Script.slots_map _
      · rw [if_neg capable] at sound
        obtain ⟨done, failed⟩ := sound _ (List.mem_singleton_self _)
        cases failed

/-- An object whose script does not fail is there and intact. -/
theorem Store.data_of_sound {store : Store} {policy : Policy} {node : Node}
    (sound : (store.script policy node).Sound) :
    ∃ data, store.data? node.type node.ref = some data ∧ store.isPoisoned node.ref = false ∧
      store.script policy node = node.type.shape.stateScript store data ++
        node.type.shape.childScript store policy node.typeKey data := by
  unfold script readNode at *
  by_cases poisoned : store.isPoisoned node.ref = true
  · rw [if_pos poisoned] at sound
    obtain ⟨done, failed⟩ := sound _ (List.mem_singleton_self _)
    cases failed
  · rw [if_neg poisoned] at *
    cases found : store.data? node.type node.ref with
    | none =>
        rw [found] at sound
        obtain ⟨done, failed⟩ := sound _ (List.mem_singleton_self _)
        cases failed
    | some data => exact ⟨data, rfl, Bool.not_eq_true _ ▸ poisoned, rfl⟩

/-- The slots of a script that does not fail are those of its object. -/
theorem Store.slots_script {store : Store} {policy : Policy} {node : Node}
    (sound : (store.script policy node).Sound) :
    (store.script policy node).slots = store.slots policy node := by
  obtain ⟨data, found, _, same⟩ := data_of_sound sound
  rw [same] at sound ⊢
  rw [Script.slots_append, Shape.slots_stateScript, List.nil_append,
    Shape.slots_childScript store policy (Script.sound_append.mp sound).2]
  unfold slots
  rw [found]

end Slots

end ObjectCourier
