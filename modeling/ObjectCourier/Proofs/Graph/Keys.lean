import Mathlib.Data.List.Pairwise
import ObjectCourier.Proofs.Graph.Tables

/-!
The names under which the fields of an object stand in its record. A name that is added again keeps its
place, so two fields with one name would cost an entry. The names that a derived type makes up for its
fields never meet, and while an object is written every call for a field adds its entries behind those
that are there.
-/

namespace ObjectCourier

/-! ### Names of fields -/

/-- The members that a type is derived with. They are named by identifiers, which are distinct and
have no dot in them. -/
structure DerivedType where
  members : List Member
  distinct : (members.map Member.name).Nodup
  undotted : ∀ member ∈ members, '.' ∉ member.name.toList

def RecordType.derived (type : RecordType) : DerivedType where
  members := type.members
  distinct := type.names_nodup
  undotted := by cases type <;> decide

private theorem Member.stem_of_mem_labels {member : Member} (undotted : '.' ∉ member.name.toList)
    {label : String} (own : label ∈ member.labels) :
    label.toList.takeWhile (· ≠ '.') = member.name.toList := by
  have plain : ∀ letter ∈ member.name.toList, decide (letter ≠ '.') = true := by
    intro letter present
    exact decide_eq_true fun dot => undotted (dot ▸ present)
  have stem (suffix : String) (dotted : suffix.toList.takeWhile (· ≠ '.') = []) :
      (member.name ++ suffix).toList.takeWhile (· ≠ '.') = member.name.toList := by
    rw [String.toList_append, List.takeWhile_append_of_pos plain, dotted, List.append_nil]
  simp only [labels, List.mem_cons, List.not_mem_nil, or_false] at own
  rcases own with rfl | rfl | rfl | rfl
  · rw [← List.append_nil (String.toList _), List.takeWhile_append_of_pos plain]
    rfl
  · exact stem _ (by decide)
  · exact stem _ (by decide)
  · exact stem _ (by decide)

theorem Member.labels_nodup (member : Member) : member.labels.Nodup := by
  have apart (suffix other : String) (different : suffix ≠ other) :
      member.name ++ suffix ≠ member.name ++ other :=
    fun same => different ((String.append_right_inj _).mp same)
  have longer (suffix : String) (filled : "" ≠ suffix) : member.name ≠ member.name ++ suffix := by
    intro same
    exact apart "" suffix filled ((String.append_empty).trans same)
  simp only [labels, List.nodup_cons, List.mem_cons, List.not_mem_nil, or_false, not_or,
    not_false_eq_true, List.nodup_nil, and_true]
  exact ⟨⟨longer _ (by decide), longer _ (by decide), longer _ (by decide)⟩,
    ⟨apart _ _ (by decide), apart _ _ (by decide)⟩, apart _ _ (by decide)⟩

/-- No label belongs to two fields, and none is made twice for one field. -/
theorem DerivedType.labels_nodup (derived : DerivedType) :
    (derived.members.flatMap Member.labels).Nodup := by
  refine List.nodup_flatMap.mpr ⟨fun member _ => member.labels_nodup, ?_⟩
  have names := List.pairwise_map.mp derived.distinct
  refine names.imp_of_mem ?_
  intro member other inside within different label own shared
  have left := member.stem_of_mem_labels (derived.undotted member inside) own
  have right := other.stem_of_mem_labels (derived.undotted other within) shared
  exact different (String.toList_inj.mp (left.symm.trans right))

/-! ### Calls for fields -/

inductive FieldCall where
  | state (member : Member) (value : member.form.Val Carrier.live)
  | children (member : Member) (value : member.form.Val Carrier.live)

namespace FieldCall

def member : FieldCall → Member
  | state member _ | children member _ => member

def make (scope : WriterScope) (record : Record) : FieldCall → Writing Record
  | state member value => member.form.writeState scope member.name value record
  | children member value => member.form.writeChildren scope member.name value record

def makeAll (scope : WriterScope) (calls : List FieldCall) (record : Record) : Writing Record :=
  calls.foldlM (make scope) record

def script (store : Store) (policy : Policy) (typeKey : String) : FieldCall → Script
  | state member value => member.form.stateScript store member.name value
  | children member value => member.form.childScript store policy typeKey member.name value

private theorem make_eq (scope : WriterScope) (record : Record) (call : FieldCall) :
    call.make scope record =
      Script.run scope.visit (call.script scope.store scope.policy record.typeKey) record := by
  cases call with
  | state member value => exact Form.writeState_eq scope member.name member.form value record
  | children member value => exact Form.writeChildren_eq scope member.name member.form value record

private theorem makeAll_eq (scope : WriterScope) (calls : List FieldCall) (record : Record) :
    makeAll scope calls record = Script.run scope.visit
      (calls.flatMap (script scope.store scope.policy record.typeKey)) record := by
  induction calls generalizing record with
  | nil => rfl
  | cons call others ih =>
      rw [List.flatMap_cons, Script.run_append, ← make_eq]
      change (call.make scope record >>= makeAll scope others) = _
      rw [make_eq]
      refine Script.run_bind_congr scope.visit _ fun written same => ?_
      rw [ih written, same]

end FieldCall

namespace Members

/-- All calls for the fields of an object, in the order in which they are made. -/
def calls (members : List Member) (data : Members Carrier.live members) : List FieldCall :=
  (fields members data).map (fun field => .state field.1 field.2) ++
    (fields members data).map fun field => .children field.1 field.2

private theorem makeAll_state (scope : WriterScope) (members : List Member)
    (data : Members Carrier.live members) (record : Record) :
    FieldCall.makeAll scope ((fields members data).map fun field => .state field.1 field.2) record =
      writeState scope members data record := by
  induction members generalizing record with
  | nil => rfl
  | cons member others ih =>
      obtain ⟨first, rest⟩ := data
      exact bind_congr fun written => ih rest written

private theorem makeAll_children (scope : WriterScope) (members : List Member)
    (data : Members Carrier.live members) (record : Record) :
    FieldCall.makeAll scope ((fields members data).map fun field => .children field.1 field.2)
      record = writeChildren scope members data record := by
  induction members generalizing record with
  | nil => rfl
  | cons member others ih =>
      obtain ⟨first, rest⟩ := data
      exact bind_congr fun written => ih rest written

private theorem makeAll_calls (scope : WriterScope) (members : List Member)
    (data : Members Carrier.live members) (record : Record) :
    FieldCall.makeAll scope (calls members data) record =
      writeState scope members data record >>= writeChildren scope members data := by
  unfold FieldCall.makeAll calls
  rw [List.foldlM_append]
  change FieldCall.makeAll scope _ record >>= FieldCall.makeAll scope _ = _
  rw [makeAll_state]
  exact bind_congr fun written => makeAll_children scope members data written

end Members

/-! ### Names that are written -/

def Form.liveNode? : (form : Form) → form.Val Carrier.live → Option Node
  | bare type, value => type.liveNode? value
  | container type, value =>
      let container : Container (type.Val Carrier.live.Handle) := value
      container.value?.bind type.liveNode?
  | aside _, _ | loads, _ | memo, _ => none

/-- Of a value and a slot with this name there is one. -/
def Script.Decided (name : String) (script : Script) : Prop :=
  (name ∈ script.valueNames ∧ name ∉ script.slotNames) ∨
    (name ∉ script.valueNames ∧ name ∈ script.slotNames)

theorem Script.Decided.behind {name : String} {front back : Script} (decided : back.Decided name)
    (valueless : name ∉ front.valueNames) (slotless : front.slotNames = []) :
    (front ++ back).Decided name := by
  unfold Decided
  rw [valueNames_append, slotNames_append, slotless, List.nil_append, List.mem_append,
    or_iff_right valueless]
  exact decided

private theorem Script.valueNames_value (name : String) (outcome : Except Fault WireValue) :
    (valueNames [outcome.map (.value name)]).Sublist [name] := by
  cases outcome with
  | error fault => exact List.nil_sublist _
  | ok wire => exact .refl _

section Written

variable (store : Store) (policy : Policy) (typeKey : String)

namespace FieldType

variable (name : String) (permitted dirty : Bool) (type : FieldType)
  (value : type.Val Carrier.live.Handle)

private theorem valueNames_script : (type.stateScript store name value ++
    type.childScript store policy typeKey name permitted dirty value).valueNames.Sublist [name] := by
  unfold stateScript childScript
  cases type.liveNode? value with
  | none =>
      rw [List.append_nil]
      exact Script.valueNames_value _ _
  | some node =>
      rw [List.nil_append]
      simp only
      split
      · exact List.nil_sublist _
      · exact Script.valueNames_value _ _

private theorem stateScript_of_node {node : Node} (holds : type.liveNode? value = some node) :
    type.stateScript store name value = [] := by
  unfold stateScript
  rw [holds]

private theorem decided_childScript {node : Node} (holds : type.liveNode? value = some node)
    (sound : (type.childScript store policy typeKey name permitted dirty value).Sound) :
    (type.childScript store policy typeKey name permitted dirty value).Decided name := by
  unfold childScript at *
  simp only [holds] at *
  split
  · exact .inr ⟨List.not_mem_nil, List.mem_singleton_self _⟩
  · rename_i unwalked
    rw [if_neg unwalked] at sound
    cases wire : store.toWire type value with
    | error fault =>
        obtain ⟨done, failed⟩ := sound _ (List.mem_singleton_self _)
        rw [wire] at failed
        cases failed
    | ok made => exact .inl ⟨List.mem_singleton_self _, List.not_mem_nil⟩

end FieldType

namespace Member

variable (member : Member) (value : member.form.Val Carrier.live)

private theorem valueNames_script : (member.script store policy typeKey value).valueNames.Sublist
    (member.labels.tail ++ [member.name]) := by
  obtain ⟨name, form, isOpaque, startable⟩ := member
  cases form with
  | bare type =>
      have own := FieldType.valueNames_script store policy typeKey name true false type value
      exact own.trans (List.sublist_append_right _ _)
  | container type =>
      obtain ⟨ownName, held, dirty, serializable⟩ := value
      cases held with
      | empty => exact List.sublist_append_left _ _
      | plain inner | tracked inner =>
          have own :=
            FieldType.valueNames_script store policy typeKey name serializable dirty type inner
          rw [Script.valueNames_append] at own
          change (Script.valueNames ((_ ++ _) ++ _)).Sublist _
          rw [Script.valueNames_append, Script.valueNames_append, List.append_assoc]
          exact own.append_left _
  | aside _ | loads | memo => exact List.nil_sublist _

private theorem slotNames_script :
    (member.script store policy typeKey value).slotNames.Sublist [member.name] := by
  unfold Script.slotNames script
  rw [Script.slots_append, Form.slots_stateScript, Form.slots_childScript, List.nil_append]
  exact Form.names_slots policy typeKey member.name member.form value

private theorem name_not_mem_stateScript {node : Node}
    (holds : member.form.liveNode? value = some node) :
    member.name ∉ (member.form.stateScript store member.name value).valueNames := by
  have outside : member.name ∉ member.labels.tail := (List.nodup_cons.mp member.labels_nodup).1
  obtain ⟨name, form, isOpaque, startable⟩ := member
  cases form with
  | bare type =>
      change name ∉ (type.stateScript store name value).valueNames
      rw [FieldType.stateScript_of_node store name type value holds]
      exact List.not_mem_nil
  | container type =>
      obtain ⟨ownName, held, dirty, serializable⟩ := value
      cases held with
      | empty => cases holds
      | plain inner | tracked inner =>
          change name ∉ (_ ++ type.stateScript store name inner : Script).valueNames
          rw [FieldType.stateScript_of_node store name type inner holds]
          exact outside
  | aside _ | loads | memo => cases holds

private theorem decided_childScript {node : Node} (holds : member.form.liveNode? value = some node)
    (sound : (member.form.childScript store policy typeKey member.name value).Sound) :
    (member.form.childScript store policy typeKey member.name value).Decided member.name := by
  obtain ⟨name, form, isOpaque, startable⟩ := member
  cases form with
  | bare type =>
      exact FieldType.decided_childScript store policy typeKey name true false type value holds sound
  | container type =>
      obtain ⟨ownName, held, dirty, serializable⟩ := value
      cases held with
      | empty => cases holds
      | plain inner | tracked inner =>
          exact FieldType.decided_childScript store policy typeKey name serializable dirty type inner
            holds sound
  | aside _ | loads | memo => cases holds

private theorem decided_script {node : Node} (holds : member.form.liveNode? value = some node)
    (sound : (member.script store policy typeKey value).Sound) :
    (member.script store policy typeKey value).Decided member.name := by
  have decided := member.decided_childScript store policy typeKey value holds
    (Script.sound_append.mp sound).2
  have slotless := Form.slots_stateScript store member.name member.form value
  exact decided.behind (member.name_not_mem_stateScript store value holds)
    (congrArg (List.map Slot.name) slotless)

end Member

end Written

/-! ### The names of an object -/

/-- What a script does is one of its steps. -/
theorem Script.ok_mem_of_mem_steps {script : Script} {step : WriteStep} (done : step ∈ script.steps) :
    .ok step ∈ script := by
  obtain ⟨outcome, member, succeeded⟩ := List.mem_filterMap.mp done
  cases outcome with
  | error fault => cases succeeded
  | ok made =>
      cases succeeded
      exact member

theorem Script.Within.valueNames {labels : List String} {script : Script}
    (within : script.Within labels) : script.valueNames ⊆ labels := by
  intro name present
  obtain ⟨step, done, named⟩ := List.mem_filterMap.mp present
  cases step with
  | value other wire =>
      cases named
      exact within _ (ok_mem_of_mem_steps done)
  | slot given => cases named

theorem Script.Within.slotNames {labels : List String} {script : Script}
    (within : script.Within labels) : script.slotNames ⊆ labels := by
  intro name present
  obtain ⟨slot, inside, rfl⟩ := List.mem_map.mp present
  obtain ⟨step, done, given⟩ := List.mem_filterMap.mp inside
  cases step with
  | value other wire => cases given
  | slot other =>
      cases given
      exact within _ (ok_mem_of_mem_steps done)

structure Script.Naming (names : Script → List String) : Prop where
  nil : names [] = []
  append : ∀ first second, names (first ++ second) = names first ++ names second

private theorem Script.naming_valueNames : Naming valueNames := ⟨rfl, valueNames_append⟩

private theorem Script.naming_slotNames : Naming slotNames := ⟨rfl, slotNames_append⟩

theorem Script.Naming.flatMap {names : Script → List String} (naming : Naming names) {ι : Type}
    (items : List ι) (script : ι → Script) :
    names (items.flatMap script) = items.flatMap fun item => names (script item) := by
  induction items with
  | nil => exact naming.nil
  | cons first others ih => rw [List.flatMap_cons, List.flatMap_cons, naming.append, ih]

section Objects

variable (store : Store) (policy : Policy) (typeKey : String)

def Members.script (members : List Member) (data : Members Carrier.live members) : Script :=
  (calls members data).flatMap (FieldCall.script store policy typeKey)

/-- An object tells the names that its fields tell. -/
theorem Script.Naming.members {names : Script → List String} (naming : Naming names)
    (members : List Member) (data : Members Carrier.live members) :
    (names (Members.script store policy typeKey members data)).Perm
      ((Members.fields members data).flatMap fun field =>
        names (field.1.script store policy typeKey field.2)) := by
  unfold Members.script Members.calls Member.script
  simp only [List.flatMap_append, List.flatMap_map, naming.append, naming.flatMap]
  exact List.flatMap_append_perm _ _ _

private theorem FieldCall.within_script (call : FieldCall) :
    (call.script store policy typeKey).Within call.member.labels := by
  have named (member : Member) : [member.name] ⊆ member.labels :=
    (List.singleton_sublist.mpr List.mem_cons_self).subset
  cases call with
  | state member value => exact member.within_stateScript store value
  | children member value =>
      exact (member.within_childScript store policy typeKey value).mono (named member)

private theorem Member.within_script (member : Member) (value : member.form.Val Carrier.live) :
    (member.script store policy typeKey value).Within member.labels :=
  ((FieldCall.state member value).within_script store policy typeKey).append
    ((FieldCall.children member value).within_script store policy typeKey)

private theorem Members.sound_script {members : List Member} {data : Members Carrier.live members}
    (sound : (Members.script store policy typeKey members data).Sound)
    {field : (member : Member) × member.form.Val Carrier.live}
    (member : field ∈ Members.fields members data) :
    (field.1.script store policy typeKey field.2).Sound := by
  have each (call : FieldCall) (made : call ∈ Members.calls members data) :
      (call.script store policy typeKey).Sound :=
    fun step inside => sound step (List.mem_flatMap.mpr ⟨call, made, inside⟩)
  exact Script.sound_append.mpr
    ⟨each (.state field.1 field.2) (List.mem_append_left _ (List.mem_map_of_mem member)),
      each (.children field.1 field.2) (List.mem_append_right _ (List.mem_map_of_mem member))⟩

namespace DerivedType

variable (derived : DerivedType) (data : Members Carrier.live derived.members)

private theorem labels_disjoint : (Members.fields derived.members data).Pairwise
    fun field other => field.1.labels.Disjoint other.1.labels := by
  have labels := derived.labels_nodup
  rw [← Members.labels_fields derived.members data] at labels
  exact (List.nodup_flatMap.mp labels).2

private theorem nodup_names
    {names : ((member : Member) × member.form.Val Carrier.live) → List String}
    (own : ∀ field, (names field).Sublist (field.1.labels.tail ++ [field.1.name])) :
    ((Members.fields derived.members data).flatMap names).Nodup := by
  have reordered (member : Member) : (member.labels.tail ++ [member.name]).Perm member.labels :=
    List.perm_append_comm
  refine List.nodup_flatMap.mpr ⟨fun field _ => ?_, ?_⟩
  · exact ((reordered field.1).nodup_iff.mpr field.1.labels_nodup).sublist (own field)
  · refine (derived.labels_disjoint data).imp ?_
    intro field other apart label here there
    exact apart ((reordered _).subset ((own field).subset here))
      ((reordered _).subset ((own other).subset there))

private theorem nodup_valueNames :
    (Members.script store policy typeKey derived.members data).valueNames.Nodup := by
  rw [(Script.naming_valueNames.members store policy typeKey _ data).nodup_iff]
  exact derived.nodup_names data fun field => field.1.valueNames_script store policy typeKey field.2

private theorem nodup_slotNames :
    (Members.script store policy typeKey derived.members data).slotNames.Nodup := by
  rw [(Script.naming_slotNames.members store policy typeKey _ data).nodup_iff]
  refine derived.nodup_names data fun field => ?_
  exact (field.1.slotNames_script store policy typeKey field.2).trans (List.sublist_append_right _ _)

private theorem mem_names {names : Script → List String} (naming : Script.Naming names)
    (own : ∀ field : (member : Member) × member.form.Val Carrier.live,
      names (field.1.script store policy typeKey field.2) ⊆ field.1.labels)
    {field : (member : Member) × member.form.Val Carrier.live}
    (member : field ∈ Members.fields derived.members data) {label : String}
    (labels : label ∈ field.1.labels) :
    label ∈ names (Members.script store policy typeKey derived.members data) ↔
      label ∈ names (field.1.script store policy typeKey field.2) := by
  rw [(naming.members store policy typeKey _ data).mem_iff, List.mem_flatMap]
  constructor
  · intro written
    obtain ⟨other, inside, here⟩ := written
    by_cases same : other = field
    · exact same ▸ here
    · have symmetric : Std.Symm fun field other : (member : Member) × member.form.Val Carrier.live =>
          field.1.labels.Disjoint other.1.labels := ⟨fun _ _ apart _ here there => apart there here⟩
      have apart := (derived.labels_disjoint data).forall inside member same
      exact absurd labels (apart (own other here))
  · exact fun written => ⟨field, member, written⟩

end DerivedType

end Objects

/-! ### Objects of derived types -/

/-- While an object is written into a new record, no call replaces an entry, and each adds its entries
under labels of its own field. In the end there is one entry for each node that a field holds: a value
or a slot. -/
structure Members.WrittenApart (scope : WriterScope) (members : List Member)
    (data : Members Carrier.live members) (blank : Record) : Prop where
  calls : writeState scope members data blank >>= writeChildren scope members data =
    FieldCall.makeAll scope (calls members data) blank
  adds : ∀ earlier call later, Members.calls members data = earlier ++ call :: later →
    ∀ start record between written after,
      FieldCall.makeAll scope earlier blank start = (.ok record, between) →
      call.make scope record between = (.ok written, after) →
      ∃ named linked, record.Grows written named linked ∧
        named ⊆ call.member.labels ∧ linked ⊆ call.member.labels
  decides : ∀ start written after,
    (writeState scope members data blank >>= writeChildren scope members data) start =
      (.ok written, after) →
    ∀ field ∈ fields members data, (field.1.form.liveNode? field.2).isSome = true →
      ((written.value? field.1.name).isSome = true ∧ written.child? field.1.name = none) ∨
        (written.value? field.1.name = none ∧ (written.child? field.1.name).isSome = true)

private theorem DerivedType.writtenApart (derived : DerivedType) (scope : WriterScope)
    (data : Members Carrier.live derived.members) (id : RefId) (typeKey : String) :
    Members.WrittenApart scope derived.members data { id := id, typeKey := typeKey } where
  calls := (Members.makeAll_calls scope derived.members data _).symm
  adds := by
    intro earlier call later split start record between written after prepared made
    have values := derived.nodup_valueNames scope.store scope.policy typeKey data
    have slots := derived.nodup_slotNames scope.store scope.policy typeKey data
    unfold Members.script at values slots
    rw [split, List.flatMap_append, List.flatMap_cons] at values slots
    rw [Script.valueNames_append, Script.valueNames_append, ← List.append_assoc] at values
    rw [Script.slotNames_append, Script.slotNames_append, ← List.append_assoc] at slots
    have values := (List.nodup_append.mp values).1
    have slots := (List.nodup_append.mp slots).1
    rw [FieldCall.makeAll_eq] at prepared
    have before := Script.run_grows_new (List.nodup_append.mp values).1
      (List.nodup_append.mp slots).1 prepared
    rw [FieldCall.make_eq, before.typeKey] at made
    have within := call.within_script scope.store scope.policy typeKey
    refine ⟨_, _, Script.run_grows ?_ ?_ made, within.valueNames, within.slotNames⟩
    · exact before.valueNames ▸ values
    · exact before.slotNames ▸ slots
  decides := by
    intro start written after ran field member holds
    obtain ⟨node, holds⟩ := Option.isSome_iff_exists.mp holds
    have values := derived.nodup_valueNames scope.store scope.policy typeKey data
    have slots := derived.nodup_slotNames scope.store scope.policy typeKey data
    rw [← Members.makeAll_calls, FieldCall.makeAll_eq] at ran
    have grows := Script.run_grows_new values slots ran
    have sound := Script.sound_of_run ran
    have within (field : (member : Member) × member.form.Val Carrier.live) :=
      field.1.within_script scope.store scope.policy typeKey field.2
    have valued := derived.mem_names scope.store scope.policy typeKey data
      Script.naming_valueNames (fun field => (within field).valueNames) member List.mem_cons_self
    have slotted := derived.mem_names scope.store scope.policy typeKey data
      Script.naming_slotNames (fun field => (within field).slotNames) member List.mem_cons_self
    have decided := field.1.decided_script scope.store scope.policy typeKey field.2 holds
      (Members.sound_script scope.store scope.policy typeKey sound member)
    unfold Script.Decided at decided
    rw [← valued, ← slotted] at decided
    have value : (written.value? field.1.name).isSome = true ↔ _ := Entries.isSome_get? _ _
    have child : (written.child? field.1.name).isSome = true ↔ _ := Entries.isSome_get? _ _
    rw [grows.valueNames] at value
    rw [grows.slotNames] at child
    rw [← Option.not_isSome_iff_eq_none, ← Option.not_isSome_iff_eq_none, value, child]
    exact decided

/-- A record is two ordered maps that have nothing to do with each other. The labels of the fields of
a derived type are all distinct, and in the record of an object no field costs another one an entry. -/
theorem records_keep_entries :
    (∀ id typeKey, ∀ edits : List RecordEdit,
      (edits.foldl RecordEdit.apply { id := id, typeKey := typeKey }).Holds edits) ∧
    ∀ derived : DerivedType, (derived.members.flatMap Member.labels).Nodup ∧
      ∀ scope data id typeKey,
        Members.WrittenApart scope derived.members data { id := id, typeKey := typeKey } := by
  refine ⟨Record.holds_edits, fun derived => ⟨derived.labels_nodup, ?_⟩⟩
  exact fun scope data => derived.writtenApart scope data

end ObjectCourier
