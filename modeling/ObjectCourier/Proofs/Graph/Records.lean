import ObjectCourier.Proofs.Graph.Script

/-!
Records as scripts make them. A value or a slot of the record is that of the last step of its name;
the names of different fields are apart, so a field finds in the record just what its own steps have
put there.
-/

namespace ObjectCourier

namespace WriteStep

def name : WriteStep → String
  | .value name _ => name
  | .slot given => given.name

end WriteStep

namespace Script

def value? (name : String) : Script → Option WireValue
  | [] => none
  | .ok (.value other wire) :: others =>
      (value? name others).or (if other = name then some wire else none)
  | _ :: others => value? name others

def slot? (name : String) : Script → Option Slot
  | [] => none
  | .ok (.slot given) :: others =>
      (slot? name others).or (if given.name = name then some given else none)
  | _ :: others => slot? name others

theorem value?_append (name : String) (first second : Script) :
    value? name (first ++ second) = (value? name second).or (value? name first) := by
  induction first with
  | nil => exact (Option.or_none).symm
  | cons step others ih =>
      match step with
      | .error fault | .ok (.slot given) => exact ih
      | .ok (.value other wire) =>
          simp only [List.cons_append, value?, ih, Option.or_assoc]

theorem slot?_append (name : String) (first second : Script) :
    slot? name (first ++ second) = (slot? name second).or (slot? name first) := by
  induction first with
  | nil => exact (Option.or_none).symm
  | cons step others ih =>
      match step with
      | .error fault | .ok (.value other wire) => exact ih
      | .ok (.slot given) =>
          simp only [List.cons_append, slot?, ih, Option.or_assoc]

def numbered (number : Ref → RefId) (slot : Slot) : ChildSlot :=
  { target := number slot.child.ref, dirty := slot.dirty }

theorem value?_fill (number : Ref → RefId) (name : String) (script : Script) (record : Record) :
    (script.fill number record).value? name = (script.value? name).or (record.value? name) := by
  induction script generalizing record with
  | nil => rfl
  | cons step others ih =>
      match step with
      | .error fault => exact ih record
      | .ok (.slot given) => exact ih (record.addChild given.name _ given.dirty)
      | .ok (.value other wire) =>
          apply (ih (record.addValue other wire)).trans
          rw [value?, Option.or_assoc]
          congr 1
          by_cases same : other = name
          · subst same
            rw [if_pos rfl]
            exact Entries.get?_put_self _ _ _
          · rw [if_neg same, Option.none_or]
            exact Entries.get?_put_of_ne (Ne.symm same) _ _

theorem child?_fill (number : Ref → RefId) (name : String) (script : Script) (record : Record) :
    (script.fill number record).child? name =
      ((script.slot? name).map (numbered number)).or (record.child? name) := by
  induction script generalizing record with
  | nil => rfl
  | cons step others ih =>
      match step with
      | .error fault => exact ih record
      | .ok (.value other wire) => exact ih (record.addValue other wire)
      | .ok (.slot given) =>
          apply (ih (record.addChild given.name _ given.dirty)).trans
          rw [slot?, Option.map_or, Option.or_assoc]
          congr 1
          by_cases same : given.name = name
          · subst same
            rw [if_pos rfl]
            exact Entries.get?_put_self _ _ _
          · rw [if_neg same]
            exact Entries.get?_put_of_ne (Ne.symm same) _ _

private theorem mem_put {α : Type} {name : String} {value : α} {entries : Entries α}
    {entry : String × α}
    (member : entry ∈ entries.put name value) : entry = (name, value) ∨ entry ∈ entries := by
  induction entries with
  | nil => exact .inl (List.mem_singleton.mp member)
  | cons first others ih =>
      obtain ⟨other, old⟩ := first
      rw [Entries.put] at member
      split at member
      · rename_i same
        rcases List.mem_cons.mp member with here | later
        · exact .inl (same ▸ here)
        · exact .inr (List.mem_cons_of_mem _ later)
      · rcases List.mem_cons.mp member with here | later
        · exact .inr (here ▸ List.mem_cons_self)
        · exact (ih later).imp id (List.mem_cons_of_mem _)

theorem mem_children_fill {number : Ref → RefId} {script : Script} {record : Record}
    {entry : String × ChildSlot} (member : entry ∈ (script.fill number record).children) :
    (∃ slot ∈ script.slots, entry = (slot.name, numbered number slot)) ∨
      entry ∈ record.children := by
  induction script generalizing record with
  | nil => exact .inr member
  | cons step others ih =>
      match step with
      | .error fault => exact ih member
      | .ok (.value name wire) => exact @ih (record.addValue name wire) member
      | .ok (.slot given) =>
          rcases @ih (record.addChild given.name _ given.dirty) member with
            ⟨slot, later, same⟩ | earlier
          · exact .inl ⟨slot, List.mem_cons_of_mem _ later, same⟩
          · rcases mem_put earlier with here | before
            · exact .inl ⟨given, List.mem_cons_self, here⟩
            · exact .inr before

theorem typeKey_fill (number : Ref → RefId) (script : Script) (record : Record) :
    (script.fill number record).typeKey = record.typeKey := by
  unfold fill
  induction script.steps generalizing record with
  | nil => rfl
  | cons step others ih =>
      rw [List.foldl_cons, ih]
      cases step <;> rfl

def Within (labels : List String) (script : Script) : Prop :=
  ∀ step, .ok step ∈ script → step.name ∈ labels

theorem Within.append {labels : List String} {first second : Script} (early : first.Within labels)
    (late : second.Within labels) : Within labels (first ++ second) :=
  fun step member => (List.mem_append.mp member).elim (early step) (late step)

theorem Within.mono {labels more : List String} {script : Script} (within : script.Within labels)
    (covered : labels ⊆ more) : script.Within more :=
  fun step member => covered (within step member)

private theorem Within.value?_eq_none {labels : List String} {script : Script}
    (within : script.Within labels) {name : String} (other : name ∉ labels) :
    script.value? name = none := by
  induction script with
  | nil => rfl
  | cons step others ih =>
      have rest := ih fun step member => within step (List.mem_cons_of_mem _ member)
      match step with
      | .error fault | .ok (.slot given) => exact rest
      | .ok (.value label wire) =>
          have here : label ∈ labels := within _ List.mem_cons_self
          rw [value?, rest, if_neg]
          · rfl
          · rintro rfl
            exact other here

private theorem Within.slot?_eq_none {labels : List String} {script : Script}
    (within : script.Within labels) {name : String} (other : name ∉ labels) :
    script.slot? name = none := by
  induction script with
  | nil => rfl
  | cons step others ih =>
      have rest := ih fun step member => within step (List.mem_cons_of_mem _ member)
      match step with
      | .error fault | .ok (.value label wire) => exact rest
      | .ok (.slot given) =>
          have here : given.name ∈ labels := within _ List.mem_cons_self
          rw [slot?, rest, if_neg]
          · rfl
          · rintro rfl
            exact other here

private theorem within_nil (labels : List String) :
    Within labels [] := fun _ member => nomatch member

private theorem within_singleton {labels : List String} {step : WriteStep}
    (member : step.name ∈ labels) : Within labels [.ok step] := by
  intro other here
  cases List.mem_singleton.mp here
  exact member

private theorem within_value {labels : List String} {name : String} (member : name ∈ labels)
    (outcome : Except Fault WireValue) : Within labels [outcome.map (.value name)] := by
  cases outcome with
  | error fault => exact fun _ here => nomatch List.mem_singleton.mp here
  | ok wire => exact within_singleton member

end Script

/-- The names under which a field may appear in a record. -/
def Member.labels (member : Member) : List String :=
  [member.name, member.name ++ ".name", member.name ++ ".dirty", member.name ++ ".serializable"]

def Members.fields {carrier : Carrier} : (members : List Member) → Members carrier members →
    List ((member : Member) × member.form.Val carrier)
  | [], _ => []
  | member :: others, (first, rest) => ⟨member, first⟩ :: fields others rest

theorem RecordType.labels_nodup (type : RecordType) :
    (type.members.flatMap Member.labels).Nodup := by
  cases type <;> decide

section Within

variable (store : Store) (policy : Policy)

theorem FieldType.within_stateScript {labels : List String} {name : String} (member : name ∈ labels)
    (type : FieldType) (value : type.Val Carrier.live.Handle) :
    (type.stateScript store name value).Within labels := by
  unfold stateScript
  cases type.liveNode? value with
  | some node => exact Script.within_nil labels
  | none => exact Script.within_value member _

theorem FieldType.within_childScript {labels : List String} {name : String} (member : name ∈ labels)
    (typeKey : String) (permitted dirty : Bool) (type : FieldType)
    (value : type.Val Carrier.live.Handle) :
    (type.childScript store policy typeKey name permitted dirty value).Within labels := by
  unfold childScript
  cases type.liveNode? value with
  | none => exact Script.within_nil labels
  | some node =>
      simp only
      split
      · exact Script.within_singleton member
      · exact Script.within_value member _

theorem Member.within_stateScript (member : Member) (value : member.form.Val Carrier.live) :
    (member.form.stateScript store member.name value).Within member.labels := by
  have own : member.name ∈ member.labels := List.mem_cons_self
  obtain ⟨name, form, isOpaque, startable⟩ := member
  cases form with
  | bare type => exact FieldType.within_stateScript store own type value
  | container type =>
      obtain ⟨ownName, held, dirty, serializable⟩ := value
      apply Script.Within.append
      · intro step here
        simp only [Container.labelScript, List.mem_cons, Except.ok.injEq, List.not_mem_nil,
          or_false] at here
        rcases here with rfl | rfl | rfl <;> simp [WriteStep.name, labels]
      · cases held with
        | empty => exact Script.within_nil _
        | plain inner | tracked inner => exact FieldType.within_stateScript store own type inner
  | aside _ | loads | memo => exact Script.within_nil _

theorem Member.within_childScript (typeKey : String) (member : Member)
    (value : member.form.Val Carrier.live) :
    (member.form.childScript store policy typeKey member.name value).Within [member.name] := by
  have own : member.name ∈ [member.name] := List.mem_singleton_self _
  obtain ⟨name, form, isOpaque, startable⟩ := member
  cases form with
  | bare type => exact FieldType.within_childScript store policy own typeKey true false type value
  | container type =>
      obtain ⟨ownName, held, dirty, serializable⟩ := value
      cases held with
      | empty => exact Script.within_nil _
      | plain inner | tracked inner =>
          exact FieldType.within_childScript store policy own typeKey serializable dirty type inner
  | aside _ | loads | memo => exact Script.within_nil _

def Member.script (typeKey : String) (member : Member) (value : member.form.Val Carrier.live) :
    Script :=
  member.form.stateScript store member.name value ++
    member.form.childScript store policy typeKey member.name value

end Within

private theorem Script.lookup_flatMap {ι : Type} (labels : ι → List String) (script : ι → Script)
    {items : List ι} (within : ∀ item ∈ items, (script item).Within (labels item))
    (distinct : (items.flatMap labels).Nodup) {item : ι} (member : item ∈ items) {label : String}
    (own : label ∈ labels item) :
    value? label (items.flatMap script) = (script item).value? label ∧
      slot? label (items.flatMap script) = (script item).slot? label := by
  induction items with
  | nil => cases member
  | cons first others ih =>
      rw [List.flatMap_cons] at distinct ⊢
      obtain ⟨-, rest, apart⟩ := List.nodup_append.mp distinct
      have withinRest : Within (others.flatMap labels) (others.flatMap script) := by
        intro step here
        obtain ⟨other, later, inside⟩ := List.mem_flatMap.mp here
        exact List.mem_flatMap.mpr ⟨other, later,
          within other (List.mem_cons_of_mem _ later) step inside⟩
      rw [value?_append, slot?_append]
      rcases List.mem_cons.mp member with rfl | later
      · have outside : label ∉ others.flatMap labels := fun elsewhere =>
          apart label own label elsewhere rfl
        rw [withinRest.value?_eq_none outside, withinRest.slot?_eq_none outside]
        exact ⟨rfl, rfl⟩
      · have found := ih (fun other inRest => within other (List.mem_cons_of_mem _ inRest)) rest later
        have inRest : label ∈ others.flatMap labels := List.mem_flatMap.mpr ⟨item, later, own⟩
        have outside : label ∉ labels first := fun here => apart label here label inRest rfl
        have withinFirst := within first List.mem_cons_self
        rw [withinFirst.value?_eq_none outside, withinFirst.slot?_eq_none outside, Option.or_none,
          Option.or_none]
        exact found

section Found

variable (store : Store) (policy : Policy)

theorem Members.stateScript_eq (members : List Member) (data : Members Carrier.live members) :
    Members.stateScript store members data = (Members.fields members data).flatMap fun field =>
      field.1.form.stateScript store field.1.name field.2 := by
  induction members with
  | nil => rfl
  | cons member others ih =>
      obtain ⟨first, rest⟩ := data
      rw [stateScript, fields, List.flatMap_cons, ih]

theorem Members.childScript_eq (typeKey : String) (members : List Member)
    (data : Members Carrier.live members) :
    Members.childScript store policy typeKey members data =
      (Members.fields members data).flatMap fun field =>
        field.1.form.childScript store policy typeKey field.1.name field.2 := by
  induction members with
  | nil => rfl
  | cons member others ih =>
      obtain ⟨first, rest⟩ := data
      rw [childScript, fields, List.flatMap_cons, ih]

theorem Members.mem_slots {typeKey : String} {members : List Member}
    {data : Members Carrier.live members} {slot : Slot} :
    slot ∈ Members.slots policy typeKey members data ↔ ∃ field ∈ Members.fields members data,
      slot ∈ field.1.form.slots policy typeKey field.1.name field.2 := by
  induction members with
  | nil =>
      constructor
      · intro present
        cases present
      · rintro ⟨field, none, _⟩
        cases none
  | cons member others ih =>
      obtain ⟨first, rest⟩ := data
      rw [slots, List.mem_append, ih, fields]
      simp only [List.mem_cons, exists_eq_or_imp]

theorem Members.map_fields {carrier : Carrier} (members : List Member)
    (data : Members carrier members) : (Members.fields members data).map Sigma.fst = members := by
  induction members with
  | nil => rfl
  | cons member others ih =>
      obtain ⟨first, rest⟩ := data
      exact congrArg (List.cons member) (ih rest)

theorem Members.labels_fields {carrier : Carrier} (members : List Member)
    (data : Members carrier members) :
    ((Members.fields members data).flatMap fun field => field.1.labels) =
      members.flatMap Member.labels := by
  induction members with
  | nil => rfl
  | cons member others ih =>
      obtain ⟨first, rest⟩ := data
      rw [fields, List.flatMap_cons, List.flatMap_cons, ih]

/-- A record shows a field when its steps are all that the record has under its names. -/
def Record.Shows (record : Record) (number : Ref → RefId) (typeKey : String) (member : Member)
    (value : member.form.Val Carrier.live) : Prop :=
  ∀ label ∈ member.labels,
    record.value? label = (member.script store policy typeKey value).value? label ∧
      record.child? label =
        ((member.script store policy typeKey value).slot? label).map (Script.numbered number)

theorem Record.Shows.label {store : Store} {policy : Policy} {record : Record}
    {number : Ref → RefId} {typeKey name label : String} {type : FieldType} {isOpaque : Bool}
    {startable : (Form.container type).startable = true}
    {value : Container (type.Val Carrier.live.Handle)}
    (shows : record.Shows store policy number typeKey
      { name := name, form := .container type, isOpaque := isOpaque, startable := startable } value)
    (own : label ∈ Member.labels
      { name := name, form := .container type, isOpaque := isOpaque, startable := startable })
    (other : label ≠ name) : record.value? label = (value.labelScript name).value? label := by
  have apart : label ∉ [name] := by
    intro here
    exact other (List.mem_singleton.mp here)
  have child := (Member.within_childScript store policy typeKey
    ⟨name, .container type, isOpaque, startable⟩ value).value?_eq_none apart
  rw [(shows label own).1]
  apply (Script.value?_append _ _ _).trans
  apply (congrArg (Option.or · _) child).trans
  rw [Option.none_or]
  obtain ⟨ownName, held, dirty, serializable⟩ := value
  apply (Script.value?_append _ _ _).trans
  cases held with
  | empty => rfl
  | plain inner | tracked inner =>
      have state := (FieldType.within_stateScript store (List.mem_singleton_self name) type
        inner).value?_eq_none apart
      exact congrArg (Option.or · _) state

structure Record.Labels {α : Type} (record : Record) (name : String) (container : Container α) :
    Prop where
  named : record.value? (name ++ ".name") = some (.text container.name)
  flagged : record.value? (name ++ ".dirty") = some (.bool container.dirty)
  permitted : record.value? (name ++ ".serializable") = some (.bool container.serializable)

theorem Record.Shows.labels {store : Store} {policy : Policy} {record : Record}
    {number : Ref → RefId} {typeKey name : String} {type : FieldType} {isOpaque : Bool}
    {startable : (Form.container type).startable = true}
    {value : Container (type.Val Carrier.live.Handle)}
    (shows : record.Shows store policy number typeKey
      { name := name, form := .container type, isOpaque := isOpaque, startable := startable }
      value) : record.Labels name value where
  named := by
    rw [shows.label (by simp [Member.labels]) (by simp)]
    simp [Container.labelScript, Script.value?]
  flagged := by
    rw [shows.label (by simp [Member.labels]) (by simp)]
    simp [Container.labelScript, Script.value?]
  permitted := by
    rw [shows.label (by simp [Member.labels]) (by simp)]
    simp [Container.labelScript, Script.value?]

def Container.heldScript (store : Store) (policy : Policy) (typeKey name : String) {type : FieldType}
    (value : Container (type.Val Carrier.live.Handle)) : Script :=
  match value.value? with
  | some held => type.stateScript store name held ++
      type.childScript store policy typeKey name value.serializable value.dirty held
  | none => []

/-- Under its own name a container finds just what the held value gives. -/
theorem Record.Shows.held {store : Store} {policy : Policy} {record : Record}
    {number : Ref → RefId} {typeKey name : String} {type : FieldType} {isOpaque : Bool}
    {startable : (Form.container type).startable = true}
    {value : Container (type.Val Carrier.live.Handle)}
    (shows : record.Shows store policy number typeKey
      { name := name, form := .container type, isOpaque := isOpaque, startable := startable }
      value) :
    record.value? name = (value.heldScript store policy typeKey name).value? name ∧
      record.child? name =
        ((value.heldScript store policy typeKey name).slot? name).map (Script.numbered number) := by
  obtain ⟨values, children⟩ := shows name List.mem_cons_self
  rw [values, children]
  have labels : (value.labelScript name).value? name = none := by
    simp [Container.labelScript, Script.value?]
  clear values children shows
  obtain ⟨ownName, held, dirty, serializable⟩ := value
  cases held with
  | empty => exact ⟨labels, rfl⟩
  | plain inner | tracked inner =>
      constructor
      · apply (congrArg (Script.value? name) (List.append_assoc _ _ _)).trans
        apply (Script.value?_append _ _ _).trans
        exact (congrArg (Option.or _ ·) labels).trans Option.or_none
      · apply congrArg (Option.map (Script.numbered number))
        apply (congrArg (Script.slot? name) (List.append_assoc _ _ _)).trans
        exact (Script.slot?_append _ _ _).trans Option.or_none

/-- The record of an object shows all of its fields. -/
theorem Members.shows {members : List Member} (distinct : (members.flatMap Member.labels).Nodup)
    (number : Ref → RefId) (typeKey : String) (data : Members Carrier.live members) (id : RefId) :
    ∀ field ∈ Members.fields members data,
      Record.Shows store policy
        ((Members.stateScript store members data ++
          Members.childScript store policy typeKey members data).fill number
            { id := id, typeKey := typeKey }) number typeKey field.1 field.2 := by
  intro field member label own
  rw [← Members.labels_fields members data] at distinct
  have state := Script.lookup_flatMap (fun field => field.1.labels)
    (fun field => field.1.form.stateScript store field.1.name field.2)
    (fun field _ => field.1.within_stateScript store field.2) distinct member own
  have child := Script.lookup_flatMap (fun field => field.1.labels)
    (fun field => field.1.form.childScript store policy typeKey field.1.name field.2)
    (fun field _ => (field.1.within_childScript store policy typeKey field.2).mono
      fun _ here => List.mem_singleton.mp here ▸ List.mem_cons_self) distinct member own
  rw [Script.value?_fill, Script.child?_fill, Members.stateScript_eq, Members.childScript_eq,
    Script.value?_append, Script.slot?_append, state.1, state.2, child.1, child.2,
    Member.script, Script.value?_append, Script.slot?_append]
  exact ⟨Option.or_none, Option.or_none⟩

end Found

end ObjectCourier
