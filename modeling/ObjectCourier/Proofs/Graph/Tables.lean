import ObjectCourier.Proofs.Graph.Agreement

/-!
Records as ordered maps. Each of the two tables of a record has a name in the place where it was first
added, with what was last added under it. What a script adds to a record under new names replaces
nothing and stands behind what was there.
-/

namespace ObjectCourier

theorem eraseDups_snoc {α : Type} [DecidableEq α] (items : List α) (item : α) :
    (items ++ [item]).eraseDups =
      if item ∈ items then items.eraseDups else items.eraseDups ++ [item] := by
  rw [List.eraseDups_append]
  split
  · rename_i known
    simp [List.removeAll, known]
  · rename_i new
    simp [List.removeAll, new, List.eraseDups_cons]

namespace Entries

variable {α : Type} {entries : Entries α} {additions : List (String × α)}

structure Shows (entries : Entries α) (additions : List (String × α)) : Prop where
  names : entries.names = (additions.map Prod.fst).eraseDups
  distinct : entries.names.Nodup
  get? : ∀ name, entries.get? name = (additions.reverse.find? (·.1 = name)).map Prod.snd

theorem isSome_get? (name : String) (entries : Entries α) :
    (entries.get? name).isSome = true ↔ name ∈ entries.names := by
  induction entries with
  | nil => simp [get?, names]
  | cons first others ih =>
      by_cases same : first.1 = name
      · simp [get?, names, same]
      · unfold names at ih
        simp [get?, names, same, Ne.symm same, ih]

private theorem names_put (name : String) (value : α) (entries : Entries α) :
    (entries.put name value).names =
      if name ∈ entries.names then entries.names else entries.names ++ [name] := by
  induction entries with
  | nil => rfl
  | cons first others ih =>
      obtain ⟨other, old⟩ := first
      unfold names at ih
      by_cases same : other = name
      · simp [put, names, same]
      · simp only [put, if_neg same, names, List.map_cons, ih, List.mem_cons, Ne.symm same, false_or]
        split <;> rfl

private theorem nodup_names_put (distinct : entries.names.Nodup) (name : String) (value : α) :
    (entries.put name value).names.Nodup := by
  rw [names_put]
  split
  · exact distinct
  · rename_i fresh
    exact List.nodup_append.mpr ⟨distinct, List.nodup_singleton name, by
      intro other earlier _ here same
      cases List.mem_singleton.mp here
      exact fresh (same ▸ earlier)⟩

private theorem shows_nil : Shows ([] : Entries α) [] := ⟨rfl, List.nodup_nil, fun _ => rfl⟩

theorem Shows.put (shows : entries.Shows additions) (name : String) (value : α) :
    (entries.put name value).Shows (additions ++ [(name, value)]) where
  names := by
    rw [names_put, List.map_append, List.map_singleton, eraseDups_snoc, ← shows.names]
    simp only [shows.names, List.mem_eraseDups]
  distinct := nodup_names_put shows.distinct name value
  get? other := by
    rw [List.reverse_append, List.reverse_singleton, List.singleton_append, List.find?_cons]
    by_cases same : name = other
    · subst same
      simp only [decide_true, get?_put_self, Option.map_some]
    · simp only [same, decide_false, get?_put_of_ne (Ne.symm same), shows.get?]

end Entries

inductive RecordEdit where
  | value (name : String) (wire : WireValue)
  | child (name : String) (slot : ChildSlot)

namespace RecordEdit

def apply (record : Record) : RecordEdit → Record
  | value name wire => record.addValue name wire
  | child name slot => record.addChild name slot.target slot.dirty

def value? : RecordEdit → Option (String × WireValue)
  | value name wire => some (name, wire)
  | child .. => none

def child? : RecordEdit → Option (String × ChildSlot)
  | value .. => none
  | child name slot => some (name, slot)

end RecordEdit

/-- Each table of the record shows what has been added to it, whatever has been added to the other. -/
structure Record.Holds (record : Record) (edits : List RecordEdit) : Prop where
  values : record.values.Shows (edits.filterMap RecordEdit.value?)
  children : record.children.Shows (edits.filterMap RecordEdit.child?)

theorem Record.Holds.apply {record : Record} {edits : List RecordEdit} (holds : record.Holds edits)
    (edit : RecordEdit) : (edit.apply record).Holds (edits ++ [edit]) := by
  obtain ⟨values, children⟩ := holds
  cases edit with
  | value name wire =>
      constructor
      · rw [List.filterMap_append]
        exact values.put name wire
      · rw [List.filterMap_append]
        exact (List.append_nil _).symm ▸ children
  | child name slot =>
      constructor
      · rw [List.filterMap_append]
        exact (List.append_nil _).symm ▸ values
      · rw [List.filterMap_append]
        exact children.put name slot

theorem Record.Holds.foldl {record : Record} {earlier : List RecordEdit}
    (holds : record.Holds earlier) (edits : List RecordEdit) :
    (edits.foldl RecordEdit.apply record).Holds (earlier ++ edits) := by
  induction edits generalizing record earlier with
  | nil => exact (List.append_nil earlier).symm ▸ holds
  | cons edit others ih =>
      rw [List.append_cons]
      exact ih (holds.apply edit)

theorem Record.holds_edits (id : RefId) (typeKey : String) (edits : List RecordEdit) :
    (edits.foldl RecordEdit.apply { id := id, typeKey := typeKey }).Holds edits := by
  have blank : Record.Holds { id := id, typeKey := typeKey } [] :=
    ⟨Entries.shows_nil, Entries.shows_nil⟩
  exact blank.foldl edits

/-- What is added again stays in its place. -/
example : ([.value "kind" (.text "draft"), .child "kind" ⟨⟨1⟩, true⟩, .value "open" (.bool true),
    .value "kind" (.text "final")].foldl RecordEdit.apply { id := ⟨0⟩, typeKey := "note" }).values =
      [("kind", .text "final"), ("open", .bool true)] := by rfl

structure Record.Grows (before after : Record) (named linked : List String) : Prop where
  values : before.values <+: after.values
  children : before.children <+: after.children
  valueNames : after.values.names = before.values.names ++ named
  slotNames : after.children.names = before.children.names ++ linked
  typeKey : after.typeKey = before.typeKey

namespace Record.Grows

variable {before between after record : Record}
  {named linked furtherNamed furtherLinked : List String} {name : String}

theorem refl (record : Record) : record.Grows record [] [] where
  values := List.prefix_rfl
  children := List.prefix_rfl
  valueNames := (List.append_nil _).symm
  slotNames := (List.append_nil _).symm
  typeKey := rfl

theorem trans (first : before.Grows between named linked)
    (second : between.Grows after furtherNamed furtherLinked) :
    before.Grows after (named ++ furtherNamed) (linked ++ furtherLinked) where
  values := first.values.trans second.values
  children := first.children.trans second.children
  valueNames := by rw [second.valueNames, first.valueNames, List.append_assoc]
  slotNames := by rw [second.slotNames, first.slotNames, List.append_assoc]
  typeKey := second.typeKey.trans first.typeKey

theorem addValue (fresh : name ∉ record.values.names) (wire : WireValue) :
    record.Grows (record.addValue name wire) [name] [] where
  values := by
    change record.values <+: record.values.put name wire
    rw [Entries.put_of_fresh fresh]
    exact List.prefix_append _ _
  children := List.prefix_rfl
  valueNames := by
    change (record.values.put name wire).names = _
    rw [Entries.names_put, if_neg fresh]
  slotNames := (List.append_nil _).symm
  typeKey := rfl

theorem addChild (fresh : name ∉ record.children.names) (target : RefId) (dirty : Bool) :
    record.Grows (record.addChild name target dirty) [] [name] where
  values := List.prefix_rfl
  children := by
    change record.children <+: record.children.put name _
    rw [Entries.put_of_fresh fresh]
    exact List.prefix_append _ _
  valueNames := (List.append_nil _).symm
  slotNames := by
    change (record.children.put name _).names = _
    rw [Entries.names_put, if_neg fresh]
  typeKey := rfl

end Record.Grows

def WriteStep.valueName? : WriteStep → Option String
  | value name _ => some name
  | slot _ => none

namespace Script

def valueNames (script : Script) : List String := script.steps.filterMap WriteStep.valueName?

def slotNames (script : Script) : List String := script.slots.map Slot.name

theorem valueNames_append (first second : Script) :
    valueNames (first ++ second) = valueNames first ++ valueNames second := by
  simp only [valueNames, steps, List.filterMap_append]

theorem slotNames_append (first second : Script) :
    slotNames (first ++ second) = slotNames first ++ slotNames second := by
  simp only [slotNames, slots_append, List.map_append]

variable {visit : Node → Writing RefId} {script : Script} {record written : Record}
  {before after : WriterState}

theorem sound_of_run (ran : script.run visit record before = (.ok written, after)) :
    script.Sound := by
  induction script generalizing record before with
  | nil => exact fun _ member => nomatch member
  | cons step others ih =>
      match step with
      | .error fault => cases ran
      | .ok (.value name wire) => exact (ih ran).cons
      | .ok (.slot slot) =>
          obtain ⟨id, between, _, rest⟩ := exists_of_bind_ran ran
          exact (ih rest).cons

/-- A script with names that are new in the record, and none twice, replaces nothing. -/
theorem run_grows (values : (record.values.names ++ script.valueNames).Nodup)
    (slots : (record.children.names ++ script.slotNames).Nodup)
    (ran : script.run visit record before = (.ok written, after)) :
    record.Grows written script.valueNames script.slotNames := by
  induction script generalizing record before with
  | nil =>
      cases ran
      exact .refl _
  | cons step others ih =>
      match step with
      | .error fault => cases ran
      | .ok (.value name wire) =>
          have fresh : name ∉ record.values.names := by
            intro earlier
            exact (List.nodup_append.mp values).2.2 _ earlier _ List.mem_cons_self rfl
          have first := Record.Grows.addValue fresh wire
          have values : ((record.addValue name wire).values.names ++ valueNames others).Nodup := by
            rw [first.valueNames, List.append_assoc]
            exact values
          exact first.trans (ih values slots ran)
      | .ok (.slot slot) =>
          obtain ⟨id, between, _, rest⟩ := exists_of_bind_ran ran
          have fresh : slot.name ∉ record.children.names := by
            intro earlier
            exact (List.nodup_append.mp slots).2.2 _ earlier _ List.mem_cons_self rfl
          have first := Record.Grows.addChild fresh id slot.dirty
          have slots : ((record.addChild slot.name id slot.dirty).children.names ++
              slotNames others).Nodup := by
            rw [first.slotNames, List.append_assoc]
            exact slots
          exact first.trans (ih values slots rest)

theorem run_grows_new {id : RefId} {typeKey : String} (values : script.valueNames.Nodup)
    (slots : script.slotNames.Nodup)
    (ran : script.run visit { id := id, typeKey := typeKey } before = (.ok written, after)) :
    Record.Grows { id := id, typeKey := typeKey } written script.valueNames script.slotNames :=
  run_grows values slots ran

end Script

end ObjectCourier
