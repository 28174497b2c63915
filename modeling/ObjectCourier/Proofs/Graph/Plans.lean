import ObjectCourier.Proofs.Graph.Building

/-!
What reading a payload comes to. The checks of the whole payload go first and in a fixed order. After
them the plan is known record by record: it has an object for each record, made of the record alone
and of the types of the records that its slots name.
-/

namespace ObjectCourier

namespace Payload

def ids (payload : Payload) : List RefId := payload.records.map fun record => record.id

structure Closed (payload : Payload) : Prop where
  distinct : payload.ids.Nodup
  root : payload.root ∈ payload.ids
  slots : ∀ record ∈ payload.records, ∀ entry ∈ record.children, entry.2.target ∈ payload.ids

/-- What is wrong with a payload that is not closed. Repeated ids come before a missing root, which
comes before slots that name no record; of each kind the first one is told. -/
inductive Flawed (payload : Payload) : Fault → Prop where
  | repeated {before record after} (split : payload.records = before ++ record :: after)
      (distinct : (before.map fun record => record.id).Nodup)
      (again : record.id ∈ before.map fun record => record.id) :
      Flawed payload (.repeatedId record.id)
  | rootless (distinct : payload.ids.Nodup) (missing : payload.root ∉ payload.ids) :
      Flawed payload (.missingRoot payload.root)
  | dangling {before record after earlier name slot later} (distinct : payload.ids.Nodup)
      (root : payload.root ∈ payload.ids) (split : payload.records = before ++ record :: after)
      (sound : ∀ other ∈ before, ∀ entry ∈ other.children, entry.2.target ∈ payload.ids)
      (slots : record.children = earlier ++ (name, slot) :: later)
      (first : ∀ entry ∈ earlier, entry.2.target ∈ payload.ids)
      (missing : slot.target ∉ payload.ids) :
      Flawed payload (.danglingSlot record.id name slot.target)

theorem Flawed.kind_eq {payload : Payload} {fault : Fault} (flawed : payload.Flawed fault) :
    fault.kind = "CorruptGraph" := by
  cases flawed <;> rfl

private theorem repeatedId?_eq_some {seen : Std.TreeSet RefId} {records : List Record} {id : RefId}
    (found : repeatedId? seen records = some id) :
    ∃ before record after, records = before ++ record :: after ∧ record.id = id ∧
      (before.map fun record => record.id).Nodup ∧ (∀ record ∈ before, record.id ∉ seen) ∧
        (record.id ∈ seen ∨ record.id ∈ before.map fun record => record.id) := by
  induction records generalizing seen with
  | nil => cases found
  | cons first others ih =>
      unfold repeatedId? at found
      by_cases known : first.id ∈ seen
      · rw [if_pos (Std.TreeSet.contains_iff_mem.mpr known)] at found
        cases found
        exact ⟨[], first, others, rfl, rfl, List.nodup_nil, List.forall_mem_nil _, .inl known⟩
      · rw [if_neg (known ∘ Std.TreeSet.contains_iff_mem.mp)] at found
        -- The first id has been seen now, so it is apart from the ids ahead of the repeated one.
        obtain ⟨before, record, after, rfl, same, distinct, fresh, again⟩ := ih found
        have apart : ∀ other ∈ before, other.id ≠ first.id := by
          intro other member equal
          refine fresh other member (Std.TreeSet.mem_insert.mpr (.inl ?_))
          rw [equal]
          exact Std.ReflOrd.compare_self
        refine ⟨first :: before, record, after, rfl, same, ?_, ?_, ?_⟩
        · refine List.nodup_cons.mpr ⟨fun member => ?_, distinct⟩
          obtain ⟨other, inside, equal⟩ := List.mem_map.mp member
          exact apart other inside equal
        · intro other member
          rcases List.mem_cons.mp member with rfl | later
          · exact known
          · exact fun inside => fresh other later (Std.TreeSet.mem_insert.mpr (.inr inside))
        · rcases again with inside | earlier
          · rcases Std.TreeSet.mem_insert.mp inside with equal | inSeen
            · have equal := Std.LawfulEqOrd.eq_of_compare equal
              exact .inr (equal ▸ List.mem_cons_self)
            · exact .inl inSeen
          · exact .inr (List.mem_cons_of_mem _ earlier)

private theorem nodup_of_repeatedId?_eq_none {seen : Std.TreeSet RefId} {records : List Record}
    (none : repeatedId? seen records = none) :
    (records.map fun record => record.id).Nodup ∧ ∀ record ∈ records, record.id ∉ seen := by
  induction records generalizing seen with
  | nil => exact ⟨List.nodup_nil, List.forall_mem_nil _⟩
  | cons first others ih =>
      unfold repeatedId? at none
      by_cases known : first.id ∈ seen
      · rw [if_pos (Std.TreeSet.contains_iff_mem.mpr known)] at none
        cases none
      · rw [if_neg (known ∘ Std.TreeSet.contains_iff_mem.mp)] at none
        obtain ⟨distinct, fresh⟩ := ih none
        constructor
        · refine List.nodup_cons.mpr ⟨fun member => ?_, distinct⟩
          obtain ⟨other, inside, equal⟩ := List.mem_map.mp member
          refine fresh other inside (Std.TreeSet.mem_insert.mpr (.inl ?_))
          rw [equal]
          exact Std.ReflOrd.compare_self
        · intro other member
          rcases List.mem_cons.mp member with rfl | later
          · exact known
          · exact fun inside => fresh other later (Std.TreeSet.mem_insert.mpr (.inr inside))

private theorem danglingSlot?_eq_some {ids : List RefId} {record : Record} {name : String}
    {slot : ChildSlot} (found : danglingSlot? (.ofList ids) record = some (name, slot)) :
    ∃ earlier later, record.children = earlier ++ (name, slot) :: later ∧
      (∀ entry ∈ earlier, entry.2.target ∈ ids) ∧ slot.target ∉ ids := by
  obtain ⟨missing, earlier, later, split, first⟩ := List.find?_eq_some_iff_append.mp found
  refine ⟨earlier, later, split, fun entry member => ?_, fun inside => ?_⟩
  · have present := first entry member
    rw [Bool.not_not] at present
    exact mem_ids.mp present
  · rw [mem_ids.mpr inside] at missing
    cases missing

private theorem targets_of_checked {ids : List RefId} {record : Record}
    (checked : (match danglingSlot? (.ofList ids) record with
      | some (slot, child) => throw (.danglingSlot record.id slot child.target)
      | none => return () : Except Fault Unit) = .ok ()) :
    ∀ entry ∈ record.children, entry.2.target ∈ ids := by
  cases found : danglingSlot? (.ofList ids) record with
  | some entry =>
      rw [found] at checked
      cases checked
  | none =>
      intro entry member
      have present := List.find?_eq_none.mp found entry member
      rw [Bool.not_eq_true, Bool.not_eq_false'] at present
      exact mem_ids.mp present

private theorem validate_eq (payload : Payload) :
    payload.validate = (do
      if let some id := repeatedId? {} payload.records then throw (.repeatedId id)
      if !(Std.TreeSet.ofList payload.ids).contains payload.root then
        throw (.missingRoot payload.root)
      payload.records.forM fun record =>
        match danglingSlot? (.ofList payload.ids) record with
        | some (slot, child) => throw (.danglingSlot record.id slot child.target)
        | none => return ()) :=
  rfl

/-- A payload passes the checks when it is closed, and else it is told what is wrong. -/
theorem validate_cases (payload : Payload) :
    (payload.validate = .ok () ∧ payload.Closed) ∨
      ∃ fault, payload.validate = .error fault ∧ payload.Flawed fault := by
  have checks := payload.validate_eq
  cases repeats : repeatedId? {} payload.records with
  | some id =>
      obtain ⟨before, record, after, split, rfl, distinct, -, again⟩ := repeatedId?_eq_some repeats
      simp only [repeats] at checks
      refine .inr ⟨_, checks, .repeated split distinct (again.resolve_left ?_)⟩
      exact Std.TreeSet.not_mem_emptyc
  | none =>
      obtain ⟨distinct, -⟩ := nodup_of_repeatedId?_eq_none repeats
      simp only [repeats] at checks
      by_cases root : payload.root ∈ payload.ids
      · rw [mem_ids.mpr root] at checks
        cases slots : payload.validate with
        | ok _ =>
            refine .inl ⟨rfl, distinct, root, fun record member => ?_⟩
            exact targets_of_checked (of_forM_eq_ok (checks.symm.trans slots) member)
        | error fault =>
            obtain ⟨before, record, after, split, passed, failed⟩ :=
              exists_of_forM_eq_error (checks.symm.trans slots)
            cases found : danglingSlot? (.ofList payload.ids) record with
            | none =>
                rw [found] at failed
                cases failed
            | some entry =>
                obtain ⟨earlier, later, children, first, missing⟩ := danglingSlot?_eq_some found
                rw [found] at failed
                cases failed
                refine .inr ⟨_, rfl, .dangling distinct root split ?_ children first missing⟩
                exact fun other member => targets_of_checked (passed other member)
      · have absent : (Std.TreeSet.ofList payload.ids).contains payload.root = false :=
          Bool.eq_false_iff.mpr (root ∘ mem_ids.mp)
        rw [absent] at checks
        exact .inr ⟨_, checks, .rootless distinct root⟩

theorem validate_eq_ok {payload : Payload} : payload.validate = .ok () ↔ payload.Closed := by
  constructor
  · intro passed
    rcases payload.validate_cases with ⟨-, closed⟩ | ⟨fault, failed, -⟩
    · exact closed
    · cases passed.symm.trans failed
  · intro closed
    exact validate_of_closed closed.distinct closed.root closed.slots

theorem exists_flaw {payload : Payload} (broken : ¬payload.Closed) :
    ∃ fault, payload.validate = .error fault ∧ payload.Flawed fault :=
  payload.validate_cases.resolve_left fun both => broken both.2

def keyOf (payload : Payload) (id : RefId) : Option String :=
  (payload.record? id).map fun record => record.typeKey

/-- The registered type of the record of an id. -/
def typeOf (payload : Payload) (registry : Registry) : TypeOf := fun id =>
  (payload.keyOf id).bind registry.type?

theorem Closed.record?_eq {payload : Payload} (closed : payload.Closed) {record : Record}
    (member : record ∈ payload.records) : payload.record? record.id = some record := by
  obtain ⟨before, after, split⟩ := List.append_of_mem member
  refine List.find?_eq_some_iff_append.mpr ⟨by simp, before, after, split, fun other earlier => ?_⟩
  have distinct := closed.distinct
  unfold ids at distinct
  rw [split, List.map_append, List.map_cons] at distinct
  have apart := (List.nodup_append.mp distinct).2.2 other.id (List.mem_map_of_mem earlier) record.id
    List.mem_cons_self
  simp [apart]

theorem mem_ids_of_record? {payload : Payload} {id : RefId} {record : Record}
    (found : payload.record? id = some record) : record ∈ payload.records ∧ record.id = id := by
  have same := List.find?_some found
  exact ⟨List.mem_of_find?_eq_some found, of_decide_eq_true same⟩

end Payload

theorem Registry.key_of_type? {registry : Registry} {typeKey : String} {type : ObjType}
    (found : registry.type? typeKey = some type) : type.key = typeKey := by
  have same := List.find?_some found
  exact of_decide_eq_true same

/-- The record makes up the object, given the types of the records that its slots name. -/
def Record.Gives (registry : Registry) (typeOf : TypeOf) (record : Record) (object : ObjectPlan) :
    Prop :=
  ∃ draft, RecordDraft.read registry record = .ok draft ∧ draft.link typeOf = .ok object

theorem RecordDraft.read_eq_ok {registry : Registry} {record : Record} {draft : RecordDraft} :
    RecordDraft.read registry record = .ok draft ↔ draft.record = record ∧
      registry.type? record.typeKey = some draft.type ∧
        draft.type.shape.draft record = .ok draft.draft := by
  obtain ⟨kept, type, content⟩ := draft
  unfold read Registry.resolve
  cases found : registry.type? record.typeKey with
  | none => exact iff_of_false nofun nofun
  | some known =>
      constructor
      · intro made
        obtain ⟨_, resolved, made⟩ := bind_eq_ok.mp made
        cases resolved
        obtain ⟨_, drafted, same⟩ := bind_eq_ok.mp made
        cases same
        exact ⟨rfl, rfl, drafted⟩
      · rintro ⟨rfl, same, drafted⟩
        cases same
        exact bind_eq_ok.mpr ⟨_, rfl, bind_eq_ok.mpr ⟨content, drafted, rfl⟩⟩

theorem RecordDraft.link_eq_ok {typeOf : TypeOf} {draft : RecordDraft} {object : ObjectPlan} :
    draft.link typeOf = .ok object ↔ ∃ data,
      draft.type.shape.link typeOf draft.record draft.draft = .ok data ∧
        object = { id := draft.record.id, type := draft.type, data := data } := by
  refine bind_eq_ok.trans (exists_congr fun data => and_congr_right fun _ => ?_)
  exact ⟨fun made => (Except.ok.inj made).symm, fun same => congrArg Except.ok same.symm⟩

theorem Record.Gives.id_eq {registry : Registry} {typeOf : TypeOf} {record : Record}
    {object : ObjectPlan} (gives : record.Gives registry typeOf object) : object.id = record.id := by
  obtain ⟨draft, read, linked⟩ := gives
  obtain ⟨rfl, -⟩ := RecordDraft.read_eq_ok.mp read
  obtain ⟨data, -, rfl⟩ := RecordDraft.link_eq_ok.mp linked
  rfl

theorem Record.Gives.type_eq {registry : Registry} {typeOf : TypeOf} {record : Record}
    {object : ObjectPlan} (gives : record.Gives registry typeOf object) :
    registry.type? record.typeKey = some object.type := by
  obtain ⟨draft, read, linked⟩ := gives
  obtain ⟨rfl, type, -⟩ := RecordDraft.read_eq_ok.mp read
  obtain ⟨data, -, rfl⟩ := RecordDraft.link_eq_ok.mp linked
  exact type

section Types

variable {registry : Registry} {payload : Payload} {drafts : List RecordDraft}

theorem RecordDraft.ids_eq {records : List Record}
    (read : List.Forall₂ (fun record draft => RecordDraft.read registry record = .ok draft)
      records drafts) :
    drafts.map (fun draft => draft.record.id) = records.map fun record => record.id :=
  map_eq_of_forall₂ read fun _ _ found =>
    congrArg (fun record : Record => record.id) (RecordDraft.read_eq_ok.mp found).1

theorem Payload.ids_of_drafts
    (read : List.Forall₂ (fun record draft => RecordDraft.read registry record = .ok draft)
      payload.records drafts) : drafts.map (fun draft => draft.record.id) = payload.ids :=
  RecordDraft.ids_eq read

theorem Payload.exists_of_typeOf {id : RefId} {type : ObjType}
    (known : payload.typeOf registry id = some type) :
    ∃ record ∈ payload.records, record.id = id ∧ registry.type? record.typeKey = some type := by
  obtain ⟨typeKey, key, found⟩ := Option.bind_eq_some_iff.mp known
  obtain ⟨record, present, rfl⟩ := Option.map_eq_some_iff.mp key
  obtain ⟨member, same⟩ := mem_ids_of_record? present
  exact ⟨record, member, same, found⟩

theorem Payload.typeOf_of_not_mem {id : RefId} (missing : id ∉ payload.ids) :
    payload.typeOf registry id = none := by
  cases known : payload.typeOf registry id with
  | none => rfl
  | some type =>
      obtain ⟨record, member, rfl, -⟩ := exists_of_typeOf known
      exact absurd (List.mem_map_of_mem member) missing

theorem Payload.Closed.typeOf_eq (closed : payload.Closed) {record : Record}
    (member : record ∈ payload.records) :
    payload.typeOf registry record.id = registry.type? record.typeKey := by
  unfold typeOf keyOf
  rw [closed.record?_eq member]
  rfl

/-- After the first pass the types of all ids are those of their records. -/
theorem Payload.Closed.types_eq (closed : payload.Closed)
    (read : List.Forall₂ (fun record draft => RecordDraft.read registry record = .ok draft)
      payload.records drafts) (id : RefId) :
    (RecordDraft.types drafts)[id]? = payload.typeOf registry id := by
  have ids : (drafts.map fun draft => (draft.record.id, draft.type)).map Prod.fst = payload.ids := by
    rw [← ids_of_drafts read, List.map_map]
    rfl
  by_cases member : id ∈ payload.ids
  · obtain ⟨record, inside, rfl⟩ := List.mem_map.mp member
    obtain ⟨draft, present, found⟩ := exists_right_of_forall₂ read inside
    obtain ⟨same, type, -⟩ := RecordDraft.read_eq_ok.mp found
    rw [closed.typeOf_eq inside, type]
    refine getElem?_ofList (ids ▸ closed.distinct) (List.mem_map.mpr ⟨draft, present, ?_⟩)
    rw [same]
  · rw [typeOf_of_not_mem member]
    refine Std.TreeMap.getElem?_ofList_of_contains_eq_false ?_
    rw [ids]
    exact Bool.eq_false_iff.mpr (member ∘ List.contains_iff_mem.mp)

end Types

/-- A payload is read as a plan exactly when it is closed and each record gives the object at its
position. -/
theorem GraphPlan.read_eq_ok {registry : Registry} {payload : Payload} {plan : GraphPlan} :
    GraphPlan.read registry payload = .ok plan ↔ payload.Closed ∧ plan.root = payload.root ∧
      payload.typeOf registry payload.root = some plan.rootType ∧
        List.Forall₂ (Record.Gives registry (payload.typeOf registry)) payload.records
          plan.objects := by
  unfold read
  constructor
  · intro made
    obtain ⟨_, valid, made⟩ := bind_eq_ok.mp made
    have closed := Payload.validate_eq_ok.mp valid
    obtain ⟨drafts, drafted, made⟩ := bind_eq_ok.mp made
    have read := mapM_eq_ok.mp drafted
    simp only [closed.types_eq read] at made
    obtain ⟨objects, linked, made⟩ := bind_eq_ok.mp made
    split at made
    · rename_i rootType known
      cases made
      refine ⟨closed, rfl, known, ?_⟩
      exact forall₂_comp read (mapM_eq_ok.mp linked) fun _ draft _ found link => ⟨draft, found, link⟩
    · cases made
  · rintro ⟨closed, root, rootType, given⟩
    obtain ⟨drafts, read, linked⟩ := exists_middle_of_forall₂ given
    refine bind_eq_ok.mpr ⟨(), Payload.validate_eq_ok.mpr closed, ?_⟩
    refine bind_eq_ok.mpr ⟨drafts, mapM_eq_ok.mpr read, ?_⟩
    simp only [closed.types_eq read]
    refine bind_eq_ok.mpr ⟨plan.objects, mapM_eq_ok.mpr linked, ?_⟩
    rw [rootType]
    obtain ⟨_, _, _⟩ := plan
    cases root
    rfl

end ObjectCourier
