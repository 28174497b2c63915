import ObjectCourier.Proofs.Graph.Passing
import ObjectCourier.Proofs.Graph.Plans
import ObjectCourier.Proofs.Graph.RecordCheck

/-!
Which payloads are accepted. A payload that is not closed is refused before anything is made of it.
One that is closed is accepted exactly when each of its records passes the check of a single record,
also those that cannot be reached from the root. The look-ups of the two passes over the table of ids
never fail then.
-/

namespace ObjectCourier

section Records

variable {registry : Registry} {payload : Payload}

private theorem Record.exists_gives_iff {record : Record} {typeOf : TypeOf}
    {keyOf : RefId → Option String} (agrees : typeOf.Agrees keyOf record) :
    (∃ object, record.Gives registry typeOf object) ↔ record.Accepted registry keyOf := by
  constructor
  · rintro ⟨object, draft, read, linked⟩
    obtain ⟨rfl, type, drafted⟩ := RecordDraft.read_eq_ok.mp read
    obtain ⟨data, link, -⟩ := RecordDraft.link_eq_ok.mp linked
    exact ⟨draft.type, type, (Shape.made_iff agrees draft.type.shape).mp ⟨_, data, drafted, link⟩⟩
  · rintro ⟨type, found, accepts⟩
    obtain ⟨draft, data, drafted, link⟩ := (Shape.made_iff agrees type.shape).mpr accepts
    exact ⟨_, ⟨record, type, draft⟩, RecordDraft.read_eq_ok.mpr ⟨rfl, found, drafted⟩,
      RecordDraft.link_eq_ok.mpr ⟨data, link, rfl⟩⟩

theorem Payload.Closed.agrees (closed : payload.Closed)
    (known : ∀ record ∈ payload.records, ∃ type, registry.type? record.typeKey = some type)
    {record : Record} (member : record ∈ payload.records) :
    (payload.typeOf registry).Agrees payload.keyOf record := by
  intro entry inside target
  obtain ⟨child, present, same⟩ := List.mem_map.mp (closed.slots record member entry inside)
  obtain ⟨type, found⟩ := known child present
  rw [← same, closed.typeOf_eq present, found]
  unfold keyOf
  rw [closed.record?_eq present, Option.map_some, ← Registry.key_of_type? found]
  constructor
  · rintro ⟨⟩
    rfl
  · intro keys
    rw [ObjType.key_injective (Option.some.inj keys)]

/-- A closed payload is read exactly when every record passes its check. -/
theorem Payload.Closed.exists_read_iff (closed : payload.Closed) :
    (∃ plan, GraphPlan.read registry payload = .ok plan) ↔
      ∀ record ∈ payload.records, record.Accepted registry payload.keyOf := by
  constructor
  · rintro ⟨plan, read⟩ record member
    obtain ⟨-, -, -, given⟩ := GraphPlan.read_eq_ok.mp read
    have known : ∀ record ∈ payload.records, ∃ type, registry.type? record.typeKey = some type := by
      intro record member
      obtain ⟨_, _, draft, read, _⟩ := exists_right_of_forall₂ given member
      exact ⟨draft.type, (RecordDraft.read_eq_ok.mp read).2.1⟩
    obtain ⟨object, _, gives⟩ := exists_right_of_forall₂ given member
    exact (Record.exists_gives_iff (closed.agrees known member)).mp ⟨object, gives⟩
  · intro accepted
    have known : ∀ record ∈ payload.records, ∃ type, registry.type? record.typeKey = some type :=
      fun record member => ⟨(accepted record member).choose, (accepted record member).choose_spec.1⟩
    obtain ⟨objects, given⟩ := exists_forall₂_of_mem fun record member =>
      (Record.exists_gives_iff (closed.agrees known member)).mpr (accepted record member)
    obtain ⟨root, member, same⟩ := List.mem_map.mp closed.root
    obtain ⟨rootType, found⟩ := known root member
    refine ⟨⟨payload.root, rootType, objects⟩, GraphPlan.read_eq_ok.mpr ⟨closed, rfl, ?_, given⟩⟩
    rw [← same, closed.typeOf_eq member, found]

end Records

namespace RefTable

variable {registry : Registry} {table : RefTable}

/-- The first pass as it goes over the table: every record is read for its values, and its object is
registered under its id. The objects are told apart by their positions. -/
def materialize (registry : Registry) :
    RefTable → List Record → Except Fault (List RecordDraft × RefTable)
  | table, [] => .ok ([], table)
  | table, record :: others => do
      let draft ← RecordDraft.read registry record
      let entered ← table.register record.id ⟨draft.type, ⟨table.size⟩⟩
      let (drafts, last) ← materialize registry entered others
      return (draft :: drafts, last)

def typeOf (table : RefTable) : TypeOf := fun id => (table.node? id).map fun node => node.type

def entering : RefTable → List RecordDraft → RefTable
  | table, [] => table
  | table, draft :: others =>
      entering (table.bind draft.record.id ⟨draft.type, ⟨table.size⟩⟩) others

theorem node?_empty (id : RefId) : node? {} id = none := Std.TreeMap.getElem?_emptyc

theorem node?_bind (table : RefTable) (id other : RefId) (node : Node) :
    (table.bind id node).node? other = if id = other then some node else table.node? other := by
  unfold node? bind
  rw [Std.TreeMap.getElem?_insert]
  simp only [Std.LawfulEqCmp.compare_eq_iff_eq]

theorem contains_eq (table : RefTable) (id : RefId) :
    table.contains id = (table.node? id).isSome := Std.TreeMap.contains_eq_isSome_getElem?

theorem register_of_fresh {id : RefId} (fresh : table.node? id = none) (node : Node) :
    table.register id node = .ok (table.bind id node) := by
  unfold register
  rw [contains_eq, fresh]
  rfl

theorem register_of_taken {id : RefId} {held : Node} (taken : table.node? id = some held)
    (node : Node) : table.register id node = .error (.repeatedId id) := by
  unfold register
  rw [contains_eq, taken]
  rfl

private theorem resolve_of_node? {id : RefId} {node : Node} (found : table.node? id = some node) :
    table.resolve id = .ok node := by
  unfold resolve
  rw [found]

theorem resolve_eq_ok {id : RefId} {node : Node} :
    table.resolve id = .ok node ↔ table.node? id = some node := by
  constructor
  · intro resolved
    unfold resolve at resolved
    split at resolved
    · rename_i found
      cases resolved
      exact found
    · cases resolved
  · exact resolve_of_node?

private theorem materialize_eq {records : List Record}
    (distinct : (records.map fun record => record.id).Nodup)
    (fresh : ∀ record ∈ records, table.node? record.id = none) :
    materialize registry table records =
      (records.mapM (RecordDraft.read registry)).map fun drafts =>
        (drafts, table.entering drafts) := by
  induction records generalizing table with
  | nil => rfl
  | cons record others ih =>
      rw [List.map_cons, List.nodup_cons] at distinct
      rw [materialize, List.mapM_cons]
      cases read : RecordDraft.read registry record with
      | error fault => rfl
      | ok draft =>
          obtain ⟨rfl, -⟩ := RecordDraft.read_eq_ok.mp read
          -- Entering the first id leaves the others new, for the ids of a payload are distinct.
          have rest := @ih (table.bind draft.record.id ⟨draft.type, ⟨table.size⟩⟩) distinct.2
            fun other later => by
              have apart : draft.record.id ≠ other.id :=
                fun same => distinct.1 (same ▸ List.mem_map_of_mem later)
              rw [node?_bind, if_neg apart]
              exact fresh other (List.mem_cons_of_mem _ later)
          have entered := register_of_fresh (fresh draft.record List.mem_cons_self)
            ⟨draft.type, ⟨table.size⟩⟩
          change (table.register draft.record.id ⟨draft.type, ⟨table.size⟩⟩ >>= fun entered =>
            materialize registry entered others >>= fun both =>
              .ok (draft :: both.1, both.2)) = _
          rw [entered]
          change (materialize registry (table.bind draft.record.id ⟨draft.type, ⟨table.size⟩⟩) others
            >>= fun both => .ok (draft :: both.1, both.2)) = _
          rw [rest]
          cases others.mapM (RecordDraft.read registry) <;> rfl

private theorem node?_entering_of_not_mem {drafts : List RecordDraft} {id : RefId}
    (missing : id ∉ drafts.map fun draft => draft.record.id) :
    (table.entering drafts).node? id = table.node? id := by
  induction drafts generalizing table with
  | nil => rfl
  | cons draft others ih =>
      rw [List.map_cons, List.mem_cons, not_or] at missing
      rw [entering, ih missing.2, node?_bind, if_neg (Ne.symm missing.1)]

private theorem typeOf_entering {drafts : List RecordDraft}
    (distinct : (drafts.map fun draft => draft.record.id).Nodup) {draft : RecordDraft}
    (member : draft ∈ drafts) :
    (table.entering drafts).typeOf draft.record.id = some draft.type := by
  induction drafts generalizing table with
  | nil => cases member
  | cons first others ih =>
      rw [List.map_cons, List.nodup_cons] at distinct
      rcases List.mem_cons.mp member with rfl | later
      · unfold typeOf
        rw [entering, node?_entering_of_not_mem distinct.1, node?_bind, if_pos rfl]
        rfl
      · exact ih distinct.2 later

end RefTable

section Passes

variable {registry : Registry} {payload : Payload} {drafts : List RecordDraft}

private theorem Payload.Closed.typeOf_entering (closed : payload.Closed)
    (read : List.Forall₂ (fun record draft => RecordDraft.read registry record = .ok draft)
      payload.records drafts) :
    (RefTable.entering {} drafts).typeOf = payload.typeOf registry := by
  funext id
  have ids := ids_of_drafts read
  by_cases member : id ∈ payload.ids
  · obtain ⟨record, inside, rfl⟩ := List.mem_map.mp member
    obtain ⟨draft, present, found⟩ := exists_right_of_forall₂ read inside
    obtain ⟨rfl, type, -⟩ := RecordDraft.read_eq_ok.mp found
    rw [RefTable.typeOf_entering (ids ▸ closed.distinct) present, closed.typeOf_eq inside, type]
  · rw [typeOf_of_not_mem member]
    unfold RefTable.typeOf
    rw [RefTable.node?_entering_of_not_mem (ids ▸ member)]
    rw [RefTable.node?_empty]
    rfl

/-- The payload names the id: as its root, as the id of a record, or in a slot. -/
def Payload.Mentions (payload : Payload) (id : RefId) : Prop :=
  id = payload.root ∨ ∃ record ∈ payload.records,
    id = record.id ∨ ∃ entry ∈ record.children, id = entry.2.target

private theorem Payload.Closed.mem_of_mentions (closed : payload.Closed) {id : RefId}
    (mentions : payload.Mentions id) : id ∈ payload.ids := by
  rcases mentions with rfl | ⟨record, member, rfl | ⟨entry, inside, rfl⟩⟩
  · exact closed.root
  · exact List.mem_map_of_mem member
  · exact closed.slots record member entry inside

/-- Every id that a closed payload names resolves to an object of the type of its record. -/
theorem Payload.Closed.resolves (closed : payload.Closed)
    (read : List.Forall₂ (fun record draft => RecordDraft.read registry record = .ok draft)
      payload.records drafts) {id : RefId} (mentions : payload.Mentions id) :
    ∃ node, (RefTable.entering {} drafts).resolve id = .ok node ∧
      payload.typeOf registry id = some node.type := by
  obtain ⟨record, inside, rfl⟩ := List.mem_map.mp (closed.mem_of_mentions mentions)
  obtain ⟨draft, present, found⟩ := exists_right_of_forall₂ read inside
  have types := congrFun (closed.typeOf_entering read) record.id
  rw [closed.typeOf_eq inside, (RecordDraft.read_eq_ok.mp found).2.1] at types
  obtain ⟨node, known, same⟩ := Option.map_eq_some_iff.mp types
  refine ⟨node, RefTable.resolve_of_node? known, ?_⟩
  rw [closed.typeOf_eq inside, (RecordDraft.read_eq_ok.mp found).2.1, same]

def RefTable.link (table : RefTable) (draft : RecordDraft) : Except Fault ObjectPlan := do
  let _ ← table.resolve draft.record.id
  draft.link table.typeOf

/-- Read a payload by the table: the first pass enters the objects, the second one looks them up. -/
def GraphPlan.readByTable (registry : Registry) (payload : Payload) : Except Fault GraphPlan := do
  payload.validate
  let (drafts, table) ← RefTable.materialize registry {} payload.records
  let objects ← drafts.mapM table.link
  let root ← table.resolve payload.root
  return { root := payload.root, rootType := root.type, objects := objects }

theorem GraphPlan.readByTable_eq (registry : Registry) (payload : Payload) :
    readByTable registry payload = GraphPlan.read registry payload := by
  unfold readByTable GraphPlan.read
  rcases payload.validate_cases with ⟨valid, closed⟩ | ⟨fault, failed, -⟩
  · rw [valid, RefTable.materialize_eq closed.distinct fun _ _ => RefTable.node?_empty _]
    cases drafted : payload.records.mapM (RecordDraft.read registry) with
    | error fault => rfl
    | ok drafts =>
        have read := mapM_eq_ok.mp drafted
        obtain ⟨root, known, rootType⟩ := closed.resolves read (.inl rfl)
        have linked : drafts.mapM (RefTable.link (.entering {} drafts)) =
            drafts.mapM (RecordDraft.link (payload.typeOf registry)) := by
          refine mapM_congr fun draft member => ?_
          obtain ⟨record, inside, found⟩ := exists_left_of_forall₂ read member
          obtain ⟨rfl, -⟩ := RecordDraft.read_eq_ok.mp found
          obtain ⟨node, present, -⟩ := closed.resolves read (.inr ⟨_, inside, .inl rfl⟩)
          unfold RefTable.link
          rw [present, closed.typeOf_entering read]
          rfl
        change (drafts.mapM (RefTable.link (.entering {} drafts)) >>= _) =
          drafts.mapM (RecordDraft.link fun id => (RecordDraft.types drafts)[id]?) >>= _
        simp only [linked, known, closed.types_eq read, rootType]
        rfl
  · rw [failed]
    rfl

structure Payload.LooksUp (payload : Payload) (registry : Registry) : Prop where
  registers : ∀ before record after, payload.records = before ++ record :: after →
    ∀ drafts table, RefTable.materialize registry {} before = .ok (drafts, table) →
      ∀ node, ∃ entered, table.register record.id node = .ok entered
  resolves : ∀ drafts table,
    RefTable.materialize registry {} payload.records = .ok (drafts, table) →
      ∀ id, payload.Mentions id →
        ∃ node, table.resolve id = .ok node ∧ payload.keyOf id = some node.typeKey

theorem RefTable.of_materialize {records : List Record}
    (distinct : (records.map fun record => record.id).Nodup) {table : RefTable}
    (ran : materialize registry {} records = .ok (drafts, table)) :
    table = .entering {} drafts ∧
      List.Forall₂ (fun record draft => RecordDraft.read registry record = .ok draft) records
        drafts := by
  rw [materialize_eq distinct fun _ _ => node?_empty _] at ran
  obtain ⟨_, drafted, same⟩ := map_eq_ok.mp ran
  cases same
  exact ⟨rfl, mapM_eq_ok.mp drafted⟩

theorem Payload.Closed.looksUp (closed : payload.Closed) : payload.LooksUp registry where
  registers before record after split drafts table ran node := by
    have distinct := closed.distinct
    unfold ids at distinct
    rw [split, List.map_append, List.map_cons] at distinct
    obtain ⟨earlier, -, apart⟩ := List.nodup_append.mp distinct
    obtain ⟨rfl, read⟩ := RefTable.of_materialize earlier ran
    have missing : record.id ∉ drafts.map fun draft => draft.record.id := by
      rw [RecordDraft.ids_eq read]
      exact fun member => apart _ member _ List.mem_cons_self rfl
    refine ⟨_, RefTable.register_of_fresh ?_ node⟩
    rw [RefTable.node?_entering_of_not_mem missing]
    exact RefTable.node?_empty _
  resolves drafts table ran id mentions := by
    obtain ⟨rfl, read⟩ := RefTable.of_materialize closed.distinct ran
    obtain ⟨node, known, type⟩ := closed.resolves read mentions
    obtain ⟨typeKey, key, found⟩ := Option.bind_eq_some_iff.mp type
    refine ⟨node, known, ?_⟩
    rw [key, ← Registry.key_of_type? found]
    rfl

end Passes

/-- What becomes of a payload. Whatever is wrong with the payload as a whole is found before anything
is made. Else the look-ups succeed, and the checks of the single records decide, each for all. -/
structure Formatter.Decides (formatter : Formatter) (payload : Payload) (world : World) : Prop where
  flawed : ¬payload.Closed → ∃ fault, payload.Flawed fault ∧ fault.kind = "CorruptGraph" ∧
    formatter.deserialize payload world = (.error fault, world)
  passes : GraphPlan.readByTable formatter.registry payload =
    GraphPlan.read formatter.registry payload
  lookups : payload.Closed → payload.LooksUp formatter.registry
  accepted : payload.Closed →
    ((∃ node after, formatter.deserialize payload world = (.ok node, after)) ↔
      ∀ record ∈ payload.records, record.Accepted formatter.registry payload.keyOf)
  spoiled : ∀ record ∈ payload.records, ¬record.Accepted formatter.registry payload.keyOf →
    ∃ fault, formatter.deserialize payload world = (.error fault, world)

namespace Formatter

variable {formatter : Formatter} {payload : Payload} {world : World}

theorem exists_deserialize_iff :
    (∃ node after, formatter.deserialize payload world = (.ok node, after)) ↔
      ∃ plan, GraphPlan.read formatter.registry payload = .ok plan := by
  have ended := formatter.deserialize_ended payload world
  cases read : GraphPlan.read formatter.registry payload with
  | ok plan =>
      rw [read] at ended
      exact iff_of_true ⟨_, _, ended⟩ (exists_ok plan)
  | error fault =>
      rw [read] at ended
      refine iff_of_false ?_ (not_exists_ok fault)
      rintro ⟨node, after, ran⟩
      cases ended.symm.trans ran

private theorem deserialize_of_unread {fault : Fault}
    (unread : GraphPlan.read formatter.registry payload = .error fault) :
    formatter.deserialize payload world = (.error fault, world) := by
  have ended := formatter.deserialize_ended payload world
  rwa [unread] at ended

/-- Reading decides on a payload by its shape and by its records one by one, and on a record by what
is in it and the type keys at its slots. -/
theorem decides_locally (formatter : Formatter) (payload : Payload) (world : World) :
    formatter.Decides payload world ∧
      ∀ (record : Record) (keyOf other : RefId → Option String),
        (∀ entry ∈ record.children, other entry.2.target = keyOf entry.2.target) →
          (record.Accepted formatter.registry other ↔ record.Accepted formatter.registry keyOf) := by
  have flawed : ¬payload.Closed → ∃ fault, payload.Flawed fault ∧ fault.kind = "CorruptGraph" ∧
      formatter.deserialize payload world = (.error fault, world) := by
    intro broken
    obtain ⟨fault, failed, flawed⟩ := Payload.exists_flaw broken
    refine ⟨fault, flawed, flawed.kind_eq, deserialize_of_unread ?_⟩
    unfold GraphPlan.read
    rw [failed]
    rfl
  constructor
  · refine { flawed := flawed, passes := GraphPlan.readByTable_eq _ _,
             lookups := fun closed => closed.looksUp, accepted := fun closed => ?_, spoiled := ?_ }
    · rw [exists_deserialize_iff, closed.exists_read_iff]
    · intro record member spoils
      by_cases closed : payload.Closed
      · cases read : GraphPlan.read formatter.registry payload with
        | ok plan => exact absurd (closed.exists_read_iff.mp ⟨plan, read⟩ record member) spoils
        | error fault => exact ⟨fault, deserialize_of_unread read⟩
      · obtain ⟨fault, -, -, ended⟩ := flawed closed
        exact ⟨fault, ended⟩
  · intro record keyOf other same
    exact Record.accepted_congr same formatter.registry

end Formatter

end ObjectCourier
