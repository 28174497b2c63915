import Mathlib.Logic.Relation
import ObjectCourier.Graph.Report
import ObjectCourier.Proofs.Graph.Plans

/-!
Reports of payloads. A report is made by a walk over the records: a record that is met for the first
time is shown with its slots, and one that is met again is only named. The payload may be cyclic and
need not come from a writing pass. It has a report exactly when it is valid.
-/

namespace ObjectCourier

/-! ### Reading a tree -/

namespace RecordReport

def id : RecordReport → RefId
  | node id _ _ _ _ _ _ => id

def isBack : RecordReport → Bool
  | node _ _ _ _ backReference _ _ => backReference

def children : RecordReport → List RecordReport
  | node _ _ _ _ _ _ children => children

def entry : RecordReport → Option String × ChildSlot
  | node id _ slot _ _ dirty _ => (slot, ⟨id, dirty⟩)

mutual

def preorder : RecordReport → List RecordReport
  | node id typeKey slot valueCount backReference dirty children =>
      node id typeKey slot valueCount backReference dirty children :: preorderOfAll children

def preorderOfAll : List RecordReport → List RecordReport
  | [] => []
  | first :: others => preorder first ++ preorderOfAll others

end

def shown (nodes : List RecordReport) : List RefId :=
  (nodes.filter fun node => !node.isBack).map id

private theorem shown_append (first second : List RecordReport) :
    shown (first ++ second) = shown first ++ shown second := by
  simp only [shown, List.filter_append, List.map_append]

private theorem shown_cons_of_back {first : RecordReport} (back : first.isBack = true)
    (others : List RecordReport) : shown (first :: others) = shown others := by
  simp only [shown, List.filter_cons, back, Bool.not_true, Bool.false_eq_true, if_false]

private theorem shown_cons_of_not_back {first : RecordReport} (front : first.isBack = false)
    (others : List RecordReport) : shown (first :: others) = first.id :: shown others := by
  simp only [shown, List.filter_cons, front, Bool.not_false, if_true, List.map_cons]

end RecordReport

def Record.entries (record : Record) : List (Option String × ChildSlot) :=
  record.children.map fun (name, slot) => (some name, slot)

/-- The node tells what is in its record. The slots are told where the record is shown first. -/
def RecordReport.Faithful (payload : Payload) : RecordReport → Prop
  | node id typeKey _ valueCount backReference _ children =>
      ∃ record, payload.record? id = some record ∧ typeKey = record.typeKey ∧
        valueCount = record.values.length ∧
          children.map entry = if backReference then [] else record.entries

namespace Payload

def Links (payload : Payload) (parent child : RefId) : Prop :=
  ∃ record, payload.record? parent = some record ∧
    ∃ entry ∈ record.children, entry.2.target = child

def Connects (payload : Payload) : RefId → Prop :=
  Relation.ReflTransGen payload.Links payload.root

/-! ### The walk over the records -/

/-- From the ids seen before, the records of the pending slots are shown, up to the ids seen in the
end. -/
inductive Shows (payload : Payload) : (seen : List RefId) → List (Option String × ChildSlot) →
    List RecordReport → (final : List RefId) → Prop where
  | done {seen : List RefId} : Shows payload seen [] [] seen
  | again {seen final : List RefId} {name : Option String} {slot : ChildSlot}
      {pending : List (Option String × ChildSlot)} {reports : List RecordReport} {record : Record}
      (known : slot.target ∈ seen) (found : payload.record? slot.target = some record)
      (rest : Shows payload seen pending reports final) :
      Shows payload seen ((name, slot) :: pending)
        (.node slot.target record.typeKey name record.values.length true slot.dirty [] :: reports)
        final
  | enter {seen middle final : List RefId} {name : Option String} {slot : ChildSlot}
      {pending : List (Option String × ChildSlot)} {children reports : List RecordReport}
      {record : Record} (fresh : slot.target ∉ seen)
      (found : payload.record? slot.target = some record)
      (below : Shows payload (seen ++ [slot.target]) record.entries children middle)
      (rest : Shows payload middle pending reports final) :
      Shows payload seen ((name, slot) :: pending)
        (.node slot.target record.typeKey name record.values.length false slot.dirty children ::
          reports) final

namespace Shows

open RecordReport

variable {payload : Payload} {seen final : List RefId}
  {pending : List (Option String × ChildSlot)} {reports : List RecordReport}

theorem final_eq (shows : payload.Shows seen pending reports final) :
    final = seen ++ shown (preorderOfAll reports) := by
  induction shows with
  | done => exact (List.append_nil _).symm
  | again known found rest ih =>
      rw [preorderOfAll, preorder, preorderOfAll, List.singleton_append, shown_cons_of_back rfl]
      exact ih
  | enter fresh found below rest ihBelow ihRest =>
      rw [preorderOfAll, preorder, List.cons_append, shown_cons_of_not_back rfl, shown_append, ihRest,
        ihBelow]
      simp only [RecordReport.id, List.append_assoc, List.cons_append, List.nil_append]

private theorem seen_subset (shows : payload.Shows seen pending reports final) : seen ⊆ final := by
  rw [shows.final_eq]
  exact List.subset_append_left _ _

private theorem entries_eq (shows : payload.Shows seen pending reports final) :
    reports.map entry = pending := by
  induction shows with
  | done => rfl
  | again known found rest ih => rw [List.map_cons, ih, entry]
  | enter fresh found below rest ihBelow ihRest => rw [List.map_cons, ihRest, entry]

theorem nodup (shows : payload.Shows seen pending reports final) (distinct : seen.Nodup) :
    final.Nodup := by
  induction shows with
  | done => exact distinct
  | again known found rest ih => exact ih distinct
  | enter fresh found below rest ihBelow ihRest =>
      apply ihRest
      apply ihBelow
      apply List.Nodup.append distinct (List.nodup_singleton _)
      exact List.disjoint_singleton.mpr fresh

theorem inside (shows : payload.Shows seen pending reports final) (within : seen ⊆ payload.ids) :
    final ⊆ payload.ids := by
  induction shows with
  | done => exact within
  | again known found rest ih => exact ih within
  | enter fresh found below rest ihBelow ihRest =>
      apply ihRest
      apply ihBelow
      obtain ⟨member, same⟩ := mem_ids_of_record? found
      apply List.append_subset.mpr ⟨within, ?_⟩
      intro id here
      rw [List.mem_singleton.mp here, ← same]
      exact List.mem_map_of_mem member

private theorem pending_seen (shows : payload.Shows seen pending reports final) :
    ∀ entry ∈ pending, entry.2.target ∈ final := by
  induction shows with
  | done => exact List.forall_mem_nil _
  | again known found rest ih => exact List.forall_mem_cons.mpr ⟨rest.seen_subset known, ih⟩
  | enter fresh found below rest ihBelow ihRest =>
      refine List.forall_mem_cons.mpr ⟨rest.seen_subset (below.seen_subset ?_), ihRest⟩
      exact List.mem_append_right _ (List.mem_singleton_self _)

private theorem links_seen (shows : payload.Shows seen pending reports final) :
    ∀ id ∈ final, id ∈ seen ∨ ∀ child, payload.Links id child → child ∈ final := by
  induction shows with
  | done => exact fun id member => .inl member
  | again known found rest ih => exact ih
  | @enter seen middle final name slot pending children reports record fresh found below rest
      ihBelow ihRest =>
      intro id member
      cases ihRest id member with
      | inr covered => exact .inr covered
      | inl inMiddle =>
          cases ihBelow id inMiddle with
          | inr covered => exact .inr fun child links => rest.seen_subset (covered child links)
          | inl earlier =>
              cases List.mem_append.mp earlier with
              | inl inSeen => exact .inl inSeen
              | inr here =>
                  right
                  rintro child ⟨other, again, entry, inside, rfl⟩
                  rw [List.mem_singleton.mp here, found] at again
                  cases again
                  apply rest.seen_subset
                  exact below.pending_seen (some entry.1, entry.2) (List.mem_map_of_mem inside)

theorem reached (shows : payload.Shows seen pending reports final) :
    ∀ id ∈ final, id ∈ seen ∨
      ∃ entry ∈ pending, Relation.ReflTransGen payload.Links entry.2.target id := by
  induction shows with
  | done => exact fun id member => .inl member
  | again known found rest ih =>
      intro id member
      cases ih id member with
      | inl inSeen => exact .inl inSeen
      | inr below =>
          obtain ⟨entry, later, path⟩ := below
          exact .inr ⟨entry, List.mem_cons_of_mem _ later, path⟩
  | @enter seen middle final name slot pending children reports record fresh found below rest
      ihBelow ihRest =>
      intro id member
      cases ihRest id member with
      | inr below =>
          obtain ⟨entry, later, path⟩ := below
          exact .inr ⟨entry, List.mem_cons_of_mem _ later, path⟩
      | inl inMiddle =>
          cases ihBelow id inMiddle with
          | inr below =>
              obtain ⟨entry, slots, path⟩ := below
              obtain ⟨child, inside, rfl⟩ := List.mem_map.mp slots
              have links : payload.Links slot.target child.2.target :=
                ⟨record, found, child, inside, rfl⟩
              exact .inr ⟨_, List.mem_cons_self, .head links path⟩
          | inl earlier =>
              cases List.mem_append.mp earlier with
              | inl inSeen => exact .inl inSeen
              | inr here =>
                  rw [List.mem_singleton.mp here]
                  exact .inr ⟨_, List.mem_cons_self, .refl⟩

theorem faithful (shows : payload.Shows seen pending reports final) :
    ∀ node ∈ preorderOfAll reports, node.Faithful payload := by
  induction shows with
  | done => exact List.forall_mem_nil _
  | again known found rest ih =>
      rw [preorderOfAll, preorder, preorderOfAll, List.singleton_append]
      exact List.forall_mem_cons.mpr ⟨⟨_, found, rfl, rfl, rfl⟩, ih⟩
  | enter fresh found below rest ihBelow ihRest =>
      rw [preorderOfAll, preorder, List.cons_append]
      refine List.forall_mem_cons.mpr ⟨⟨_, found, rfl, rfl, below.entries_eq⟩, ?_⟩
      exact List.forall_mem_append.mpr ⟨ihBelow, ihRest⟩

end Shows

end Payload

namespace RecordReport

/-- Every back reference among the nodes has no children, and its id was seen before or is shown by
an earlier node. -/
def BackedBy (seen : List RefId) (nodes : List RecordReport) : Prop :=
  ∀ before node after, nodes = before ++ node :: after → node.isBack = true →
    node.children = [] ∧ node.id ∈ seen ++ shown before

private theorem backedBy_nil (seen : List RefId) : BackedBy seen [] := by
  intro before node after split
  cases before <;> cases split

private theorem backedBy_singleton {seen : List RefId} {node : RecordReport}
    (backed : node.isBack = true → node.children = [] ∧ node.id ∈ seen) : BackedBy seen [node] := by
  intro before other after split back
  cases before with
  | nil =>
      cases split
      obtain ⟨childless, known⟩ := backed back
      exact ⟨childless, List.mem_append_left _ known⟩
  | cons first before =>
      obtain ⟨-, none⟩ := List.cons.inj split
      cases before <;> cases none

theorem BackedBy.append {seen : List RefId} {first second : List RecordReport}
    (early : BackedBy seen first) (late : BackedBy (seen ++ shown first) second) :
    BackedBy seen (first ++ second) := by
  intro before node after split back
  rcases List.append_eq_append_iff.mp split with ⟨others, rfl, same⟩ | ⟨others, rfl, same⟩
  · obtain ⟨childless, known⟩ := late others node after same back
    rw [shown_append, ← List.append_assoc]
    exact ⟨childless, known⟩
  · cases others with
    | nil =>
        obtain ⟨childless, known⟩ := late [] node after same.symm back
        rw [List.append_nil] at known
        exact ⟨childless, (List.append_nil (seen ++ shown before)) ▸ known⟩
    | cons other others =>
        cases same
        exact early before node others rfl back

end RecordReport

open RecordReport in
private theorem Payload.Shows.backed {payload : Payload} {seen final : List RefId}
    {pending : List (Option String × ChildSlot)} {reports : List RecordReport}
    (shows : payload.Shows seen pending reports final) :
    BackedBy seen (preorderOfAll reports) := by
  induction shows with
  | done => exact backedBy_nil _
  | again known found rest ih =>
      rw [preorderOfAll, preorder, preorderOfAll]
      refine (backedBy_singleton fun _ => ⟨rfl, known⟩).append ?_
      rw [shown_cons_of_back rfl]
      exact List.append_nil _ ▸ ih
  | @enter seen middle final name slot pending children reports record fresh found below rest
      ihBelow ihRest =>
      -- Behind the node its own id is seen, and behind the nodes below it all that the walk has seen.
      have after := ihBelow.append (below.final_eq ▸ ihRest)
      have own : BackedBy seen [.node slot.target record.typeKey name record.values.length false
          slot.dirty children] := by
        apply backedBy_singleton
        intro back
        cases back
      rw [preorderOfAll, preorder, List.cons_append]
      exact own.append after

theorem Payload.Shows.cons {payload : Payload} {seen middle final : List RefId}
    {entry : Option String × ChildSlot} {pending : List (Option String × ChildSlot)}
    {report : RecordReport} {reports : List RecordReport}
    (first : payload.Shows seen [entry] [report] middle)
    (rest : payload.Shows middle pending reports final) :
    payload.Shows seen (entry :: pending) (report :: reports) final := by
  cases first with
  | again known found nothing =>
      cases nothing
      exact .again known found rest
  | enter fresh found below nothing =>
      cases nothing
      exact .enter fresh found below rest

/-! ### The inspection follows the walk -/

theorem bind_of_ok {σ ε α β : Type} {first : StateT σ (Except ε) α}
    {next : α → StateT σ (Except ε) β} {before between : σ} {value : α}
    (ran : first before = .ok (value, between)) :
    (first >>= next) before = next value between := by
  change (first before >>= fun both => next both.1 both.2) = _
  rw [ran]
  rfl

def Tracks (set : Std.TreeSet RefId) (ids : List RefId) : Prop := ∀ id, id ∈ set ↔ id ∈ ids

namespace Payload

variable {payload : Payload}

def table (payload : Payload) : Std.TreeMap RefId Record :=
  .ofList (payload.records.map fun record => (record.id, record))

private theorem Closed.exists_record (closed : payload.Closed) {id : RefId}
    (member : id ∈ payload.ids) : ∃ record ∈ payload.records, payload.record? id = some record ∧
      payload.table[id]? = some record := by
  obtain ⟨record, inside, rfl⟩ := List.mem_map.mp member
  refine ⟨record, inside, closed.record?_eq inside, ?_⟩
  refine getElem?_ofList ?_ (List.mem_map.mpr ⟨record, inside, rfl⟩)
  rw [List.map_map]
  exact closed.distinct

structure Ample (payload : Payload) (seen : List RefId) (depth : Nat) : Prop where
  distinct : seen.Nodup
  within : seen ⊆ payload.ids
  deep : payload.ids.length < depth + seen.length

private theorem Ample.pos {seen : List RefId} {depth : Nat} (ample : payload.Ample seen depth) :
    0 < depth := by
  have fewer := (ample.distinct.subperm ample.within).length_le
  have deep := ample.deep
  omega

private theorem Ample.of_shows {seen final : List RefId}
    {pending : List (Option String × ChildSlot)}
    {reports : List RecordReport} {depth : Nat} (ample : payload.Ample seen depth)
    (shows : payload.Shows seen pending reports final) : payload.Ample final depth where
  distinct := shows.nodup ample.distinct
  within := shows.inside ample.within
  deep := by
    have longer := congrArg List.length shows.final_eq
    rw [List.length_append] at longer
    have deep := ample.deep
    omega

theorem Ample.enter {seen : List RefId} {depth : Nat} {id : RefId}
    (ample : payload.Ample seen (depth + 1)) (fresh : id ∉ seen) (member : id ∈ payload.ids) :
    payload.Ample (seen ++ [id]) depth where
  distinct := ample.distinct.append (List.nodup_singleton _) (List.disjoint_singleton.mpr fresh)
  within := List.append_subset.mpr ⟨ample.within, List.cons_subset.mpr ⟨member, List.nil_subset _⟩⟩
  deep := by
    have deep := ample.deep
    rw [List.length_append, List.length_singleton]
    omega

/-- The inspection of one pending slot shows its record, if the levels are enough. -/
def Inspects (payload : Payload) (depth : Nat) (entry : Option String × ChildSlot) : Prop :=
  ∀ (set : Std.TreeSet RefId) (seen : List RefId), Tracks set seen → payload.Ample seen depth →
    ∃ report after final,
      RecordReport.inspect payload.table depth entry.2.target entry.1 entry.2.dirty set =
        .ok (report, after) ∧ Tracks after final ∧ payload.Shows seen [entry] [report] final

private theorem inspects_all {depth : Nat} (slots : Entries ChildSlot)
    (each : ∀ slot ∈ slots, payload.Inspects depth (some slot.1, slot.2))
    (set : Std.TreeSet RefId) (seen : List RefId) (tracks : Tracks set seen)
    (ample : payload.Ample seen depth) :
    ∃ reports after final, slots.mapM (fun slot =>
        RecordReport.inspect payload.table depth slot.2.target (some slot.1) slot.2.dirty) set =
          .ok (reports, after) ∧ Tracks after final ∧
            payload.Shows seen (slots.map fun slot => (some slot.1, slot.2)) reports final := by
  induction slots generalizing set seen with
  | nil => exact ⟨[], set, seen, rfl, tracks, .done⟩
  | cons slot others ih =>
      obtain ⟨report, between, middle, first, held, shows⟩ :=
        each slot List.mem_cons_self set seen tracks ample
      obtain ⟨reports, after, final, rest, kept, later⟩ :=
        ih (fun other member => each other (List.mem_cons_of_mem _ member)) between middle held
          (ample.of_shows shows)
      refine ⟨report :: reports, after, final, ?_, kept, shows.cons later⟩
      rw [List.mapM_cons]
      apply (bind_of_ok first).trans
      exact (bind_of_ok rest).trans rfl

private theorem Closed.inspects (closed : payload.Closed) (depth : Nat) :
    ∀ entry : Option String × ChildSlot, entry.2.target ∈ payload.ids →
      payload.Inspects depth entry := by
  induction depth with
  | zero =>
      intro entry member set seen tracks ample
      exact absurd ample.pos (Nat.lt_irrefl 0)
  | succ depth ih =>
      intro entry member set seen tracks ample
      obtain ⟨record, inside, found, stored⟩ := closed.exists_record member
      by_cases known : entry.2.target ∈ seen
      · have held : set.contains entry.2.target = true :=
          Std.TreeSet.contains_iff_mem.mpr ((tracks _).mpr known)
        refine ⟨_, set, seen, ?_, tracks, .again known found .done⟩
        unfold RecordReport.inspect
        rw [stored]
        apply (bind_of_ok rfl).trans
        rw [if_pos held]
        rfl
      · have absent : ¬set.contains entry.2.target = true :=
          fun held => known ((tracks _).mp (Std.TreeSet.contains_iff_mem.mp held))
        have marked : Tracks (set.insert entry.2.target) (seen ++ [entry.2.target]) := by
          intro id
          rw [Std.TreeSet.mem_insert, tracks id, List.mem_append, List.mem_singleton, or_comm,
            Std.LawfulEqCmp.compare_eq_iff_eq, eq_comm]
        obtain ⟨children, after, final, below, kept, shows⟩ := inspects_all record.children
          (fun slot here => ih _ (closed.slots record inside slot here)) _ _ marked
          (ample.enter known member)
        refine ⟨_, after, final, ?_, kept, .enter known found shows .done⟩
        unfold RecordReport.inspect
        rw [stored]
        apply (bind_of_ok rfl).trans
        rw [if_neg absent]
        apply (bind_of_ok rfl).trans
        exact (bind_of_ok below).trans rfl

private theorem inspect_of_invalid {fault : Fault} (invalid : payload.validate = .error fault) :
    PayloadReport.inspect payload = .error fault := by
  unfold PayloadReport.inspect
  rw [invalid]
  rfl

theorem Closed.exists_report (closed : payload.Closed) :
    ∃ report final, PayloadReport.inspect payload = .ok report ∧
      report.recordCount = payload.records.length ∧
        payload.Shows [] [(none, ⟨payload.root, false⟩)] [report.tree] final ∧
          report.detached = payload.ids.filter fun id => decide (id ∉ final) := by
  have empty : Tracks ({} : Std.TreeSet RefId) [] :=
    fun id => iff_of_false Std.TreeSet.not_mem_emptyc List.not_mem_nil
  obtain ⟨tree, after, final, ran, kept, shows⟩ :=
    closed.inspects (payload.records.length + 1) (none, ⟨payload.root, false⟩) closed.root {} []
      empty ⟨List.nodup_nil, List.nil_subset _, by rw [ids, List.length_map]; omega⟩
  have valid := validate_eq_ok.mpr closed
  have detached : (payload.records.map (·.id)).filter (!after.contains ·) =
      payload.ids.filter fun id => decide (id ∉ final) := by
    refine List.filter_congr fun id _ => ?_
    rw [Bool.eq_iff_iff, Bool.not_eq_true', decide_eq_true_iff, ← kept id,
      ← Std.TreeSet.contains_iff_mem, Bool.not_eq_true]
  refine ⟨{ recordCount := payload.records.length, tree := tree, detached := _ }, final, ?_, rfl,
    shows, detached⟩
  unfold PayloadReport.inspect
  rw [valid]
  exact bind_eq_ok.mpr ⟨(), rfl, bind_eq_ok.mpr ⟨(tree, after), ran, rfl⟩⟩

end Payload

open RecordReport in
/-- The report is a picture of the payload: its tree shows what the root is connected to, each record
once, and the rest of the records is detached. -/
structure PayloadReport.Pictures (report : PayloadReport) (payload : Payload) : Prop where
  count : report.recordCount = payload.records.length
  root : report.tree.entry = (none, ⟨payload.root, false⟩)
  distinct : (shown report.tree.preorder).Nodup
  connected : ∀ id, id ∈ shown report.tree.preorder ↔ payload.Connects id
  faithful : ∀ node ∈ report.tree.preorder, node.Faithful payload
  /-- A back reference has no children, and is the id of an earlier node of the tree. -/
  backed : ∀ before node after, report.tree.preorder = before ++ node :: after →
    node.isBack = true → node.children = [] ∧ node.id ∈ shown before
  detached : report.detached = payload.ids.filter fun id =>
    decide (id ∉ shown report.tree.preorder)
  unconnected : ∀ id, id ∈ report.detached ↔ id ∈ payload.ids ∧ ¬payload.Connects id
  partition : (shown report.tree.preorder ++ report.detached).Perm payload.ids

open RecordReport in
private theorem Payload.Closed.pictures {payload : Payload} (closed : payload.Closed)
    {report : PayloadReport} {final : List RefId}
    (count : report.recordCount = payload.records.length)
    (shows : payload.Shows [] [(none, ⟨payload.root, false⟩)] [report.tree] final)
    (detached : report.detached = payload.ids.filter fun id => decide (id ∉ final)) :
    report.Pictures payload := by
  have nodes : preorderOfAll [report.tree] = report.tree.preorder := by
    rw [preorderOfAll, preorderOfAll, List.append_nil]
  have ids := shows.final_eq
  rw [nodes, List.nil_append] at ids
  subst ids
  have within := shows.inside (List.nil_subset _)
  have distinct := shows.nodup List.nodup_nil
  have connected : ∀ id, id ∈ shown report.tree.preorder ↔ payload.Connects id := by
    intro id
    constructor
    · intro member
      cases shows.reached id member with
      | inl none => cases none
      | inr below =>
          obtain ⟨entry, start, path⟩ := below
          rw [List.mem_singleton.mp start] at path
          exact path
    · intro path
      induction path with
      | refl => exact shows.pending_seen _ (List.mem_singleton_self _)
      | tail _ links ih =>
          cases shows.links_seen _ ih with
          | inl none => cases none
          | inr covered => exact covered _ links
  have backed := shows.backed
  rw [nodes] at backed
  refine ⟨count, ?_, distinct, connected, nodes ▸ shows.faithful, ?_, detached, ?_, ?_⟩
  · exact (List.cons.inj shows.entries_eq).1
  · intro before node after split back
    exact backed before node after split back
  · intro id
    rw [detached, List.mem_filter, decide_eq_true_iff, connected]
  · have rest : (payload.ids.filter fun id => decide (id ∈ shown report.tree.preorder)).Perm
        (shown report.tree.preorder) := by
      refine (List.perm_ext_iff_of_nodup (closed.distinct.filter _) distinct).mpr fun id => ?_
      rw [List.mem_filter, decide_eq_true_iff]
      exact and_iff_right_of_imp fun member => within member
    rw [detached]
    refine (rest.symm.append_right _).trans ?_
    have halves := List.filter_append_perm (fun id => decide (id ∈ shown report.tree.preorder))
      payload.ids
    simpa only [decide_not] using halves

/-- A payload has a report exactly when it is valid, else the fault of the check is told, and the
report is a picture of the payload, whether this is cyclic or not. -/
theorem PayloadReport.inspect_pictures (payload : Payload) :
    (∀ fault, inspect payload = .error fault ↔ payload.validate = .error fault) ∧
      ((∃ report, inspect payload = .ok report) ↔ payload.validate = .ok ()) ∧
        ∀ report, inspect payload = .ok report → report.Pictures payload := by
  cases payload.validate_cases with
  | inl both =>
      obtain ⟨valid, closed⟩ := both
      obtain ⟨report, final, inspected, count, shows, detached⟩ := closed.exists_report
      rw [inspected, valid]
      refine ⟨fun fault => iff_of_false nofun nofun, iff_of_true ⟨report, rfl⟩ rfl, ?_⟩
      intro other same
      cases same
      exact closed.pictures count shows detached
  | inr broken =>
      obtain ⟨fault, invalid, -⟩ := broken
      rw [Payload.inspect_of_invalid invalid, invalid]
      refine ⟨fun other => ?_, iff_of_false nofun nofun, nofun⟩
      rw [Except.error.injEq, Except.error.injEq]

/-- Two records that lead to each other, the first one also to itself, and a record apart. -/
def Payload.knotted : Payload where
  root := ⟨1⟩
  records := [
    { id := ⟨1⟩, typeKey := "left", children := [("other", ⟨⟨2⟩, true⟩), ("own", ⟨⟨1⟩, false⟩)] },
    { id := ⟨3⟩, typeKey := "apart", children := [("other", ⟨⟨2⟩, false⟩)] },
    { id := ⟨2⟩, typeKey := "right", children := [("other", ⟨⟨1⟩, false⟩)] }]

/-- The cycles end at back references, and the record apart is detached. -/
theorem PayloadReport.inspect_pictures_knotted :
    ∃ report, inspect .knotted = .ok report ∧ report.Pictures .knotted ∧
      RecordReport.shown report.tree.preorder = [⟨1⟩, ⟨2⟩] ∧ report.detached = [⟨3⟩] ∧
        (report.tree.preorder.filter RecordReport.isBack).map RecordReport.id = [⟨1⟩, ⟨1⟩] := by
  obtain ⟨-, -, pictures⟩ := inspect_pictures .knotted
  exact ⟨_, rfl, pictures _ rfl, rfl, rfl, rfl⟩

end ObjectCourier
