import ObjectCourier.Proofs.Graph.Reading
import ObjectCourier.Proofs.Graph.Showing
import ObjectCourier.Proofs.Graph.WellFormed

/-!
The report of a payload that was just written. The writing pass walks over objects with a table of
identities, and the inspection walks over records with a set of ids. At each slot both find that the
child is new, or both find that it was met before; what they meet again is the same, in the same
order.
-/

namespace ObjectCourier

theorem Entries.put_of_fresh {α : Type} {name : String} {entries : Entries α}
    (fresh : name ∉ entries.names) (value : α) : entries.put name value = entries ++ [(name, value)] := by
  induction entries with
  | nil => rfl
  | cons first others ih =>
      rw [names, List.map_cons, List.mem_cons, not_or] at fresh
      rw [put, if_neg (Ne.symm fresh.1), ih fresh.2, List.cons_append]

private theorem Script.children_fill {number : Ref → RefId} {script : Script} {record : Record}
    (distinct : (record.children.names ++ script.slots.map Slot.name).Nodup) :
    (script.fill number record).children =
      record.children ++ script.slots.map fun slot => (slot.name, numbered number slot) := by
  induction script generalizing record with
  | nil => exact (List.append_nil _).symm
  | cons step others ih =>
      match step with
      | .error fault => exact ih distinct
      | .ok (.value name wire) => exact @ih (record.addValue name wire) distinct
      | .ok (.slot given) =>
          have fresh : given.name ∉ record.children.names := by
            intro earlier
            exact (List.nodup_append.mp distinct).2.2 _ earlier _ List.mem_cons_self rfl
          have added : (record.addChild given.name (number given.child.ref) given.dirty).children =
              record.children ++ [(given.name, numbered number given)] :=
            Entries.put_of_fresh fresh _
          have names : ((record.addChild given.name (number given.child.ref) given.dirty).children.names
              ++ (Script.slots others).map Slot.name).Nodup := by
            rw [added, Entries.names, List.map_append, List.append_assoc]
            exact distinct
          apply (ih names).trans
          rw [added, List.append_assoc]
          rfl

section Names

variable (policy : Policy)

theorem FieldType.names_slots (typeKey name : String) (permitted dirty : Bool) (type : FieldType)
    (value : type.Val Carrier.live.Handle) :
    ((type.slots policy typeKey name permitted dirty value).map Slot.name).Sublist [name] := by
  unfold slots
  cases type.liveNode? value with
  | none => exact List.nil_sublist _
  | some node =>
      simp only
      split
      · exact List.Sublist.refl _
      · exact List.nil_sublist _

theorem Form.names_slots (typeKey name : String) (form : Form) (value : form.Val Carrier.live) :
    ((form.slots policy typeKey name value).map Slot.name).Sublist [name] := by
  cases form with
  | bare type => exact FieldType.names_slots policy typeKey name true false type value
  | container type =>
      obtain ⟨ownName, held, dirty, serializable⟩ := value
      cases held with
      | empty => exact List.nil_sublist _
      | plain inner | tracked inner =>
          exact FieldType.names_slots policy typeKey name serializable dirty type inner
  | aside _ | loads | memo => exact List.nil_sublist _

theorem Members.names_slots (typeKey : String) (members : List Member)
    (data : Members Carrier.live members) :
    ((Members.slots policy typeKey members data).map Slot.name).Sublist
      (members.map Member.name) := by
  induction members with
  | nil => exact List.Sublist.refl _
  | cons member others ih =>
      obtain ⟨first, rest⟩ := data
      rw [slots, List.map_append, List.map_cons, ← List.singleton_append]
      exact (Form.names_slots policy typeKey member.name member.form first).append (ih rest)

theorem RecordType.names_nodup (type : RecordType) : (type.members.map Member.name).Nodup := by
  cases type <;> decide

private theorem names_elementSlots (type : ObjType) (index : Nat) (items : List Ref) :
    (elementSlots type index items).map Slot.name =
      (List.range' index items.length).map Record.elementSlot := by
  induction items generalizing index with
  | nil => rfl
  | cons item others ih =>
      rw [elementSlots, List.map_cons, ih, List.length_cons, List.range'_succ, List.map_cons]

private theorem Store.names_slots_nodup (store : Store) (node : Node) :
    ((store.slots policy node).map Slot.name).Nodup := by
  unfold slots
  cases store.data? node.type node.ref with
  | none => exact List.nodup_nil
  | some data =>
      simp only
      generalize node.typeKey = typeKey
      generalize node.type = type at data
      cases type with
      | record type => exact (Members.names_slots policy typeKey type.members data).nodup type.names_nodup
      | list element =>
          apply Eq.subst (names_elementSlots (.record element) 0 data).symm
          exact List.Nodup.map (fun _ _ => elementSlot_injective) List.nodup_range'

end Names

private theorem Store.children_describe {store : Store} {policy : Policy} {node : Node}
    (number : Ref → RefId) (describable : store.Describable policy node) :
    (store.describe policy number node).children =
      (store.slots policy node).map fun slot => (slot.name, Script.numbered number slot) := by
  have distinct := store.names_slots_nodup policy node
  rw [← slots_script describable] at distinct ⊢
  exact Script.children_fill distinct

/-- From the nodes seen before, the pending nodes are walked. New nodes are entered, and the others
are met again. -/
inductive Tours (children : Node → List Node) :
    (seen pending entered again : List Node) → Prop where
  | done {seen : List Node} : Tours children seen [] [] []
  | again {seen others entered again : List Node} {node : Node} (known : node.ref ∈ places seen)
      (rest : Tours children seen others entered again) :
      Tours children seen (node :: others) entered (node :: again)
  | enter {seen others inner outer below beside : List Node} {node : Node}
      (fresh : node.ref ∉ places seen) (first : Tours children (seen ++ [node]) (children node) inner below)
      (rest : Tours children (seen ++ node :: inner) others outer beside) :
      Tours children seen (node :: others) (node :: inner ++ outer) (below ++ beside)

namespace Tours

variable {children : Node → List Node} {seen pending entered again : List Node}

theorem visits (tours : Tours children seen pending entered again) :
    Visits children seen pending (seen ++ entered) := by
  induction tours with
  | done =>
      rw [List.append_nil]
      exact .done
  | again known rest ih => exact .again known ih
  | enter fresh first rest ihFirst ihRest =>
      rw [List.append_assoc, List.singleton_append] at ihFirst
      rw [List.append_assoc] at ihRest
      exact .enter fresh ihFirst ihRest

theorem append {others later more : List Node} (early : Tours children seen pending entered again)
    (late : Tours children (seen ++ entered) others later more) :
    Tours children seen (pending ++ others) (entered ++ later) (again ++ more) := by
  induction early with
  | done =>
      rw [List.append_nil] at late
      exact late
  | again known rest ih => exact .again known (ih late)
  | enter fresh first rest _ ihRest =>
      rw [← List.append_assoc] at late
      have tours := Tours.enter fresh first (ihRest late)
      rw [List.append_assoc, List.append_assoc]
      exact tours

/-- Every pending node and every child of an entered node is entered or met again. -/
theorem balance (tours : Tours children seen pending entered again) :
    again.length + entered.length = pending.length + (entered.flatMap children).length := by
  induction tours with
  | done => rfl
  | again known rest ih =>
      rw [List.length_cons, List.length_cons]
      omega
  | enter fresh first rest ihFirst ihRest =>
      simp only [List.length_append, List.length_cons, List.flatMap_append, List.flatMap_cons]
      omega

end Tours

namespace Event

def again? : Event → Option RefId
  | backReference id _ => some id
  | _ => none

def ofAgain (number : Ref → RefId) (node : Node) : Event :=
  .backReference (number node.ref) node.typeKey

private theorem filterMap_ofAgain (number : Ref → RefId) (nodes : List Node) :
    (nodes.map (ofAgain number)).filterMap again? = nodes.map fun node => number node.ref := by
  rw [List.filterMap_map]
  exact congrFun List.filterMap_eq_map nodes

end Event

structure Store.Notes (store : Store) (policy : Policy) (before after : WriterState)
    (seen pending entered again : List Node) : Prop where
  tours : Tours (store.walked policy) seen pending entered again
  table : after.table.Tracks (seen ++ entered)
  log : ∀ number, Numbers number (seen ++ entered) →
    after.log = before.log ++ again.map (Event.ofAgain number)

section Notes

variable {store : Store} {policy : Policy} {before between after : WriterState}
  {seen pending entered again : List Node}

theorem Store.Notes.refl (tracks : before.table.Tracks seen) :
    store.Notes policy before before seen [] [] [] where
  tours := .done
  table := by rwa [List.append_nil]
  log _ _ := (List.append_nil _).symm

theorem Store.Notes.trans {others later more : List Node}
    (early : store.Notes policy before between seen pending entered again)
    (late : store.Notes policy between after (seen ++ entered) others later more) :
    store.Notes policy before after seen (pending ++ others) (entered ++ later) (again ++ more) where
  tours := early.tours.append late.tours
  table := by
    have tracks := late.table
    rwa [List.append_assoc] at tracks
  log number numbers := by
    rw [← List.append_assoc] at numbers
    rw [late.log number numbers, early.log number numbers.of_append, List.map_append,
      List.append_assoc]

private theorem Script.notes_run (visit : Node → Writing RefId)
    (visits : ∀ {before after : WriterState} {seen : List Node} {node : Node} {id : RefId},
      before.table.Tracks seen → visit node before = (.ok id, after) →
        ∃ entered again, store.Notes policy before after seen [node] entered again)
    {script : Script} {record finished : Record} (tracks : before.table.Tracks seen)
    (ran : script.run visit record before = (.ok finished, after)) :
    script.Sound ∧ ∃ entered again,
      store.Notes policy before after seen (script.slots.map Slot.child) entered again := by
  induction script generalizing record before seen with
  | nil =>
      cases ran
      exact ⟨List.forall_mem_nil _, [], [], .refl tracks⟩
  | cons step others ih =>
      match step with
      | .error fault => cases ran
      | .ok (.value name wire) =>
          obtain ⟨sound, notes⟩ := ih tracks ran
          exact ⟨sound.cons, notes⟩
      | .ok (.slot slot) =>
          obtain ⟨id, between, visited, rest⟩ := exists_of_bind_ran ran
          obtain ⟨inner, below, first⟩ := visits tracks visited
          obtain ⟨sound, outer, beside, late⟩ := ih first.table rest
          exact ⟨sound.cons, inner ++ outer, below ++ beside, first.trans late⟩

end Notes

namespace Store

variable {store : Store} {policy : Policy} {before after : WriterState} {seen : List Node}
  {node : Node} {id : RefId}

theorem Notes.again (tracks : before.table.Tracks seen) (known : node.ref ∈ places seen) :
    store.Notes policy before { before with
      log := before.log ++ [.backReference (numberOf seen node.ref) node.typeKey] }
        seen [node] [] [node] where
  tours := .again known .done
  table := by
    rw [List.append_nil]
    exact tracks
  log number numbers := by
    rw [List.append_nil] at numbers
    rw [List.map_singleton, Event.ofAgain, numbers node.ref known]

theorem Notes.enter {started : WriterState} {entered again : List Node} (same : started.log = before.log)
    (fresh : node.ref ∉ places seen)
    (below : store.Notes policy started after (seen ++ [node]) (store.walked policy node) entered
      again) (records : Std.TreeMap RefId Record) :
    store.Notes policy before { after with records := records } seen [node] (node :: entered) again where
  tours := by
    have tours := Tours.enter fresh below.tours .done
    rwa [List.append_nil, List.append_nil] at tours
  table := by
    rw [List.append_cons]
    exact below.table
  log number numbers := by
    rw [List.append_cons] at numbers
    rw [← same]
    exact below.log number numbers

private theorem notes_writeObject (depth : Nat) (tracks : before.table.Tracks seen)
    (ran : store.writeObject policy depth node before = (.ok id, after)) :
    ∃ entered again, store.Notes policy before after seen [node] entered again := by
  induction depth generalizing before after seen node id with
  | zero => cases ran
  | succ depth ih =>
      have found := tracks.lookup node.ref
      by_cases known : node.ref ∈ places seen
      · rw [if_pos known] at found
        rw [writeObject_of_known found] at ran
        cases ran
        exact ⟨[], [node], .again tracks known⟩
      · rw [if_neg known] at found
        rw [writeObject_of_new store policy depth found] at ran
        have assigning := tracks.assign known
        split at assigning
        · rw [bind_of_ran_error (Writing.assign_of_error assigning)] at ran
          cases ran
        · obtain ⟨table, assigned, tracksTable⟩ := assigning
          rw [bind_of_ran_ok (Writing.assign_of_ok assigned)] at ran
          obtain ⟨finished, between, scripted, ended⟩ := exists_of_bind_ran ran
          obtain ⟨sound, entered, again, below⟩ :=
            Script.notes_run (store.writeObject policy depth) ih tracksTable scripted
          rw [slots_script sound] at below
          have same : WriterState.log { before with table := table } = before.log := rfl
          cases ended
          exact ⟨node :: entered, again, .enter same known below _⟩

end Store

namespace Store

open RecordReport

variable {store : Store} {policy : Policy} {order seen pending entered again : List Node}
  {root : Node}

def idsIn (order nodes : List Node) : List RefId := nodes.map fun node => numberOf order node.ref

private theorem idsIn_append (order first second : List Node) :
    idsIn order (first ++ second) = idsIn order first ++ idsIn order second := List.map_append

theorem Walkable.record?_eq (walkable : store.Walkable policy [] [root] order) {node : Node}
    (member : node ∈ order) : (store.payloadOf policy order).record? (numberOf order node.ref) =
      some (store.describe policy (numberOf order) node) := by
  have found := (Payload.validate_eq_ok.mp walkable.validate).record?_eq
    (List.mem_map_of_mem member : store.describe policy (numberOf order) node ∈ _)
  rwa [describe_id] at found

private theorem Walkable.targets_describe (walkable : store.Walkable policy [] [root] order)
    {node : Node} (member : node ∈ order) :
    (store.describe policy (numberOf order) node).entries.map (fun entry => entry.2.target) =
      idsIn order (store.walked policy node) := by
  unfold Record.entries idsIn walked
  rw [children_describe _ (walkable.describable node member), List.map_map, List.map_map,
    List.map_map]
  rfl

/-- A walk over the objects and one over their records, beside each other: they see the same and meet
the same again. -/
theorem Walkable.report_eq (walkable : store.Walkable policy [] [root] order)
    (tours : Tours (store.walked policy) seen pending entered again)
    (within : seen ++ entered ⊆ order) {entries : List (Option String × ChildSlot)}
    {reports : List RecordReport} {final : List RefId}
    (targets : entries.map (fun entry => entry.2.target) = idsIn order pending)
    (shows : (store.payloadOf policy order).Shows (idsIn order seen) entries reports final) :
    final = idsIn order (seen ++ entered) ∧
      ((preorderOfAll reports).filter isBack).map RecordReport.id = idsIn order again := by
  induction tours generalizing entries reports final with
  | @done seen =>
      cases shows with
      | done => exact ⟨by rw [List.append_nil], rfl⟩
      | again => cases targets
      | enter => cases targets
  | @again seen others entered again node known rest ih =>
      have inSeen : numberOf order node.ref ∈ idsIn order seen := by
        obtain ⟨other, member, same⟩ := List.mem_map.mp known
        exact List.mem_map.mpr ⟨other, member, congrArg (numberOf order) same⟩
      cases shows with
      | done => cases targets
      | @again _ _ _ slot _ _ _ _ _ restShows =>
          have target : slot.target = numberOf order node.ref := (List.cons.inj targets).1
          obtain ⟨ids, backs⟩ := ih within (List.cons.inj targets).2 restShows
          refine ⟨ids, ?_⟩
          rw [preorderOfAll, preorder, preorderOfAll, List.singleton_append,
            List.filter_cons_of_pos rfl, List.map_cons, backs, RecordReport.id, target]
          rfl
      | @enter _ _ _ _ slot _ _ _ _ fresh _ _ _ =>
          have target : slot.target = numberOf order node.ref := (List.cons.inj targets).1
          rw [target] at fresh
          exact absurd inSeen fresh
  | @enter seen others inner outer below beside node fresh first rest ihFirst ihRest =>
      have inFront : node ∈ order :=
        within (List.mem_append_right _ (List.mem_append_left _ List.mem_cons_self))
      have apart : numberOf order node.ref ∉ idsIn order seen := by
        intro earlier
        obtain ⟨other, member, same⟩ := List.mem_map.mp earlier
        have inOrder := mem_places (within (List.mem_append_left _ member))
        have place := numberOf_injective walkable.small inOrder (mem_places inFront) same
        exact fresh (place ▸ mem_places member)
      cases shows with
      | done => cases targets
      | @again _ _ _ slot _ _ _ known _ _ =>
          have target : slot.target = numberOf order node.ref := (List.cons.inj targets).1
          rw [target] at known
          exact absurd known apart
      | @enter _ middle _ name slot _ children reports record _ found belowShows restShows =>
          have target : slot.target = numberOf order node.ref := (List.cons.inj targets).1
          rw [target, walkable.record?_eq inFront] at found
          cases found
          have split : seen ++ (node :: inner ++ outer) = seen ++ [node] ++ inner ++ outer := by
            simp only [List.append_assoc, List.cons_append, List.nil_append]
          rw [split] at within ⊢
          have start : idsIn order seen ++ [slot.target] = idsIn order (seen ++ [node]) := by
            rw [idsIn_append, target]
            rfl
          rw [start] at belowShows
          obtain ⟨rfl, belowBacks⟩ := ihFirst (List.append_subset.mp within).1
            (walkable.targets_describe inFront) belowShows
          rw [List.append_cons] at ihRest
          obtain ⟨ids, besideBacks⟩ := ihRest within (List.cons.inj targets).2 restShows
          refine ⟨ids, ?_⟩
          rw [preorderOfAll, preorder, List.cons_append, List.filter_cons_of_neg Bool.false_ne_true,
            List.filter_append, List.map_append, belowBacks, besideBacks, idsIn_append]

/-- The report of what a walk has written: no record is detached, the nodes are those of the walk,
and the back references are those that it meets again. -/
theorem Walkable.exists_report (walkable : store.Walkable policy [] [root] order)
    (tours : Tours (store.walked policy) [] [root] order again) :
    ∃ report, PayloadReport.inspect (store.payloadOf policy order) = .ok report ∧
      report.detached = [] ∧ shown report.tree.preorder = idsIn order order ∧
        (report.tree.preorder.filter isBack).map RecordReport.id = idsIn order again := by
  obtain ⟨report, final, inspected, -, shows, detached⟩ :=
    (Payload.validate_eq_ok.mp walkable.validate).exists_report
  have nodes : preorderOfAll [report.tree] = report.tree.preorder := by
    rw [preorderOfAll, preorderOfAll, List.append_nil]
  have start : [((none : Option String), (⟨(store.payloadOf policy order).root, false⟩ :
      ChildSlot))].map (fun entry => entry.2.target) = idsIn order [root] :=
    congrArg (fun id => [id]) walkable.number_root.symm
  obtain ⟨ids, backs⟩ := walkable.report_eq tours (List.Subset.refl _) start shows
  have seen := shows.final_eq
  rw [nodes, List.nil_append] at seen
  rw [nodes] at backs
  refine ⟨report, inspected, ?_, seen.symm.trans ids, backs⟩
  rw [detached, List.filter_eq_nil_iff]
  intro id member
  rw [Payload.ids, ids_payloadOf] at member
  rw [ids, decide_eq_true_iff, not_not]
  exact member

private theorem Walkable.slots_eq (walkable : store.Walkable policy [] [root] order) :
    ((store.payloadOf policy order).records.flatMap Record.children).length =
      (order.flatMap (store.walked policy)).length := by
  unfold payloadOf walked
  rw [List.flatMap_map, List.length_flatMap, List.length_flatMap]
  congr 1
  refine List.map_congr_left fun node member => ?_
  rw [children_describe _ (walkable.describable node member), List.length_map, List.length_map]

/-- A writing pass notes what its walk meets again, and in the end that it is done. -/
theorem notes_serialize {payload : Payload}
    (written : (store.serialize policy root).1 = .ok payload) :
    ∃ order again count, Tours (store.walked policy) [] [root] order again ∧
      (store.serialize policy root).2 =
        again.map (Event.ofAgain (numberOf order)) ++ [.serialized count payload.root] := by
  obtain ⟨capable, -⟩ := serialize_eq_ok.mp written
  rcases ran : store.writeRoot policy root {} with ⟨outcome, final⟩
  have same : store.serialize policy root = (outcome, final.log) := by
    unfold serialize
    exact congrArg (fun run : Except Fault Payload × WriterState => (run.1, run.2.log)) ran
  rw [same] at written ⊢
  cases (written : outcome = .ok payload)
  unfold writeRoot at ran
  rw [capable] at ran
  obtain ⟨id, after, wrote, ended⟩ := exists_of_bind_ran ran
  obtain ⟨order, again, notes⟩ := notes_writeObject _ RefTable.tracks_empty wrote
  have log := notes.log _ (numbers_numberOf order)
  cases ended
  refine ⟨order, again, after.records.size, notes.tours, ?_⟩
  exact congrArg (· ++ _) log

end Store

/-- What has been written has a report without detached records, whose nodes are numbered #1, #2, …
in preorder. Its back references are the nodes that the writing pass has noted, in the same order, and
every other slot has led to one of the records but the first. -/
theorem Store.serialize_report {store : Store} {policy : Policy} {root : Node} {payload : Payload}
    (written : (store.serialize policy root).1 = .ok payload) :
    ∃ report, PayloadReport.inspect payload = .ok report ∧ report.detached = [] ∧
      RecordReport.shown report.tree.preorder = (List.range payload.records.length).map RefId.nth ∧
        (report.tree.preorder.filter RecordReport.isBack).map RecordReport.id =
          (store.serialize policy root).2.filterMap Event.again? ∧
        (payload.records.flatMap Record.children).length =
          (report.tree.preorder.filter RecordReport.isBack).length +
            (payload.records.length - 1) := by
  obtain ⟨order, again, count, tours, log⟩ := notes_serialize written
  obtain ⟨-, other, walkable, rfl⟩ := serialize_eq_ok.mp written
  have same : order = other := tours.visits.unique walkable.visits
  subst same
  obtain ⟨report, inspected, detached, seen, backs⟩ := walkable.exists_report tours
  have length : (store.payloadOf policy order).records.length = order.length := List.length_map _
  refine ⟨report, inspected, detached, ?_, ?_, ?_⟩
  · rw [seen, length]
    exact numbers_eq walkable.nodup
  · rw [backs, log, List.filterMap_append, Event.filterMap_ofAgain]
    exact (List.append_nil _).symm
  · have count := congrArg List.length backs
    rw [List.length_map, idsIn, List.length_map] at count
    have balance := tours.balance
    have rooted := List.length_pos_of_mem walkable.root_mem
    rw [List.length_singleton] at balance
    rw [count, walkable.slots_eq, length]
    omega

/-- The last link of the ring leads back to the first one, which is noted and reported once. -/
theorem Store.serialize_report_ring :
    ∃ payload report, (ring.serialize Registry.links.policy .inRing).1 = .ok payload ∧
      PayloadReport.inspect payload = .ok report ∧
        RecordReport.shown report.tree.preorder = [.nth 0, .nth 1] ∧
          (report.tree.preorder.filter RecordReport.isBack).map RecordReport.id = [.nth 0] := by
  have ⟨payload, written, two⟩ : ∃ payload, (ring.serialize Registry.links.policy .inRing).1 =
      .ok payload ∧ payload.records.length = 2 := ⟨_, rfl, rfl⟩
  obtain ⟨report, inspected, -, seen, backs, -⟩ := serialize_report written
  rw [two] at seen
  exact ⟨payload, report, written, inspected, seen, backs⟩

end ObjectCourier
