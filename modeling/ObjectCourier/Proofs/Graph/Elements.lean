import ObjectCourier.Proofs.Graph.Acceptance
import ObjectCourier.Proofs.Graph.ByValue

/-!
Lists as they are read from records. A record may promise any number of elements, but the loop over
them ends at the first index without a slot, so the slots of the record bound its steps. What has been
written of a list is read as its elements, in their order and as often as they were there.
-/

namespace ObjectCourier

/-! ### The loop over the elements -/

structure Refill where
  items : List Ref
  steps : Nat := 0

abbrev Refilling := ExceptT Fault (StateM Refill)

namespace RefTable

variable (table : RefTable) (record : Record) (element : ObjType)

/-- The object that the slot of an index names. -/
def elementAt (index : Nat) : Except Fault Ref :=
  match record.child? (Record.elementSlot index) with
  | none => .error (.missingElement record.id index)
  | some slot => do
      (← table.resolve slot.target).expect element (Record.elementSlot index)

/-- Look the elements up one after the other, counting the steps. -/
def gather : (remaining : Nat) → (index : Nat) → Refilling (List Ref)
  | 0, _ => pure []
  | remaining + 1, index => do
      modify fun refill => { refill with steps := refill.steps + 1 }
      let first ← table.elementAt record element index
      let others ← gather remaining (index + 1)
      return first :: others

/-- Read the elements of a list again. They are replaced when all of them have been found. -/
def refill : Refilling Unit := do
  let count : IntKind.usize.Value ← (Shape.elements element).draft record
  let items ← table.gather record element count.val.toNat 0
  modify fun refill => { refill with items := items }

variable {table record element} {index remaining : Nat} {before : Refill}

private theorem gather_missing {fault : Fault}
    (missing : table.elementAt record element index = .error fault) :
    table.gather record element (remaining + 1) index before =
      (.error fault, { before with steps := before.steps + 1 }) := by
  unfold gather
  rw [missing]
  rfl

private theorem gather_found {ref : Ref} (found : table.elementAt record element index = .ok ref) :
    table.gather record element (remaining + 1) index before =
      ((table.gather record element remaining (index + 1)
          { before with steps := before.steps + 1 }).1.map (ref :: ·),
        (table.gather record element remaining (index + 1)
          { before with steps := before.steps + 1 }).2) := by
  rw [gather, found]
  rcases ran : table.gather record element remaining (index + 1)
    { before with steps := before.steps + 1 } with ⟨outcome, after⟩
  refine (bind_of_ran_ok rfl).trans ((bind_of_ran_ok rfl).trans ?_)
  cases outcome with
  | error fault => exact bind_of_ran_error ran
  | ok others => exact bind_of_ran_ok ran

private theorem elementAt_eq_ok {ref : Ref} : table.elementAt record element index = .ok ref ↔
    ∃ slot, record.child? (Record.elementSlot index) = some slot ∧
      table.node? slot.target = some ⟨element, ref⟩ := by
  unfold elementAt
  cases child : record.child? (Record.elementSlot index) with
  | none => exact iff_of_false nofun nofun
  | some slot =>
      simp only [Option.some.injEq, exists_eq_left']
      unfold resolve
      cases known : table.node? slot.target with
      | none => exact iff_of_false nofun nofun
      | some node =>
          obtain ⟨type, place⟩ := node
          change Node.expect ⟨type, place⟩ element _ = _ ↔ _
          unfold Node.expect
          split
          · rename_i same
            cases same
            simp
          · rename_i other
            refine iff_of_false nofun fun same => ?_
            cases same
            exact other rfl

inductive Gathered (table : RefTable) (record : Record) (element : ObjType) (index remaining : Nat)
    (before : Refill) : Except Fault (List Ref) × Refill → Prop where
  | all {items : List Ref} (length : items.length = remaining)
      (each : ∀ (position : Nat) ref, items[position]? = some ref →
        table.elementAt record element (index + position) = .ok ref) :
      Gathered table record element index remaining before
        (.ok items, { before with steps := before.steps + remaining })
  | stopped {fault : Fault} {position : Nat} (inside : position < remaining)
      (missing : table.elementAt record element (index + position) = .error fault)
      (earlier : ∀ offset < position, ∃ ref,
        table.elementAt record element (index + offset) = .ok ref) :
      Gathered table record element index remaining before
        (.error fault, { before with steps := before.steps + (position + 1) })

theorem gathered (table : RefTable) (record : Record) (element : ObjType) (index remaining : Nat)
    (before : Refill) : Gathered table record element index remaining before
      (table.gather record element remaining index before) := by
  induction remaining generalizing index before with
  | zero => exact .all rfl nofun
  | succ remaining ih =>
      cases here : table.elementAt record element index with
      | error fault =>
          rw [gather_missing here]
          exact .stopped (Nat.succ_pos remaining) here nofun
      | ok ref =>
          rw [gather_found here]
          -- Positions behind the first element count from the next index.
          have shift (position : Nat) : index + 1 + position = index + (position + 1) := by omega
          have rest := ih (index + 1) { before with steps := before.steps + 1 }
          generalize table.gather record element remaining (index + 1)
            { before with steps := before.steps + 1 } = run at rest
          cases rest with
          | @all items length each =>
              have steps : before.steps + 1 + remaining = before.steps + (remaining + 1) := by omega
              simp only [steps]
              refine .all (congrArg Nat.succ length) fun position other present => ?_
              cases position with
              | zero =>
                  cases present
                  exact here
              | succ position =>
                  rw [← shift]
                  exact each position other present
          | @stopped fault position inside missing earlier =>
              have steps : before.steps + 1 + (position + 1) = before.steps + (position + 1 + 1) := by
                omega
              simp only [steps]
              refine .stopped (Nat.succ_lt_succ inside) (shift position ▸ missing) ?_
              intro offset within
              cases offset with
              | zero => exact ⟨ref, here⟩
              | succ offset =>
                  rw [← shift]
                  exact earlier offset (Nat.lt_of_succ_lt_succ within)

private theorem length_of_elements {count : Nat}
    (found : ∀ index < count, ∃ ref, table.elementAt record element index = .ok ref) :
    count ≤ record.children.length := by
  have distinct : ((List.range count).map Record.elementSlot).Nodup :=
    List.nodup_range.map fun _ _ => elementSlot_injective
  have covered : (List.range count).map Record.elementSlot ⊆ record.children.map Prod.fst := by
    intro name member
    obtain ⟨index, inside, rfl⟩ := List.mem_map.mp member
    obtain ⟨ref, here⟩ := found index (List.mem_range.mp inside)
    obtain ⟨slot, child, -⟩ := elementAt_eq_ok.mp here
    exact List.mem_map_of_mem (Entries.mem_of_get? child)
  have length := distinct.length_le_of_subset covered
  rwa [List.length_map, List.length_map, List.length_range] at length

/-! ### The loop and the second pass -/

private theorem expect_cases (element : ObjType) (field : String) (node : Node) (id : RefId) :
    (FieldType.handle element).ofHandle field node.type (Source.record id) =
      (node.expect element field).map fun _ => Source.record id := by
  obtain ⟨type, place⟩ := node
  unfold Node.expect
  by_cases same : type = element
  · subst same
    simp only [FieldType.ofHandle, dif_pos, if_true]
    rfl
  · simp only [FieldType.ofHandle, dif_neg same, if_neg same]
    rfl

private theorem ofSlot_eq_elementAt {slot : ChildSlot}
    (child : record.child? (Record.elementSlot index) = some slot) :
    (FieldType.handle element).ofSlot table.typeOf (Record.elementSlot index) slot =
      (table.elementAt record element index).map fun _ => Source.record slot.target := by
  unfold elementAt resolve FieldType.ofSlot typeOf
  simp only [child]
  cases table.node? slot.target with
  | none => rfl
  | some node => exact expect_cases element (Record.elementSlot index) node slot.target

private theorem linkElements_missing {fault : Fault}
    (missing : table.elementAt record element index = .error fault) :
    linkElements table.typeOf record element (remaining + 1) index = .error fault := by
  rw [linkElements]
  cases child : record.child? (Record.elementSlot index) with
  | none =>
      unfold elementAt at missing
      simp only [child] at missing
      cases missing
      rfl
  | some slot =>
      simp only [ofSlot_eq_elementAt child, missing]
      rfl

private theorem linkElements_found {slot : ChildSlot} {ref : Ref}
    (child : record.child? (Record.elementSlot index) = some slot)
    (found : table.elementAt record element index = .ok ref) :
    linkElements table.typeOf record element (remaining + 1) index =
      (linkElements table.typeOf record element remaining (index + 1)).map
        (Source.record slot.target :: ·) := by
  rw [linkElements]
  simp only [child, ofSlot_eq_elementAt child, found]
  cases linkElements table.typeOf record element remaining (index + 1) <;> rfl

/-- The second pass names the records of the objects that the loop finds, and refuses what the loop
refuses. -/
theorem linkElements_gather (table : RefTable) (record : Record) (element : ObjType)
    (remaining index : Nat) (before : Refill) :
    match linkElements table.typeOf record element remaining index with
    | .error fault => (table.gather record element remaining index before).1 = .error fault
    | .ok sources => ∃ items, (table.gather record element remaining index before).1 = .ok items ∧
        List.Forall₂ (fun source ref => ∃ id, source = Source.record id ∧
          table.node? id = some ⟨element, ref⟩) sources items := by
  induction remaining generalizing index before with
  | zero => exact ⟨[], rfl, .nil⟩
  | succ remaining ih =>
      cases here : table.elementAt record element index with
      | error fault =>
          rw [linkElements_missing here, gather_missing here]
      | ok ref =>
          obtain ⟨slot, child, known⟩ := elementAt_eq_ok.mp here
          have rest := ih (index + 1) { before with steps := before.steps + 1 }
          rw [linkElements_found child here, gather_found here]
          cases linked : linkElements table.typeOf record element remaining (index + 1) with
          | error fault =>
              rw [linked] at rest
              simp only [rest]
              rfl
          | ok sources =>
              rw [linked] at rest
              obtain ⟨items, gathered, stands⟩ := rest
              simp only [gathered]
              exact ⟨ref :: items, rfl, .cons ⟨slot.target, rfl, known⟩ stands⟩

/-! ### Lists read again -/

private theorem draft_eq_ok {count : IntKind.usize.Value} :
    (Shape.elements element).draft record = .ok count ↔
      ∃ number, record.value? Record.countName = some (.uint number) ∧ count.val = number.val := by
  constructor
  · intro drafted
    obtain ⟨wire, required, read⟩ := bind_eq_ok.mp drafted
    obtain ⟨number, rfl, same⟩ := FieldType.ofWire_count_eq_ok.mp read
    refine ⟨number, ?_, same⟩
    unfold Record.require at required
    cases found : record.value? Record.countName with
    | none =>
        rw [found] at required
        cases required
    | some other =>
        rw [found] at required
        cases required
        rfl
  · intro counted
    obtain ⟨number, present, same⟩ := counted
    exact bind_eq_ok.mpr ⟨_, Record.require_of_value? present,
      FieldType.ofWire_count_eq_ok.mpr ⟨number, rfl, same⟩⟩

private theorem refill_uncounted {fault : Fault}
    (uncounted : (Shape.elements element).draft record = .error fault) :
    table.refill record element before = (.error fault, before) := by
  unfold refill
  rw [uncounted]
  rfl

private theorem refill_counted {count : IntKind.usize.Value}
    (counted : (Shape.elements element).draft record = .ok count) :
    table.refill record element before =
      match table.gather record element count.val.toNat 0 before with
      | (.ok items, after) => (.ok (), { after with items := items })
      | (.error fault, after) => (.error fault, after) := by
  unfold refill
  rw [counted]
  refine (bind_of_ran_ok rfl).trans ?_
  rcases ran : table.gather record element count.val.toNat 0 before with ⟨outcome, after⟩
  cases outcome with
  | error fault => exact bind_of_ran_error ran
  | ok items => exact (bind_of_ran_ok ran).trans rfl

/-- The second pass over a list record comes to the same as reading the list again. -/
theorem refill_agrees (table : RefTable) (record : Record) (element : ObjType) (before : Refill) :
    match (Shape.elements element).draft record >>=
      (Shape.elements element).link table.typeOf record with
    | .error fault => (table.refill record element before).1 = .error fault
    | .ok sources => (table.refill record element before).1 = .ok () ∧
        List.Forall₂ (fun source ref => ∃ id, source = Source.record id ∧
          table.node? id = some ⟨element, ref⟩) sources
          (table.refill record element before).2.items := by
  cases counted : (Shape.elements element).draft record with
  | error fault =>
      rw [refill_uncounted counted]
      rfl
  | ok count =>
      have whole : (Except.ok count >>= (Shape.elements element).link table.typeOf record) =
          linkElements table.typeOf record element count.val.toNat 0 := rfl
      have linked := table.linkElements_gather record element count.val.toNat 0 before
      rw [refill_counted counted, whole]
      generalize table.gather record element count.val.toNat 0 before = run at linked ⊢
      obtain ⟨outcome, after⟩ := run
      cases passed : linkElements table.typeOf record element count.val.toNat 0 with
      | error fault =>
          rw [passed] at linked
          cases linked
          rfl
      | ok sources =>
          rw [passed] at linked
          obtain ⟨items, ⟨⟩, stands⟩ := linked
          exact ⟨rfl, stands⟩

end RefTable

/-- How a list is read again from a record by the table of a pass. A list that is read has as many
elements as the record promises, each the object that the first slot of its index names, and there are
no fewer slots. A list that cannot be read stays as it is, and the slots bound the steps until that is
found out. The second pass over the record comes to the same. -/
structure RefTable.Refills (table : RefTable) (record : Record) (element : ObjType)
    (old : List Ref) (run : Except Fault Unit × Refill) : Prop where
  reads : run.1 = .ok () → ∃ count, record.value? Record.countName = some (.uint count) ∧
    count.val.toNat ≤ record.children.length ∧ run.2.items.length = count.val.toNat ∧
    run.2.steps = count.val.toNat ∧
    ∀ index < count.val.toNat, ∃ slot ref,
      record.children.find? (·.1 = toString index) = some (toString index, slot) ∧
        table.node? slot.target = some ⟨element, ref⟩ ∧ run.2.items[index]? = some ref
  refuses : ∀ fault, run.1 = .error fault →
    run.2.items = old ∧ run.2.steps ≤ record.children.length + 1
  agrees : match (Shape.elements element).draft record >>=
      (Shape.elements element).link table.typeOf record with
    | .error fault => run.1 = .error fault
    | .ok sources => run.1 = .ok () ∧
        List.Forall₂ (fun source ref => ∃ id, source = Source.record id ∧
          table.node? id = some ⟨element, ref⟩) sources run.2.items

private theorem Entries.find?_of_get? {α : Type} {name : String} {value : α} {entries : Entries α}
    (found : entries.get? name = some value) :
    entries.find? (·.1 = name) = some (name, value) := by
  induction entries with
  | nil => cases found
  | cons first others ih =>
      obtain ⟨other, held⟩ := first
      unfold get? at found
      split at found
      · rename_i same
        cases found
        simp [same]
      · rename_i apart
        simp [apart, ih found]

private theorem RefTable.refills (table : RefTable) (record : Record) (element : ObjType)
    (old : List Ref) :
    table.Refills record element old (table.refill record element { items := old }) := by
  have agrees := table.refill_agrees record element { items := old }
  cases counted : (Shape.elements element).draft record with
  | error fault =>
      rw [refill_uncounted counted] at agrees ⊢
      exact ⟨nofun, fun other _ => ⟨rfl, Nat.zero_le _⟩, agrees⟩
  | ok count =>
      obtain ⟨number, present, same⟩ := draft_eq_ok.mp counted
      have ended := gathered table record element 0 count.val.toNat { items := old }
      rw [refill_counted counted] at agrees ⊢
      generalize table.gather record element count.val.toNat 0 { items := old } = run
        at ended agrees ⊢
      cases ended with
      | @all items length each =>
          have found (index : Nat) (inside : index < count.val.toNat) : ∃ ref,
              items[index]? = some ref ∧ table.elementAt record element index = .ok ref := by
            have within : index < items.length := by omega
            have here := List.getElem?_eq_getElem within
            have held := each index _ here
            rw [Nat.zero_add] at held
            exact ⟨_, here, held⟩
          rw [same] at found length
          refine ⟨fun _ => ⟨number, present, ?_, length, ?_, ?_⟩, nofun, agrees⟩
          · exact length_of_elements fun index inside => (found index inside).imp fun _ => And.right
          · rw [← same]
            exact Nat.zero_add _
          · intro index inside
            obtain ⟨ref, here, held⟩ := found index inside
            obtain ⟨slot, child, known⟩ := elementAt_eq_ok.mp held
            exact ⟨slot, ref, Entries.find?_of_get? child, known, here⟩
      | @stopped fault position inside missing earlier =>
          have few : position ≤ record.children.length := length_of_elements fun index before => by
            have found := earlier index before
            rwa [Nat.zero_add] at found
          refine ⟨nofun, fun _ _ => ⟨rfl, ?_⟩, agrees⟩
          change 0 + (position + 1) ≤ record.children.length + 1
          omega

/-! ### Tables of a pass -/

namespace RefTable

variable {table : RefTable} {registry : Registry}

structure Apart (table : RefTable) : Prop where
  below : ∀ id node, table.node? id = some node → node.ref.index < table.size
  distinct : ∀ id other node twin, table.node? id = some node → table.node? other = some twin →
    node.ref = twin.ref → id = other

theorem size_bind {id : RefId} (fresh : table.node? id = none) (node : Node) :
    (table.bind id node).size = table.size + 1 := by
  have missing : table.nodes.contains id = false := by
    have contains := table.contains_eq id
    rw [fresh] at contains
    exact contains
  unfold size bind
  rw [Std.TreeMap.size_insert, missing]
  rfl

theorem Apart.bind (apart : table.Apart) {id : RefId} (fresh : table.node? id = none)
    (type : ObjType) : (table.bind id ⟨type, ⟨table.size⟩⟩).Apart where
  below other node found := by
    rw [size_bind fresh]
    rw [node?_bind] at found
    split at found
    · cases found
      exact Nat.lt_succ_self _
    · exact Nat.lt_succ_of_lt (apart.below other node found)
  distinct first second node twin found again same := by
    rw [node?_bind] at found again
    split at found
    · rename_i here
      split at again
      · rename_i there
        exact here.symm.trans there
      · cases found
        have old := apart.below second twin again
        rw [← same] at old
        exact absurd old (Nat.lt_irrefl _)
    · split at again
      · cases again
        have old := apart.below first node found
        rw [same] at old
        exact absurd old (Nat.lt_irrefl _)
      · exact apart.distinct first second node twin found again same

theorem Apart.entering {drafts : List RecordDraft} (apart : table.Apart)
    (distinct : (drafts.map fun draft => draft.record.id).Nodup)
    (fresh : ∀ draft ∈ drafts, table.node? draft.record.id = none) :
    (table.entering drafts).Apart := by
  induction drafts generalizing table with
  | nil => exact apart
  | cons draft others ih =>
      rw [List.map_cons, List.nodup_cons] at distinct
      refine ih (apart.bind (fresh draft List.mem_cons_self) draft.type) distinct.2 ?_
      intro other later
      have different : draft.record.id ≠ other.record.id :=
        fun same => distinct.1 (same ▸ List.mem_map_of_mem later)
      rw [node?_bind, if_neg different]
      exact fresh other (List.mem_cons_of_mem _ later)

private theorem apart_of_materialize {records : List Record} {drafts : List RecordDraft}
    (distinct : (records.map fun record => record.id).Nodup)
    (ran : materialize registry {} records = .ok (drafts, table)) : table.Apart := by
  obtain ⟨rfl, read⟩ := of_materialize distinct ran
  have ids := RecordDraft.ids_eq read
  have empty : RefTable.Apart {} := by
    constructor
    · intro id node found
      rw [node?_empty] at found
      cases found
    · intro id other node twin found
      rw [node?_empty] at found
      cases found
  exact empty.entering (ids ▸ distinct) fun draft _ => node?_empty _

end RefTable

/-! ### Lists that have been written -/

/-- Read again from the record, the list has its elements in their order and as often as they were
there: each element that has been written stands for one object of the table. -/
def RefTable.Returns (table : RefTable) (record : Record) (element : ObjType)
    (number : Ref → RefId) (items : List Ref) : Prop :=
  ∃ place : Ref → Ref,
    (∀ item ∈ items, table.node? (number item) = some ⟨element, place item⟩) ∧
    (∀ left ∈ items, ∀ right ∈ items, place left = place right → left = right) ∧
    ∀ old, table.refill record element { items := old } =
      (.ok (), { items := items.map place, steps := items.length })

namespace RefTable

variable {table : RefTable} {record : Record} {element : ObjType} {linked : List (Source element)}

private theorem refill_of_linked
    (read : (Shape.elements element).draft record >>=
      (Shape.elements element).link table.typeOf record = .ok linked) {found : List Ref}
    (named : List.Forall₂ (fun ref source => ∃ id, source = Source.record id ∧
      table.node? id = some ⟨element, ref⟩) found linked) (old : List Ref) :
    table.refill record element { items := old } =
      (.ok (), { items := found, steps := found.length }) := by
  obtain ⟨reads, -, agrees⟩ := table.refills record element old
  generalize table.refill record element { items := old } = run at reads agrees ⊢
  rw [read] at agrees
  obtain ⟨ran, stands⟩ := agrees
  obtain ⟨count, -, -, length, steps, -⟩ := reads ran
  have alike := forall₂_comp named stands fun ref source other here there => by
    obtain ⟨id, rfl, known⟩ := here
    obtain ⟨_, ⟨⟩, again⟩ := there
    exact (congrArg Node.ref (Option.some.inj (again.symm.trans known)) : other = ref)
  obtain ⟨outcome, items, taken⟩ := run
  cases ran
  cases eq_of_forall₂ alike
  have counted : taken = items.length := steps.trans length.symm
  rw [counted]

private theorem Returns.of_linked {number : Ref → RefId} {items : List Ref}
    (read : (Shape.elements element).draft record >>=
      (Shape.elements element).link table.typeOf record = .ok linked)
    (named : linked = items.map fun item => Source.record (number item))
    (registered : ∀ item ∈ items, ∃ ref, table.node? (number item) = some ⟨element, ref⟩)
    (apart : table.Apart)
    (injective : ∀ left ∈ items, ∀ right ∈ items, number left = number right → left = right) :
    table.Returns record element number items := by
  have known : ∀ item ∈ items, table.node? (number item) =
      some ⟨element, ((table.node? (number item)).map Node.ref).getD item⟩ := by
    intro item inside
    obtain ⟨ref, present⟩ := registered item inside
    rw [present]
    rfl
  refine ⟨fun item => ((table.node? (number item)).map Node.ref).getD item, known, ?_, ?_⟩
  · intro left inLeft right inRight same
    exact injective left inLeft right inRight
      (apart.distinct _ _ _ _ (known left inLeft) (known right inRight) same)
  · intro old
    have stands : List.Forall₂ (fun ref source => ∃ id, source = Source.record id ∧
        table.node? id = some ⟨element, ref⟩)
        (items.map fun item => ((table.node? (number item)).map Node.ref).getD item) linked := by
      rw [named]
      exact List.forall₂_map_left_iff.mpr (List.forall₂_map_right_iff.mpr
        (List.forall₂_same.mpr fun item inside => ⟨_, rfl, known item inside⟩))
    rw [refill_of_linked read stands old, List.length_map]

end RefTable

def Registry.parts : Registry where
  types := [.record .part, .list .part]

namespace Store

variable {store : Store} {registry : Registry} {root : Node} {order : List Node}

/-- The table of a pass has an object of its type for each object of the walk. -/
theorem Walkable.registered (walkable : store.Walkable registry.policy [] [root] order)
    {drafts : List RecordDraft} {table : RefTable}
    (ran : RefTable.materialize registry {} (store.payloadOf registry.policy order).records =
      .ok (drafts, table)) {node : Node} (member : node ∈ order) :
    ∃ ref, table.node? (numberOf order node.ref) = some ⟨node.type, ref⟩ := by
  have closed := Payload.validate_eq_ok.mp walkable.validate
  have inside : store.describe registry.policy (numberOf order) node ∈
      (store.payloadOf registry.policy order).records := List.mem_map_of_mem member
  obtain ⟨⟨type, ref⟩, resolved, key⟩ :=
    closed.looksUp.resolves drafts table ran _ (.inr ⟨_, inside, .inl rfl⟩)
  unfold Payload.keyOf at key
  rw [closed.record?_eq inside] at key
  have sameKey : node.type.key = type.key :=
    (describe_typeKey (numberOf order) node).symm.trans (Option.some.inj key)
  cases ObjType.key_injective sameKey
  refine ⟨ref, ?_⟩
  rw [describe_id] at resolved
  exact RefTable.resolve_eq_ok.mp resolved

/-- A list of the walk is read from its record as it is. -/
theorem Walkable.returns (walkable : store.Walkable registry.policy [] [root] order)
    (resolves : store.Resolves registry.policy order) {drafts : List RecordDraft} {table : RefTable}
    (ran : RefTable.materialize registry {} (store.payloadOf registry.policy order).records =
      .ok (drafts, table)) {element : RecordType} {ref : Ref} {items : List Ref}
    (member : ⟨.list element, ref⟩ ∈ order) (found : store.data? (.list element) ref = some items) :
    table.Returns (store.describe registry.policy (numberOf order) ⟨.list element, ref⟩)
      (.record element) (numberOf order) items := by
  obtain ⟨data, present, count, drafted, links⟩ :=
    (walkable.describable _ member).rebuilt order (numberOf order)
  cases present.symm.trans found
  -- Every slot leads to an object of the walk, and the pass has entered those.
  have inOrder : ∀ slot ∈ (Shape.elements (.record element)).slots registry.policy
      (ObjType.list element).key items, slot.child ∈ order := by
    intro slot inSlots
    have slots : slot ∈ store.slots registry.policy ⟨.list element, ref⟩ := by
      unfold Store.slots
      rw [found]
      exact inSlots
    exact walkable.mem_of_place (resolves _ member slot slots) (walkable.children_seen member slots)
  obtain ⟨linked, made, restored⟩ := links table.typeOf fun slot inSlots => by
    obtain ⟨place, known⟩ := walkable.registered ran (inOrder slot inSlots)
    refine ⟨inOrder slot inSlots, ?_⟩
    unfold RefTable.typeOf
    rw [known]
    rfl
  have entered : ∀ item ∈ items, (⟨.record element, item⟩ : Node) ∈ order := by
    intro item inside
    obtain ⟨slot, inSlots, child⟩ := @exists_elementSlot (.record element) 0 items item inside
    exact child ▸ inOrder slot inSlots
  have named : linked = items.map fun item => Source.record (numberOf order item) :=
    (List.map_id' linked).symm.trans (map_eq_of_forall₂ restored fun _ _ both => both.2)
  refine .of_linked (bind_eq_ok.mpr ⟨count, drafted, made⟩) named
    (fun item inside => walkable.registered ran (entered item inside))
    (RefTable.apart_of_materialize (Payload.validate_eq_ok.mp walkable.validate).distinct ran) ?_
  intro left inLeft right inRight same
  exact numberOf_injective walkable.small (mem_places (entered left inLeft))
    (mem_places (entered right inRight)) same

/-- Whatever a record promises, its slots bound the loop over the elements, and a list is refilled as
promised or left alone. In a payload that was written, there is a record of each object, and those of
the lists bring the elements back. -/
theorem lists_return :
    (∀ (table : RefTable) (record : Record) (element : ObjType) (old : List Ref),
      table.Refills record element old (table.refill record element { items := old })) ∧
    ∀ (store : Store) (registry : Registry) (root : Node) (payload : Payload), store.WellTyped →
      (store.serialize registry.policy root).1 = .ok payload →
        ∃ number drafts table,
          RefTable.materialize registry {} payload.records = .ok (drafts, table) ∧
            (∀ node, Reaches (store.walked registry.policy) root node →
              store.describe registry.policy number node ∈ payload.records) ∧
            ∀ element ref items, Reaches (store.walked registry.policy) root ⟨.list element, ref⟩ →
              store.data? (.list element) ref = some items →
                table.Returns (store.describe registry.policy number ⟨.list element, ref⟩)
                  (.record element) number items := by
  refine ⟨RefTable.refills, ?_⟩
  intro store registry root payload typed written
  obtain ⟨capable, order, walkable, rfl⟩ := serialize_eq_ok.mp written
  have resolves : store.Resolves registry.policy order := typed.resolves
  -- What was written is read, so the first pass over it comes to an end.
  obtain ⟨plans, read, -⟩ := walkable.read resolves capable
  rw [← GraphPlan.readByTable_eq] at read
  obtain ⟨_, -, read⟩ := bind_eq_ok.mp read
  obtain ⟨⟨drafts, table⟩, ran, -⟩ := bind_eq_ok.mp read
  refine ⟨numberOf order, drafts, table, ran, ?_, ?_⟩
  · exact fun node reaches => List.mem_map_of_mem ((walkable.mem_iff resolves).mpr reaches)
  · intro element ref items reaches found
    exact walkable.returns resolves ran ((walkable.mem_iff resolves).mpr reaches) found

/-- A list that holds one part twice is read with one part in two places. -/
theorem lists_return_sharing :
    ∃ payload number drafts table,
      (sharing.serialize Registry.parts.policy ⟨.list .part, ⟨1⟩⟩).1 = .ok payload ∧
        RefTable.materialize .parts {} payload.records = .ok (drafts, table) ∧
          table.Returns (sharing.describe Registry.parts.policy number ⟨.list .part, ⟨1⟩⟩)
            (.record .part) number [⟨0⟩, ⟨0⟩] := by
  obtain ⟨number, drafts, table, ran, -, returns⟩ :=
    lists_return.2 sharing .parts ⟨.list .part, ⟨1⟩⟩ _ sharing_wellTyped rfl
  exact ⟨_, number, drafts, table, rfl, ran, returns .part ⟨1⟩ _ .here rfl⟩

end Store

end ObjectCourier
