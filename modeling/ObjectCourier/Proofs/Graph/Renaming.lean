import ObjectCourier.Proofs.Graph.Invariance
import ObjectCourier.Proofs.Status.Busy

/-!
Stores that are the same but for the names of what is new. New objects and counters have been made in
another order, and nothing else tells the stores apart. A graph that is built in both then stands at
the same place in both, and the stores stay the same but for those names.
-/

namespace ObjectCourier

structure Renaming where
  place : Ref → Ref
  count : CounterId → CounterId
  place_injective : Function.Injective place
  count_injective : Function.Injective count

def Renaming.same : Renaming where
  place := id
  count := id
  place_injective := Function.injective_id
  count_injective := Function.injective_id

/-- Handles and counters are renamed, and memos are kept. -/
def Carrier.Relation.moved (names : Renaming) : Carrier.Relation Carrier.live Carrier.live where
  handle _ ref other := other = names.place ref
  loads counter other := other = names.count counter
  memo memo other := other = memo

/-- The right store is the left one with what has been made since the start under other names. -/
structure Renaming.Renames (names : Renaming) (start left right : Store) : Prop where
  cells : right.cells.size = left.cells.size
  counters : right.counters.size = left.counters.size
  oldPlace : ∀ ref : Ref, ref.index < start.cells.size → names.place ref = ref
  freePlace : ∀ ref : Ref, left.cells.size ≤ ref.index → names.place ref = ref
  oldCount : ∀ counter : CounterId, counter.index < start.counters.size →
    names.count counter = counter
  freeCount : ∀ counter : CounterId, left.counters.size ≤ counter.index →
    names.count counter = counter
  objects : ∀ ref cell, left.cell? ref = some cell → ∃ data,
    right.cell? (names.place ref) =
      some { type := cell.type, data := data, poisoned := cell.poisoned } ∧
        cell.type.shape.Matches (.moved names) cell.data data
  outstanding : ∀ counter,
    right.outstanding (names.count counter) = left.outstanding counter

theorem Renaming.same_renames (start store : Store) : Renaming.same.Renames start store store where
  cells := rfl
  counters := rfl
  oldPlace _ _ := rfl
  freePlace _ _ := rfl
  oldCount _ _ := rfl
  freeCount _ _ := rfl
  objects ref cell present := by
    refine ⟨cell.data, present, Shape.matches_self ?_ ?_ ?_⟩
    · exact fun _ => rfl
    · exact fun _ => rfl
    · exact fun _ _ => rfl
  outstanding _ := rfl

def Carrier.Relation.halfwayAbreast (start other state : Store) :
    Carrier.Relation Carrier.halfway Carrier.halfway where
  handle type := Sum.LiftRel ((Carrier.Relation.level start other state).handle type)
    fun id twin => twin = id
  loads := (Carrier.Relation.level start other state).loads
  memo left right := right = left

def Carrier.Relation.sources : Carrier.Relation Carrier.sourced Carrier.sourced where
  handle _ source twin := twin = source
  loads _ _ := True
  memo _ _ := True

def HalfwayObject.Abreast (start other state : Store) (object twin : HalfwayObject) : Prop :=
  ∃ type data copy, object = { type := type, data := data } ∧ twin = { type := type, data := copy } ∧
    type.shape.Matches (.halfwayAbreast start other state) data copy

section Building

variable {start other left right : Store}

private theorem Carrier.Relation.halfwayAbreast_kept {early late : Store}
    (extension : early.Extends late) : (Carrier.Relation.halfwayAbreast start other early).Implies
      (.halfwayAbreast start other late) where
  handle _ _ _ alike := alike.mono (fun _ _ => extension.level.handle _ _ _) fun _ _ => id
  loads := extension.level.loads
  memo _ _ := id

private theorem Carrier.Visitor.plantingCopies_abreast :
    (Store.abreast start other).Visits .sources (.halfwayAbreast start other) .plantingCopies
      .plantingCopies where
  stays := Carrier.Relation.halfwayAbreast_kept
  handle := by
    intro type source twin left right same kept
    cases same
    cases source with
    | copy embedded =>
        exact (embedded.runs_plant kept).bind fun _ kept level => .pure kept (.inl level)
    | record id => exact .pure kept (.inr rfl)
  loads _ kept := Store.runs_newCounter kept
  memo _ kept := .pure kept rfl

private theorem ObjectPlan.plantCopies_abreast (object : ObjectPlan)
    (kept : start.Abreast other left right) :
    (Store.abreast start other).Runs (HalfwayObject.Abreast start other) object.plantCopies
      object.plantCopies left right := by
  have same : object.type.shape.Matches .sources object.data object.data := by
    apply Shape.matches_self
    · exact fun _ => trivial
    · exact fun _ => trivial
    · exact fun _ _ => rfl
  have traversed := Shape.runs_traverse Carrier.Visitor.plantingCopies_abreast same kept
  refine traversed.bind fun _ kept alike => .pure kept ?_
  exact ⟨object.type, _, _, rfl, rfl, alike⟩

private theorem ObjectPlan.mapM_plantCopies_abreast (objects : List ObjectPlan)
    (kept : start.Abreast other left right) :
    (Store.abreast start other).Runs (fun state => List.Forall₂ (HalfwayObject.Abreast start other state))
      (objects.mapM plantCopies) (objects.mapM plantCopies) left right := by
  refine Tandem.Runs.mapM Eq (HalfwayObject.Abreast start other) ?_ ?_
    (List.forall₂_same.mpr fun _ _ => rfl) kept
  · intro early late object twin extension alike
    obtain ⟨type, data, copy, same, sameTwin, matching⟩ := alike
    exact ⟨type, data, copy, same, sameTwin,
      matching.imp (Carrier.Relation.halfwayAbreast_kept extension)⟩
  · intro object twin left right same kept
    cases same
    exact object.plantCopies_abreast kept

end Building

namespace Renaming.Renames

variable {names : Renaming} {start left right : Store} (renames : names.Renames start left right)

include renames

private theorem level_moved (state : Store) :
    (Carrier.Relation.level left right state).Implies (.moved names) where
  handle type ref twin both := by
    obtain ⟨⟨offset, here, there⟩, -⟩ := both
    rw [renames.cells] at there
    have free : left.cells.size ≤ ref.index := by
      rw [here]
      exact Nat.le_add_right _ _
    exact (there.trans here.symm).trans (renames.freePlace ref free).symm
  loads counter twin both := by
    obtain ⟨⟨offset, here, there⟩, -⟩ := both
    rw [renames.counters] at there
    have free : left.counters.size ≤ counter.index := by
      rw [here]
      exact Nat.le_add_right _ _
    exact (there.trans here.symm).trans (renames.freeCount counter free).symm
  memo _ _ same := same

private theorem size_of_abreast {between beside : Store}
    (abreast : left.Abreast right between beside) : beside.cells.size = between.cells.size := by
  obtain ⟨offset, here, there⟩ := abreast.cells
  rw [renames.cells] at there
  exact congrArg Ref.index (there.trans here.symm)

private theorem counters_of_abreast {between beside : Store}
    (abreast : left.Abreast right between beside) :
    beside.counters.size = between.counters.size := by
  obtain ⟨offset, here, there⟩ := abreast.counters
  rw [renames.counters] at there
  exact congrArg CounterId.index (there.trans here.symm)

private theorem count_inside {counter : CounterId} (inside : counter.index < left.counters.size) :
    (names.count counter).index < left.counters.size := by
  by_contra outside
  have kept := renames.freeCount (names.count counter) (Nat.not_lt.mp outside)
  have same := names.count_injective kept
  rw [same] at outside
  exact outside inside

theorem grown {between beside : Store} (grown : left.Planted between) (grownTwin : right.Planted beside)
    (abreast : left.Abreast right between beside) : names.Renames start between beside := by
  constructor
  case cells => exact renames.size_of_abreast abreast
  case counters => exact renames.counters_of_abreast abreast
  case oldPlace => exact renames.oldPlace
  case freePlace =>
    exact fun ref free => renames.freePlace ref (Nat.le_trans grown.grown.size_le free)
  case oldCount => exact renames.oldCount
  case freeCount =>
    exact fun counter free =>
      renames.freeCount counter (Nat.le_trans grown.grown.counters_size_le free)
  case objects =>
    intro ref cell present
    by_cases old : ref.index < left.cells.size
    · rw [grown.grown.cell?_eq old] at present
      obtain ⟨data, found, alike⟩ := renames.objects ref cell present
      exact ⟨data, grownTwin.grown.cells _ _ found, alike⟩
    · have free := Nat.not_lt.mp old
      have level : Ref.Level left right ref (names.place ref) := by
        rw [renames.freePlace ref free]
        refine ⟨ref.index - left.cells.size, ?_, ?_⟩
        · rw [Nat.add_sub_cancel' free]
        · rw [renames.cells, Nat.add_sub_cancel' free]
      obtain ⟨data, found, alike⟩ := abreast.objects ref _ cell level present
      exact ⟨data, found, alike.imp (renames.level_moved between)⟩
  case outstanding =>
    intro counter
    by_cases old : counter.index < left.counters.size
    · have inside := renames.count_inside old
      rw [grown.grown.outstanding_eq old, grownTwin.grown.outstanding_eq (renames.counters ▸ inside)]
      exact renames.outstanding counter
    · have free := Nat.not_lt.mp old
      rw [renames.freeCount counter free, grown.counters counter free]
      exact grownTwin.counters counter (renames.counters ▸ free)

/-- Objects that are added in their new places keep the stores the same. -/
theorem add {cells twins : List Cell}
    (alike : List.Forall₂ (fun cell twin : Cell => ∃ data,
      twin = { type := cell.type, data := data, poisoned := cell.poisoned } ∧
        cell.type.shape.Matches (.moved names) cell.data data) cells twins) :
    names.Renames start (left.add cells) (right.add twins) := by
  have length := alike.length_eq
  have sizes (store : Store) (cells : List Cell) :
      (store.add cells).cells.size = store.cells.size + cells.length := by
    simp only [Store.add, Array.size_append, List.size_toArray]
  constructor
  case cells => rw [sizes, sizes, renames.cells, length]
  case counters => exact renames.counters
  case oldPlace => exact renames.oldPlace
  case freePlace =>
    intro ref free
    rw [sizes] at free
    exact renames.freePlace ref (Nat.le_trans (Nat.le_add_right _ _) free)
  case oldCount => exact renames.oldCount
  case freeCount => exact renames.freeCount
  case objects =>
    intro ref cell present
    by_cases old : ref.index < left.cells.size
    · rw [(Store.extends_add left cells).cell?_eq old] at present
      obtain ⟨data, found, matching⟩ := renames.objects ref cell present
      exact ⟨data, (Store.extends_add right twins).cells _ _ found, matching⟩
    · have free := Nat.not_lt.mp old
      rw [renames.freePlace ref free]
      have placed : cells[ref.index - left.cells.size]? = some cell := by
        rw [Store.cell?, Store.add, Array.getElem?_append_right free, List.getElem?_toArray] at present
        exact present
      obtain ⟨inside, here⟩ := List.getElem?_eq_some_iff.mp placed
      have insideTwin := length ▸ inside
      obtain ⟨data, same, matching⟩ := alike.get inside insideTwin
      have found := (List.getElem?_eq_getElem insideTwin).trans (congrArg some same)
      subst here
      refine ⟨data, ?_, matching⟩
      have stands := @Store.cell?_add_of_getElem? right twins _ _ found
      rw [renames.cells, Nat.add_sub_cancel' free] at stands
      exact stands
  case outstanding => exact renames.outstanding

/-- A graph that is built in both stores stands at the same place. -/
theorem build (plan : GraphPlan) :
    (plan.build right).1 = (plan.build left).1 ∧
      names.Renames start (plan.build left).2 (plan.build right).2 := by
  rcases ran : plan.objects.mapM ObjectPlan.plantCopies left with ⟨objects, between⟩
  rcases ranTwin : plan.objects.mapM ObjectPlan.plantCopies right with ⟨twins, beside⟩
  have runs := ObjectPlan.mapM_plantCopies_abreast plan.objects (Store.Abreast.refl left right)
  have kept := runs.kept
  have same := runs.same
  rw [ran, ranTwin] at kept same
  have size := renames.size_of_abreast kept
  have planted := renames.grown (ObjectPlan.mapM_plantCopies ran).1
    (ObjectPlan.mapM_plantCopies ranTwin).1 kept
  have behind := (ObjectPlan.mapM_plantCopies ran).1.grown.size_le
  rw [GraphPlan.build_eq ran, GraphPlan.build_eq ranTwin, size]
  refine ⟨rfl, planted.add ?_⟩
  rw [List.forall₂_map_left_iff, List.forall₂_map_right_iff]
  refine List.Forall₂.imp ?_ same
  intro object twin alike
  obtain ⟨type, data, copy, here, there, matching⟩ := alike
  subst here
  subst there
  refine ⟨_, rfl, HalfwayObject.cells_match matching ?_ ?_ fun _ _ => id⟩
  · intro type source other both
    match source, other, both with
    | .inl ref, .inl twin, .inl level => exact (renames.level_moved between).handle type ref twin level
    | .inr id, .inr twin, .inr sameId =>
        have sameId : twin = id := sameId
        subst sameId
        -- The objects of the records stand behind all that was there.
        have free : left.cells.size ≤ (plan.place between.cells.size twin).index :=
          Nat.le_trans behind (Nat.le_add_right _ _)
        exact (renames.freePlace _ free).symm
  · exact (renames.level_moved between).loads

theorem place_root (plan : GraphPlan) :
    names.place (plan.build left).1.ref = (plan.build left).1.ref := by
  rcases ran : plan.objects.mapM ObjectPlan.plantCopies left with ⟨objects, between⟩
  have behind := (ObjectPlan.mapM_plantCopies ran).1.grown.size_le
  rw [GraphPlan.build_eq ran]
  exact renames.freePlace _ (Nat.le_trans behind (Nat.le_add_right _ _))

private theorem cell?_of_missing {ref : Ref} (missing : left.cell? ref = none) :
    right.cell? (names.place ref) = none := by
  have free : left.cells.size ≤ ref.index := Array.getElem?_eq_none_iff.mp missing
  rw [renames.freePlace ref free]
  exact Array.getElem?_eq_none_iff.mpr (renames.cells ▸ free)

private theorem data?_moved (type : ObjType) (ref : Ref) :
    Option.Rel (type.shape.Matches (.moved names)) (left.data? type ref)
      (right.data? type (names.place ref)) := by
  unfold Store.data?
  cases present : left.cell? ref with
  | none =>
      rw [renames.cell?_of_missing present]
      exact .none
  | some cell =>
      obtain ⟨data, found, alike⟩ := renames.objects ref cell present
      rw [found]
      by_cases same : cell.type = type
      · subst same
        simp only [Option.bind_some, Cell.data?, dif_pos]
        exact .some alike
      · simp only [Option.bind_some, Cell.data?, dif_neg same]
        exact .none

private theorem isBusy_moved_record (type : RecordType) (ref : Ref) :
    right.isBusy ⟨.record type, names.place ref⟩ = left.isBusy ⟨.record type, ref⟩ := by
  have both := renames.data?_moved (.record type) ref
  generalize found : left.data? (.record type) ref = before at both
  generalize copied : right.data? (.record type) (names.place ref) = after at both
  cases both with
  | none => rw [Store.isBusy_of_missing found, Store.isBusy_of_missing copied]
  | some alike =>
      rw [Store.isBusy_record found, Store.isBusy_record copied]
      refine Store.isBusyData_of_matches ?_ alike
      rintro counter _ rfl
      exact renames.outstanding counter

/-- An object is as busy under its other name. -/
theorem isBusy_moved (type : ObjType) (ref : Ref) :
    right.isBusy ⟨type, names.place ref⟩ = left.isBusy ⟨type, ref⟩ := by
  cases type with
  | record type => exact renames.isBusy_moved_record type ref
  | list type =>
      have both := renames.data?_moved (.list type) ref
      generalize found : left.data? (.list type) ref = items at both
      generalize copied : right.data? (.list type) (names.place ref) = copies at both
      cases both with
      | none => rw [Store.isBusy_of_missing found, Store.isBusy_of_missing copied]
      | some alike =>
          apply (Store.isBusy_of_elements found copied (List.Forall₂.imp ?_ alike)).trans
            (Bool.true_and _)
          rintro item _ rfl
          exact (renames.isBusy_moved_record type item).trans (Bool.true_and _).symm

end Renaming.Renames

end ObjectCourier
