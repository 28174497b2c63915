import Mathlib.Logic.Relation
import ObjectCourier.Proofs.Object.Planting

/-!
Code that works on what it can reach. Code holds objects and counters; it may read an object that it
holds and then holds what that leads to, change such an object to anything made of what it holds, add
objects, and count loads. When all that it holds at first is apart from the objects of a store, these
objects stay as they are whatever the code does and wherever it stops.
-/

namespace ObjectCourier

structure Grasp where
  refs : List Ref
  counters : List CounterId

namespace Grasp

def only (target : Option Ref) : Grasp where
  refs := target.toList
  counters := []

def taking (grasp : Grasp) (cell : Cell) : Grasp where
  refs := cell.children.map Node.ref ++ grasp.refs
  counters := cell.counters ++ grasp.counters

structure Covers (grasp : Grasp) (cell : Cell) : Prop where
  children : ∀ child ∈ cell.children, child.ref ∈ grasp.refs
  counters : ∀ counter ∈ cell.counters, counter ∈ grasp.counters

end Grasp

namespace Store

def replace (store : Store) (ref : Ref) (cell : Cell) : Store :=
  { store with cells := store.cells.setIfInBounds ref.index cell }

/-- One step of code that works on what it can reach. -/
inductive Touches : Store × Grasp → Store × Grasp → Prop where
  | read {store : Store} {grasp : Grasp} {ref : Ref} {cell : Cell} (held : ref ∈ grasp.refs)
      (present : store.cell? ref = some cell) :
      Touches (store, grasp) (store, grasp.taking cell)
  | replace {store : Store} {grasp : Grasp} {ref : Ref} {cell : Cell} (held : ref ∈ grasp.refs)
      (covered : grasp.Covers cell) : Touches (store, grasp) (store.replace ref cell, grasp)
  | add {store : Store} {grasp : Grasp} {cell : Cell} (covered : grasp.Covers cell) :
      Touches (store, grasp)
        (store.add [cell], { grasp with refs := ⟨store.cells.size⟩ :: grasp.refs })
  | newCounter {store : Store} {grasp : Grasp} :
      Touches (store, grasp) (store.newCounter.2,
        { grasp with counters := store.newCounter.1 :: grasp.counters })
  | count {store : Store} {grasp : Grasp} {counter : CounterId} {change : Nat → Nat}
      (held : counter ∈ grasp.counters) :
      Touches (store, grasp) (store.count counter change, grasp)

/-- Code that holds no more than this at first may leave the store like that. -/
def Reworked (before : Store) (grasp : Grasp) (after : Store) : Prop :=
  ∃ held, Relation.ReflTransGen Touches (before, grasp) (after, held)

/-- The objects and counters of the first store are as they were, and no object behind them leads to
any of them. -/
structure Secluded (start store : Store) : Prop where
  grown : start.Extends store
  children : ∀ ref cell, store.cell? ref = some cell → start.cells.size ≤ ref.index →
    ∀ child ∈ cell.children, start.cells.size ≤ child.ref.index
  counters : store.CountsFrom start.cells.size start.counters.size

structure Aside (start : Store) (cell : Cell) : Prop where
  children : ∀ child ∈ cell.children, start.cells.size ≤ child.ref.index
  counters : ∀ counter ∈ cell.counters, start.counters.size ≤ counter.index

structure Apart (start : Store) (state : Store × Grasp) : Prop where
  secluded : start.Secluded state.1
  refs : ∀ ref ∈ state.2.refs, start.cells.size ≤ ref.index
  counters : ∀ counter ∈ state.2.counters, start.counters.size ≤ counter.index

theorem Planted.secluded {before after : Store} (planted : before.Planted after) :
    before.Secluded after where
  grown := planted.grown
  children ref cell present above child member :=
    ((planted.closed ref cell present above).2 child member).2
  counters := planted.counted

namespace Secluded

variable {start store : Store}

theorem refl (store : Store) : store.Secluded store := (Planted.refl store).secluded

theorem aside (secluded : start.Secluded store) {ref : Ref} {cell : Cell}
    (present : store.cell? ref = some cell) (above : start.cells.size ≤ ref.index) :
    start.Aside cell :=
  ⟨secluded.children ref cell present above, secluded.counters ref cell present above⟩

private theorem of_aside (grown : start.Extends store)
    (each : ∀ ref cell, store.cell? ref = some cell → start.cells.size ≤ ref.index →
      start.Aside cell) : start.Secluded store where
  grown := grown
  children ref cell present above := (each ref cell present above).children
  counters ref cell present above := (each ref cell present above).counters

theorem replace (secluded : start.Secluded store) {ref : Ref} {cell : Cell}
    (above : start.cells.size ≤ ref.index) (aside : start.Aside cell) :
    start.Secluded (store.replace ref cell) := by
  have elsewhere {other : Ref} (different : ref.index ≠ other.index) :
      (store.replace ref cell).cell? other = store.cell? other :=
    Array.getElem?_setIfInBounds_ne different
  refine of_aside ⟨?_, secluded.grown.counters⟩ ?_
  · intro other found present
    have inside := (Array.getElem?_eq_some_iff.mp present).1
    rw [elsewhere (by omega)]
    exact secluded.grown.cells other found present
  · intro other found present beyond
    by_cases same : ref.index = other.index
    · have here : (store.cells.setIfInBounds ref.index cell)[other.index]? = some found := present
      rw [← same, Array.getElem?_setIfInBounds_self] at here
      split at here
      · cases here
        exact aside
      · cases here
    · rw [elsewhere same] at present
      exact secluded.aside present beyond

theorem add (secluded : start.Secluded store) {cells : List Cell}
    (aside : ∀ cell ∈ cells, start.Aside cell) : start.Secluded (store.add cells) := by
  refine of_aside (secluded.grown.trans (extends_add store cells)) ?_
  intro ref cell present above
  rcases Nat.lt_or_ge ref.index store.cells.size with old | new
  · rw [(extends_add store cells).cell?_eq old] at present
    exact secluded.aside present above
  · exact aside cell (mem_of_cell?_add new present)

theorem newCounter (secluded : start.Secluded store) : start.Secluded store.newCounter.2 :=
  of_aside (secluded.grown.trans (extends_newCounter store)) fun _ _ => secluded.aside

theorem count (secluded : start.Secluded store) {counter : CounterId}
    (above : start.counters.size ≤ counter.index) (change : Nat → Nat) :
    start.Secluded (store.count counter change) := by
  refine of_aside ⟨secluded.grown.cells, ?_⟩ fun _ _ => secluded.aside
  intro index number present
  have inside := (Array.getElem?_eq_some_iff.mp present).1
  have different : counter.index ≠ index := by omega
  have kept := secluded.grown.counters index number present
  unfold Store.count
  rw [Array.getElem?_modify, if_neg different, kept]

end Secluded

namespace Apart

variable {start : Store} {state next : Store × Grasp}

theorem aside {store : Store} {grasp : Grasp} {cell : Cell} (apart : start.Apart (store, grasp))
    (covered : grasp.Covers cell) : start.Aside cell where
  children child member := apart.refs child.ref (covered.children child member)
  counters counter member := apart.counters counter (covered.counters counter member)

theorem step (apart : start.Apart state) (touches : Touches state next) : start.Apart next := by
  cases touches with
  | @read store grasp ref cell held present =>
      -- An object behind the first store leads to nothing in it.
      have below := apart.secluded.aside present (apart.refs ref held)
      refine ⟨apart.secluded, ?_, ?_⟩
      · intro found member
        rcases List.mem_append.mp member with taken | before
        · obtain ⟨child, here, rfl⟩ := List.mem_map.mp taken
          exact below.children child here
        · exact apart.refs found before
      · intro counter member
        rcases List.mem_append.mp member with taken | before
        · exact below.counters counter taken
        · exact apart.counters counter before
  | @replace store grasp ref cell held covered =>
      -- What is made of what is held leads to nothing in the first store.
      have secluded := apart.secluded.replace (apart.refs ref held) (apart.aside covered)
      exact ⟨secluded, apart.refs, apart.counters⟩
  | @add store grasp cell covered =>
      refine ⟨apart.secluded.add ?_, ?_, apart.counters⟩
      · intro found member
        rw [List.mem_singleton.mp member]
        exact apart.aside covered
      · intro ref member
        rcases List.mem_cons.mp member with rfl | before
        · exact apart.secluded.grown.size_le
        · exact apart.refs ref before
  | @newCounter store grasp =>
      refine ⟨apart.secluded.newCounter, apart.refs, ?_⟩
      intro counter member
      rcases List.mem_cons.mp member with rfl | before
      · exact apart.secluded.grown.counters_size_le
      · exact apart.counters counter before
  | @count store grasp counter change held =>
      have secluded := apart.secluded.count (apart.counters counter held) change
      exact ⟨secluded, apart.refs, apart.counters⟩

/-- However many steps there are, and wherever they stop, what was apart stays apart. -/
theorem run (apart : start.Apart state) (touches : Relation.ReflTransGen Touches state next) :
    start.Apart next := by
  induction touches with
  | refl => exact apart
  | tail _ last ih => exact ih.step last

end Apart

theorem Touches.size_le {state next : Store × Grasp} (touches : Touches state next) :
    state.1.cells.size ≤ next.1.cells.size := by
  cases touches with
  | read held present => exact Nat.le_refl _
  | replace held covered => exact Nat.le_of_eq Array.size_setIfInBounds.symm
  | add covered => exact (extends_add _ _).size_le
  | newCounter => exact Nat.le_refl _
  | count held => exact Nat.le_refl _

private theorem size_le_of_run {state next : Store × Grasp}
    (touches : Relation.ReflTransGen Touches state next) :
    state.1.cells.size ≤ next.1.cells.size := by
  induction touches with
  | refl => exact Nat.le_refl _
  | tail _ last ih => exact Nat.le_trans ih last.size_le

theorem Reworked.size_le {before after : Store} {grasp : Grasp}
    (reworked : before.Reworked grasp after) : before.cells.size ≤ after.cells.size := by
  rcases reworked with ⟨held, touches⟩
  exact size_le_of_run touches

/-- Code that holds only a new object, or nothing, changes nothing that was there before. -/
theorem Reworked.secluded {start before after : Store} {target : Option Ref}
    (reworked : before.Reworked (.only target) after) (secluded : start.Secluded before)
    (new : ∀ ref, target = some ref → start.cells.size ≤ ref.index) : start.Secluded after := by
  rcases reworked with ⟨held, touches⟩
  have apart : start.Apart (before, .only target) := by
    refine ⟨secluded, ?_, nofun⟩
    intro found member
    exact new found (Option.mem_toList.mp member)
  exact (apart.run touches).secluded

end Store

end ObjectCourier
