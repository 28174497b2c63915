import ObjectCourier.Proofs.Object.Unfolding

/-!
New objects from copies by value. Planting a tree keeps every object and counter that was there, and
below the object that it returns is the planted tree: all of it new, intact, and leading to new
objects only.
-/

namespace ObjectCourier

namespace Store

def ClosedFrom (store : Store) (start : Nat) : Prop :=
  ∀ ref cell, store.cell? ref = some cell → start ≤ ref.index →
    cell.poisoned = false ∧ ∀ child ∈ cell.children, store.Leads child ∧ start ≤ child.ref.index

def CountsFrom (store : Store) (start count : Nat) : Prop :=
  ∀ ref cell, store.cell? ref = some cell → start ≤ ref.index →
    ∀ counter ∈ cell.counters, count ≤ counter.index

/-- Only new objects that lead to new objects, and counters that stand at zero, are added. New objects
count their loads under new counters. -/
structure Planted (before after : Store) : Prop where
  grown : before.Extends after
  closed : after.ClosedFrom before.cells.size
  counted : after.CountsFrom before.cells.size before.counters.size
  counters : ∀ counter : CounterId, before.counters.size ≤ counter.index →
    after.outstanding counter = 0

structure CountsAnew (before after : Store) (counter : CounterId) : Prop where
  new : before.counters.size ≤ counter.index
  present : counter.index < after.counters.size
  zero : after.outstanding counter = 0

theorem Extends.cell?_eq {before after : Store} (extension : before.Extends after) {ref : Ref}
    (inside : ref.index < before.cells.size) : after.cell? ref = before.cell? ref := by
  have present : before.cell? ref = some before.cells[ref.index] :=
    Array.getElem?_eq_getElem inside
  rw [present, extension.cells ref _ present]

theorem Extends.outstanding_eq {before after : Store} (extension : before.Extends after)
    {counter : CounterId} (inside : counter.index < before.counters.size) :
    after.outstanding counter = before.outstanding counter := by
  have present : before.counters[counter.index]? = some before.counters[counter.index] :=
    Array.getElem?_eq_getElem inside
  rw [outstanding, outstanding, present, extension.counters _ _ present]

theorem ClosedFrom.handles {store : Store} {start : Nat} (closed : store.ClosedFrom start)
    {type : ObjType} {ref : Ref} {data : type.Data Carrier.live}
    (found : store.data? type ref = some data) (above : start ≤ ref.index) :
    ∀ child ∈ type.shape.handles data,
      store.Leads ⟨child.1, child.2⟩ ∧ start ≤ Ref.index child.2 := by
  obtain ⟨poisoned, present⟩ := data?_eq_some.mp found
  intro child member
  exact (closed ref _ present above).2 _ (List.mem_map_of_mem member)

theorem CountsAnew.kept {first before after last : Store} {counter : CounterId}
    (earlier : first.Extends before) (later : after.Extends last)
    (anew : before.CountsAnew after counter) : first.CountsAnew last counter where
  new := Nat.le_trans earlier.counters_size_le anew.new
  present := Nat.lt_of_lt_of_le anew.present later.counters_size_le
  zero := (later.outstanding_eq anew.present).trans anew.zero

namespace Planted

theorem refl (store : Store) : store.Planted store where
  grown := .refl store
  closed ref cell present above := by
    have inside := (Array.getElem?_eq_some_iff.mp present).1
    exact absurd inside (Nat.not_lt.mpr above)
  counted ref cell present above := by
    have inside := (Array.getElem?_eq_some_iff.mp present).1
    exact absurd inside (Nat.not_lt.mpr above)
  counters counter above := by
    rw [outstanding, Array.getElem?_eq_none_iff.mpr above]
    rfl

theorem trans {first second third : Store} (early : first.Planted second)
    (late : second.Planted third) : first.Planted third where
  grown := early.grown.trans late.grown
  closed := by
    intro ref cell present above
    rcases Nat.lt_or_ge ref.index second.cells.size with old | new
    · have before : second.cell? ref = some cell := by
        rw [← late.grown.cell?_eq old]
        exact present
      obtain ⟨intact, children⟩ := early.closed ref cell before above
      refine ⟨intact, fun child member => ?_⟩
      obtain ⟨leads, childAbove⟩ := children child member
      exact ⟨late.grown.leads leads, childAbove⟩
    · obtain ⟨intact, children⟩ := late.closed ref cell present new
      refine ⟨intact, fun child member => ?_⟩
      obtain ⟨leads, childAbove⟩ := children child member
      exact ⟨leads, Nat.le_trans early.grown.size_le childAbove⟩
  counted := by
    intro ref cell present above counter member
    rcases Nat.lt_or_ge ref.index second.cells.size with old | new
    · rw [late.grown.cell?_eq old] at present
      exact early.counted ref cell present above counter member
    · exact Nat.le_trans early.grown.counters_size_le
        (late.counted ref cell present new counter member)
  counters counter above := by
    rcases Nat.lt_or_ge counter.index second.counters.size with old | new
    · rw [late.grown.outstanding_eq old]
      exact early.counters counter above
    · exact late.counters counter new

theorem add {before between : Store} (planted : before.Planted between) {cells : List Cell}
    (intact : ∀ cell ∈ cells, cell.poisoned = false)
    (children : ∀ cell ∈ cells, ∀ child ∈ cell.children,
      (between.add cells).Leads child ∧ before.cells.size ≤ child.ref.index)
    (counting : ∀ cell ∈ cells, ∀ counter ∈ cell.counters,
      before.counters.size ≤ counter.index) : before.Planted (between.add cells) where
  grown := planted.grown.trans (extends_add between cells)
  closed := by
    intro ref cell present above
    rcases Nat.lt_or_ge ref.index between.cells.size with old | new
    · rw [(extends_add between cells).cell?_eq old] at present
      obtain ⟨whole, kept⟩ := planted.closed ref cell present above
      refine ⟨whole, fun child member => ?_⟩
      obtain ⟨leads, childAbove⟩ := kept child member
      exact ⟨(extends_add between cells).leads leads, childAbove⟩
    · have member := mem_of_cell?_add new present
      exact ⟨intact cell member, children cell member⟩
  counted := by
    intro ref cell present above
    rcases Nat.lt_or_ge ref.index between.cells.size with old | new
    · rw [(extends_add between cells).cell?_eq old] at present
      exact planted.counted ref cell present above
    · exact counting cell (mem_of_cell?_add new present)
  counters := planted.counters

theorem wellTyped {before after : Store} (planted : before.Planted after)
    (typed : before.WellTyped) : after.WellTyped := by
  intro ref cell present child member
  rcases Nat.lt_or_ge ref.index before.cells.size with old | new
  · rw [planted.grown.cell?_eq old] at present
    exact planted.grown.leads (typed ref cell present child member)
  · exact ((planted.closed ref cell present new).2 child member).1

end Planted

theorem planted_newCounter {before after : Store} {counter : CounterId}
    (ran : before.newCounter = (counter, after)) :
    before.Planted after ∧ before.CountsAnew after counter := by
  cases ran
  have zero : before.newCounter.2.outstanding ⟨before.counters.size⟩ = 0 := by
    change (before.counters.push 0)[before.counters.size]?.getD 0 = 0
    rw [Array.getElem?_push_size]
    rfl
  refine ⟨⟨extends_newCounter before, ?_, ?_, ?_⟩, Nat.le_refl _, ?_, zero⟩
  · exact (Planted.refl before).closed
  · exact (Planted.refl before).counted
  · rintro ⟨index⟩ above
    rcases Nat.eq_or_lt_of_le above with here | beyond
    · cases here
      exact zero
    · change (before.counters.push 0)[index]?.getD 0 = 0
      rw [Array.getElem?_eq_none_iff.mpr (by rw [Array.size_push]; exact beyond)]
      rfl
  · exact Nat.lt_of_lt_of_eq (Nat.lt_succ_self _) (Array.size_push _).symm

end Store

def Carrier.Relation.planted {Handle : ObjType → Type}
    (plants : Store → Store → (type : ObjType) → Handle type → Ref → Prop)
    (before after : Store) : Carrier.Relation (.byValue Handle) Carrier.live where
  handle := plants before after
  loads _ counter := before.CountsAnew after counter
  memo _ memo := memo = IntKind.zero .u32

/-- The tree is below the object, which is new. -/
def Store.Plants (before after : Store) (depth : Nat) (type : ObjType) (tree : Tree depth type)
    (ref : Ref) : Prop :=
  before.cells.size ≤ ref.index ∧ after.Unfolds depth type ref tree

theorem Store.Plants.kept {first before after last : Store} {depth : Nat} {type : ObjType}
    {tree : Tree depth type} {ref : Ref} (earlier : first.Extends before)
    (later : after.Extends last) (plants : before.Plants after depth type tree ref) :
    first.Plants last depth type tree ref :=
  ⟨Nat.le_trans earlier.size_le plants.1, plants.2.grow later⟩

private theorem Carrier.Visitor.planting_carries {Handle : ObjType → Type}
    (plant : (type : ObjType) → Handle type → StateM Store Ref)
    (plants : Store → Store → (type : ObjType) → Handle type → Ref → Prop)
    (kept : ∀ {first before after last : Store} {type copy ref}, first.Extends before →
      after.Extends last → plants before after type copy ref → plants first last type copy ref)
    (works : ∀ {type copy before ref after}, plant type copy before = (ref, after) →
      before.Planted after ∧ plants before after type copy ref) :
    (Carrier.Visitor.planting plant).Carries (Running.state Store) Store.Planted
      (Carrier.Relation.planted plants) where
  same_grows := .refl
  grows_trans := .trans
  kept earlier later :=
    { handle := fun _ _ _ => kept earlier.grown later.grown
      loads := fun _ _ => .kept earlier.grown later.grown
      memo := fun _ _ => id }
  handle := works
  loads := Store.planted_newCounter
  memo := by
    intro _ before result after ran
    cases ran
    exact ⟨.refl before, rfl⟩

theorem Tree.plant_spec {depth : Nat} {type : ObjType} {tree : Tree depth type}
    {before after : Store} {ref : Ref} (ran : tree.plant depth type before = (ref, after)) :
    before.Planted after ∧ before.Plants after depth type tree ref := by
  induction depth generalizing type before after ref with
  | zero => exact tree.elim
  | succ depth ih =>
      obtain ⟨data, between, traversed, added⟩ := (Running.state Store).runs_bind ran
      have carries := Carrier.Visitor.planting_carries (plant depth)
        (fun before after => before.Plants after depth) (fun earlier later => .kept earlier later) ih
      obtain ⟨planted, alike⟩ := Shape.matches_traverse carries traversed
      cases (Store.alloc_eq between type data).symm.trans added
      have extension := Store.extends_add between [{ type := type, data := data }]
      have handles := Shape.handles_of_matches
        (fun type ref => between.Leads ⟨type, ref⟩ ∧ before.cells.size ≤ Ref.index ref) alike
        fun _ _ _ plants => ⟨plants.2.leads, plants.1⟩
      have top : (between.add [{ type := type, data := data }]).cell? ⟨between.cells.size⟩ =
          some { type := type, data := data } :=
        @Store.cell?_add_of_getElem? between [{ type := type, data := data }] 0 _ rfl
      refine ⟨planted.add ?_ ?_ ?_, planted.grown.size_le, ?_, data, ?_, ?_⟩
      · intro cell member
        cases List.mem_singleton.mp member
        rfl
      · intro cell member child below
        cases List.mem_singleton.mp member
        obtain ⟨item, within, rfl⟩ := List.mem_map.mp below
        obtain ⟨leads, above⟩ := handles item within
        exact ⟨extension.leads leads, above⟩
      · intro cell member
        cases List.mem_singleton.mp member
        exact Shape.counters_of_matches alike fun _ _ anew => anew.new
      · rw [Store.isPoisoned, top]
        rfl
      · exact Store.data?_eq_some.mpr ⟨false, top⟩
      · exact alike.flip.imp
          { handle := fun _ _ _ plants => plants.2.grow extension
            loads := fun _ _ _ => trivial
            memo := fun _ _ _ => trivial }

def Embedded.Plants (before after : Store) (type : ObjType) (copy : Embedded type) (ref : Ref) :
    Prop :=
  before.Plants after copy.depth type copy.tree ref

theorem Embedded.plant_spec {type : ObjType} {copy : Embedded type} {before after : Store}
    {ref : Ref} (ran : copy.plant before = (ref, after)) :
    before.Planted after ∧ copy.Plants before after type ref :=
  Tree.plant_spec ran

end ObjectCourier
