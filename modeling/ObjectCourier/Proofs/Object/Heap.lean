import Mathlib.Data.List.Nodup
import Mathlib.Data.List.Perm.Subperm
import ObjectCourier.Object.Store
import ObjectCourier.Proofs.Object.Matching

/-!
Stores as heaps. The handles of an object lead to its children; in a well-typed store every handle
leads to an object of its type. A store extends another when it keeps all of its objects and
counters as they are.
-/

namespace ObjectCourier

variable {Handle Other : ObjType → Type} {source target : Carrier}

/-- The handles in a value, walked or not, in the order of their places. -/
def FieldType.handles : (type : FieldType) → type.Val Handle → List ((type : ObjType) × Handle type)
  | option type, value =>
      match (show Option (type.Val Handle) from value) with
      | none => []
      | some inner => handles type inner
  | vector type, value => (show List (type.Val Handle) from value).flatMap (handles type)
  | handle type, value => [⟨type, value⟩]
  | int _, _ | float32, _ | float64, _ | bool, _ | text, _ => []

def Form.handles : (form : Form) → form.Val source → List ((type : ObjType) × source.Handle type)
  | bare type, value | aside type, value => type.handles value
  | container type, value =>
      match (show Container (type.Val source.Handle) from value).value? with
      | none => []
      | some held => type.handles held
  | loads, _ | memo, _ => []

def Members.handles : (members : List Member) → Members source members →
    List ((type : ObjType) × source.Handle type)
  | [], _ => []
  | member :: others, (first, rest) => member.form.handles first ++ handles others rest

def Shape.handles : (shape : Shape) → shape.Data source → List ((type : ObjType) × source.Handle type)
  | fields members, data => Members.handles members data
  | elements type, items => (show List (source.Handle type) from items).map fun item => ⟨type, item⟩

def Form.counters : (form : Form) → form.Val source → List source.Loads
  | loads, counter => [counter]
  | bare _, _ | container _, _ | aside _, _ | memo, _ => []

def Members.counters : (members : List Member) → Members source members → List source.Loads
  | [], _ => []
  | member :: others, (first, rest) => member.form.counters first ++ counters others rest

def Shape.counters : (shape : Shape) → shape.Data source → List source.Loads
  | fields members, data => Members.counters members data
  | elements _, _ => []

theorem exists_left_of_forall₂ {α β : Type} {related : α → β → Prop} {left : List α}
    {right : List β} (alike : List.Forall₂ related left right) {item : β} (member : item ∈ right) :
    ∃ origin ∈ left, related origin item := by
  induction alike with
  | nil => cases member
  | cons head _ ih =>
      rcases List.mem_cons.mp member with rfl | later
      · exact ⟨_, List.mem_cons_self, head⟩
      · obtain ⟨origin, present, both⟩ := ih later
        exact ⟨origin, List.mem_cons_of_mem _ present, both⟩

inductive Paired (same : (type : ObjType) → Handle type → Other type → Prop) :
    (type : ObjType) × Handle type → (type : ObjType) × Other type → Prop where
  | both {type : ObjType} {left : Handle type} {right : Other type}
      (related : same type left right) : Paired same ⟨type, left⟩ ⟨type, right⟩

/-- The handles of values that match are related, one by one. -/
theorem FieldType.handles_paired {same : (type : ObjType) → Handle type → Other type → Prop}
    {type : FieldType} {left : type.Val Handle} {right : type.Val Other}
    (alike : type.Matches same left right) :
    List.Forall₂ (Paired same) (type.handles left) (type.handles right) := by
  induction type with
  | int kind | float32 | float64 | bool | text => exact .nil
  | option type ih =>
      match left, right, alike with
      | none, none, _ => exact .nil
      | some _, some _, alike => exact ih alike
  | vector type ih =>
      have items : List.Forall₂ (type.Matches same) left right := alike
      exact List.rel_flatMap items fun _ _ => ih
  | handle type => exact .cons (.both alike) .nil

section Pairs

variable {relation : Carrier.Relation source target}

theorem Form.handles_paired {form : Form} {left : form.Val source} {right : form.Val target}
    (alike : form.Matches relation left right) :
    List.Forall₂ (Paired relation.handle) (form.handles left) (form.handles right) := by
  cases form with
  | bare type | aside type => exact FieldType.handles_paired alike
  | container type =>
      match left, right, Container.Matches.held alike with
      | ⟨_, .empty, _, _⟩, ⟨_, .empty, _, _⟩, _ => exact .nil
      | ⟨_, .plain _, _, _⟩, ⟨_, .plain _, _, _⟩, held
      | ⟨_, .tracked _, _, _⟩, ⟨_, .tracked _, _, _⟩, held => exact FieldType.handles_paired held
  | loads | memo => exact .nil

theorem Members.handles_paired {members : List Member} {left : Members source members}
    {right : Members target members} (alike : Members.Matches relation members left right) :
    List.Forall₂ (Paired relation.handle) (Members.handles members left)
      (Members.handles members right) := by
  induction members with
  | nil => exact .nil
  | cons member others ih => exact List.rel_append (Form.handles_paired alike.1) (ih alike.2)

theorem Shape.handles_paired {shape : Shape} {left : shape.Data source} {right : shape.Data target}
    (alike : shape.Matches relation left right) :
    List.Forall₂ (Paired relation.handle) (shape.handles left) (shape.handles right) := by
  cases shape with
  | fields members => exact Members.handles_paired alike
  | elements type =>
      have items : List.Forall₂ (relation.handle type) left right := alike
      exact List.rel_map (fun _ _ => .both) items

end Pairs

theorem FieldType.handles_of_matches {same : (type : ObjType) → Handle type → Other type → Prop}
    (good : (type : ObjType) → Other type → Prop) {type : FieldType} {left : type.Val Handle}
    {right : type.Val Other} (alike : type.Matches same left right)
    (implies : ∀ type left right, same type left right → good type right) :
    ∀ child ∈ type.handles right, good child.1 child.2 := by
  intro child member
  obtain ⟨_, _, ⟨related⟩⟩ := exists_left_of_forall₂ (handles_paired alike) member
  exact implies _ _ _ related

theorem Shape.handles_of_matches {relation : Carrier.Relation source target}
    (good : (type : ObjType) → target.Handle type → Prop) {shape : Shape} {left : shape.Data source}
    {right : shape.Data target} (alike : shape.Matches relation left right)
    (implies : ∀ type left right, relation.handle type left right → good type right) :
    ∀ child ∈ shape.handles right, good child.1 child.2 := by
  intro child member
  obtain ⟨_, _, ⟨related⟩⟩ := exists_left_of_forall₂ (handles_paired alike) member
  exact implies _ _ _ related

section Counters

variable {relation : Carrier.Relation source target} {good : target.Loads → Prop}

theorem Form.counters_of_matches {form : Form} {left : form.Val source} {right : form.Val target}
    (alike : form.Matches relation left right)
    (implies : ∀ left right, relation.loads left right → good right) :
    ∀ counter ∈ form.counters right, good counter := by
  intro counter member
  cases form with
  | loads =>
      rw [List.mem_singleton.mp member]
      exact implies left right alike
  | bare _ | container _ | aside _ | memo => cases member

theorem Members.counters_of_matches {members : List Member} {left : Members source members}
    {right : Members target members} (alike : Members.Matches relation members left right)
    (implies : ∀ left right, relation.loads left right → good right) :
    ∀ counter ∈ Members.counters members right, good counter := by
  induction members with
  | nil =>
      intro counter member
      cases member
  | cons member others ih =>
      intro counter present
      rcases List.mem_append.mp present with here | there
      · exact Form.counters_of_matches alike.1 implies counter here
      · exact ih alike.2 counter there

theorem Shape.counters_of_matches {shape : Shape} {left : shape.Data source}
    {right : shape.Data target} (alike : shape.Matches relation left right)
    (implies : ∀ left right, relation.loads left right → good right) :
    ∀ counter ∈ shape.counters right, good counter := by
  cases shape with
  | fields members => exact Members.counters_of_matches alike implies
  | elements type =>
      intro counter member
      cases member

end Counters

section Self

variable {source : Carrier} {Handle : ObjType → Type}

theorem FieldType.matches_self {same : (type : ObjType) → Handle type → Handle type → Prop}
    {type : FieldType} {value : type.Val Handle}
    (each : ∀ child ∈ type.handles value, same child.1 child.2 child.2) :
    type.Matches same value value := by
  induction type with
  | int kind | float32 | float64 | bool | text => rfl
  | option type ih =>
      match value with
      | none => trivial
      | some inner => exact ih each
  | vector type ih =>
      apply List.forall₂_same.mpr
      intro item present
      exact ih fun child within => each child (List.mem_flatMap.mpr ⟨item, present, within⟩)
  | handle type => exact each ⟨type, value⟩ (List.mem_singleton_self _)

variable {relation : Carrier.Relation source source} (loads : ∀ counter, relation.loads counter counter)
  (memo : ∀ value, relation.memo value value)

include loads memo

theorem Form.matches_self {form : Form} {value : form.Val source}
    (each : ∀ child ∈ form.handles value, relation.handle child.1 child.2 child.2) :
    form.Matches relation value value := by
  cases form with
  | bare type | aside type => exact FieldType.matches_self each
  | container type =>
      match value with
      | ⟨_, .empty, _, _⟩ => exact ⟨rfl, trivial, rfl, rfl⟩
      | ⟨_, .plain _, _, _⟩ | ⟨_, .tracked _, _, _⟩ =>
          exact ⟨rfl, FieldType.matches_self each, rfl, rfl⟩
  | loads => exact loads value
  | memo => exact memo value

theorem Members.matches_self {members : List Member} {value : Members source members}
    (each : ∀ child ∈ Members.handles members value, relation.handle child.1 child.2 child.2) :
    Members.Matches relation members value value := by
  induction members with
  | nil => trivial
  | cons member others ih =>
      constructor
      · apply Form.matches_self loads memo
        exact fun child present => each child (List.mem_append_left _ present)
      · apply ih
        exact fun child present => each child (List.mem_append_right _ present)

theorem Shape.matches_self {shape : Shape} {value : shape.Data source}
    (each : ∀ child ∈ shape.handles value, relation.handle child.1 child.2 child.2) :
    shape.Matches relation value value := by
  cases shape with
  | fields members => exact Members.matches_self loads memo each
  | elements type =>
      apply List.forall₂_same.mpr
      exact fun item present => each ⟨type, item⟩ (List.mem_map_of_mem present)

end Self

namespace Cell

/-- The objects that an object leads to, walked or not. -/
def children (cell : Cell) : List Node :=
  (cell.type.shape.handles cell.data).map fun child => ⟨child.1, child.2⟩

def counters (cell : Cell) : List CounterId := cell.type.shape.counters cell.data

end Cell

namespace Store

/-- The object that a node leads to is there and has the node's type. -/
def Leads (store : Store) (node : Node) : Prop :=
  ∃ cell, store.cell? node.ref = some cell ∧ cell.type = node.type

/-- Every handle in the store leads to an object of its type. -/
def WellTyped (store : Store) : Prop :=
  ∀ ref cell, store.cell? ref = some cell → ∀ child ∈ cell.children, store.Leads child

theorem data?_eq_some {store : Store} {type : ObjType} {ref : Ref}
    {data : type.Data Carrier.live} :
    store.data? type ref = some data ↔
      ∃ poisoned, store.cell? ref = some { type := type, data := data, poisoned := poisoned } := by
  unfold data?
  constructor
  · intro found
    obtain ⟨cell, present, here⟩ := Option.bind_eq_some_iff.mp found
    unfold Cell.data? at here
    split at here
    · rename_i same
      subst same
      cases here
      exact ⟨cell.poisoned, present⟩
    · cases here
  · rintro ⟨poisoned, present⟩
    rw [present]
    simp [Cell.data?]

theorem leads_iff {store : Store} {node : Node} :
    store.Leads node ↔ ∃ data, store.data? node.type node.ref = some data := by
  constructor
  · rintro ⟨⟨type, data, poisoned⟩, present, same⟩
    cases same
    exact ⟨data, data?_eq_some.mpr ⟨poisoned, present⟩⟩
  · rintro ⟨data, found⟩
    obtain ⟨poisoned, present⟩ := data?_eq_some.mp found
    exact ⟨_, present, rfl⟩

theorem Leads.eq_of_ref {store : Store} {left right : Node} (leftLeads : store.Leads left)
    (rightLeads : store.Leads right) (same : left.ref = right.ref) : left = right := by
  obtain ⟨leftCell, leftPresent, leftType⟩ := leftLeads
  obtain ⟨rightCell, rightPresent, rightType⟩ := rightLeads
  rw [same, rightPresent] at leftPresent
  cases leftPresent
  cases left
  cases right
  simp_all

theorem Leads.index_lt {store : Store} {node : Node} (leads : store.Leads node) :
    node.ref.index < store.cells.size := by
  obtain ⟨cell, present, _⟩ := leads
  exact (Array.getElem?_eq_some_iff.mp present).1

/-- The children of an object of a well-typed store. -/
theorem WellTyped.leads_of_data {store : Store} (typed : store.WellTyped) {node : Node}
    {data : node.type.Data Carrier.live} (found : store.data? node.type node.ref = some data) :
    ∀ child ∈ node.type.shape.handles data, store.Leads ⟨child.1, child.2⟩ := by
  obtain ⟨poisoned, present⟩ := data?_eq_some.mp found
  intro child member
  exact typed node.ref _ present _ (List.mem_map_of_mem member)

theorem length_le_of_nodup {store : Store} {refs : List Ref} (distinct : refs.Nodup)
    (inside : ∀ ref ∈ refs, ref.index < store.cells.size) : refs.length ≤ store.cells.size := by
  have places : (refs.map Ref.index).Nodup := by
    apply distinct.map
    rintro ⟨left⟩ ⟨right⟩ same
    exact congrArg Ref.mk same
  have covered : refs.map Ref.index ⊆ List.range store.cells.size := by
    intro place member
    obtain ⟨ref, present, rfl⟩ := List.mem_map.mp member
    exact List.mem_range.mpr (inside ref present)
  have fewer := (places.subperm covered).length_le
  rwa [List.length_map, List.length_range] at fewer

structure Extends (before after : Store) : Prop where
  cells : ∀ ref cell, before.cell? ref = some cell → after.cell? ref = some cell
  counters : ∀ (index count : Nat), before.counters[index]? = some count →
    after.counters[index]? = some count

theorem Extends.refl (store : Store) : store.Extends store :=
  ⟨fun _ _ present => present, fun _ _ present => present⟩

theorem Extends.trans {first second third : Store} (early : first.Extends second)
    (late : second.Extends third) : first.Extends third :=
  ⟨fun ref cell present => late.cells ref cell (early.cells ref cell present),
    fun index count present => late.counters index count (early.counters index count present)⟩

theorem Extends.leads {before after : Store} (extension : before.Extends after) {node : Node}
    (leads : before.Leads node) : after.Leads node := by
  obtain ⟨cell, present, same⟩ := leads
  exact ⟨cell, extension.cells _ _ present, same⟩

theorem Extends.data? {before after : Store} (extension : before.Extends after) {type : ObjType}
    {ref : Ref} {data : type.Data Carrier.live} (found : before.data? type ref = some data) :
    after.data? type ref = some data := by
  obtain ⟨poisoned, present⟩ := data?_eq_some.mp found
  exact data?_eq_some.mpr ⟨poisoned, extension.cells _ _ present⟩

theorem Extends.isPoisoned {before after : Store} (extension : before.Extends after) {node : Node}
    (leads : before.Leads node) : after.isPoisoned node.ref = before.isPoisoned node.ref := by
  obtain ⟨cell, present, _⟩ := leads
  rw [Store.isPoisoned, Store.isPoisoned, present, extension.cells _ _ present]

theorem Extends.size_le {before after : Store} (extension : before.Extends after) :
    before.cells.size ≤ after.cells.size := by
  rcases Nat.eq_zero_or_pos before.cells.size with empty | present
  · omega
  · have inside : before.cells.size - 1 < before.cells.size := by omega
    have kept := extension.cells ⟨before.cells.size - 1⟩ _ (Array.getElem?_eq_getElem inside)
    have within := (Array.getElem?_eq_some_iff.mp kept).1
    simp only at within
    omega

theorem Extends.counters_size_le {before after : Store} (extension : before.Extends after) :
    before.counters.size ≤ after.counters.size := by
  rcases Nat.eq_zero_or_pos before.counters.size with empty | present
  · omega
  · have inside : before.counters.size - 1 < before.counters.size := by omega
    have kept := extension.counters _ _ (Array.getElem?_eq_getElem inside)
    have within := (Array.getElem?_eq_some_iff.mp kept).1
    omega

def add (store : Store) (cells : List Cell) : Store :=
  { store with cells := store.cells ++ cells.toArray }

theorem add_nil (store : Store) : store.add [] = store := by
  rw [add, Array.append_empty]

theorem add_cons (store : Store) (first : Cell) (others : List Cell) :
    store.add (first :: others) = (store.add [first]).add others := by
  simp only [add, Array.append_assoc, List.append_toArray, List.singleton_append]

theorem extends_add (store : Store) (cells : List Cell) : store.Extends (store.add cells) where
  cells ref cell present := by
    obtain ⟨within, _⟩ := Array.getElem?_eq_some_iff.mp present
    exact (Array.getElem?_append_left within).trans present
  counters _ _ present := present

theorem cell?_add_of_getElem? {store : Store} {cells : List Cell} {position : Nat} {cell : Cell}
    (present : cells[position]? = some cell) :
    (store.add cells).cell? ⟨store.cells.size + position⟩ = some cell := by
  rw [cell?, add, Array.getElem?_append_right (Nat.le_add_right _ _), Nat.add_sub_cancel_left,
    List.getElem?_toArray, present]

theorem mem_of_cell?_add {store : Store} {cells : List Cell} {ref : Ref} {cell : Cell}
    (new : store.cells.size ≤ ref.index) (present : (store.add cells).cell? ref = some cell) :
    cell ∈ cells := by
  rw [cell?, add, Array.getElem?_append_right new, List.getElem?_toArray] at present
  exact List.mem_of_getElem? present

theorem alloc_eq (store : Store) (type : ObjType) (data : type.Data Carrier.live) :
    store.alloc type data =
      (⟨store.cells.size⟩, store.add [{ type := type, data := data }]) := by
  unfold alloc add
  rw [Array.push_eq_append]

theorem extends_newCounter (store : Store) : store.Extends store.newCounter.2 where
  cells _ _ present := present
  counters index count present := by
    obtain ⟨within, _⟩ := Array.getElem?_eq_some_iff.mp present
    exact (Array.getElem?_push_lt within).trans ((Array.getElem?_eq_getElem within).symm.trans present)

end Store

end ObjectCourier
