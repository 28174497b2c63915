import ObjectCourier.Proofs.Graph.Building

/-!
Where the objects of a plan are put. The copies in an object are planted on a stretch of their own,
object after object, and the objects stand behind all stretches. Every new place has one name, by the
id of the object that it belongs to, and the names do not tell in which order the objects were made.
-/

namespace ObjectCourier

namespace ObjectPlan

/-- The store when it is the turn of the object of the id to have its copies planted. -/
def stage : List ObjectPlan → Store → RefId → Store
  | [], store, _ => store
  | plan :: others, store, id =>
      if plan.id = id then store else stage others (plan.plantCopies store).2 id

def staged (plans : List ObjectPlan) (store : Store) (object : ObjectPlan) : HalfwayObject × Store :=
  object.plantCopies (stage plans store object.id)

variable {first object other : ObjectPlan} {plans others : List ObjectPlan} {store : Store}

private theorem extends_plantCopies (plan : ObjectPlan) (store : Store) :
    store.Extends (plan.plantCopies store).2 :=
  (plantCopies_spec rfl).1.grown

private theorem extends_mapM_plantCopies (plans : List ObjectPlan) (store : Store) :
    store.Extends (plans.mapM plantCopies store).2 :=
  (mapM_plantCopies rfl).1.grown

private theorem mapM_plantCopies_cons (first : ObjectPlan) (others : List ObjectPlan)
    (store : Store) : (first :: others).mapM plantCopies store =
      ((first.plantCopies store).1 :: (others.mapM plantCopies (first.plantCopies store).2).1,
        (others.mapM plantCopies (first.plantCopies store).2).2) := by
  rw [List.mapM_cons]
  rfl

private theorem staged_first : staged (first :: others) store first = first.plantCopies store := by
  unfold staged stage
  rw [if_pos rfl]

private theorem stage_later {id : RefId} (apart : first.id ≠ id) :
    stage (first :: others) store id = stage others (first.plantCopies store).2 id := if_neg apart

private theorem staged_later (apart : first.id ≠ object.id) :
    staged (first :: others) store object = staged others (first.plantCopies store).2 object := by
  unfold staged
  rw [stage_later apart]

private theorem extends_stage (plans : List ObjectPlan) (store : Store) (id : RefId) :
    store.Extends (stage plans store id) := by
  induction plans generalizing store with
  | nil => exact .refl store
  | cons first others ih =>
      unfold stage
      split
      · exact .refl store
      · exact (extends_plantCopies first store).trans (ih _)

section Distinct

variable (distinct : (plans.map fun plan => plan.id).Nodup)

include distinct

private theorem mapM_plantCopies_eq :
    (plans.mapM plantCopies store).1 = plans.map fun object => (staged plans store object).1 := by
  induction plans generalizing store with
  | nil => rfl
  | cons first others ih =>
      rw [List.map_cons, List.nodup_cons] at distinct
      rw [mapM_plantCopies_cons, List.map_cons, staged_first]
      refine congrArg (_ :: ·) ((ih distinct.2).trans (List.map_congr_left fun object later => ?_))
      have apart : first.id ≠ object.id := fun same => distinct.1 (same ▸ List.mem_map_of_mem later)
      rw [staged_later apart]

private theorem staged_extends (member : object ∈ plans) :
    (staged plans store object).2.Extends (plans.mapM plantCopies store).2 := by
  induction plans generalizing store with
  | nil => cases member
  | cons first others ih =>
      rw [List.map_cons, List.nodup_cons] at distinct
      rw [mapM_plantCopies_cons]
      rcases List.mem_cons.mp member with rfl | later
      · rw [staged_first]
        exact extends_mapM_plantCopies others _
      · have apart : first.id ≠ object.id :=
          fun same => distinct.1 (same ▸ List.mem_map_of_mem later)
        rw [staged_later apart]
        exact ih distinct.2 later

private theorem staged_apart (member : object ∈ plans) (another : other ∈ plans)
    (apart : object.id ≠ other.id) :
    (staged plans store object).2.Extends (stage plans store other.id) ∨
      (staged plans store other).2.Extends (stage plans store object.id) := by
  induction plans generalizing store with
  | nil => cases member
  | cons first others ih =>
      rw [List.map_cons, List.nodup_cons] at distinct
      have fresh : ∀ later ∈ others, first.id ≠ later.id :=
        fun later inside same => distinct.1 (same ▸ List.mem_map_of_mem inside)
      rcases List.mem_cons.mp member with rfl | later <;>
        rcases List.mem_cons.mp another with rfl | beyond
      · exact absurd rfl apart
      · rw [staged_first, stage_later (fresh other beyond)]
        exact .inl (extends_stage others _ _)
      · rw [staged_first, stage_later (fresh object later)]
        exact .inr (extends_stage others _ _)
      · rw [staged_later (fresh object later), staged_later (fresh other beyond),
          stage_later (fresh object later), stage_later (fresh other beyond)]
        exact ih distinct.2 later beyond

end Distinct

end ObjectPlan

inductive Site where
  | copied (id : RefId) (offset : Nat)
  | made (id : RefId)

namespace GraphPlan

variable (plan : GraphPlan) (before : Store)

def between : Store := (plan.objects.mapM ObjectPlan.plantCopies before).2

def placeOf : Site → Ref
  | .copied id offset => ⟨(ObjectPlan.stage plan.objects before id).cells.size + offset⟩
  | .made id => plan.place (plan.between before).cells.size id

def counterOf (id : RefId) (offset : Nat) : CounterId :=
  ⟨(ObjectPlan.stage plan.objects before id).counters.size + offset⟩

/-- An object of the plan needs the place. -/
def Needs : Site → Prop
  | .copied id offset => ∃ object ∈ plan.objects, object.id = id ∧
      (plan.placeOf before (.copied id offset)).index <
        (ObjectPlan.staged plan.objects before object).2.cells.size
  | .made id => ∃ object ∈ plan.objects, object.id = id

def Counts (id : RefId) (offset : Nat) : Prop :=
  ∃ object ∈ plan.objects, object.id = id ∧
    (plan.counterOf before id offset).index <
      (ObjectPlan.staged plan.objects before object).2.counters.size

variable {plan before} (distinct : (plan.objects.map fun object => object.id).Nodup)

include distinct

private theorem stretch_injective (measure : Store → Nat)
    (grows : ∀ {early late : Store}, early.Extends late → measure early ≤ measure late)
    {object other : ObjectPlan} (member : object ∈ plan.objects) (another : other ∈ plan.objects)
    {offset distance : Nat}
    (inside : measure (ObjectPlan.stage plan.objects before object.id) + offset <
      measure (ObjectPlan.staged plan.objects before object).2)
    (within : measure (ObjectPlan.stage plan.objects before other.id) + distance <
      measure (ObjectPlan.staged plan.objects before other).2)
    (same : measure (ObjectPlan.stage plan.objects before object.id) + offset =
      measure (ObjectPlan.stage plan.objects before other.id) + distance) :
    object.id = other.id ∧ offset = distance := by
  by_cases one : object.id = other.id
  · rw [one] at same
    exact ⟨one, Nat.add_left_cancel same⟩
  · have turns : (ObjectPlan.staged plan.objects before object).2.Extends
          (ObjectPlan.stage plan.objects before other.id) ∨
        (ObjectPlan.staged plan.objects before other).2.Extends
          (ObjectPlan.stage plan.objects before object.id) :=
      ObjectPlan.staged_apart distinct member another one
    -- What comes later starts behind all that was made before, so no sum can be the same.
    rcases turns with earlier | later
    · have order := grows earlier
      omega
    · have order := grows later
      omega

private theorem copied_ne_made {id other : RefId} {offset : Nat}
    (needed : plan.Needs before (.copied id offset)) :
    plan.placeOf before (.copied id offset) ≠ plan.placeOf before (.made other) := by
  obtain ⟨object, member, rfl, inside⟩ := needed
  intro same
  have bound : _ ≤ (plan.between before).cells.size :=
    (ObjectPlan.staged_extends distinct member).size_le
  rw [same] at inside
  have behind : (plan.between before).cells.size ≤ (plan.placeOf before (.made other)).index :=
    Nat.le_add_right _ _
  omega

theorem placeOf_injective {left right : Site} (needed : plan.Needs before left)
    (also : plan.Needs before right) (same : plan.placeOf before left = plan.placeOf before right) :
    left = right := by
  match left, right with
  | .copied _ _, .copied _ _ =>
      obtain ⟨object, member, rfl, inside⟩ := needed
      obtain ⟨other, another, rfl, within⟩ := also
      obtain ⟨ids, offsets⟩ := stretch_injective distinct (fun store => store.cells.size)
        (fun extension => extension.size_le) member another inside within (congrArg Ref.index same)
      rw [ids, offsets]
  | .copied _ _, .made _ => exact absurd same (copied_ne_made distinct needed)
  | .made _, .copied _ _ => exact absurd same.symm (copied_ne_made distinct also)
  | .made _, .made _ =>
      obtain ⟨object, member, rfl⟩ := needed
      obtain ⟨other, another, rfl⟩ := also
      obtain ⟨position, present⟩ := List.getElem?_of_mem member
      obtain ⟨index, found⟩ := List.getElem?_of_mem another
      have places : Ref.mk (_ + position) = Ref.mk (_ + index) :=
        (place_of_getElem? distinct present _).symm.trans
          (same.trans (place_of_getElem? distinct found _))
      have positions : position = index := Nat.add_left_cancel (congrArg Ref.index places)
      rw [positions, found] at present
      cases present
      rfl

theorem counterOf_injective {id other : RefId} {offset distance : Nat}
    (counts : plan.Counts before id offset) (also : plan.Counts before other distance)
    (same : plan.counterOf before id offset = plan.counterOf before other distance) :
    id = other ∧ offset = distance := by
  obtain ⟨object, member, rfl, inside⟩ := counts
  obtain ⟨twin, another, rfl, within⟩ := also
  exact stretch_injective distinct (fun store => store.counters.size)
    (fun extension => extension.counters_size_le) member another inside within
    (congrArg CounterId.index same)

/-- The objects of a plan in terms of their turns. -/
theorem build_staged : plan.build before =
    ({ type := plan.rootType, ref := plan.placeOf before (.made plan.root) },
      (plan.between before).add (plan.objects.map fun object =>
        (ObjectPlan.staged plan.objects before object).1.cell
          (plan.place (plan.between before).cells.size))) := by
  have ran : plan.objects.mapM ObjectPlan.plantCopies before =
      (plan.objects.map fun object => (ObjectPlan.staged plan.objects before object).1,
        plan.between before) := Prod.ext (ObjectPlan.mapM_plantCopies_eq distinct) rfl
  rw [plan.build_eq ran, List.map_map]
  rfl

theorem staged_extends_build (before : Store) {object : ObjectPlan}
    (member : object ∈ plan.objects) :
    (ObjectPlan.staged plan.objects before object).2.Extends (plan.build before).2 := by
  rw [build_staged distinct]
  exact (ObjectPlan.staged_extends distinct member).trans (Store.extends_add _ _)

theorem cell?_made (before : Store) {object : ObjectPlan} (member : object ∈ plan.objects) :
    (plan.build before).2.cell? (plan.placeOf before (.made object.id)) =
      some ((ObjectPlan.staged plan.objects before object).1.cell
        (plan.place (plan.between before).cells.size)) := by
  obtain ⟨position, present⟩ := List.getElem?_of_mem member
  have place : plan.placeOf before (.made object.id) =
      ⟨(plan.between before).cells.size + position⟩ := place_of_getElem? distinct present _
  rw [build_staged distinct, place]
  refine Store.cell?_add_of_getElem? ?_
  rw [List.getElem?_map, present]
  rfl

theorem outstanding_counterOf {id : RefId} {offset : Nat} (counts : plan.Counts before id offset)
    {store : Store} (kept : (plan.build before).2.Extends store) :
    store.outstanding (plan.counterOf before id offset) = 0 := by
  obtain ⟨object, member, rfl, inside⟩ := counts
  have planted : (ObjectPlan.stage plan.objects before object.id).Planted
      (ObjectPlan.staged plan.objects before object).2 := (ObjectPlan.plantCopies_spec rfl).1
  have extension := (staged_extends_build distinct before member).trans kept
  rw [extension.outstanding_eq inside]
  exact planted.counters _ (Nat.le_add_right _ _)

end GraphPlan

end ObjectCourier
