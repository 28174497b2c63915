import ObjectCourier.Proofs.Graph.Reading
import ObjectCourier.Proofs.Object.Planting

/-!
Making a graph from its payload. The payload of a walk is read as one plan for every object of the
walk; making the plans adds the copies by value first and the objects of the walk behind them, each
at the place that its id stands for. Everything that is added is new and leads to what is new.
-/

namespace ObjectCourier

theorem getElem?_ofList {α : Type} {entries : List (RefId × α)}
    (distinct : (entries.map Prod.fst).Nodup) {id : RefId} {value : α}
    (member : (id, value) ∈ entries) : (Std.TreeMap.ofList entries)[id]? = some value := by
  refine Std.TreeMap.getElem?_ofList_of_mem Std.ReflOrd.compare_self ?_ member
  refine (List.pairwise_map.mp distinct).imp fun different same => ?_
  exact different (Std.LawfulEqOrd.eq_of_compare same)

namespace Store

variable {store : Store} {registry : Registry} {order : List Node} {root : Node}

theorem Walkable.capable {policy : Policy} (walkable : store.Walkable policy [] [root] order)
    (resolves : store.Resolves policy order) (registered : policy.isCapable root.typeKey = true) :
    ∀ node ∈ order, policy.isCapable node.typeKey = true := by
  intro node member
  have reaches := (walkable.mem_iff resolves).mp member
  clear member
  induction reaches with
  | here => exact registered
  | @step parent child reached below ih =>
      have entered := (walkable.mem_iff resolves).mpr reached
      obtain ⟨slot, present, rfl⟩ := List.mem_map.mp below
      exact Describable.capable (walkable.describable parent entered) present

/-- The payload of a walk is read as a plan for each of its objects. -/
theorem Walkable.read (walkable : store.Walkable registry.policy [] [root] order)
    (resolves : store.Resolves registry.policy order)
    (registered : registry.policy.isCapable root.typeKey = true) :
    ∃ plans, GraphPlan.read registry (store.payloadOf registry.policy order) =
        .ok { root := .nth 0, rootType := root.type, objects := plans } ∧
      List.Forall₂ (store.Planned registry.policy order (numberOf order)) order plans := by
  have each : ∀ node ∈ order, ∃ draft, node ∈ order ∧
      RecordDraft.read registry (store.describe registry.policy (numberOf order) node) = .ok draft ∧
        store.Drafted registry.policy order (numberOf order) node draft := by
    intro node member
    obtain ⟨draft, read, drafted⟩ := Describable.drafted (walkable.describable node member)
      (walkable.capable resolves registered node member) order (numberOf order)
    exact ⟨draft, member, read, drafted⟩
  obtain ⟨drafts, drafted⟩ := exists_forall₂_of_mem each
  have ids : drafts.map (fun draft => draft.record.id) =
      order.map fun node => numberOf order node.ref :=
    map_eq_of_forall₂ drafted fun _ _ both => both.2.2.1
  -- Every id of the walk stands for the type of its object.
  have types : ∀ node ∈ order,
      (RecordDraft.types drafts)[numberOf order node.ref]? = some node.type := by
    intro node member
    obtain ⟨draft, present, -, -, id, type, -⟩ := exists_right_of_forall₂ drafted member
    refine getElem?_ofList ?_ (List.mem_map.mpr ⟨draft, present, by rw [id, type]⟩)
    rw [List.map_map]
    exact ids.symm ▸ numbers_nodup walkable.nodup walkable.small
  obtain ⟨plans, linked, planned⟩ := exists_forall₂ drafted fun node draft both => by
    obtain ⟨member, -, -, -, link⟩ := both
    refine link (fun id => (RecordDraft.types drafts)[id]?) fun slot inSlots => ?_
    have entered := walkable.mem_of_place (resolves node member slot inSlots)
      (walkable.children_seen member inSlots)
    exact ⟨entered, types slot.child entered⟩
  refine ⟨plans, ?_, planned⟩
  have read : (store.payloadOf registry.policy order).records.mapM (RecordDraft.read registry) =
      .ok drafts :=
    mapM_eq_ok.mpr (List.forall₂_map_left_iff.mpr (drafted.imp fun _ _ both => both.2.1))
  have root := types root walkable.root_mem
  rw [walkable.number_root] at root
  unfold GraphPlan.read
  rw [walkable.validate]
  refine bind_eq_ok.mpr ⟨(), rfl, bind_eq_ok.mpr ⟨drafts, read, ?_⟩⟩
  refine bind_eq_ok.mpr ⟨plans, mapM_eq_ok.mpr linked, ?_⟩
  simp only [payloadOf, root]
  rfl

end Store

/-- The first pass plants the copies, keeps the ids, and counts anew. -/
def Carrier.Relation.halfway (before after : Store) :
    Carrier.Relation Carrier.sourced Carrier.halfway where
  handle type source half := match source with
    | .copy copy => ∃ ref, half = .inl ref ∧ copy.Plants before after type ref
    | .record id => half = .inr id
  loads _ counter := before.CountsAnew after counter
  memo _ memo := memo = IntKind.zero .u32

def Carrier.Relation.built (place : RefId → Ref) (before after : Store) :
    Carrier.Relation Carrier.sourced Carrier.live where
  handle type source ref := match source with
    | .copy copy => copy.Plants before after type ref
    | .record id => ref = place id
  loads _ counter := before.CountsAnew after counter
  memo _ memo := memo = IntKind.zero .u32

private theorem Carrier.Visitor.plantingCopies_carries :
    Carrier.Visitor.plantingCopies.Carries (Running.state Store) Store.Planted
      Carrier.Relation.halfway where
  same_grows := .refl
  grows_trans := .trans
  kept earlier later :=
    { handle := fun type source half alike => by
        cases source with
        | copy copy =>
            obtain ⟨ref, same, plants⟩ := alike
            exact ⟨ref, same, plants.kept earlier.grown later.grown⟩
        | record id => exact alike
      loads := fun _ _ => .kept earlier.grown later.grown
      memo := fun _ _ => id }
  handle := by
    intro type source before result after ran
    cases source with
    | copy copy =>
        obtain ⟨ref, between, ranPlant, ended⟩ := (Running.state Store).runs_bind ran
        obtain ⟨rfl, rfl⟩ := (Running.state Store).runs_pure ended
        obtain ⟨planted, plants⟩ := Embedded.plant_spec ranPlant
        exact ⟨planted, ref, rfl, plants⟩
    | record id =>
        obtain ⟨rfl, rfl⟩ := (Running.state Store).runs_pure ran
        exact ⟨.refl _, rfl⟩
  loads := Store.planted_newCounter
  memo := by
    intro _ before result after ran
    obtain ⟨rfl, rfl⟩ := (Running.state Store).runs_pure ran
    exact ⟨.refl _, rfl⟩

def HalfwayObject.cell (place : RefId → Ref) (object : HalfwayObject) : Cell where
  type := object.type
  data := Id.run (object.type.traverse (.placing place) object.data)

def Carrier.Relation.placed (place : RefId → Ref) :
    Carrier.Relation Carrier.halfway Carrier.live where
  handle _ half ref := ref = Sum.elim (fun planted => planted) place half
  loads left right := right = left
  memo left right := right = left

theorem HalfwayObject.placed (place : RefId → Ref) (object : HalfwayObject) :
    object.type.shape.Matches (.placed place) object.data (object.cell place).data :=
  Shape.matches_of_plain (@Carrier.Visitor.plain_carries _ _ (.placing place) (.placed place)
    (fun _ half => by cases half <;> rfl) (fun _ => rfl) (fun _ => rfl)) object.type.shape object.data

def ObjectPlan.Begun (before after : Store) (plan : ObjectPlan) (object : HalfwayObject) : Prop :=
  ∃ data, object = { type := plan.type, data := data } ∧
    plan.type.shape.Matches (.halfway before after) plan.data data

theorem ObjectPlan.plantCopies_spec {plan : ObjectPlan} {before after : Store}
    {object : HalfwayObject} (ran : plan.plantCopies before = (object, after)) :
    before.Planted after ∧ plan.Begun before after object := by
  obtain ⟨data, between, traversed, ended⟩ := (Running.state Store).runs_bind ran
  obtain ⟨rfl, rfl⟩ := (Running.state Store).runs_pure ended
  obtain ⟨planted, alike⟩ :=
    Shape.matches_traverse Carrier.Visitor.plantingCopies_carries traversed
  exact ⟨planted, data, rfl, alike⟩

theorem ObjectPlan.mapM_plantCopies {plans : List ObjectPlan} {before after : Store}
    {objects : List HalfwayObject}
    (ran : (plans.mapM ObjectPlan.plantCopies) before = (objects, after)) :
    before.Planted after ∧ List.Forall₂ (Begun before after) plans objects := by
  refine (Running.state Store).mapM_matches Store.Planted.refl Store.Planted.trans
    (fun before after => Begun before after) ?_ plantCopies_spec ran
  rintro first between last final plan object earlier later ⟨data, same, alike⟩
  exact ⟨data, same, alike.imp (Carrier.Visitor.plantingCopies_carries.kept earlier later)⟩

theorem ObjectPlan.Begun.cell {plan : ObjectPlan} {before after : Store} {object : HalfwayObject}
    (begun : plan.Begun before after object) (place : RefId → Ref) :
    ∃ data, object.cell place = { type := plan.type, data := data } ∧
      plan.type.shape.Matches (.built place before after) plan.data data := by
  obtain ⟨halfway, rfl, alike⟩ := begun
  have placed := HalfwayObject.placed place { type := plan.type, data := halfway }
  refine ⟨_, rfl, alike.comp placed { handle := ?_, loads := ?_, memo := ?_ }⟩
  · intro type source half ref begun same
    cases source with
    | copy copy =>
        obtain ⟨planted, rfl, plants⟩ := begun
        cases same
        exact plants
    | record id =>
        cases begun
        exact same
  · rintro _ counter _ anew rfl
    exact anew
  · rintro _ memo _ zero rfl
    exact zero

private theorem HalfwayObject.mapM_alloc (place : RefId → Ref) (objects : List HalfwayObject)
    (store : Store) :
    (objects.mapM (HalfwayObject.alloc place) store).2 =
      store.add (objects.map (HalfwayObject.cell place)) := by
  induction objects generalizing store with
  | nil => exact (Store.add_nil store).symm
  | cons first others ih =>
      rw [List.mapM_cons, List.map_cons, Store.add_cons]
      exact ih (store.add [first.cell place])

/-- Where the object of a record will stand. -/
def GraphPlan.place (plan : GraphPlan) (base : Nat) (id : RefId) : Ref :=
  ⟨base + plan.positions.getD id plan.objects.length⟩

/-- First all copies are planted, then all objects are added behind them. -/
theorem GraphPlan.build_eq {plan : GraphPlan} {before between : Store}
    {objects : List HalfwayObject}
    (ran : (plan.objects.mapM ObjectPlan.plantCopies) before = (objects, between)) :
    plan.build before =
      ({ type := plan.rootType, ref := plan.place between.cells.size plan.root },
        between.add (objects.map (HalfwayObject.cell (plan.place between.cells.size)))) := by
  rw [← HalfwayObject.mapM_alloc]
  unfold build
  rw [bind_of_ran ran]
  rfl

def placedFrom (base : Nat) (order : List Node) (ref : Ref) : Ref :=
  ⟨base + (places order).idxOf ref⟩

private theorem placedFrom_injective {base : Nat} {order : List Node} {left right : Ref}
    (member : left ∈ places order) (same : placedFrom base order left = placedFrom base order right) :
    left = right := by
  have indices := congrArg Ref.index same
  simp only [placedFrom, Nat.add_left_cancel_iff] at indices
  exact (List.idxOf_inj member).mp indices

theorem GraphPlan.place_of_getElem? {plan : GraphPlan}
    (distinct : (plan.objects.map fun object => object.id).Nodup) {position : Nat}
    {object : ObjectPlan} (present : plan.objects[position]? = some object) (base : Nat) :
    plan.place base object.id = ⟨base + position⟩ := by
  have found : plan.positions[object.id]? = some position := by
    refine getElem?_ofList ?_ (List.mem_map.mpr ⟨(object, position), ?_, rfl⟩)
    · have ids := congrArg (List.map fun object : ObjectPlan => object.id)
        (List.zipIdx_map_fst 0 plan.objects)
      rw [List.map_map] at ids ⊢
      exact ids ▸ distinct
    · exact List.mem_zipIdx_iff_getElem?.mpr present
  unfold place
  rw [Std.TreeMap.getD_eq_getD_getElem?, found]
  rfl

private theorem GraphPlan.place_eq {plan : GraphPlan} {order : List Node}
    (ids : plan.objects.map (fun object => object.id) = order.map fun node => numberOf order node.ref)
    (distinct : (places order).Nodup) (small : order.length ≤ RefId.limit) (base : Nat) {ref : Ref}
    (member : ref ∈ places order) :
    plan.place base (numberOf order ref) = placedFrom base order ref := by
  have inside := position_lt member
  have length : plan.objects.length = order.length := by
    have lengths := congrArg List.length ids
    rwa [List.length_map, List.length_map] at lengths
  have within : (places order).idxOf ref < plan.objects.length := length ▸ inside
  have id : plan.objects[(places order).idxOf ref].id = numberOf order ref := by
    have here : (plan.objects.map fun object => object.id)[(places order).idxOf ref]? =
        (order.map fun node => numberOf order node.ref)[(places order).idxOf ref]? := by
      rw [ids]
    rw [List.getElem?_map, List.getElem?_map, List.getElem?_eq_getElem within,
      List.getElem?_eq_getElem inside] at here
    simp only [Option.map_some, Option.some.injEq] at here
    rw [here, numberOf_getElem distinct inside]
    rfl
  have apart : (plan.objects.map fun object => object.id).Nodup :=
    ids ▸ numbers_nodup distinct small
  rw [← id]
  exact place_of_getElem? apart (List.getElem?_eq_getElem within) base

/-- What stands in the places of an object that was copied: the moved object of a node of the walk, a
new object with the same tree below it for any other node, and new counts. -/
def Store.copying (source before after : Store) (order : List Node) (place : Ref → Ref) :
    Restoration Carrier.live where
  walked type ref target := ⟨type, ref⟩ ∈ order ∧ target = place ref
  copied type ref target := before.cells.size ≤ Ref.index target ∧
    ∃ depth tree, source.Unfolds depth type ref tree ∧ after.Unfolds depth type target tree
  begun type copy target := before.cells.size ≤ Ref.index target ∧
    after.Unfolds copy.depth type target copy.tree
  loads counter := before.CountsAnew after counter
  memo memo := memo = IntKind.zero .u32

/-- Beside what was there before, the store has a copy of every object of a walk through the source:
each at a new place of its own, and with nothing in it that was there before. -/
structure Store.Copied (source before after : Store) (policy : Policy) (order : List Node)
    (place : Ref → Ref) : Prop where
  planted : before.Planted after
  new : ∀ ref ∈ places order, before.cells.size ≤ (place ref).index
  apart : ∀ left ∈ places order, ∀ right ∈ places order, place left = place right → left = right
  objects : ∀ node ∈ order, ∃ data copy, source.data? node.type node.ref = some data ∧
    after.data? node.type (place node.ref) = some copy ∧
      node.type.shape.Restored (source.copying before after order place) policy node.typeKey data
        copy

private theorem Store.reading_becomes {source before between after : Store} {order : List Node}
    {number : Ref → RefId} {place : RefId → Ref} {moved : Ref → Ref}
    (extension : between.Extends after)
    (places_eq : ∀ ref ∈ places order, place (number ref) = moved ref) :
    (source.reading order number).Becomes (.built place before between)
      (source.copying before after order moved) where
  walked := by
    rintro type ref _ right ⟨member, rfl⟩ same
    exact ⟨member, same.trans (places_eq ref (mem_places member))⟩
  copied := by
    rintro type ref _ right ⟨copy, rfl, unfolds⟩ ⟨new, planted⟩
    exact ⟨new, copy.depth, copy.tree, unfolds, planted.grow extension⟩
  begun := by
    rintro type copy _ right rfl ⟨new, planted⟩
    exact ⟨new, planted.grow extension⟩
  loads _ _ _ anew := anew.kept (.refl before) extension
  memo _ _ _ zero := zero

/-- The cell is a copy of the object. -/
def Store.CopiedAs (source before after : Store) (policy : Policy) (order : List Node)
    (place : Ref → Ref) (node : Node) (cell : Cell) : Prop :=
  ∃ data copy, source.data? node.type node.ref = some data ∧
    cell = { type := node.type, data := copy } ∧
      node.type.shape.Restored (source.copying before after order place) policy node.typeKey data
        copy

private theorem Store.copied_of_add {source before between : Store} {policy : Policy}
    {order : List Node}
    {cells : List Cell} (planted : before.Planted between) (distinct : (places order).Nodup)
    (copies : List.Forall₂ (source.CopiedAs before (between.add cells) policy order
      (placedFrom between.cells.size order)) order cells) :
    source.Copied before (between.add cells) policy order
      (placedFrom between.cells.size order) := by
  have extension := extends_add between cells
  have old := planted.grown.size_le
  have found : ∀ node ∈ order, ∃ cell,
      (between.add cells).cell? (placedFrom between.cells.size order node.ref) = some cell ∧
        source.CopiedAs before (between.add cells) policy order
          (placedFrom between.cells.size order) node cell := by
    intro node member
    obtain ⟨position, inside, rfl⟩ := List.getElem_of_mem member
    have within : position < cells.length := copies.length_eq ▸ inside
    refine ⟨cells[position], ?_, copies.get inside within⟩
    have index : (places order).idxOf order[position].ref = position := by
      have inPlaces : position < (places order).length := by rwa [places, List.length_map]
      have here : (places order)[position] = order[position].ref := List.getElem_map _
      rw [← here, distinct.idxOf_getElem]
    rw [placedFrom, index]
    exact cell?_add_of_getElem? (List.getElem?_eq_getElem within)
  have yields : (source.copying before (between.add cells) order
      (placedFrom between.cells.size order)).Yields fun type ref =>
        (between.add cells).Leads ⟨type, ref⟩ ∧ before.cells.size ≤ Ref.index ref :=
    { walked := by
        rintro type ref _ ⟨member, rfl⟩
        obtain ⟨cell, present, _, _, _, rfl, _⟩ := found _ member
        exact ⟨⟨_, present, rfl⟩, Nat.le_trans old (Nat.le_add_right _ _)⟩
      copied := by
        rintro type ref target ⟨new, depth, tree, -, unfolds⟩
        exact ⟨unfolds.leads, new⟩
      begun := by
        rintro type copy target ⟨new, unfolds⟩
        exact ⟨unfolds.leads, new⟩ }
  refine ⟨planted.add ?_ ?_ ?_, ?_, ?_, ?_⟩
  · intro cell member
    obtain ⟨_, _, _, _, _, rfl, _⟩ := exists_left_of_forall₂ copies member
    rfl
  · intro cell member child below
    obtain ⟨_, _, _, _, _, rfl, restored⟩ := exists_left_of_forall₂ copies member
    obtain ⟨item, within, rfl⟩ := List.mem_map.mp below
    exact Shape.Restored.handles restored yields item within
  · intro cell member
    obtain ⟨_, _, _, _, _, rfl, restored⟩ := exists_left_of_forall₂ copies member
    exact Shape.Restored.counters restored fun _ anew => anew.new
  · intro ref _
    exact Nat.le_trans old (Nat.le_add_right _ _)
  · intro left leftMember right _ same
    exact placedFrom_injective leftMember same
  · intro node member
    obtain ⟨cell, present, data, copy, holds, rfl, restored⟩ := found node member
    exact ⟨data, copy, holds, data?_eq_some.mpr ⟨false, present⟩, restored⟩

private theorem GraphPlan.build_copied {source : Store} {policy : Policy} {order : List Node}
    {root : Node} {plan : GraphPlan}
    (planned : List.Forall₂ (source.Planned policy order (numberOf order)) order plan.objects)
    (distinct : (places order).Nodup) (small : order.length ≤ RefId.limit) (member : root ∈ order)
    (type : plan.rootType = root.type) (id : plan.root = numberOf order root.ref)
    (before : Store) :
    ∃ place after, plan.build before = (root.moved place, after) ∧
      source.Copied before after policy order place := by
  cases ran : plan.objects.mapM ObjectPlan.plantCopies before with
  | mk objects between =>
      obtain ⟨planted, begun⟩ := ObjectPlan.mapM_plantCopies ran
      have ids : plan.objects.map (fun object => object.id) =
          order.map fun node => numberOf order node.ref :=
        map_eq_of_forall₂ planned fun _ _ ⟨_, _, _, same, _⟩ => congrArg ObjectPlan.id same
      have placed : ∀ ref ∈ places order, plan.place between.cells.size (numberOf order ref) =
          placedFrom between.cells.size order ref :=
        fun ref inside => plan.place_eq ids distinct small between.cells.size inside
      refine ⟨placedFrom between.cells.size order,
        between.add (objects.map (HalfwayObject.cell (plan.place between.cells.size))), ?_,
        Store.copied_of_add planted distinct ?_⟩
      · rw [plan.build_eq ran, id, placed root.ref (mem_places member), type]
        rfl
      · refine List.forall₂_map_right_iff.mpr (forall₂_comp planned begun ?_)
        rintro node _ object ⟨data, planned, holds, rfl, restored⟩ begun
        obtain ⟨copy, same, alike⟩ := begun.cell (plan.place between.cells.size)
        exact ⟨data, copy, holds, same, restored.becomes alike
          (Store.reading_becomes (Store.extends_add _ _) placed)⟩

/-- The payload of a walk is read, and what is made of it is a copy of the walk. -/
theorem Store.Walkable.rebuilt {source : Store} {registry : Registry} {order : List Node}
    {root : Node} (walkable : source.Walkable registry.policy [] [root] order)
    (resolves : source.Resolves registry.policy order)
    (registered : registry.policy.isCapable root.typeKey = true)
    (before : Store) :
    ∃ plan place after, GraphPlan.read registry (source.payloadOf registry.policy order) = .ok plan ∧
      plan.build before = (root.moved place, after) ∧
        source.Copied before after registry.policy order place := by
  obtain ⟨plans, read, planned⟩ := walkable.read resolves registered
  obtain ⟨place, after, built, copied⟩ := @GraphPlan.build_copied source registry.policy order root
    { root := .nth 0, rootType := root.type, objects := plans } planned walkable.nodup
    walkable.small walkable.root_mem rfl walkable.number_root.symm before
  exact ⟨_, place, after, read, built, copied⟩

end ObjectCourier
