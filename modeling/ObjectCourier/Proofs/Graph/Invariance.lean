import ObjectCourier.Proofs.Graph.Isomorphism
import ObjectCourier.Proofs.Graph.Layout
import ObjectCourier.Proofs.Graph.Readdressing
import ObjectCourier.Proofs.Object.Tandem

/-!
Neither the ids in a payload nor the order of its records matter. Readdressed plans are made to
isomorphic graphs: the copies in an object are planted level with those in the object that corresponds
to it, on whichever stretches, and the objects themselves correspond by their ids. So the two graphs
are written alike.
-/

namespace ObjectCourier

/-! ### Objects whose copies are planted in tandem -/

def Carrier.Relation.halfwayLevel (rename : RefId → RefId) (typeOf : TypeOf)
    (start other state : Store) : Carrier.Relation Carrier.halfway Carrier.halfway where
  handle type := Sum.LiftRel ((Carrier.Relation.level start other state).handle type)
    fun id renamed => renamed = rename id ∧ typeOf id = some type
  loads := (Carrier.Relation.level start other state).loads
  memo left right := right = left

section Planting

variable {rename : RefId → RefId} {typeOf : TypeOf} {start other : Store}

private theorem Carrier.Visitor.plantingCopies_visits :
    (Store.abreast start other).Visits (.readdressed rename typeOf)
      (.halfwayLevel rename typeOf start other) .plantingCopies .plantingCopies where
  stays extension :=
    { handle := fun _ _ _ alike => alike.mono (fun _ _ => extension.level.handle _ _ _) fun _ _ => id
      loads := extension.level.loads
      memo := fun _ _ => id }
  handle := by
    intro type source twin left right alike kept
    cases alike with
    | copy embedded =>
        exact (embedded.runs_plant kept).bind fun _ kept level => .pure kept (.inl level)
    | record known => exact .pure kept (.inr ⟨rfl, known⟩)
  loads _ kept := Store.runs_newCounter kept
  memo _ kept := .pure kept rfl

/-- Readdressed objects have their copies planted level with each other. -/
theorem ObjectPlan.Readdressed.plantCopies {object twin : ObjectPlan}
    (readdressed : object.Readdressed rename typeOf twin) (start other : Store) :
    start.Abreast other (object.plantCopies start).2 (twin.plantCopies other).2 ∧
      ∃ data copy, (object.plantCopies start).1 = { type := object.type, data := data } ∧
        (twin.plantCopies other).1 = { type := object.type, data := copy } ∧
          object.type.shape.Matches
            (.halfwayLevel rename typeOf start other (object.plantCopies start).2) data copy := by
  obtain ⟨content, rfl, alike⟩ := readdressed
  have runs := Shape.runs_traverse Carrier.Visitor.plantingCopies_visits alike
    (Store.Abreast.refl start other)
  exact ⟨runs.kept, _, _, rfl, rfl, runs.same⟩

end Planting

theorem HalfwayObject.cells_match {type : ObjType} {data copy : type.Data Carrier.halfway}
    {halves : Carrier.Relation Carrier.halfway Carrier.halfway}
    {relation : Carrier.Relation Carrier.live Carrier.live} {place placeTwin : RefId → Ref}
    (alike : type.shape.Matches halves data copy)
    (handle : ∀ type left right, halves.handle type left right →
      relation.handle type (Sum.elim (fun planted => planted) place left)
        (Sum.elim (fun planted => planted) placeTwin right))
    (loads : ∀ left right, halves.loads left right → relation.loads left right)
    (memo : ∀ left right, halves.memo left right → relation.memo left right) :
    type.shape.Matches relation (HalfwayObject.cell place ⟨type, data⟩).data
      (HalfwayObject.cell placeTwin ⟨type, copy⟩).data := by
  let between : Carrier.Relation Carrier.live Carrier.halfway :=
    { handle := fun type ref half => ∀ other,
        other = Sum.elim (fun planted => planted) placeTwin half → relation.handle type ref other
      loads := relation.loads
      memo := relation.memo }
  have placed := (HalfwayObject.placed place ⟨type, data⟩).flip
  have first : type.shape.Matches between (HalfwayObject.cell place ⟨type, data⟩).data copy := by
    refine Shape.Matches.comp placed alike ⟨?_, ?_, ?_⟩
    · rintro type _ half other rfl both _ rfl
      exact handle type half other both
    · rintro counter _ other rfl both
      exact loads counter other both
    · rintro value _ other rfl both
      exact memo value other both
  refine first.comp (HalfwayObject.placed placeTwin ⟨type, copy⟩) ⟨?_, ?_, ?_⟩
  · exact fun _ _ _ other both same => both other same
  · rintro counter other _ both rfl
    exact both
  · rintro value other _ both rfl
    exact both

/-! ### Places of readdressed plans -/

/-- What is at the node is the same as what is at its new place, up to places. -/
def Store.SameAt (left right : Store) (reached : Node → Prop) (place : Ref → Ref)
    (count : CounterId → CounterId) (node : Node) : Prop :=
  ∃ data copy, left.data? node.type node.ref = some data ∧
    right.data? node.type (place node.ref) = some copy ∧
      right.isPoisoned (place node.ref) = left.isPoisoned node.ref ∧
        node.type.shape.Matches (.renamed left right reached place count) data copy

private theorem Store.sameAt_of_cells {left right : Store} {reached : Node → Prop}
    {place : Ref → Ref}
    {count : CounterId → CounterId} {type : ObjType} {ref : Ref} {data copy : type.Data Carrier.live}
    {poisoned : Bool} (present : left.cell? ref = some ⟨type, data, poisoned⟩)
    (found : right.cell? (place ref) = some ⟨type, copy, poisoned⟩)
    (alike : type.shape.Matches (.renamed left right reached place count) data copy) :
    left.SameAt right reached place count ⟨type, ref⟩ := by
  refine ⟨data, copy, data?_eq_some.mpr ⟨_, present⟩, data?_eq_some.mpr ⟨_, found⟩, ?_, alike⟩
  unfold isPoisoned
  rw [present, found]
  rfl

private theorem exists_injective_extension {α : Type} {valid : α → Prop} {left right : α → Nat}
    {bound : Nat}
    (apart : ∀ first second, valid first → valid second → left first = left second → first = second)
    (beside : ∀ first second, valid first → valid second → right first = right second →
      first = second) (inside : ∀ item, valid item → right item < bound) :
    ∃ place : Nat → Nat, Function.Injective place ∧
      ∀ item, valid item → place (left item) = right item := by
  classical
  -- A number that corresponds to none goes behind all that others go to.
  let place (number : Nat) : Nat :=
    if known : ∃ item, valid item ∧ left item = number then right known.choose else number + bound
  have known {item : α} (holds : valid item) : place (left item) = right item := by
    have known : ∃ other, valid other ∧ left other = left item := ⟨item, holds, rfl⟩
    have same := apart _ _ known.choose_spec.1 holds known.choose_spec.2
    simp only [place, dif_pos known, same]
  have unknown {number : Nat} (none : ¬∃ item, valid item ∧ left item = number) :
      place number = number + bound := dif_neg none
  refine ⟨place, fun first second same => ?_, fun item => known⟩
  by_cases here : ∃ item, valid item ∧ left item = first <;>
    by_cases there : ∃ item, valid item ∧ left item = second
  · obtain ⟨item, holds, rfl⟩ := here
    obtain ⟨other, also, rfl⟩ := there
    rw [known holds, known also] at same
    rw [beside item other holds also same]
  · obtain ⟨item, holds, rfl⟩ := here
    rw [known holds, unknown there] at same
    have below := inside item holds
    omega
  · obtain ⟨other, also, rfl⟩ := there
    rw [unknown here, known also] at same
    have below := inside other also
    omega
  · rw [unknown here, unknown there] at same
    exact Nat.add_right_cancel same

/-- The name of the place in a readdressed plan. -/
def Site.renamed (rename : RefId → RefId) : Site → Site
  | .copied id offset => .copied (rename id) offset
  | .made id => .made (rename id)

namespace GraphPlan

structure Twins (rename : RefId → RefId) (typeOf : TypeOf) (plan twin : GraphPlan)
    (before beside : Store) (object other : ObjectPlan) : Prop where
  member : other ∈ twin.objects
  id : other.id = rename object.id
  abreast : (ObjectPlan.stage plan.objects before object.id).Abreast
    (ObjectPlan.stage twin.objects beside other.id) (ObjectPlan.staged plan.objects before object).2
    (ObjectPlan.staged twin.objects beside other).2
  halves : ∃ data copy,
    (ObjectPlan.staged plan.objects before object).1 = { type := object.type, data := data } ∧
      (ObjectPlan.staged twin.objects beside other).1 = { type := object.type, data := copy } ∧
        object.type.shape.Matches (.halfwayLevel rename typeOf
          (ObjectPlan.stage plan.objects before object.id)
          (ObjectPlan.stage twin.objects beside other.id)
          (ObjectPlan.staged plan.objects before object).2) data copy

namespace Readdressed

variable {rename : RefId → RefId} {typeOf : TypeOf} {plan twin : GraphPlan}
  (readdressed : plan.Readdressed rename typeOf twin) (before beside : Store)

include readdressed

private theorem exists_twin {object : ObjectPlan} (member : object ∈ plan.objects) :
    ∃ other, Twins rename typeOf plan twin before beside object other := by
  obtain ⟨other, present, alike⟩ := readdressed.objects object member
  obtain ⟨abreast, halves⟩ := alike.plantCopies (ObjectPlan.stage plan.objects before object.id)
    (ObjectPlan.stage twin.objects beside other.id)
  obtain ⟨data, rfl, -⟩ := alike
  exact ⟨_, present, rfl, abreast, halves⟩

theorem needs {site : Site} (needed : plan.Needs before site) :
    twin.Needs beside (site.renamed rename) ∧
      (twin.placeOf beside (site.renamed rename)).index < (twin.build beside).2.cells.size := by
  match site with
  | .made id =>
      obtain ⟨object, member, rfl⟩ := needed
      obtain ⟨other, twins⟩ := readdressed.exists_twin before beside member
      have stands := cell?_made readdressed.twinDistinct beside twins.member
      rw [twins.id] at stands
      exact ⟨⟨other, twins.member, twins.id⟩, (Array.getElem?_eq_some_iff.mp stands).1⟩
  | .copied id offset =>
      obtain ⟨object, member, rfl, inside⟩ := needed
      obtain ⟨other, twins⟩ := readdressed.exists_twin before beside member
      obtain ⟨added, here, there⟩ := twins.abreast.cells
      have within : (twin.placeOf beside (.copied other.id offset)).index <
          (ObjectPlan.staged twin.objects beside other).2.cells.size := by
        have size := congrArg Ref.index here
        have sizeTwin := congrArg Ref.index there
        simp only [placeOf] at inside size sizeTwin ⊢
        omega
      have kept := staged_extends_build readdressed.twinDistinct beside twins.member
      rw [twins.id] at within
      exact ⟨⟨other, twins.member, twins.id, within⟩, Nat.lt_of_lt_of_le within kept.size_le⟩

theorem counts {id : RefId} {offset : Nat} (counts : plan.Counts before id offset) :
    twin.Counts beside (rename id) offset ∧
      (twin.counterOf beside (rename id) offset).index < (twin.build beside).2.counters.size := by
  obtain ⟨object, member, rfl, inside⟩ := counts
  obtain ⟨other, twins⟩ := readdressed.exists_twin before beside member
  obtain ⟨added, here, there⟩ := twins.abreast.counters
  have within : (twin.counterOf beside other.id offset).index <
      (ObjectPlan.staged twin.objects beside other).2.counters.size := by
    have size := congrArg CounterId.index here
    have sizeTwin := congrArg CounterId.index there
    simp only [counterOf] at inside size sizeTwin ⊢
    omega
  have kept := staged_extends_build readdressed.twinDistinct beside twins.member
  rw [twins.id] at within
  exact ⟨⟨other, twins.member, twins.id, within⟩, Nat.lt_of_lt_of_le within kept.counters_size_le⟩

private theorem injective_of_mem {object other : ObjectPlan} (member : object ∈ plan.objects)
    (another : other ∈ plan.objects) (same : rename object.id = rename other.id) :
    object.id = other.id :=
  readdressed.injective (List.mem_map_of_mem member) (List.mem_map_of_mem another) same

private theorem renamed_injective {left right : Site} (needed : plan.Needs before left)
    (also : plan.Needs before right) (same : left.renamed rename = right.renamed rename) :
    left = right := by
  match left, right with
  | .copied _ _, .copied _ _ =>
      obtain ⟨object, member, rfl, -⟩ := needed
      obtain ⟨other, another, rfl, -⟩ := also
      obtain ⟨ids, rfl⟩ := Site.copied.inj same
      rw [readdressed.injective_of_mem member another ids]
  | .made _, .made _ =>
      obtain ⟨object, member, rfl⟩ := needed
      obtain ⟨other, another, rfl⟩ := also
      rw [readdressed.injective_of_mem member another (Site.made.inj same)]
  | .copied _ _, .made _ | .made _, .copied _ _ => cases same

theorem exists_place : ∃ place : Ref → Ref, Function.Injective place ∧
    ∀ site, plan.Needs before site →
      place (plan.placeOf before site) = twin.placeOf beside (site.renamed rename) := by
  obtain ⟨place, injective, agrees⟩ := @exists_injective_extension Site (plan.Needs before)
    (fun site => (plan.placeOf before site).index)
    (fun site => (twin.placeOf beside (site.renamed rename)).index)
    (twin.build beside).2.cells.size
    (fun left right needed also same => placeOf_injective readdressed.distinct needed also
      (congrArg Ref.mk same))
    (fun left right needed also same => by
      have sites := placeOf_injective readdressed.twinDistinct
        (readdressed.needs before beside needed).1 (readdressed.needs before beside also).1
        (congrArg Ref.mk same)
      exact readdressed.renamed_injective before needed also sites)
    (fun site needed => (readdressed.needs before beside needed).2)
  refine ⟨fun ref => ⟨place ref.index⟩, fun left right same => ?_, fun site needed => ?_⟩
  · exact congrArg Ref.mk (injective (congrArg Ref.index same))
  · exact congrArg Ref.mk (agrees site needed)

private theorem exists_count : ∃ count : CounterId → CounterId, Function.Injective count ∧
    ∀ id offset, plan.Counts before id offset →
      count (plan.counterOf before id offset) = twin.counterOf beside (rename id) offset := by
  obtain ⟨count, injective, agrees⟩ := @exists_injective_extension (RefId × Nat)
    (fun name => plan.Counts before name.1 name.2)
    (fun name => (plan.counterOf before name.1 name.2).index)
    (fun name => (twin.counterOf beside (rename name.1) name.2).index)
    (twin.build beside).2.counters.size
    (fun left right counts also same => by
      obtain ⟨ids, offsets⟩ := counterOf_injective readdressed.distinct counts also
        (congrArg CounterId.mk same)
      exact Prod.ext ids offsets)
    (fun left right counts also same => by
      obtain ⟨ids, offsets⟩ := counterOf_injective readdressed.twinDistinct
        (readdressed.counts before beside counts).1 (readdressed.counts before beside also).1
        (congrArg CounterId.mk same)
      obtain ⟨object, member, here, -⟩ := counts
      obtain ⟨other, another, there, -⟩ := also
      rw [← here, ← there] at ids
      refine Prod.ext ?_ offsets
      rw [← here, ← there, readdressed.injective_of_mem member another ids])
    (fun name counts => (readdressed.counts before beside counts).2)
  refine ⟨fun counter => ⟨count counter.index⟩, fun left right same => ?_,
    fun id offset counts => ?_⟩
  · exact congrArg CounterId.mk (injective (congrArg CounterId.index same))
  · exact congrArg CounterId.mk (agrees (id, offset) counts)

end Readdressed

/-! ### Isomorphic graphs -/

def Makes (plan : GraphPlan) (before store : Store) (node : Node) : Prop :=
  (∃ site, plan.Needs before site ∧ node.ref = plan.placeOf before site) ∧ store.Leads node

structure Corresponds (rename : RefId → RefId) (plan twin : GraphPlan)
    (before beside left right : Store) (place : Ref → Ref) (count : CounterId → CounterId) : Prop where
  left : (plan.build before).2.Extends left
  right : (twin.build beside).2.Extends right
  place : ∀ site, plan.Needs before site →
    place (plan.placeOf before site) = twin.placeOf beside (site.renamed rename)
  count : ∀ id offset, plan.Counts before id offset →
    count (plan.counterOf before id offset) = twin.counterOf beside (rename id) offset

section Objects

variable {rename : RefId → RefId} {typeOf : TypeOf} {plan twin : GraphPlan}
  {before beside left right : Store} {place : Ref → Ref} {count : CounterId → CounterId}
  (readdressed : plan.Readdressed rename typeOf twin)
  (corresponds : Corresponds rename plan twin before beside left right place count)

include readdressed corresponds

private theorem makes_made {object : ObjectPlan} (member : object ∈ plan.objects) :
    plan.Makes before left ⟨object.type, plan.placeOf before (.made object.id)⟩ := by
  obtain ⟨other, twins⟩ := readdressed.exists_twin before beside member
  obtain ⟨data, copy, half, -⟩ := twins.halves
  refine ⟨⟨.made object.id, ⟨object, member, rfl⟩, rfl⟩, _,
    corresponds.left.cells _ _ (cell?_made readdressed.distinct before member), ?_⟩
  rw [half]
  rfl

private theorem level_implies {object other : ObjectPlan} (member : object ∈ plan.objects)
    (twins : Twins rename typeOf plan twin before beside object other) :
    (Carrier.Relation.level (ObjectPlan.stage plan.objects before object.id)
      (ObjectPlan.stage twin.objects beside other.id)
      (ObjectPlan.staged plan.objects before object).2).Implies
        (.renamed left right (plan.Makes before left) place count) := by
  have kept := (staged_extends_build readdressed.distinct before member).trans corresponds.left
  constructor
  · rintro type _ _ ⟨⟨offset, rfl, rfl⟩, leads⟩
    have needed : plan.Needs before (.copied object.id offset) :=
      ⟨object, member, rfl, leads.index_lt⟩
    have same := corresponds.place _ needed
    rw [Site.renamed, ← twins.id] at same
    exact ⟨⟨⟨_, needed, rfl⟩, kept.leads leads⟩, same.symm⟩
  · rintro _ _ ⟨⟨offset, rfl, rfl⟩, inside⟩
    have counts : plan.Counts before object.id offset := ⟨object, member, rfl, inside⟩
    have countsTwin := (readdressed.counts before beside counts).1
    have same := corresponds.count _ _ counts
    have zero := outstanding_counterOf readdressed.distinct counts corresponds.left
    have zeroTwin := outstanding_counterOf readdressed.twinDistinct countsTwin corresponds.right
    rw [← twins.id] at same zeroTwin
    exact ⟨same.symm, zeroTwin.trans zero.symm⟩
  · exact fun _ _ => id

private theorem same_copied {id : RefId} {offset : Nat}
    (needed : plan.Needs before (.copied id offset))
    {type : ObjType} (leads : left.Leads ⟨type, plan.placeOf before (.copied id offset)⟩) :
    left.SameAt right (plan.Makes before left) place count
      ⟨type, plan.placeOf before (.copied id offset)⟩ := by
  have same := corresponds.place _ needed
  obtain ⟨object, member, rfl, inside⟩ := needed
  obtain ⟨other, twins⟩ := readdressed.exists_twin before beside member
  have kept := (staged_extends_build readdressed.distinct before member).trans corresponds.left
  have keptTwin :=
    (staged_extends_build readdressed.twinDistinct beside twins.member).trans corresponds.right
  obtain ⟨cell, present, rfl⟩ := leads
  have planted := (kept.cell?_eq inside).symm.trans present
  obtain ⟨copy, found, alike⟩ := twins.abreast.objects _ _ cell ⟨offset, rfl, rfl⟩ planted
  rw [Site.renamed, ← twins.id] at same
  have level := level_implies readdressed corresponds member twins
  exact Store.sameAt_of_cells present (same ▸ keptTwin.cells _ _ found) (alike.imp level)

private theorem same_made {object : ObjectPlan} (member : object ∈ plan.objects) :
    left.SameAt right (plan.Makes before left) place count
      ⟨object.type, plan.placeOf before (.made object.id)⟩ := by
  have same := corresponds.place (.made object.id) ⟨object, member, rfl⟩
  obtain ⟨other, twins⟩ := readdressed.exists_twin before beside member
  obtain ⟨data, copy, half, halfTwin, alike⟩ := twins.halves
  have stands := corresponds.left.cells _ _ (cell?_made readdressed.distinct before member)
  have standsTwin :=
    corresponds.right.cells _ _ (cell?_made readdressed.twinDistinct beside twins.member)
  rw [half] at stands
  rw [halfTwin, twins.id] at standsTwin
  have level := level_implies readdressed corresponds member twins
  refine Store.sameAt_of_cells stands (same ▸ standsTwin) ?_
  refine HalfwayObject.cells_match alike ?_ level.loads fun _ _ => id
  rintro type _ _ (both | ⟨rfl, known⟩)
  · exact level.handle _ _ _ both
  -- An id of a known type is the id of an object of the plan, which stands in the store.
  · obtain ⟨child, inside, rfl, rfl⟩ := readdressed.known _ _ known
    have childSame := corresponds.place (.made child.id) ⟨child, inside, rfl⟩
    exact ⟨makes_made readdressed corresponds inside, childSame.symm⟩

private theorem same_of_makes {node : Node} (makes : plan.Makes before left node) :
    left.SameAt right (plan.Makes before left) place count node := by
  obtain ⟨type, ref⟩ := node
  obtain ⟨⟨site, needed, same⟩, leads⟩ := makes
  change ref = _ at same
  subst same
  match site with
  | .copied id offset => exact same_copied readdressed corresponds needed leads
  | .made id =>
      obtain ⟨object, member, rfl⟩ := needed
      have stands := (makes_made readdressed corresponds member).2
      cases leads.eq_of_ref stands rfl
      exact same_made readdressed corresponds member

end Objects

/-- Readdressed plans are made to isomorphic graphs, whatever is added to the stores later. -/
theorem Readdressed.isomorphic {rename : RefId → RefId} {typeOf : TypeOf} {plan twin : GraphPlan}
    (readdressed : plan.Readdressed rename typeOf twin) {before beside left right : Store}
    (keeps : (plan.build before).2.Extends left) (keepsTwin : (twin.build beside).2.Extends right) :
    left.Isomorphic right (plan.build before).1 (twin.build beside).1 := by
  obtain ⟨place, placeInjective, placed⟩ := readdressed.exists_place before beside
  obtain ⟨count, countInjective, counted⟩ := readdressed.exists_count before beside
  have corresponds : Corresponds rename plan twin before beside left right place count :=
    ⟨keeps, keepsTwin, placed, counted⟩
  obtain ⟨root, member, id, type⟩ := readdressed.known _ _ readdressed.root
  refine ⟨⟨plan.Makes before left, place, count, placeInjective, countInjective,
    fun node makes => same_of_makes readdressed corresponds makes⟩, ?_, ?_⟩
  · rw [build_staged readdressed.distinct, ← id, ← type]
    exact makes_made readdressed corresponds member
  · rw [build_staged readdressed.distinct, build_staged readdressed.twinDistinct]
    have needed : plan.Needs before (.made plan.root) := ⟨root, member, id⟩
    rw [readdressed.twinType, readdressed.twinRoot]
    exact congrArg (Node.mk plan.rootType) (placed _ needed).symm

end GraphPlan

/-! ### Payloads -/

namespace Formatter

variable {formatter : Formatter} {rename : RefId → RefId} {payload changed : Payload}

private theorem exists_deserialize_of_readdressed (readdressed : payload.Readdressed rename changed)
    {world : World} (read : ∃ node done, formatter.deserialize payload world = (.ok node, done))
    (other : World) : ∃ node done, formatter.deserialize changed other = (.ok node, done) := by
  obtain ⟨plan, found⟩ := exists_deserialize_iff.mp read
  exact exists_deserialize_iff.mpr (readdressed.exists_read found)

/-- What was rebuilt from a payload was made for the plan that the payload is read as. -/
theorem exists_plan_of_deserialize {world done : World} {node : Node}
    (ran : formatter.deserialize payload world = (.ok node, done)) :
    ∃ plan, GraphPlan.read formatter.registry payload = .ok plan ∧
      plan.build world.store = (node, done.store) := by
  have ended := formatter.deserialize_ended payload world
  cases read : GraphPlan.read formatter.registry payload with
  | error fault =>
      rw [read] at ended
      cases ran.symm.trans ended
  | ok plan =>
      rw [read] at ended
      cases ran.symm.trans ended
      exact ⟨plan, rfl, rfl⟩

/-- A graph that was rebuilt from a readdressed payload is written as the one that was rebuilt from
the payload. -/
theorem serialize_of_readdressed (readdressed : payload.Readdressed rename changed)
    {world other done finished first second : World} {node copy : Node}
    (ran : formatter.deserialize payload world = (.ok node, done))
    (ranOther : formatter.deserialize changed other = (.ok copy, finished))
    (kept : done.store.Extends first.store) (keptOther : finished.store.Extends second.store)
    (writer : Formatter) {sent : Payload} (written : (writer.serialize node first).1 = .ok sent) :
    (writer.serialize copy second).1 = .ok sent := by
  obtain ⟨plan, read, built⟩ := exists_plan_of_deserialize ran
  obtain ⟨twin, readTwin, builtTwin⟩ := exists_plan_of_deserialize ranOther
  have keeps : (plan.build world.store).2.Extends first.store := by
    rw [built]
    exact kept
  have keepsTwin : (twin.build other.store).2.Extends second.store := by
    rw [builtTwin]
    exact keptOther
  have isomorphic := (readdressed.plan read readTwin).isomorphic keeps keepsTwin
  rw [built, builtTwin] at isomorphic
  exact isomorphic.serialize written

/-- Reading depends neither on the ids in a payload nor on the order of its records. A payload and
one that is readdressed are accepted alike, and the graphs that are rebuilt from them are written
alike as long as they are not changed. -/
theorem reads_readdressed (formatter : Formatter) (readdressed : payload.Readdressed rename changed)
    (world other : World) :
    ((∃ node done, formatter.deserialize payload world = (.ok node, done)) ↔
      ∃ copy finished, formatter.deserialize changed other = (.ok copy, finished)) ∧
    ∀ node done copy finished, formatter.deserialize payload world = (.ok node, done) →
      formatter.deserialize changed other = (.ok copy, finished) →
        ∀ (writer : Formatter) (first second : World), done.store.Extends first.store →
          finished.store.Extends second.store → ∀ sent,
            (writer.serialize node first).1 = .ok sent ↔
              (writer.serialize copy second).1 = .ok sent := by
  obtain ⟨back, restored⟩ := readdressed.symm
  constructor
  · constructor
    · exact fun read => exists_deserialize_of_readdressed readdressed read other
    · exact fun read => exists_deserialize_of_readdressed restored read world
  · intro node done copy finished ran ranOther writer first second kept keptOther sent
    constructor
    · exact serialize_of_readdressed readdressed ran ranOther kept keptOther writer
    · exact serialize_of_readdressed restored ranOther ran keptOther kept writer

end Formatter

def Record.link (id next : RefId) : Record where
  id := id
  typeKey := ObjType.key (.record .link)
  values := [("index", .uint ⟨0, by decide⟩)]
  children := [("next", { target := next, dirty := false })]

def Payload.ring : Payload where
  root := ⟨1⟩
  records := [.link ⟨1⟩ ⟨2⟩, .link ⟨2⟩ ⟨1⟩]

/-- The two links with higher ids and in the other order. -/
def Payload.higherRing : Payload where
  root := ⟨8⟩
  records := [.link ⟨9⟩ ⟨8⟩, .link ⟨8⟩ ⟨9⟩]

private theorem Payload.ring_readdressed :
    Payload.ring.Readdressed (fun id => ⟨id.number + 7⟩) Payload.higherRing where
  injective left _ right _ same := by
    have numbers : left.number + 7 = right.number + 7 := congrArg RefId.number same
    exact congrArg RefId.mk (UInt32.add_left_inj 7 |>.mp numbers)
  root := rfl
  records := .swap _ _ _

/-- Whichever of the two payloads is read, the ring is written with its first ids and in order. -/
theorem Formatter.reads_readdressed_ring :
    ∃ node done copy finished, links.deserialize .ring {} = (.ok node, done) ∧
      links.deserialize .higherRing {} = (.ok copy, finished) ∧
        (links.serialize node done).1 = .ok .ring ∧
          (links.serialize copy finished).1 = .ok .ring :=
  ⟨_, _, _, _, rfl, rfl, rfl,
    ((links.reads_readdressed Payload.ring_readdressed {} {}).2 _ _ _ _ rfl rfl links _ _ (.refl _)
      (.refl _) _).mp rfl⟩

end ObjectCourier
