import ObjectCourier.Proofs.Graph.Passing
import ObjectCourier.Proofs.Object.Confinement

/-!
Rebuilt graphs are apart. Whatever a payload holds, the objects that are made of it lead to no object
that was there before, and the root of the graph is one of them.
-/

namespace ObjectCourier

private theorem mem_of_getElem?_insertMany {α : Type} {map : Std.TreeMap RefId α}
    {entries : List (RefId × α)} {id : RefId} {value : α}
    (found : (map.insertMany entries)[id]? = some value) :
    map[id]? = some value ∨ value ∈ entries.map Prod.snd := by
  induction entries generalizing map with
  | nil => exact .inl found
  | cons entry others ih =>
      rw [Std.TreeMap.insertMany_cons] at found
      rcases ih found with before | later
      · rw [Std.TreeMap.getElem?_insert] at before
        split at before
        · cases before
          exact .inr List.mem_cons_self
        · exact .inl before
      · exact .inr (List.mem_cons_of_mem _ later)

namespace GraphPlan

variable {registry : Registry} {payload : Payload} {plan : GraphPlan}

/-- The root of a payload that is read is one of its objects. -/
theorem root_mem (read : GraphPlan.read registry payload = .ok plan) :
    plan.root ∈ plan.objects.map fun object => object.id := by
  unfold GraphPlan.read at read
  obtain ⟨-, -, read⟩ := bind_eq_ok.mp read
  obtain ⟨drafts, -, read⟩ := bind_eq_ok.mp read
  obtain ⟨objects, linked, read⟩ := bind_eq_ok.mp read
  have ids : objects.map (fun object => object.id) = drafts.map fun draft => draft.record.id := by
    refine map_eq_of_forall₂ (mapM_eq_ok.mp linked) fun draft object link => ?_
    obtain ⟨data, -, made⟩ := bind_eq_ok.mp link
    cases made
    rfl
  split at read
  · rename_i rootType known
    cases read
    have found : (RecordDraft.types drafts)[payload.root]? = some rootType := known
    have present : (RecordDraft.types drafts).contains payload.root = true := by
      rw [Std.TreeMap.contains_eq_isSome_getElem?, found]
      rfl
    unfold RecordDraft.types at present
    rw [Std.TreeMap.contains_ofList, List.contains_iff_mem, List.map_map] at present
    exact ids ▸ present
  · cases read

theorem position_lt {id : RefId} (member : id ∈ plan.objects.map fun object => object.id) :
    plan.positions.getD id plan.objects.length < plan.objects.length := by
  have present : plan.positions.contains id = true := by
    unfold positions
    rw [Std.TreeMap.contains_ofList, List.contains_iff_mem, List.map_map]
    have firsts := List.zipIdx_map_fst 0 plan.objects
    have ids := congrArg (List.map fun object : ObjectPlan => object.id) firsts
    rw [List.map_map] at ids
    exact ids ▸ member
  rw [Std.TreeMap.contains_eq_isSome_getElem?] at present
  obtain ⟨position, found⟩ := Option.isSome_iff_exists.mp present
  rw [Std.TreeMap.getD_eq_getD_getElem?, found]
  unfold positions at found
  rw [Std.TreeMap.ofList_eq_insertMany_empty] at found
  rcases mem_of_getElem?_insertMany found with before | entry
  · cases before
  · obtain ⟨_, within, rfl⟩ := List.mem_map.mp entry
    obtain ⟨⟨object, index⟩, here, rfl⟩ := List.mem_map.mp within
    have bound := (List.mem_zipIdx here).2.1
    simpa using bound

end GraphPlan

structure Node.NewIn (node : Node) (start store : Store) : Prop where
  new : start.cells.size ≤ node.ref.index
  present : node.ref.index < store.cells.size

theorem Node.NewIn.cell? {node : Node} {start store : Store} (made : node.NewIn start store) :
    start.cell? node.ref = none ∧ ∃ cell, store.cell? node.ref = some cell :=
  ⟨Array.getElem?_eq_none_iff.mpr made.new, _, Array.getElem?_eq_getElem made.present⟩

namespace GraphPlan

private theorem build_secluded (plan : GraphPlan) (before : Store) :
    before.Secluded (plan.build before).2 := by
  rcases ran : plan.objects.mapM ObjectPlan.plantCopies before with ⟨objects, between⟩
  obtain ⟨planted, begun⟩ := ObjectPlan.mapM_plantCopies ran
  rw [build_eq ran]
  apply planted.secluded.add
  intro cell member
  obtain ⟨object, present, rfl⟩ := List.mem_map.mp member
  obtain ⟨origin, _, begins⟩ := exists_left_of_forall₂ begun present
  obtain ⟨data, same, alike⟩ := begins.cell (plan.place between.cells.size)
  rw [same]
  constructor
  · intro child below
    obtain ⟨item, within, rfl⟩ := List.mem_map.mp below
    refine Shape.handles_of_matches (fun _ ref => before.cells.size ≤ Ref.index ref) alike ?_ item
      within
    -- A handle of the new object leads to a planted copy or to an object of the same plan.
    intro type source ref built
    cases source with
    | copy copy => exact built.1
    | record id =>
        cases built
        exact Nat.le_trans planted.grown.size_le (Nat.le_add_right _ _)
  · exact Shape.counters_of_matches alike fun _ _ anew => anew.new

private theorem build_newIn {registry : Registry} {payload : Payload} {plan : GraphPlan}
    (read : GraphPlan.read registry payload = .ok plan) (before : Store) :
    (plan.build before).1.NewIn before (plan.build before).2 := by
  rcases ran : plan.objects.mapM ObjectPlan.plantCopies before with ⟨objects, between⟩
  obtain ⟨planted, begun⟩ := ObjectPlan.mapM_plantCopies ran
  -- A root that was not among the objects would be placed behind all of them.
  have inside := position_lt (root_mem read)
  rw [begun.length_eq] at inside
  rw [build_eq ran]
  refine ⟨Nat.le_trans planted.grown.size_le (Nat.le_add_right _ _), ?_⟩
  simp only [place, Store.add, Array.size_append, List.size_toArray, List.length_map]
  rw [begun.length_eq]
  omega

end GraphPlan

structure Store.Shuns (start : Store) (run : Except Fault (Option Node) × World) : Prop where
  secluded : start.Secluded run.2.store
  made : ∀ node, run.1 = .ok (some node) → node.NewIn start run.2.store

namespace Formatter

theorem mapM_deserialize_shuns (formatter : Formatter) (sent : Option Payload) (world : World) :
    world.store.Shuns (sent.mapM formatter.deserialize world) := by
  cases sent with
  | none => exact ⟨.refl _, nofun⟩
  | some payload =>
      rw [mapM_some_run]
      have ended := formatter.deserialize_ended payload world
      split at ended
      · rename_i plan read
        rw [ended]
        refine ⟨plan.build_secluded world.store, ?_⟩
        rintro _ ⟨⟩
        exact GraphPlan.build_newIn read world.store
      · rw [ended]
        exact ⟨.refl _, nofun⟩

theorem mapM_copy_shuns (formatter : Formatter) (object : Option Node) (world : World) :
    world.store.Shuns (object.mapM formatter.copy world) := by
  rw [mapM_copy]
  rcases written : object.mapM formatter.serialize world with ⟨outcome, between⟩
  have passed := formatter.mapM_serialize_passed object world
  rw [written] at passed
  cases outcome with
  | error fault =>
      rw [bind_of_ran_error written]
      refine ⟨?_, nofun⟩
      rw [passed.store_eq]
      exact .refl _
  | ok sent =>
      rw [bind_of_ran_ok written, ← passed.store_eq]
      exact formatter.mapM_deserialize_shuns sent between

end Formatter

end ObjectCourier
