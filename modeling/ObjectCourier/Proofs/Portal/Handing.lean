import ObjectCourier.Proofs.Portal.Steps
import ObjectCourier.Proofs.Status.Busy

/-!
Graphs that are handed over. What a formatter writes of a graph another formatter of the same
registry rebuilds, wherever the payload has been in between; the new graph has the same payload and
is idle if the first one was.
-/

namespace ObjectCourier

structure Registry.Carries (registry : Registry) (start : Store) (node : Node) (payload : Payload)
    (copy : Node) (store : Store) : Prop where
  written : (start.serialize registry.policy node).1 = .ok payload
  rebuilt : ∃ plan, GraphPlan.read registry payload = .ok plan ∧ plan.build start = (copy, store)
  type : copy.type = node.type
  again : (store.serialize registry.policy copy).1 = .ok payload
  grown : start.Extends store
  isomorphic : store.Isomorphic store copy copy
  idle : start.isBusy node = false → store.isBusy copy = false

inductive Registry.Hands (registry : Registry) (start : Store) :
    Option Node → Option Payload → Option Node → Store → Prop where
  | nothing : Hands registry start none none none start
  | graph {node copy : Node} {payload : Payload} {store : Store}
      (carries : registry.Carries start node payload copy store) :
      Hands registry start (some node) (some payload) (some copy) store

/-- A graph that is written can be handed over. -/
theorem Registry.carries_of_serialize {registry : Registry} {start : Store} {node : Node}
    {payload : Payload}
    (resolves : ∀ order, start.Walkable registry.policy [] [node] order →
      start.Resolves registry.policy order)
    (written : (start.serialize registry.policy node).1 = .ok payload) :
    ∃ copy store, registry.Carries start node payload copy store := by
  obtain ⟨plan, order, place, after, read, built, walkable, copied⟩ :=
    Store.rebuilt_of_serialize resolves written start
  have placed := mem_places walkable.root_mem
  obtain ⟨_, data, -, found, -⟩ := copied.objects node walkable.root_mem
  have leads : after.Leads (node.moved place) := Store.leads_iff.mpr ⟨data, found⟩
  exact ⟨node.moved place, after,
    { written := written
      rebuilt := ⟨plan, read, built⟩
      type := rfl
      again := copied.serialize walkable written
      grown := copied.planted.grown
      isomorphic := copied.planted.closed.isomorphic leads (copied.new _ placed)
      idle := copied.idle walkable.root_mem }⟩

namespace Registry.Hands

variable {registry : Registry} {start store : Store} {object copy : Option Node}
  {sent : Option Payload} {formatter : Formatter} {world : World}

theorem serialize_ran (hands : registry.Hands start object sent copy store)
    (knows : formatter.registry = registry) (here : world.store = start) :
    ∃ after, object.mapM formatter.serialize world = (.ok sent, after) ∧
      after.At start world.calls := by
  subst knows here
  cases hands with
  | nothing => exact ⟨world, rfl, rfl, rfl⟩
  | @graph node _ _ _ carries =>
      have ran := formatter.serialize_run node world
      rw [carries.written] at ran
      exact ⟨_, mapM_some_of_ran ran, rfl, rfl⟩

theorem deserialize_ran (hands : registry.Hands start object sent copy store)
    (knows : formatter.registry = registry) (here : world.store = start) :
    ∃ after, sent.mapM formatter.deserialize world = (.ok copy, after) ∧
      after.At store world.calls := by
  subst knows here
  cases hands with
  | nothing => exact ⟨world, rfl, rfl, rfl⟩
  | graph carries =>
      obtain ⟨plan, read, built⟩ := carries.rebuilt
      exact ⟨_, mapM_some_of_ran (Formatter.deserialize_run read built), rfl, rfl⟩

theorem copy_ran (hands : registry.Hands start object sent copy store)
    (knows : formatter.registry = registry) (here : world.store = start) :
    ∃ after, object.mapM formatter.copy world = (.ok copy, after) ∧ after.At store world.calls := by
  obtain ⟨between, written, unchanged⟩ := hands.serialize_ran knows here
  obtain ⟨after, rebuilt, added⟩ := hands.deserialize_ran knows unchanged.store
  refine ⟨after, ?_, added.store, added.calls.trans unchanged.calls⟩
  cases hands with
  | nothing =>
      cases written
      exact rebuilt
  | graph carries =>
      obtain ⟨_, serialized, same⟩ := exists_of_mapM_some_ran written
      cases same
      obtain ⟨_, deserialized, same⟩ := exists_of_mapM_some_ran rebuilt
      cases same
      exact mapM_some_of_ran (Formatter.copy_run serialized deserialized)

theorem isomorphic (hands : registry.Hands start object sent copy store) :
    Option.Rel (store.Isomorphic store) copy copy := by
  cases hands with
  | nothing => exact .none
  | graph carries => exact .some carries.isomorphic

theorem grown (hands : registry.Hands start object sent copy store) : start.Extends store := by
  cases hands with
  | nothing => exact .refl start
  | graph carries => exact carries.grown

theorem nothing_iff (hands : registry.Hands start object sent copy store) :
    copy = none ↔ object = none := by
  cases hands with
  | nothing => exact Iff.rfl
  | graph _ => exact ⟨nofun, nofun⟩

theorem isSome_eq (hands : registry.Hands start object sent copy store) :
    sent.isSome = copy.isSome := by
  cases hands <;> rfl

/-- What is handed over is of the type of its origin, and idle if that was. -/
theorem exists_origin (hands : registry.Hands start object sent copy store) {made : Node}
    (same : copy = some made) : ∃ node, object = some node ∧ made.type = node.type ∧
      (start.isBusy node = false → store.isBusy made = false) := by
  cases hands with
  | nothing => cases same
  | graph carries =>
      cases same
      exact ⟨_, rfl, carries.type, carries.idle⟩

end Registry.Hands

/-- Every copy that is made is handed over. -/
theorem Formatter.hands_of_copy {formatter : Formatter} {world copied : World}
    {object copy : Option Node} (typed : world.store.WellTyped)
    (ran : object.mapM formatter.copy world = (.ok copy, copied)) :
    ∃ sent, formatter.registry.Hands world.store object sent copy copied.store := by
  cases object with
  | none =>
      cases ran
      exact ⟨none, .nothing⟩
  | some node =>
      obtain ⟨made, once, rfl⟩ := exists_of_mapM_some_ran ran
      obtain ⟨payload, written, serialized, -⟩ := exists_of_bind_ran once
      have outcome := congrArg Prod.fst ((formatter.serialize_run node world).symm.trans serialized)
      obtain ⟨copy, store, carries⟩ :=
        formatter.registry.carries_of_serialize (fun _ _ => typed.resolves) outcome
      obtain ⟨after, again, added⟩ := (Registry.Hands.graph carries).copy_ran rfl rfl
      cases ran.symm.trans again
      exact ⟨some payload, added.store ▸ .graph carries⟩

end ObjectCourier
