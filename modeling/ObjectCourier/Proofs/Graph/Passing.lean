import ObjectCourier.Proofs.Graph.Blame
import ObjectCourier.Proofs.Graph.Copying

/-!
What a pass over a graph does to the world, whatever it comes to. Writing adds to the log, reading
adds to the log and to the objects, and nothing else is touched.
-/

namespace ObjectCourier

/-- After a pass the world has these objects and another log, and is else as it was. -/
def World.Passed (before : World) (store : Store) (after : World) : Prop :=
  ∃ log, after = { before with store := store, log := log }

namespace World.Passed

variable {before between after : World} {first store : Store}

theorem refl (world : World) : world.Passed world.store world := ⟨world.log, rfl⟩

theorem note (world : World) (events : List Event) :
    world.Passed world.store (world.note events) := ⟨world.log ++ events, rfl⟩

theorem trans (early : before.Passed first between) (late : between.Passed store after) :
    before.Passed store after := by
  rcases early with ⟨_, rfl⟩
  rcases late with ⟨log, rfl⟩
  exact ⟨log, rfl⟩

theorem store_eq (passed : before.Passed store after) : after.store = store := by
  rcases passed with ⟨_, rfl⟩
  rfl

theorem calls_eq (passed : before.Passed store after) : after.calls = before.calls := by
  rcases passed with ⟨_, rfl⟩
  rfl

end World.Passed

namespace Formatter

private theorem serialize_passed (formatter : Formatter) (node : Node) (world : World) :
    world.Passed world.store (formatter.serialize node world).2 := .note world _

/-- Objects are added exactly when the payload can be read. -/
theorem deserialize_ended (formatter : Formatter) (payload : Payload) (world : World) :
    match GraphPlan.read formatter.registry payload with
    | .ok plan => formatter.deserialize payload world =
        (.ok (plan.build world.store).1, { world with store := (plan.build world.store).2 }.note
          [.rebuilt plan.objects.length plan.root])
    | .error fault => formatter.deserialize payload world = (.error fault, world) := by
  split
  · rename_i plan read
    exact deserialize_run read rfl
  · rename_i fault refused
    unfold deserialize
    rw [refused]
    rfl

private theorem deserialize_passed (formatter : Formatter) (payload : Payload) (world : World) :
    ∃ store, world.Passed store (formatter.deserialize payload world).2 := by
  have ended := formatter.deserialize_ended payload world
  split at ended
  · rw [ended]
    exact ⟨_, _, rfl⟩
  · rw [ended]
    exact ⟨_, .refl world⟩

private theorem copy_passed (formatter : Formatter) (node : Node) (world : World) :
    ∃ store, world.Passed store (formatter.copy node world).2 := by
  rcases written : formatter.serialize node world with ⟨outcome, between⟩
  have first : world.Passed world.store between := by
    have passed := formatter.serialize_passed node world
    rwa [written] at passed
  cases outcome with
  | error fault =>
      unfold copy
      rw [bind_of_ran_error written]
      exact ⟨_, first⟩
  | ok payload =>
      obtain ⟨store, second⟩ := formatter.deserialize_passed payload between
      unfold copy
      rw [bind_of_ran_ok written]
      exact ⟨store, first.trans second⟩

theorem mapM_serialize_passed (formatter : Formatter) (object : Option Node) (world : World) :
    world.Passed world.store (object.mapM formatter.serialize world).2 := by
  cases object with
  | none => exact .refl world
  | some node =>
      rw [mapM_some_run]
      exact formatter.serialize_passed node world

theorem mapM_copy_passed (formatter : Formatter) (object : Option Node) (world : World) :
    ∃ store, world.Passed store (object.mapM formatter.copy world).2 := by
  cases object with
  | none => exact ⟨_, .refl world⟩
  | some node =>
      rw [mapM_some_run]
      exact formatter.copy_passed node world

theorem mapM_deserialize_passed (formatter : Formatter) (sent : Option Payload) (world : World) :
    ∃ store, world.Passed store (sent.mapM formatter.deserialize world).2 := by
  cases sent with
  | none => exact ⟨_, .refl world⟩
  | some payload =>
      rw [mapM_some_run]
      exact formatter.deserialize_passed payload world

/-- To copy is to write and then to read. -/
theorem mapM_copy (formatter : Formatter) (object : Option Node) (world : World) :
    object.mapM formatter.copy world =
      (object.mapM formatter.serialize >>= fun sent => sent.mapM formatter.deserialize) world := by
  cases object with
  | none => rfl
  | some node =>
      rw [mapM_some_run]
      rcases written : formatter.serialize node world with ⟨outcome, between⟩
      unfold copy
      cases outcome with
      | error fault =>
          have unwritten :
              (some node).mapM formatter.serialize world = (.error fault, between) := by
            rw [mapM_some_run, written]
            rfl
          rw [bind_of_ran_error written, bind_of_ran_error unwritten]
          rfl
      | ok payload =>
          rw [bind_of_ran_ok written, bind_of_ran_ok (mapM_some_of_ran written), mapM_some_run]

/-- Formatters with the same registry differ in their frames only. -/
theorem serialize_congr {formatter other : Formatter} (same : formatter.registry = other.registry) :
    formatter.serialize = other.serialize := by
  unfold serialize
  rw [same]

private theorem deserialize_congr {formatter other : Formatter}
    (same : formatter.registry = other.registry) : formatter.deserialize = other.deserialize := by
  unfold deserialize
  rw [same]

theorem copy_congr {formatter other : Formatter} (same : formatter.registry = other.registry) :
    formatter.copy = other.copy := by
  unfold copy
  rw [serialize_congr same, deserialize_congr same]

end Formatter

def World.quiet (world : World) : World := { world with log := [], calls := [] }

private theorem World.store_of_quiet {left right : World} (same : left.quiet = right.quiet) :
    left.store = right.store := by
  change left.quiet.store = right.quiet.store
  rw [same]

/-- The action pays no regard to what is written down about the work. -/
def Act.Blind {α : Type} (action : Act α) : Prop :=
  ∀ left right : World, left.quiet = right.quiet →
    (action left).1 = (action right).1 ∧ (action left).2.quiet = (action right).2.quiet

namespace Act

variable {α β : Type}

private theorem blind_pure (value : α) : (pure value : Act α).Blind := fun _ _ same => ⟨rfl, same⟩

theorem Blind.bind {first : Act α} {next : α → Act β} (head : first.Blind)
    (tail : ∀ value, (next value).Blind) : (first >>= next).Blind := by
  intro left right same
  obtain ⟨outcomes, worlds⟩ := head left right same
  rcases ranLeft : first left with ⟨outcome, between⟩
  rcases ranRight : first right with ⟨other, beside⟩
  rw [ranLeft, ranRight] at outcomes worlds
  cases outcomes
  cases outcome with
  | error fault =>
      rw [bind_of_ran_error ranLeft, bind_of_ran_error ranRight]
      exact ⟨rfl, worlds⟩
  | ok value =>
      rw [bind_of_ran_ok ranLeft, bind_of_ran_ok ranRight]
      exact tail value between beside worlds

theorem Blind.mapM {visit : α → Act β} (each : ∀ item, (visit item).Blind) (object : Option α) :
    (object.mapM visit).Blind := by
  cases object with
  | none => exact blind_pure none
  | some item => exact (each item).bind fun _ => blind_pure _

/-- What a blind action has done in one world it does in every world that is the same to it. -/
theorem Blind.again {action : Act α} (blind : action.Blind) {left after : World}
    {outcome : Except Fault α} (ran : action left = (outcome, after))
    (right : World) (same : right.quiet = left.quiet) :
    ∃ other, action right = (outcome, other) ∧ other.quiet = after.quiet := by
  obtain ⟨outcomes, worlds⟩ := blind right left same
  rw [ran] at outcomes worlds
  exact ⟨(action right).2, Prod.ext outcomes rfl, worlds⟩

end Act

namespace Formatter

theorem serialize_blind (formatter : Formatter) (node : Node) :
    (formatter.serialize node).Blind := by
  intro left right same
  rw [serialize_run, serialize_run, World.store_of_quiet same]
  exact ⟨rfl, same⟩

theorem deserialize_blind (formatter : Formatter) (payload : Payload) :
    (formatter.deserialize payload).Blind := by
  intro left right same
  have first := formatter.deserialize_ended payload left
  have second := formatter.deserialize_ended payload right
  split at first
  · rename_i plan read
    rw [read] at second
    rw [first, second, World.store_of_quiet same]
    exact ⟨rfl, congrArg (fun world : World =>
      { world with store := (plan.build right.store).2 }) same⟩
  · rename_i fault refused
    rw [refused] at second
    rw [first, second]
    exact ⟨rfl, same⟩

theorem copy_blind (formatter : Formatter) (node : Node) : (formatter.copy node).Blind :=
  (formatter.serialize_blind node).bind formatter.deserialize_blind

/-- When an optional graph cannot be read back, its payload is to blame. -/
theorem mapM_serialize_blames (formatter : Formatter) (object : Option Node) (world : World) :
    FailsOnly (fun fault => fault.blamesGraph = true) (object.mapM formatter.serialize world).1 := by
  cases object with
  | none => exact failsOnly_ok _
  | some root =>
      rw [mapM_some_run, serialize_run]
      exact (world.store.serialize_blames _ root).map _

theorem mapM_deserialize_blames (formatter : Formatter) (sent : Option Payload) (world : World) :
    Blaming (∃ payload ∈ sent, payload.Overreaches) (sent.mapM formatter.deserialize world).1 := by
  cases sent with
  | none => exact failsOnly_ok _
  | some payload =>
      rw [mapM_some_run]
      have ended := formatter.deserialize_ended payload world
      split at ended
      · rw [ended]
        exact failsOnly_ok _
      · rename_i fault refused
        rw [ended]
        have blames := GraphPlan.read_blames _ payload fault refused
        exact failsOnly_error (blames.imp_right fun ⟨same, here⟩ => ⟨same, payload, rfl, here⟩)

end Formatter

end ObjectCourier
