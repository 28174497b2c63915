import ObjectCourier.Proofs.Graph.Isomorphism
import ObjectCourier.Proofs.Portal.Steps

/-!
Data access code as the portal calls it. A handler passes on the criteria or the target, writes the
call down, and hands back what its code has made. What is asked of data access code is that it is a
function of what it is given, a target counting as the graph that it is.
-/

namespace ObjectCourier

namespace Operation

def given (operation : Operation) (criteria : Option Criteria) : Option Criteria :=
  if operation.targetsObject then none else criteria

def target (operation : Operation) (object : Option Node) : Option Ref :=
  if operation.targetsObject then object.map Node.ref else none

end Operation

namespace Handler

/-- The work of data access code, once it is called. -/
def work (handler : Handler) (operation : Operation) (criteria : Option Criteria)
    (target : Option Ref) (context : Context) : Act (Option Node) :=
  match operation, criteria, target with
  | .create, some criteria, _ => do
      let data ← handler.access.create criteria context
      return some (← Act.onStore (handler.type.alloc data))
  | .fetch, some criteria, _ => do
      let data ← handler.access.fetch criteria context
      return some (← Act.onStore (handler.type.alloc data))
  | .update, _, some target => do
      handler.access.update target context
      return some ⟨handler.type, target⟩
  | .delete, some criteria, _ => do
      handler.access.delete criteria context
      return none
  | .execute, _, some target => do
      handler.access.execute target context
      return some ⟨handler.type, target⟩
  | .create, none, _ | .fetch, none, _ | .delete, none, _ => throw (.hostRequiresCriteria operation)
  | .update, _, none | .execute, _, none => throw (.hostRequiresObject operation)

def Alike : Except Fault (Option Node) × World → Except Fault (Option Node) × World → Prop
  | (.error _, _), (.error _, _) => True
  | (.ok left, before), (.ok right, after) =>
      Option.Rel (before.store.Isomorphic after.store) left right
  | _, _ => False

/-- Data access code that is a function of the operation, the criteria, the context and the graph of
its target. -/
def Functional (handler : Handler) : Prop :=
  ∀ operation criteria context left right (before after : World),
    Option.Rel (before.store.Isomorphic after.store) left right →
      Alike (handler.run operation criteria left context before)
        (handler.run operation criteria right context after)

variable {handler : Handler} {operation : Operation} {criteria : Option Criteria}
  {object result : Option Node} {context : Context} {world ended : World}

private theorem needTarget_world (handler : Handler) (operation : Operation) (object : Option Node)
    (world : World) : (handler.needTarget operation object world).2 = world := by
  cases object <;> rfl

private theorem exists_of_needTarget {object : Option Node} {target : Ref} {after : World}
    (needed : handler.needTarget operation object world = (.ok target, after)) :
    object = some ⟨handler.type, target⟩ ∧ after = world := by
  cases object with
  | none => cases needed
  | some node =>
      obtain ⟨type, ref⟩ := node
      change (Node.expect ⟨type, ref⟩ handler.type "target", world) = _ at needed
      unfold Node.expect at needed
      split at needed
      · rename_i same
        cases same
        cases needed
        exact ⟨rfl, rfl⟩
      · cases needed

/-- A handler either finds that what it was given does not fit, and does nothing, or it writes the
call down and hands over to its code. -/
theorem run_cases (handler : Handler) (operation : Operation) (criteria : Option Criteria)
    (object : Option Node) (context : Context) (world : World) :
    (∃ fault, handler.run operation criteria object context world = (.error fault, world)) ∨
      handler.run operation criteria object context world =
        handler.work operation (operation.given criteria) (operation.target object) context
          (world.calling (.accessed operation handler.type.key (operation.given criteria)
            (operation.target object) context)) := by
  cases operation with
  | create | fetch | delete =>
      cases criteria with
      | none => exact .inl ⟨_, rfl⟩
      | some criteria => exact .inr rfl
  | update | execute =>
      rcases needed : handler.needTarget _ object world with ⟨outcome, between⟩
      cases outcome with
      | error fault =>
          have unchanged : between = world := by
            rw [← handler.needTarget_world _ object world, needed]
          exact .inl ⟨fault, (bind_of_ran_error needed).trans (Prod.ext rfl unchanged)⟩
      | ok target =>
          rcases exists_of_needTarget needed with ⟨rfl, rfl⟩
          exact .inr (bind_of_ran_ok needed)

/-- A handler that succeeds has called its code once, on what it was given. -/
theorem run_called (ran : handler.run operation criteria object context world = (.ok result, ended)) :
    handler.work operation (operation.given criteria) (operation.target object) context
      (world.calling (.accessed operation handler.type.key (operation.given criteria)
        (operation.target object) context)) = (.ok result, ended) := by
  rcases handler.run_cases operation criteria object context world with ⟨fault, refused⟩ | called
  · cases ran.symm.trans refused
  · exact called.symm.trans ran

theorem target_of_run
    (ran : handler.run operation criteria object context world = (.ok result, ended))
    (targets : operation.targetsObject = true) :
    ∃ ref, object = some ⟨handler.type, ref⟩ ∧ operation.target object = some ref := by
  cases operation with
  | create | fetch | delete => cases targets
  | update | execute =>
      obtain ⟨target, between, needed, -⟩ := exists_of_bind_ran ran
      obtain ⟨rfl, -⟩ := exists_of_needTarget needed
      exact ⟨target, rfl, rfl⟩

theorem object_of_run
    (ran : handler.run operation criteria object context world = (.ok result, ended))
    (targets : operation.targetsObject = true) : result = object := by
  cases operation with
  | create | fetch | delete => cases targets
  | update | execute =>
      obtain ⟨target, between, needed, worked⟩ := exists_of_bind_ran ran
      obtain ⟨rfl, -⟩ := exists_of_needTarget needed
      obtain ⟨_, _, _, worked⟩ := exists_of_bind_ran worked
      obtain ⟨_, _, _, worked⟩ := exists_of_bind_ran worked
      cases worked
      rfl

/-- Only a delete hands back nothing, and what is handed back is of the handler's type. -/
theorem result_of_run
    (ran : handler.run operation criteria object context world = (.ok result, ended)) :
    (result = none ↔ operation = .delete) ∧ ∀ node, result = some node → node.type = handler.type := by
  have worked := run_called ran
  generalize operation.given criteria = criteria, operation.target object = target at worked
  cases operation with
  | create | fetch =>
      cases criteria with
      | none => cases worked
      | some criteria =>
          obtain ⟨data, between, -, worked⟩ := exists_of_bind_ran worked
          cases worked
          exact ⟨⟨nofun, nofun⟩, fun node same => by cases same; rfl⟩
  | update | execute =>
      cases target with
      | none => cases worked
      | some target =>
          obtain ⟨data, between, -, worked⟩ := exists_of_bind_ran worked
          cases worked
          exact ⟨⟨nofun, nofun⟩, fun node same => by cases same; rfl⟩
  | delete =>
      cases criteria with
      | none => cases worked
      | some criteria =>
          obtain ⟨data, between, -, worked⟩ := exists_of_bind_ran worked
          cases worked
          exact ⟨⟨fun _ => rfl, fun _ => rfl⟩, nofun⟩

end Handler

end ObjectCourier
