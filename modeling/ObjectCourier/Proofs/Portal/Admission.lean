import ObjectCourier.Proofs.Graph.Blame
import ObjectCourier.Proofs.Graph.Passing
import ObjectCourier.Proofs.Portal.Access

/-!
The gate of a request. A refusal, which is a fault of the arguments or of the authorization, comes
from the gate and from nowhere else: what fails behind it is a failure of the operation or a complaint
about what has come back. A request that is turned away has done nothing but, at most, ask the
authorizer; an admitted one has asked it once.
-/

namespace ObjectCourier

namespace Fault

/-- The fault tells its caller that a request was turned away. -/
def isRefusal : Fault → Bool
  | argument _ | notAuthorized .. => true
  | _ => false

private theorem isRefusal_whileRunning (operation : Operation) (fault : Fault) :
    (fault.whileRunning operation).isRefusal = false := by
  cases fault <;> rfl

private theorem isRefusal_of_blamesPayload {fault : Fault} (blames : fault.blamesPayload = true) :
    fault.isRefusal = false := by
  cases fault with
  | corruptGraph _ | typeMismatch _ _ _ | serialization _ => rfl
  | _ => cases blames

private theorem ne_crash_of_isRefusal {fault : Fault} (refusal : fault.isRefusal = true) :
    fault ≠ .crash := by
  rintro ⟨⟩
  cases refusal

end Fault

abbrev Unrefused {α : Type} (outcome : Except Fault α) : Prop :=
  FailsOnly (fun fault => fault.isRefusal = false) outcome

private theorem Blaming.unrefused {α : Type} {reason : Prop} {outcome : Except Fault α}
    (blames : Blaming reason outcome) : Unrefused outcome := by
  intro fault failed
  rcases blames fault failed with payload | ⟨rfl, _⟩
  · exact Fault.isRefusal_of_blamesPayload payload
  · rfl

namespace Act

variable {α : Type}

private theorem whileRunning_unrefused (operation : Operation) (action : Act α) (world : World) :
    Unrefused (Act.whileRunning operation action world).1 := by
  rcases ran : action world with ⟨outcome, after⟩
  rw [Act.whileRunning_ended ran]
  cases outcome with
  | error fault => exact failsOnly_error (fault.isRefusal_whileRunning operation)
  | ok value => exact failsOnly_ok value

theorem whileRunning_world (operation : Operation) (action : Act α) (world : World) :
    (Act.whileRunning operation action world).2 = (action world).2 := by
  rcases ran : action world with ⟨outcome, after⟩
  rw [Act.whileRunning_ended ran]

end Act

namespace Demand

private theorem validate_refuses (demand : Demand) (store : Store) :
    FailsOnly (fun fault => fault.isRefusal = true) (demand.validate store) := by
  unfold validate
  simp only
  split
  · split
    · exact failsOnly_ok _
    · exact failsOnly_error rfl
  · split
    · exact failsOnly_error rfl
    · split
      · exact failsOnly_error rfl
      · split
        · split
          · split
            · exact failsOnly_error rfl
            · split
              · exact failsOnly_error rfl
              · exact failsOnly_ok _
          · exact failsOnly_ok _
        · exact failsOnly_ok _

private theorem checkResult_unrefused (demand : Demand) (store : Store) (result : Option Node) :
    Unrefused (demand.checkResult store result) := by
  unfold checkResult
  split
  · split
    · exact failsOnly_error rfl
    · exact failsOnly_ok _
  · split
    · exact failsOnly_error rfl
    · split
      · exact failsOnly_error rfl
      · exact failsOnly_ok _

end Demand

namespace Dispatcher

variable {dispatcher : Dispatcher} {demand : Demand} {context : Context} {world after : World}
  {earlier : List Call} {outcome : Except Fault (Option Node)}

private theorem isRefusal_of_refusal? {store : Store} {fault : Fault}
    (refused : dispatcher.refusal? demand context store = some fault) : fault.isRefusal = true := by
  unfold refusal? at refused
  split at refused
  · rename_i invalid
    cases refused
    exact demand.validate_refuses store fault invalid
  · split at refused
    · cases refused
    · cases refused
      rfl

private theorem decodeResponse_unrefused (dispatcher : Dispatcher) (demand : Demand)
    (answer : Except Fault Bytes) (world : World) :
    Unrefused (dispatcher.decodeResponse demand answer world).1 := by
  rw [decodeResponse_ended]
  split
  · exact Blaming.unrefused (dispatcher.formatter.mapM_deserialize_blames _ world)
  · exact failsOnly_ok _
  · exact failsOnly_error rfl
  · exact failsOnly_error (Fault.isRefusal_whileRunning _ _)

theorem decodeResponse_calls (dispatcher : Dispatcher) (demand : Demand)
    (answer : Except Fault Bytes) (world : World) :
    (dispatcher.decodeResponse demand answer world).2.calls = world.calls := by
  rw [decodeResponse_ended]
  split
  · rename_i payload _
    obtain ⟨store, passed⟩ :=
      dispatcher.formatter.mapM_deserialize_passed (some payload) world
    exact passed.calls_eq
  · rfl
  · rfl
  · rfl

inductive Calls (dispatcher : Dispatcher) (demand : Demand) (context : Context)
    (earlier : List Call) (after : World) : Prop where
  | none (calls : after.calls = earlier)
  | accessed {host : Host} {handler : Handler} {object : Option Node} {begun : World}
      (works : dispatcher.host = some host) (found : host.handler? demand.typeKey = some handler)
      (begins : begun.calls = earlier ++ [.accessed demand.operation handler.type.key
        (demand.operation.given demand.criteria) (demand.operation.target object)
        context.enterServer])
      (ends : after.calls = (handler.work demand.operation (demand.operation.given demand.criteria)
        (demand.operation.target object) context.enterServer begun).2.calls)
  | sent {transport : Transport} {frame : Bytes} {begun : World}
      (found : dispatcher.transport = some transport)
      (begins : begun.calls = earlier ++ [.sent frame])
      (ends : after.calls = (transport.send frame begun).2.calls)

structure Silent (dispatcher : Dispatcher) : Prop where
  access : ∀ host, dispatcher.host = some host → ∀ handler ∈ host.handlers,
    ∀ operation criteria target context begun,
      (handler.work operation criteria target context begun).2.calls.filter Call.isConsulted =
        begun.calls.filter Call.isConsulted
  transport : ∀ transport, dispatcher.transport = some transport → ∀ frame begun,
    (transport.send frame begun).2.calls.filter Call.isConsulted =
      begun.calls.filter Call.isConsulted

theorem Calls.consulted (calls : dispatcher.Calls demand context earlier after)
    (silent : dispatcher.Silent) :
    after.calls.filter Call.isConsulted = earlier.filter Call.isConsulted := by
  cases calls with
  | none calls => rw [calls]
  | accessed works found begins ends =>
      rw [ends, silent.access _ works _ (List.mem_of_find?_eq_some found), begins,
        List.filter_append]
      exact List.append_nil _
  | sent found begins ends =>
      rw [ends, silent.transport _ found, begins, List.filter_append]
      exact List.append_nil _

structure Worked (dispatcher : Dispatcher) (demand : Demand) (context : Context)
    (earlier : List Call) (outcome : Except Fault (Option Node)) (after : World) : Prop where
  unrefused : Unrefused outcome
  calls : dispatcher.Calls demand context earlier after

private theorem execute_calls {host : Host} (works : dispatcher.host = some host)
    (object : Option Node) (quiet : world.calls = earlier) : dispatcher.Calls demand context earlier
      (host.execute demand.operation demand.typeKey demand.criteria object context world).2 := by
  unfold Host.execute
  cases found : host.handler? demand.typeKey with
  | none => exact .none quiet
  | some handler =>
      rcases handler.run_cases demand.operation demand.criteria object context.enterServer world with
        ⟨fault, refused⟩ | called
      · simp only [refused]
        exact .none quiet
      · simp only [called]
        exact .accessed works found (congrArg (· ++ _) quiet) rfl

private theorem runHere_worked (dispatcher : Dispatcher) (demand : Demand) (context : Context)
    (world : World) : dispatcher.Worked demand context world.calls
      (dispatcher.runHere demand context world).1 (dispatcher.runHere demand context world).2 := by
  unfold runHere
  cases works : dispatcher.host with
  | none => exact ⟨failsOnly_error rfl, .none rfl⟩
  | some host =>
      refine ⟨Act.whileRunning_unrefused _ _ _, ?_⟩
      simp only [Act.whileRunning_world]
      split
      · rcases copied : demand.object.mapM dispatcher.formatter.copy world with ⟨outcome, between⟩
        have quiet : between.calls = world.calls := by
          obtain ⟨store, passed⟩ := dispatcher.formatter.mapM_copy_passed demand.object world
          rw [copied] at passed
          exact passed.calls_eq
        cases outcome with
        | error fault =>
            rw [bind_of_ran_error copied]
            exact .none quiet
        | ok object =>
            rw [bind_of_ran_ok copied]
            exact execute_calls works object quiet
      · exact execute_calls works demand.object rfl

theorem encodeRequest_passed (dispatcher : Dispatcher) (demand : Demand) (context : Context)
    (world : World) : world.Passed world.store (dispatcher.encodeRequest demand context world).2 := by
  rw [encodeRequest_ended]
  exact dispatcher.formatter.mapM_serialize_passed demand.object world

private theorem encodeRequest_quiet (dispatcher : Dispatcher) (demand : Demand) (context : Context)
    (world : World) : Unrefused (dispatcher.encodeRequest demand context world).1 ∧
      (dispatcher.encodeRequest demand context world).2.calls = world.calls :=
  ⟨Act.whileRunning_unrefused _ _ _, (dispatcher.encodeRequest_passed demand context world).calls_eq⟩

private theorem perform_worked (dispatcher : Dispatcher) (demand : Demand) (context : Context)
    (world : World) : dispatcher.Worked demand context world.calls
      (dispatcher.perform demand context .authorizationChecked world).1.1
      (dispatcher.perform demand context .authorizationChecked world).2 := by
  cases place : dispatcher.settings.place with
  | here =>
      obtain ⟨unrefused, calls⟩ := dispatcher.runHere_worked demand context (world.note
        [.advanced demand.operation demand.typeKey .authorizationChecked .localExecuting])
      obtain ⟨stage, events, performed⟩ :=
        perform_here_ended place (rfl : dispatcher.runHere demand context _ = _)
      rw [performed]
      refine ⟨unrefused, ?_⟩
      cases calls with
      | none calls => exact .none calls
      | accessed works found begins ends => exact .accessed works found begins ends
      | sent found begins ends => exact .sent found begins ends
  | remote =>
      obtain ⟨unrefused, quiet⟩ := dispatcher.encodeRequest_quiet demand context (world.note
        [.advanced demand.operation demand.typeKey .authorizationChecked .serializingOut])
      rcases encoded : dispatcher.encodeRequest demand context (world.note
        [.advanced demand.operation demand.typeKey .authorizationChecked .serializingOut]) with
          ⟨outcome, between⟩
      rw [encoded] at unrefused quiet
      cases outcome with
      | error fault =>
          rw [perform_unwritten place encoded]
          exact ⟨failsOnly_error (unrefused fault rfl), .none quiet⟩
      | ok frame =>
          cases found : dispatcher.transport with
          | none =>
              rw [perform_unsent place found encoded]
              exact ⟨failsOnly_error rfl, .none quiet⟩
          | some transport =>
              obtain ⟨stage, performed⟩ := perform_answered place found encoded rfl
              rw [performed]
              have begins : ((between.note [.advanced demand.operation demand.typeKey
                  .serializingOut .remoteRoundTrip]).calling (.sent frame)).calls =
                    world.calls ++ [.sent frame] := congrArg (· ++ [Call.sent frame]) quiet
              refine ⟨dispatcher.decodeResponse_unrefused _ _ _, .sent found begins ?_⟩
              exact dispatcher.decodeResponse_calls _ _ _

private theorem performAsync_worked (place : dispatcher.settings.place = .remote) (demand : Demand)
    (context : Context) (world : World) : dispatcher.awaiting.Worked demand context world.calls
      (dispatcher.performAsync demand context .authorizationChecked world).1.1
      (dispatcher.performAsync demand context .authorizationChecked world).2 := by
  cases found : dispatcher.transport with
  | some transport =>
      rw [performAsync_eq place found]
      exact dispatcher.awaiting.perform_worked demand context world
  | none =>
      obtain ⟨unrefused, quiet⟩ := dispatcher.encodeRequest_quiet demand context (world.note
        [.advanced demand.operation demand.typeKey .authorizationChecked .serializingOut])
      rw [performAsync_unsent found rfl]
      exact ⟨unrefused.bind fun _ => failsOnly_error rfl, .none quiet⟩

/-- What a request does at the gate. It fails with a refusal exactly when the gate turns it away, and
then nothing is done but to ask the authorizer, if the arguments are valid. Else the authorizer has
been asked once before anything that is plugged in is called. -/
structure Gated (dispatcher : Dispatcher) (demand : Demand) (context : Context) (world : World)
    (run : Except Fault (Option Node) × World) : Prop where
  refused : ∀ fault, (run.1 = .error fault ∧ fault.isRefusal = true) ↔
    dispatcher.refusal? demand context world.store = some fault
  untouched : ∀ fault, dispatcher.refusal? demand context world.store = some fault → run.2 =
    { world with
      log := world.log ++
        [.requested demand.operation demand.typeKey,
          .advanced demand.operation demand.typeKey .requested .faulted,
          .faulted demand.operation demand.typeKey .requested fault]
      calls := world.calls ++ demand.consultations context world.store }
  calls : dispatcher.Calls demand context
    (world.calls ++ demand.consultations context world.store) run.2
  consulted : dispatcher.Silent → run.2.calls.filter Call.isConsulted =
    world.calls.filter Call.isConsulted ++ demand.consultations context world.store

theorem Calls.note (calls : dispatcher.Calls demand context earlier after) (events : List Event) :
    dispatcher.Calls demand context earlier (after.note events) := by
  cases calls with
  | none calls => exact .none calls
  | accessed works found begins ends => exact .accessed works found begins ends
  | sent found begins ends => exact .sent found begins ends

private theorem consultations_consulted (demand : Demand) (context : Context) (store : Store) :
    (demand.consultations context store).filter Call.isConsulted =
      demand.consultations context store := by
  unfold Demand.consultations
  split <;> rfl

private theorem guarding_gated {work : Staged (Option Node)}
    (worked : dispatcher.Worked demand context (demand.entering context world).calls
      (work .authorizationChecked (demand.entering context world)).1.1
      (work .authorizationChecked (demand.entering context world)).2) :
    dispatcher.Gated demand context world (dispatcher.guarding context demand work world) := by
  have calls : dispatcher.Calls demand context
      (world.calls ++ demand.consultations context world.store)
      (dispatcher.guarding context demand work world).2 := by
    cases decided : dispatcher.refusal? demand context world.store with
    | some fault =>
        rw [guarding_refused decided]
        exact .none rfl
    | none =>
        rw [guarding_admitted decided rfl]
        unfold Demand.consultations
        rw [(refusal?_eq_none.mp decided).1]
        exact worked.calls.note _
  refine { refused := ?_, untouched := ?_, calls := calls, consulted := ?_ }
  · intro fault
    cases decided : dispatcher.refusal? demand context world.store with
    | some found =>
        rw [guarding_refused decided]
        constructor
        · rintro ⟨⟨⟩, _⟩
          rfl
        · rintro ⟨⟩
          exact ⟨rfl, isRefusal_of_refusal? decided⟩
    | none =>
        -- Neither the work nor the check of its result fails with a refusal.
        rw [guarding_admitted decided rfl]
        have unrefused := worked.unrefused.bind (demand.checkResult_unrefused
          (work .authorizationChecked (demand.entering context world)).2.store)
        constructor
        · rintro ⟨failed, refusal⟩
          exact absurd ((unrefused fault failed).symm.trans refusal) Bool.false_ne_true
        · exact nofun
  · intro fault decided
    have whole := Fault.ne_crash_of_isRefusal (isRefusal_of_refusal? decided)
    rw [guarding_refused decided, demand.epilogue_of_fault _ whole]
    simp only [World.note, Demand.asking, List.append_assoc, List.cons_append, List.nil_append]
  · intro silent
    rw [calls.consulted silent, List.filter_append, consultations_consulted]

/-- In whatever way a request is made, now or by a worker later on, it fails with a refusal exactly
when the gate turns it away; then nothing has been done. -/
theorem requests_gated (dispatcher : Dispatcher) (demand : Demand) (world : World) :
    (∀ context, dispatcher.Gated demand context world
      (dispatcher.dispatchIn context demand world)) ∧
    dispatcher.Gated demand (world.context dispatcher.context) world
      (dispatcher.dispatch demand world) ∧
    dispatcher.awaiting.Gated demand (world.context dispatcher.context) world
      (dispatcher.dispatchAsync demand world) ∧
    ∀ earlier : World, dispatcher.Gated demand (earlier.context dispatcher.context) world
      ((dispatcher.begin demand earlier).1.run world) := by
  have gated (dispatcher : Dispatcher) (context : Context) : dispatcher.Gated demand context world
      (dispatcher.dispatchIn context demand world) :=
    guarding_gated (dispatcher.perform_worked demand context _)
  refine ⟨gated dispatcher, ?_, ?_, fun earlier => gated dispatcher _⟩
  · rw [dispatch_eq]
    exact gated dispatcher _
  · cases place : dispatcher.settings.place with
    | here =>
        rw [dispatchAsync_here place, ← dispatchIn_awaiting place]
        exact gated dispatcher.awaiting _
    | remote =>
        rw [dispatchAsync_remote place]
        exact @guarding_gated dispatcher.awaiting _ _ _ _ (performAsync_worked place demand _ _)

end Dispatcher

end ObjectCourier
