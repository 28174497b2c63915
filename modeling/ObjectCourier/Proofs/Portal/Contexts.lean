import ObjectCourier.Proofs.Graph.Passing
import ObjectCourier.Proofs.Portal.Isolation
import ObjectCourier.Proofs.Portal.Serving

/-!
Shared contexts and requests. A request is given a context when it begins, and the portal looks at no
shared context after that. Only what is plugged in could do so; when it does not, a request neither
depends on shared contexts nor changes them.
-/

namespace ObjectCourier

/-! ### Actions that have nothing to do with shared contexts -/

def World.withContexts (world : World) (contexts : Array Context) : World :=
  { world with contexts := contexts }

namespace Act

variable {α β : Type}

/-- The action neither depends on shared contexts nor changes them. -/
def Aloof (action : Act α) : Prop :=
  ∀ (world : World) contexts, action (world.withContexts contexts) =
    ((action world).1, (action world).2.withContexts contexts)

theorem Aloof.contexts {action : Act α} (aloof : action.Aloof) (world : World) :
    (action world).2.contexts = world.contexts :=
  congrArg (fun run => run.2.contexts) (aloof world world.contexts)

theorem aloof_ofExcept (outcome : Except Fault α) : (Act.ofExcept outcome).Aloof := fun _ _ => rfl

private theorem aloof_record (call : Call) :
    (liftM (record call) : Act Unit).Aloof := fun _ _ => rfl

theorem Aloof.bind {first : Act α} {next : α → Act β} (head : first.Aloof)
    (tail : ∀ value, (next value).Aloof) : (first >>= next).Aloof := by
  intro world contexts
  have moved := head world contexts
  rcases ran : first world with ⟨outcome, between⟩
  rw [ran] at moved
  cases outcome with
  | error fault => rw [bind_of_ran_error moved, bind_of_ran_error ran]
  | ok value =>
      rw [bind_of_ran_ok moved, bind_of_ran_ok ran]
      exact tail value between contexts

theorem Aloof.mapM {visit : α → Act β} (each : ∀ item, (visit item).Aloof) (object : Option α) :
    (object.mapM visit).Aloof := by
  cases object with
  | none => exact aloof_ofExcept (.ok none)
  | some item => exact (each item).bind fun made => aloof_ofExcept (.ok (some made))

theorem Aloof.whileRunning {action : Act α} (aloof : action.Aloof) (operation : Operation) :
    (Act.whileRunning operation action).Aloof := by
  intro world contexts
  rcases ran : action world with ⟨outcome, after⟩
  have moved := aloof world contexts
  rw [ran] at moved
  rw [Act.whileRunning_ended ran, Act.whileRunning_ended moved]

theorem Aloof.attempt {action : Act α} (aloof : action.Aloof) : (Act.attempt action).Aloof := by
  intro world contexts
  rcases ran : action world with ⟨outcome, after⟩
  have moved := aloof world contexts
  rw [ran] at moved
  by_cases crashed : outcome = .error .crash
  · subst crashed
    rw [Act.attempt_crashed ran, Act.attempt_crashed moved]
  · rw [Act.attempt_ended ran crashed, Act.attempt_ended moved crashed]

end Act

namespace Formatter

private theorem serialize_aloof (formatter : Formatter) (node : Node) :
    (formatter.serialize node).Aloof := by
  intro world contexts
  rw [serialize_run, serialize_run]
  rfl

private theorem deserialize_aloof (formatter : Formatter) (payload : Payload) :
    (formatter.deserialize payload).Aloof := by
  intro world contexts
  have here := formatter.deserialize_ended payload world
  have there := formatter.deserialize_ended payload (world.withContexts contexts)
  cases read : GraphPlan.read formatter.registry payload with
  | ok plan =>
      simp only [read] at here there
      rw [here, there]
      rfl
  | error fault =>
      simp only [read] at here there
      rw [here, there]

private theorem copy_aloof (formatter : Formatter) (node : Node) : (formatter.copy node).Aloof :=
  (formatter.serialize_aloof node).bind formatter.deserialize_aloof

end Formatter

namespace Staged

variable {α β : Type}

def Aloof (action : Staged α) : Prop :=
  ∀ stage (world : World) contexts, action stage (world.withContexts contexts) =
    ((action stage world).1, (action stage world).2.withContexts contexts)

/-- Only what follows on a value that the first step comes to matters. -/
theorem Aloof.bind_of_ran {first : Staged α} {next : α → Staged β} (head : first.Aloof)
    (tail : ∀ value stage world later after, first stage world = ((.ok value, later), after) →
      (next value).Aloof) : (first >>= next).Aloof := by
  intro stage world contexts
  have moved := head stage world contexts
  rcases ran : first stage world with ⟨⟨outcome, later⟩, between⟩
  rw [ran] at moved
  cases outcome with
  | error fault => rw [bind_failed moved, bind_failed ran]
  | ok value =>
      rw [bind_ran moved, bind_ran ran]
      exact tail value stage world later between ran later between contexts

theorem Aloof.bind {first : Staged α} {next : α → Staged β} (head : first.Aloof)
    (tail : ∀ value, (next value).Aloof) : (first >>= next).Aloof :=
  head.bind_of_ran fun value _ _ _ _ _ => tail value

private theorem aloof_ofAct {action : Act α} (aloof : action.Aloof) : (ofAct action).Aloof := by
  intro stage world contexts
  rcases ran : action world with ⟨outcome, after⟩
  have moved := aloof world contexts
  rw [ran] at moved
  rw [ofAct_ended ran, ofAct_ended moved]

private theorem aloof_advance (demand : Demand) (next : Stage) :
    (liftM (demand.advance next) : Staged Unit).Aloof := fun _ _ _ => rfl

end Staged

/-! ### Requests that have nothing to do with shared contexts -/

def Host.Aloof (host : Host) : Prop :=
  ∀ handler ∈ host.handlers, ∀ operation criteria target context,
    (handler.work operation criteria target context).Aloof

structure Dispatcher.Aloof (dispatcher : Dispatcher) : Prop where
  access : ∀ host, dispatcher.host = some host → host.Aloof
  transport : ∀ transport, dispatcher.transport = some transport → ∀ frame,
    (transport.send frame).Aloof

private theorem Handler.run_aloof {handler : Handler}
    (aloof : ∀ operation criteria target context,
      (handler.work operation criteria target context).Aloof)
    (operation : Operation) (criteria : Option Criteria) (object : Option Node) (context : Context) :
    (handler.run operation criteria object context).Aloof := by
  intro world contexts
  rw [handler.run_eq, handler.run_eq]
  cases handler.complaint? operation criteria object with
  | some fault => rfl
  | none =>
      exact aloof operation (operation.given criteria) (operation.target object) context
        (world.calling (.accessed operation handler.type.key (operation.given criteria)
          (operation.target object) context)) contexts

namespace Host

variable {host : Host}

private theorem execute_aloof (aloof : host.Aloof) (operation : Operation) (typeKey : String)
    (criteria : Option Criteria) (object : Option Node) (context : Context) :
    (host.execute operation typeKey criteria object context).Aloof := by
  unfold execute
  cases found : host.handler? typeKey with
  | none => exact Act.aloof_ofExcept _
  | some handler =>
      have known := List.mem_of_find?_eq_some found
      exact Handler.run_aloof (aloof handler known) operation criteria object context.enterServer

end Host

namespace Dispatcher

variable {dispatcher : Dispatcher}

private theorem runHere_aloof (aloof : dispatcher.Aloof) (demand : Demand) (context : Context) :
    (dispatcher.runHere demand context).Aloof := by
  unfold runHere
  cases works : dispatcher.host with
  | none => exact Act.aloof_ofExcept _
  | some host =>
      have executes (object : Option Node) := Host.execute_aloof (aloof.access host works)
        demand.operation demand.typeKey demand.criteria object context
      apply Act.Aloof.whileRunning
      split
      · exact (Act.Aloof.mapM dispatcher.formatter.copy_aloof demand.object).bind executes
      · exact (Act.aloof_ofExcept (.ok demand.object)).bind executes

private theorem encodeRequest_aloof (dispatcher : Dispatcher) (demand : Demand)
    (context : Context) : (dispatcher.encodeRequest demand context).Aloof := by
  have writes := Act.Aloof.mapM dispatcher.formatter.serialize_aloof demand.object
  refine (writes.bind fun sent => ?_).whileRunning _
  exact (Act.aloof_ofExcept _).bind fun compressor => Act.aloof_ofExcept _

private theorem decodeResponse_aloof (dispatcher : Dispatcher) (demand : Demand)
    (answer : Except Fault Bytes) : (dispatcher.decodeResponse demand answer).Aloof := by
  have takes := (Act.aloof_ofExcept answer).bind fun bytes => Act.aloof_ofExcept
    (Frame.decode Codec.response bytes dispatcher.formatter.compressors)
  refine (takes.whileRunning _).bind fun response => ?_
  cases response with
  | object payload =>
      exact (dispatcher.formatter.deserialize_aloof payload).bind fun node =>
        Act.aloof_ofExcept (.ok (some node))
  | done => exact Act.aloof_ofExcept (.ok none)
  | failed message reasons => exact Act.aloof_ofExcept (.error _)

private theorem roundTrip_aloof {send : Bytes → Act Bytes} {frame : Bytes}
    (aloof : (send frame).Aloof) : (roundTrip send frame).Aloof :=
  (Act.aloof_record _).bind fun _ => aloof.attempt

private theorem needTransport_aloof (dispatcher : Dispatcher) : dispatcher.needTransport.Aloof := by
  intro world contexts
  cases found : dispatcher.transport with
  | none => rw [needTransport_missing found, needTransport_missing found]
  | some transport => rw [needTransport_found found, needTransport_found found]

private theorem transport_of_needTransport {transport : Transport} {stage later : Stage}
    {world after : World}
    (ran : Staged.ofAct dispatcher.needTransport stage world = ((.ok transport, later), after)) :
    dispatcher.transport = some transport := by
  cases found : dispatcher.transport with
  | none =>
      rw [Staged.ofAct_ended (needTransport_missing found world)] at ran
      cases ran
  | some other =>
      rw [Staged.ofAct_ended (needTransport_found found world)] at ran
      cases ran
      rfl

private theorem perform_aloof (aloof : dispatcher.Aloof) (demand : Demand) (context : Context) :
    (dispatcher.perform demand context).Aloof := by
  unfold perform
  cases dispatcher.settings.place with
  | here =>
      refine (Staged.aloof_advance demand _).bind fun _ => ?_
      have executes := (dispatcher.runHere_aloof aloof demand context).attempt
      refine (Staged.aloof_ofAct executes).bind fun executed => ?_
      refine (Staged.aloof_advance demand _).bind fun _ => ?_
      exact Staged.aloof_ofAct (Act.aloof_ofExcept executed)
  | remote =>
      refine (Staged.aloof_advance demand _).bind fun _ => ?_
      refine (Staged.aloof_ofAct (dispatcher.encodeRequest_aloof demand context)).bind fun frame => ?_
      refine (Staged.aloof_advance demand _).bind fun _ => ?_
      refine (Staged.aloof_ofAct dispatcher.needTransport_aloof).bind_of_ran
        fun transport _ _ _ _ ran => ?_
      have sends := aloof.transport transport (transport_of_needTransport ran) frame
      refine (Staged.aloof_ofAct (roundTrip_aloof sends)).bind fun answer => ?_
      refine (Staged.aloof_advance demand _).bind fun _ => ?_
      exact Staged.aloof_ofAct (dispatcher.decodeResponse_aloof demand answer)

/-- A request depends on the context that it is given, and on no shared one. -/
theorem dispatchIn_aloof (aloof : dispatcher.Aloof) (context : Context) (demand : Demand) :
    (dispatcher.dispatchIn context demand).Aloof := by
  intro world contexts
  rw [dispatchIn_eq_guarding]
  cases decided : dispatcher.refusal? demand context world.store with
  | some fault =>
      have decidedThere :
          dispatcher.refusal? demand context (world.withContexts contexts).store = some fault := decided
      rw [guarding_refused decided, guarding_refused decidedThere]
      rfl
  | none =>
      have decidedThere :
          dispatcher.refusal? demand context (world.withContexts contexts).store = none := decided
      have moved := dispatcher.perform_aloof aloof demand context .authorizationChecked
        (demand.entering context world) contexts
      rcases worked : dispatcher.perform demand context .authorizationChecked
        (demand.entering context world) with ⟨⟨outcome, stage⟩, after⟩
      rw [worked] at moved
      rw [guarding_admitted decided worked, guarding_admitted decidedThere moved]
      rfl

end Dispatcher

/-! ### What is shown to what is plugged in -/

structure World.Undisturbed (before after : World) : Prop where
  calls : after.calls = before.calls
  contexts : after.contexts = before.contexts

namespace World

variable {before between after : World}

theorem Undisturbed.trans (early : before.Undisturbed between) (late : between.Undisturbed after) :
    before.Undisturbed after :=
  ⟨late.calls.trans early.calls, late.contexts.trans early.contexts⟩

private theorem undisturbed_note (world : World) (events : List Event) :
    world.Undisturbed (world.note events) := ⟨rfl, rfl⟩

private theorem Passed.undisturbed {store : Store} (passed : before.Passed store after) :
    before.Undisturbed after := by
  obtain ⟨log, rfl⟩ := passed
  exact ⟨rfl, rfl⟩

end World

inductive Host.Shows (host : Host) (context : Context) (before after : World) : Prop where
  | nothing (undisturbed : before.Undisturbed after)
  | accessed {handler operation criteria target begun outcome ended} (known : handler ∈ host.handlers)
      (begins : begun.calls = before.calls ++
        [.accessed operation handler.type.key criteria target context])
      (kept : begun.contexts = before.contexts)
      (worked : handler.work operation criteria target context begun = (outcome, ended))
      (ends : ended.Undisturbed after)

namespace Host

variable {host : Host} {context : Context} {first before after last world : World}

theorem Shows.within (exposed : host.Shows context before after) (early : first.Undisturbed before)
    (late : after.Undisturbed last) : host.Shows context first last := by
  cases exposed with
  | nothing undisturbed => exact .nothing ((early.trans undisturbed).trans late)
  | accessed known begins kept worked ends =>
      rw [early.calls] at begins
      exact .accessed known begins (kept.trans early.contexts) worked (ends.trans late)

private theorem execute_shows (operation : Operation) (typeKey : String)
    (criteria : Option Criteria) (object : Option Node) (context : Context) (world : World) :
    host.Shows context.enterServer world
      (host.execute operation typeKey criteria object context world).2 := by
  unfold execute
  cases found : host.handler? typeKey with
  | none => exact .nothing ⟨rfl, rfl⟩
  | some handler =>
      have known := List.mem_of_find?_eq_some found
      have ran := handler.run_eq operation criteria object context.enterServer world
      cases content : handler.complaint? operation criteria object with
      | some fault =>
          simp only [content] at ran
          simp only [ran]
          exact .nothing ⟨rfl, rfl⟩
      | none =>
          simp only [content] at ran
          simp only [ran]
          rcases worked : handler.work operation (operation.given criteria) (operation.target object)
            context.enterServer (world.calling (.accessed operation handler.type.key
              (operation.given criteria) (operation.target object) context.enterServer)) with
                ⟨outcome, ended⟩
          refine .accessed known ?_ ?_ worked ⟨rfl, rfl⟩
          · rfl
          · rfl

private theorem runRequest_shows (request : Request) (world : World) :
    host.Shows request.context.enterServer world (host.runRequest request world).2 := by
  obtain ⟨store, passed⟩ := host.formatter.mapM_deserialize_passed request.object world
  rcases rebuilt : request.object.mapM host.formatter.deserialize world with ⟨outcome, between⟩
  rw [rebuilt] at passed
  cases outcome with
  | error fault =>
      rw [runRequest_unread rebuilt]
      exact .nothing passed.undisturbed
  | ok object =>
      have executes := @execute_shows host request.operation request.typeKey request.criteria object
        request.context between
      rcases executed : host.execute request.operation request.typeKey request.criteria object
        request.context between with ⟨outcome, ended⟩
      rw [executed] at executes
      cases outcome with
      | error fault =>
          rw [runRequest_failed rebuilt executed]
          exact executes.within passed.undisturbed ⟨rfl, rfl⟩
      | ok result =>
          rw [runRequest_served rebuilt executed]
          exact executes.within passed.undisturbed
            (host.formatter.mapM_serialize_passed result ended).undisturbed

private theorem handle_shows {request : Request} {frame : Bytes}
    (read : Frame.decode Codec.request frame host.formatter.compressors = .ok request)
    (world : World) :
    host.Shows request.context.enterServer world (host.handle frame world).2 := by
  have serves := @runRequest_shows host request
    (world.note [.received request.operation request.typeKey])
  rcases ran : host.runRequest request (world.note [.received request.operation request.typeKey])
    with ⟨outcome, after⟩
  rw [ran] at serves
  have answered : host.answer frame world = (responseTo request.operation outcome, after) :=
    (answer_read read).trans (respond_ended ran)
  obtain ⟨events, handled⟩ := host.exists_handle_world answered
  rw [handled]
  have noted := world.undisturbed_note [.received request.operation request.typeKey]
  exact serves.within noted (after.undisturbed_note events)

end Host

namespace Dispatcher

/-- The work behind the gate shows this context to data access code and no other: the host at hand
does, or a frame is sent and every host that can read the frame does. -/
inductive Shows (dispatcher : Dispatcher) (context : Context) (before after : World) : Prop where
  | nothing (undisturbed : before.Undisturbed after)
  | here {host} (place : dispatcher.settings.place = .here) (works : dispatcher.host = some host)
      (shown : host.Shows context.enterServer before after)
  | sent {transport frame begun answer ended} (place : dispatcher.settings.place = .remote)
      (found : dispatcher.transport = some transport)
      (begins : begun.calls = before.calls ++ [.sent frame])
      (kept : begun.contexts = before.contexts)
      (sends : transport.send frame begun = (answer, ended))
      (shown : ∀ host, dispatcher.ReadBy host → ∀ world,
        host.Shows context.enterServer world (host.handle frame world).2)
      (ends : ended.Undisturbed after)

variable {dispatcher : Dispatcher} {demand : Demand} {context : Context}
  {first before after last world : World}

theorem Shows.within (exposed : dispatcher.Shows context before after)
    (early : first.Undisturbed before) (late : after.Undisturbed last) :
    dispatcher.Shows context first last := by
  cases exposed with
  | nothing undisturbed => exact .nothing ((early.trans undisturbed).trans late)
  | here place works shown => exact .here place works (shown.within early late)
  | sent place found begins kept sends shown ends =>
      rw [early.calls] at begins
      exact .sent place found begins (kept.trans early.contexts) sends shown (ends.trans late)

private theorem runHere_shows (place : dispatcher.settings.place = .here) (demand : Demand)
    (context : Context) (world : World) :
    dispatcher.Shows context world (dispatcher.runHere demand context world).2 := by
  unfold runHere
  cases works : dispatcher.host with
  | none => exact .nothing ⟨rfl, rfl⟩
  | some host =>
      refine .here place works ?_
      simp only [Act.whileRunning_world]
      split
      · obtain ⟨store, passed⟩ := dispatcher.formatter.mapM_copy_passed demand.object world
        rcases copied : demand.object.mapM dispatcher.formatter.copy world with ⟨outcome, between⟩
        rw [copied] at passed
        cases outcome with
        | error fault =>
            rw [bind_of_ran_error copied]
            exact .nothing passed.undisturbed
        | ok object =>
            rw [bind_of_ran_ok copied]
            exact (host.execute_shows _ _ _ object context between).within passed.undisturbed
              ⟨rfl, rfl⟩
      · exact host.execute_shows _ _ _ demand.object context world

private theorem decodeResponse_undisturbed (dispatcher : Dispatcher) (demand : Demand)
    (answer : Except Fault Bytes) (world : World) :
    world.Undisturbed (dispatcher.decodeResponse demand answer world).2 :=
  ⟨dispatcher.decodeResponse_calls demand answer world,
    (dispatcher.decodeResponse_aloof demand answer).contexts world⟩

private theorem encoded_shows {frame : Bytes}
    (encoded : dispatcher.encodeRequest demand context world = (.ok frame, after)) (host : Host)
    (readBy : dispatcher.ReadBy host) (begun : World) :
    host.Shows context.enterServer begun (host.handle frame begun).2 := by
  obtain ⟨sent, compressor, known, framed⟩ := exists_of_encodeRequest encoded
  have read := Formatter.read_of_framed Codec.request_faithful known
    (readBy.lossless compressor known) framed
  rw [readBy.compressors] at read
  exact Host.handle_shows read begun

private theorem perform_shows (dispatcher : Dispatcher) (demand : Demand) (context : Context)
    (world : World) : dispatcher.Shows context world
      (dispatcher.perform demand context .authorizationChecked world).2 := by
  cases place : dispatcher.settings.place with
  | here =>
      obtain ⟨stage, events, performed⟩ :=
        perform_here_ended place (rfl : dispatcher.runHere demand context _ = _)
      rw [performed]
      exact (runHere_shows place demand context _).within (world.undisturbed_note _) ⟨rfl, rfl⟩
  | remote =>
      have passed := dispatcher.encodeRequest_passed demand context (world.note
        [.advanced demand.operation demand.typeKey .authorizationChecked .serializingOut])
      rcases encoded : dispatcher.encodeRequest demand context (world.note
        [.advanced demand.operation demand.typeKey .authorizationChecked .serializingOut]) with
          ⟨outcome, between⟩
      rw [encoded] at passed
      have quiet := (world.undisturbed_note _).trans passed.undisturbed
      cases outcome with
      | error fault =>
          rw [perform_unwritten place encoded]
          exact .nothing quiet
      | ok frame =>
          cases found : dispatcher.transport with
          | none =>
              rw [perform_unsent place found encoded]
              exact .nothing (quiet.trans (between.undisturbed_note _))
          | some transport =>
              rcases sent : transport.send frame ((between.note [.advanced demand.operation
                demand.typeKey .serializingOut .remoteRoundTrip]).calling (.sent frame)) with
                  ⟨answer, ended⟩
              have ends := (ended.undisturbed_note (demand.arrival answer)).trans
                (dispatcher.decodeResponse_undisturbed demand answer _)
              obtain ⟨stage, performed⟩ := perform_answered place found encoded sent
              rw [performed]
              refine .sent place found ?_ ?_ sent (encoded_shows encoded) ends
              · exact congrArg (· ++ [Call.sent frame]) quiet.calls
              · exact quiet.contexts

/-- The authorizer is asked about the principal of the context, and what is behind the gate is shown
the context. -/
theorem dispatchIn_shows (dispatcher : Dispatcher) (context : Context) (demand : Demand)
    (world : World) : dispatcher.Shows context (demand.asking context world)
      (dispatcher.dispatchIn context demand world).2 := by
  rw [dispatchIn_eq_guarding]
  cases decided : dispatcher.refusal? demand context world.store with
  | some fault =>
      rw [guarding_refused decided]
      exact .nothing ⟨rfl, rfl⟩
  | none =>
      have asked : demand.asking context world = _ :=
        demand.asking_of_valid (refusal?_eq_none.mp decided).1
      rw [guarding_admitted decided rfl, asked]
      exact (dispatcher.perform_shows demand context (demand.entering context world)).within
        ⟨rfl, rfl⟩ ⟨rfl, rfl⟩

end Dispatcher

end ObjectCourier
