import ObjectCourier.Proofs.Portal.Access
import ObjectCourier.Proofs.Portal.Handing

/-!
Location transparency. A request that succeeds at the host succeeds behind a loopback to the same
host as well: data access code is called once, with the same things, and what is returned is the same
graph. The local way copies the target once; the remote way writes and rebuilds it and the result,
with a frame around each.
-/

namespace ObjectCourier

/-- The payload of a graph, if there is one. -/
def Store.payload? (store : Store) (policy : Policy) : Option Node → Except Fault (Option Payload)
  | none => .ok none
  | some node => (store.serialize policy node).1.map some

/-! ### Answers -/

/-- Between two worlds, data access code is called once: there is no call of it ahead of the world in
which it begins, and no further call after the world in which it ends. Around it objects are only
added. -/
structure Handler.CalledOnce (handler : Handler) (operation : Operation)
    (criteria : Option Criteria) (target : Option Ref) (context : Context)
    (world begun ended final : World) (outcome : Option Node) : Prop where
  ahead : ∃ earlier, begun.calls = world.calls ++ earlier ++
      [.accessed operation handler.type.key criteria target context] ∧
    ∀ call ∈ earlier, call.isAccessed = false
  grown : world.store.Extends begun.store
  worked : handler.work operation criteria target context begun = (.ok outcome, ended)
  after : final.calls = ended.calls
  left : ended.store.Extends final.store

/-- The request ends well. Data access code is called once, on the server side of the context, with
the criteria of the demand or with a target of the asked payload; what is returned is of the demanded
type and has the answered payload. -/
structure Dispatcher.AnsweredBy (dispatcher : Dispatcher) (handler : Handler) (demand : Demand)
    (context : Context) (world : World) (asked answer : Option Payload) (target : Option Ref)
    (begun ended final : World) (outcome result : Option Node) : Prop where
  returned : dispatcher.dispatchIn context demand world = (.ok result, final)
  called : handler.CalledOnce demand.operation (demand.operation.given demand.criteria) target
    context.enterServer world begun ended final outcome
  target : target.map (fun ref => (begun.store.serialize dispatcher.formatter.registry.policy
    ⟨handler.type, ref⟩).1) = asked.map .ok
  typeKey : ∀ node, result = some node → node.typeKey = demand.typeKey
  payload : final.store.payload? dispatcher.formatter.registry.policy result = .ok answer

def Dispatcher.Answers (dispatcher : Dispatcher) (handler : Handler) (demand : Demand)
    (context : Context) (world : World) (asked answer : Option Payload) : Prop :=
  ∃ target begun ended final outcome result,
    dispatcher.AnsweredBy handler demand context world asked answer target begun ended final outcome
      result

structure Dispatcher.WorksAt (dispatcher : Dispatcher) (host : Host) : Prop where
  place : dispatcher.settings.place = .here
  clones : dispatcher.settings.autoClone = true
  works : dispatcher.host = some host
  registry : dispatcher.formatter.registry = host.formatter.registry

structure Dispatcher.LoopsTo (dispatcher : Dispatcher) (host : Host) (packer answerer : Compressor) :
    Prop where
  place : dispatcher.settings.place = .remote
  transport : dispatcher.transport = some (.loopback host)
  registry : dispatcher.formatter.registry = host.formatter.registry
  compressors : dispatcher.formatter.compressors = host.formatter.compressors
  packs : dispatcher.formatter.compressor = .ok packer
  responds : host.formatter.compressor = .ok answerer
  packerReversible : packer.Reversible
  answererReversible : answerer.Reversible

/-- On a copy of the target, data access code succeeds with an idle result, whose graph has the
payload of the answer. -/
def Handler.Succeeds (handler : Handler) (formatter : Formatter) (demand : Demand)
    (context : Context) (world : World) (answer : Option Payload) : Prop :=
  ∃ object copied result ended, demand.object.mapM formatter.copy world = (.ok object, copied) ∧
    handler.run demand.operation demand.criteria object context.enterServer copied =
      (.ok result, ended) ∧
    (∀ node, result = some node → ended.store.isBusy node = false) ∧
      ended.store.payload? formatter.registry.policy result = .ok answer

/-! ### Payloads -/

theorem Store.payload?_some {store : Store} {policy : Policy} {node : Node}
    {payload : Option Payload} : store.payload? policy (some node) = .ok payload ↔
      ∃ found, (store.serialize policy node).1 = .ok found ∧ some found = payload :=
  map_eq_ok

private theorem Store.payload?_eq_none {store : Store} {policy : Policy} {object : Option Node}
    {payload : Option Payload} (written : store.payload? policy object = .ok payload) :
    payload = none ↔ object = none := by
  cases object with
  | none =>
      cases written
      exact ⟨fun _ => rfl, fun _ => rfl⟩
  | some node =>
      obtain ⟨found, -, rfl⟩ := payload?_some.mp written
      exact ⟨nofun, nofun⟩

theorem Registry.Hands.payload? {registry : Registry} {start store : Store}
    {object copy : Option Node} {sent : Option Payload}
    (hands : registry.Hands start object sent copy store) :
    start.payload? registry.policy object = .ok sent := by
  cases hands with
  | nothing => rfl
  | graph carries => exact Store.payload?_some.mpr ⟨_, carries.written, rfl⟩

private theorem Registry.Hands.payload?_copy {registry : Registry} {start store : Store}
    {object copy : Option Node} {sent : Option Payload}
    (hands : registry.Hands start object sent copy store) :
    store.payload? registry.policy copy = .ok sent := by
  cases hands with
  | nothing => rfl
  | graph carries => exact Store.payload?_some.mpr ⟨_, carries.again, rfl⟩

private theorem Store.payload?_of_rel {left right : Store} {policy : Policy}
    {object other : Option Node}
    {payload : Option Payload} (isomorphic : Option.Rel (left.Isomorphic right) object other)
    (written : left.payload? policy object = .ok payload) :
    right.payload? policy other = .ok payload := by
  cases isomorphic with
  | none => exact written
  | some isomorphic =>
      obtain ⟨found, serialized, same⟩ := payload?_some.mp written
      exact payload?_some.mpr ⟨found, isomorphic.serialize serialized, same⟩

private theorem Registry.exists_hands {registry : Registry} {left right : Store}
    {object other : Option Node} {payload : Option Payload}
    (isomorphic : Option.Rel (left.Isomorphic right) object other)
    (written : left.payload? registry.policy object = .ok payload) :
    ∃ copy store, registry.Hands right other payload copy store := by
  have again := Store.payload?_of_rel isomorphic written
  cases isomorphic with
  | none =>
      cases again
      exact ⟨none, right, .nothing⟩
  | some isomorphic =>
      obtain ⟨found, serialized, rfl⟩ := Store.payload?_some.mp again
      obtain ⟨copy, store, carries⟩ :=
        registry.carries_of_serialize (fun _ => isomorphic.resolves) serialized
      exact ⟨some copy, store, .graph carries⟩

/-! ### The call of data access code -/

namespace Handler

variable {handler : Handler} {operation : Operation} {criteria : Option Criteria}
  {object result outcome : Option Node} {context : Context}

/-- Data access code that has succeeded does so again on the same objects, whatever else is in the
world. -/
theorem Functional.again (functional : handler.Functional) {before other ended : World}
    (ran : handler.run operation criteria object context before = (.ok result, ended))
    (graph : Option.Rel (before.store.Isomorphic before.store) object object)
    (here : other.store = before.store) :
    ∃ outcome after, handler.run operation criteria object context other = (.ok outcome, after) ∧
      Option.Rel (ended.store.Isomorphic after.store) result outcome := by
  have both := functional operation criteria context object object before other (here ▸ graph)
  rw [ran] at both
  cases again : handler.run operation criteria object context other with
  | mk outcome after =>
      rw [again] at both
      cases outcome with
      | error fault => exact absurd both id
      | ok outcome => exact ⟨outcome, after, rfl, both⟩

private theorem calledOnce_of_run {world entered ended final : World} {earlier : List Call}
    (ran : handler.run operation criteria object context entered = (.ok outcome, ended))
    (grown : world.store.Extends entered.store) (calls : entered.calls = world.calls ++ earlier)
    (silent : ∀ call ∈ earlier, call.isAccessed = false) (left : ended.store.Extends final.store)
    (last : final.calls = ended.calls) :
    handler.CalledOnce operation (operation.given criteria) (operation.target object) context world
      (entered.calling (.accessed operation handler.type.key (operation.given criteria)
        (operation.target object) context)) ended final outcome where
  ahead := ⟨earlier, congrArg (fun calls => calls ++ _) calls, silent⟩
  grown := grown
  worked := run_called ran
  after := last
  left := left

private theorem payload_of_target {registry : Registry} {start store : Store}
    {entered begun ended : World} {source : Option Node} {sent : Option Payload}
    (ran : handler.run operation criteria object context entered = (.ok outcome, ended))
    (hands : registry.Hands start source sent object store) (here : begun.store = store) :
    (operation.target object).map (fun ref =>
      (begun.store.serialize registry.policy ⟨handler.type, ref⟩).1) =
        (if operation.targetsObject then sent else none).map .ok := by
  subst here
  cases targets : operation.targetsObject with
  | false =>
      unfold Operation.target
      rw [targets]
      rfl
  | true =>
      obtain ⟨ref, same, target⟩ := target_of_run ran targets
      rw [target]
      subst same
      cases hands with
      | graph carries => exact congrArg some carries.again

end Handler

private theorem Host.type_of_handler? {host : Host} {typeKey : String} {handler : Handler}
    (found : host.handler? typeKey = some handler) : handler.type.key = typeKey := by
  have same := List.find?_some found
  exact of_decide_eq_true same

theorem Host.execute_eq {host : Host} {typeKey : String} {handler : Handler}
    (found : host.handler? typeKey = some handler) (operation : Operation)
    (criteria : Option Criteria) (object : Option Node) (context : Context) :
    host.execute operation typeKey criteria object context =
      handler.run operation criteria object context.enterServer := by
  unfold execute
  rw [found]

theorem Host.typeKey_of_run {host : Host} {demand : Demand} {handler : Handler}
    {object outcome : Option Node} {context : Context} {world ended : World}
    (found : host.handler? demand.typeKey = some handler)
    (ran : handler.run demand.operation demand.criteria object context world = (.ok outcome, ended)) :
    ∀ node, outcome = some node → node.typeKey = demand.typeKey := by
  intro node same
  have kind := (Handler.result_of_run ran).2 node same
  exact (congrArg ObjType.key kind).trans (host.type_of_handler? found)

theorem Demand.checkResult_eq (demand : Demand) (store : Store) {node : Node}
    (typeKey : node.typeKey = demand.typeKey) : demand.checkResult store (some node) =
      if store.isBusy node then .error (.busyResult demand.operation demand.typeKey)
      else .ok (some node) := by
  unfold checkResult Store.isBusy
  simp only [typeKey, ne_eq, not_true_eq_false, if_false]

private theorem Demand.checkResult_of_idle {demand : Demand} {store : Store} {result : Option Node}
    (nothing : result = none → demand.operation = .delete)
    (idle : ∀ node, result = some node →
      node.typeKey = demand.typeKey ∧ store.isBusy node = false) :
    demand.checkResult store result = .ok result := by
  cases result with
  | none =>
      unfold checkResult
      rw [nothing rfl]
      rfl
  | some node =>
      obtain ⟨same, notBusy⟩ := idle node rfl
      rw [demand.checkResult_eq store same, notBusy, if_neg Bool.false_ne_true]

/-! ### Both ways -/

section Ways

variable {host : Host} {handler : Handler} {demand : Demand} {context : Context}
  {world copied ended : World} {object result : Option Node} {sent answer : Option Payload}

structure Host.Executed (host : Host) (handler : Handler) (demand : Demand) (context : Context)
    (object : Option Node) (answer : Option Payload) (entered after : World)
    (outcome : Option Node) : Prop where
  ran : handler.run demand.operation demand.criteria object context.enterServer entered =
    (.ok outcome, after)
  executed : host.execute demand.operation demand.typeKey demand.criteria object context entered =
    (.ok outcome, after)
  idle : ∀ node, outcome = some node → after.store.isBusy node = false
  typeKey : ∀ node, outcome = some node → node.typeKey = demand.typeKey
  hands : ∃ returned store, host.formatter.registry.Hands after.store outcome answer returned store

/-- What a handler has run well on some objects, its host runs well wherever these objects are. -/
theorem Handler.Functional.executed (functional : handler.Functional)
    (found : host.handler? demand.typeKey = some handler)
    (ran : handler.run demand.operation demand.criteria object context.enterServer copied =
      (.ok result, ended))
    (idle : ∀ node, result = some node → ended.store.isBusy node = false)
    (written : ended.store.payload? host.formatter.registry.policy result = .ok answer)
    (graph : Option.Rel (copied.store.Isomorphic copied.store) object object) {entered : World}
    (here : entered.store = copied.store) :
    ∃ outcome after, host.Executed handler demand context object answer entered after outcome := by
  obtain ⟨outcome, after, again, isomorphic⟩ := functional.again ran graph here
  have execute := host.execute_eq found demand.operation demand.criteria object context
  refine ⟨outcome, after, again, ?_, ?_, host.typeKey_of_run found again, ?_⟩
  · rw [execute]
    exact again
  · intro node same
    subst same
    cases isomorphic with
    | some isomorphic => exact isomorphic.idle (idle _ rfl)
  · exact Registry.exists_hands isomorphic written

theorem Host.Executed.checked {entered after : World} {outcome : Option Node}
    (executed : host.Executed handler demand context object answer entered after outcome) :
    demand.checkResult after.store outcome = .ok outcome := by
  refine Demand.checkResult_of_idle (Handler.result_of_run executed.ran).1.mp fun node same => ?_
  exact ⟨executed.typeKey node same, executed.idle node same⟩

private theorem Host.Executed.checked_back {entered after : World} {outcome returned : Option Node}
    {store : Store}
    (executed : host.Executed handler demand context object answer entered after outcome)
    (back : host.formatter.registry.Hands after.store outcome answer returned store) :
    (∀ node, returned = some node → node.typeKey = demand.typeKey) ∧
      demand.checkResult store returned = .ok returned := by
  have typeKey : ∀ node, returned = some node → node.typeKey = demand.typeKey := by
    intro node same
    obtain ⟨origin, here, kind, -⟩ := back.exists_origin same
    exact (congrArg ObjType.key kind).trans (executed.typeKey origin here)
  refine ⟨typeKey, Demand.checkResult_of_idle ?_ fun node same => ⟨typeKey node same, ?_⟩⟩
  · intro nothing
    exact (Handler.result_of_run executed.ran).1.mp (back.nothing_iff.mp nothing)
  · obtain ⟨origin, here, -, keeps⟩ := back.exists_origin same
    exact keeps (executed.idle origin here)

theorem Dispatcher.WorksAt.answers {dispatcher : Dispatcher} (works : dispatcher.WorksAt host)
    (valid : demand.validate world.store = .ok ())
    (allowed : dispatcher.authorizer demand.operation demand.typeKey context.principal = true)
    (hands : host.formatter.registry.Hands world.store demand.object sent object copied.store)
    (serves : ∀ entered : World, entered.store = copied.store → ∃ outcome after,
      host.Executed handler demand context object answer entered after outcome) :
    dispatcher.Answers handler demand context world
      (if demand.operation.targetsObject then sent else none) answer := by
  obtain ⟨entered, copy, placed⟩ := @Registry.Hands.copy_ran _ _ _ _ _ _ dispatcher.formatter
    ((demand.entering context world).note
      [.advanced demand.operation demand.typeKey .authorizationChecked .localExecuting])
    hands works.registry rfl
  obtain ⟨outcome, after, executed⟩ := serves entered placed.store
  have performed := Dispatcher.perform_here works.place
    (Dispatcher.runHere_ran works.works works.clones copy executed.executed) (ok_ne_error _ _)
  obtain ⟨final, dispatched, unchanged⟩ :=
    Dispatcher.dispatchIn_ran valid allowed performed executed.checked
  have silent : ∀ call ∈ [Call.consulted demand.operation demand.typeKey context.principal],
      call.isAccessed = false := by
    intro call member
    rw [List.mem_singleton.mp member]
    rfl
  refine ⟨_, _, after, final, outcome, outcome, dispatched,
    Handler.calledOnce_of_run executed.ran ?_ placed.calls silent ?_ unchanged.calls, ?_,
    executed.typeKey, ?_⟩
  · exact placed.store ▸ hands.grown
  · exact unchanged.store ▸ .refl _
  · rw [works.registry]
    exact Handler.payload_of_target executed.ran hands placed.store
  · obtain ⟨_, _, back⟩ := executed.hands
    rw [works.registry, unchanged.store]
    exact back.payload?

/-- A request behind a loopback: its frame holds the payload of the target, and the frame of its
response the payload of the result. -/
theorem Dispatcher.LoopsTo.answers {dispatcher : Dispatcher} {packer answerer : Compressor}
    (loops : dispatcher.LoopsTo host packer answerer)
    (requestFits : packer.Fits (Codec.request.encode (demand.request sent context)))
    (responseFits : answerer.Fits (Codec.response.encode (.ofAnswer answer)))
    (valid : demand.validate world.store = .ok ())
    (allowed : dispatcher.authorizer demand.operation demand.typeKey context.principal = true)
    (hands : host.formatter.registry.Hands world.store demand.object sent object copied.store)
    (serves : ∀ entered : World, entered.store = copied.store → ∃ outcome after,
      host.Executed handler demand context object answer entered after outcome) :
    dispatcher.Answers handler demand context world
      (if demand.operation.targetsObject then sent else none) answer := by
  -- The request goes out.
  obtain ⟨between, serialized, unchanged⟩ := @Registry.Hands.serialize_ran _ _ _ _ _ _
    dispatcher.formatter ((demand.entering context world).note
      [.advanced demand.operation demand.typeKey .authorizationChecked .serializingOut])
    hands loops.registry rfl
  obtain ⟨frame, framed, readRequest⟩ :=
    Formatter.frame_carries Codec.request_faithful loops.packs loops.packerReversible requestFits
  have encoded := Dispatcher.encodeRequest_ran loops.packs serialized framed
  -- The host rebuilds the target and calls the data access code.
  obtain ⟨entered, rebuilt, placed⟩ := @Registry.Hands.deserialize_ran _ _ _ _ _ _ host.formatter
    (((between.note [.advanced demand.operation demand.typeKey .serializingOut
      .remoteRoundTrip]).calling (.sent frame)).note [.received demand.operation demand.typeKey])
    hands rfl unchanged.store
  obtain ⟨outcome, after, executed⟩ := serves entered placed.store
  obtain ⟨returned, store, back⟩ := executed.hands
  -- The response comes back and is rebuilt.
  obtain ⟨answered, serializedBack, kept⟩ :=
    @Registry.Hands.serialize_ran _ _ _ _ _ _ host.formatter after back rfl rfl
  obtain ⟨bytes, framedBack, readResponse⟩ :=
    Formatter.frame_carries Codec.response_faithful loops.responds loops.answererReversible
      responseFits
  rw [loops.compressors] at readRequest
  rw [← loops.compressors] at readResponse
  have handled := Host.handle_ran readRequest
    (Host.runRequest_ran rebuilt executed.executed serializedBack) loops.responds framedBack
  obtain ⟨closed, rebuiltBack, added⟩ := @Registry.Hands.deserialize_ran _ _ _ _ _ _
    dispatcher.formatter (answered.note
      [.advanced demand.operation demand.typeKey .remoteRoundTrip .serializingIn])
    back loops.registry kept.store
  have decoded := @Dispatcher.decodeResponse_ran _ demand _ _ _ _ _ readResponse rebuiltBack
  have performed := Dispatcher.perform_remote loops.place loops.transport encoded handled decoded
  obtain ⟨typeKey, checked⟩ := executed.checked_back back
  rw [← added.store] at checked
  obtain ⟨final, dispatched, last⟩ := Dispatcher.dispatchIn_ran valid allowed performed checked
  have calls : entered.calls = world.calls ++
      [.consulted demand.operation demand.typeKey context.principal, .sent frame] := by
    rw [placed.calls]
    change between.calls ++ [Call.sent frame] = _
    rw [unchanged.calls]
    exact List.append_assoc _ _ _
  have silent : ∀ call ∈ [Call.consulted demand.operation demand.typeKey context.principal,
      .sent frame], call.isAccessed = false := by
    intro call member
    rcases List.mem_pair.mp member with rfl | rfl <;> rfl
  have settled : final.calls = after.calls := last.calls.trans (added.calls.trans kept.calls)
  refine ⟨_, _, after, final, outcome, returned, dispatched,
    Handler.calledOnce_of_run executed.ran ?_ calls silent ?_ settled, ?_, typeKey, ?_⟩
  · exact placed.store ▸ hands.grown
  · rw [last.store, added.store]
    exact back.grown
  · rw [loops.registry]
    exact Handler.payload_of_target executed.ran hands placed.store
  · rw [loops.registry, last.store, added.store]
    exact back.payload?_copy

/-- A request that is admitted and that data access code does well ends well at either place. Data
access code is called once, with the same criteria and context and with targets of the same payload,
and the results have the same payload; a delete, and nothing else, returns nothing. -/
theorem Dispatcher.answers_at_either_place {here remote : Dispatcher} {packer answerer : Compressor}
    (works : here.WorksAt host) (loops : remote.LoopsTo host packer answerer)
    (found : host.handler? demand.typeKey = some handler) (functional : handler.Functional)
    (typed : world.store.WellTyped) (valid : demand.validate world.store = .ok ())
    (allowedHere : here.authorizer demand.operation demand.typeKey context.principal = true)
    (allowedRemote : remote.authorizer demand.operation demand.typeKey context.principal = true)
    (succeeds : handler.Succeeds host.formatter demand context world answer)
    (requestFits : ∀ sent, world.store.payload? host.formatter.registry.policy demand.object =
      .ok sent → packer.Fits (Codec.request.encode (demand.request sent context)))
    (responseFits : answerer.Fits (Codec.response.encode (.ofAnswer answer))) :
    (answer = none ↔ demand.operation = .delete) ∧
      ∃ asked, (if demand.operation.targetsObject then asked.isSome = true ∧
          world.store.payload? host.formatter.registry.policy demand.object = .ok asked
        else asked = none) ∧
        here.Answers handler demand context world asked answer ∧
          remote.Answers handler demand context world asked answer := by
  obtain ⟨object, copied, result, ended, cloned, ran, idle, written⟩ := succeeds
  obtain ⟨sent, hands⟩ := Formatter.hands_of_copy typed cloned
  have serves : ∀ entered : World, entered.store = copied.store → ∃ outcome after,
      host.Executed handler demand context object answer entered after outcome :=
    fun _ => functional.executed found ran idle written hands.isomorphic
  refine ⟨?_, if demand.operation.targetsObject then sent else none, ?_, ?_, ?_⟩
  · rw [← (Handler.result_of_run ran).1]
    exact Store.payload?_eq_none written
  · split
    · rename_i targets
      obtain ⟨ref, same, -⟩ := Handler.target_of_run ran targets
      refine ⟨?_, hands.payload?⟩
      rw [hands.isSome_eq, same]
      rfl
    · rfl
  · exact works.answers valid allowedHere hands serves
  · exact loops.answers (requestFits sent hands.payload?) responseFits valid allowedRemote hands serves

end Ways

/-! ### A host for links -/

def Handler.keepingLinks : Handler where
  type := .record .link
  access := { update := fun _ _ => pure () }

private theorem Handler.keepingLinks_functional : keepingLinks.Functional := by
  intro operation criteria context left right before after graph
  cases operation with
  | create | fetch | delete => cases criteria <;> trivial
  | update =>
      cases graph with
      | none => trivial
      | @some root other isomorphic =>
          obtain ⟨type, ref⟩ := root
          obtain ⟨place, rfl⟩ := isomorphic.exists_place
          cases type with
          | list element => trivial
          | record type =>
              cases type with
              | link => exact .some isomorphic
              | customer | contact | gadget | part | marker | scalars | node => trivial
  | execute =>
      cases graph with
      | none => trivial
      | @some root other isomorphic =>
          obtain ⟨type, ref⟩ := root
          obtain ⟨place, rfl⟩ := isomorphic.exists_place
          cases type with
          | list element => trivial
          | record type => cases type <;> trivial

def Host.ofLinks : Host where
  formatter := .links
  handlers := [.keepingLinks]

def Dispatcher.ofLinks (place : Place) : Dispatcher where
  settings := { place := place }
  formatter := .links
  authorizer := .allowAll
  context := ⟨0⟩
  host := some .ofLinks
  transport := some (.loopback .ofLinks)

def Demand.updateRing : Demand where
  operation := .update
  typeKey := (ObjType.record .link).key
  object := some .inRing

theorem Compressor.none_reversible : Compressor.none.Reversible where
  total body := ⟨body, rfl⟩
  lossless _ _ same := by
    cases same
    rfl

theorem Compressor.none_fits {body : Bytes} (fits : body.length < Bytes.limit) :
    Compressor.none.Fits body := by
  refine ⟨fits, ?_⟩
  rintro _ ⟨⟩
  have room : Frame.headerSize + Bytes.limit ≤ Varint.bound := by decide
  omega

private theorem Handler.keepingLinks_succeeds {payload : Payload}
    (written : (Store.ring.serialize Formatter.links.registry.policy .inRing).1 = .ok payload) :
    keepingLinks.Succeeds .links .updateRing {} { store := .ring } (some payload) := by
  obtain ⟨⟨type, ref⟩, store, carries⟩ :=
    Registry.carries_of_serialize (fun _ _ => Store.ring_wellTyped.resolves) written
  obtain ⟨copied, ran, added⟩ := @Registry.Hands.copy_ran _ _ _ _ _ _ Formatter.links
    { store := .ring } (.graph carries) rfl rfl
  cases carries.type
  refine ⟨some ⟨.record .link, ref⟩, copied, some ⟨.record .link, ref⟩, _, ran, rfl, ?_, ?_⟩
  · rintro _ ⟨⟩
    rfl
  · have again := carries.again
    rw [← added.store] at again
    exact Store.payload?_some.mpr ⟨payload, again, rfl⟩

/-- The ring is updated at either place. -/
theorem Dispatcher.answers_at_either_place_ring :
    ∃ asked answer,
      (ofLinks .here).Answers .keepingLinks .updateRing {} { store := .ring } asked answer ∧
        (ofLinks .remote).Answers .keepingLinks .updateRing {} { store := .ring } asked answer := by
  obtain ⟨payload, written⟩ : ∃ payload,
      (Store.ring.serialize Formatter.links.registry.policy .inRing).1 = .ok payload := ⟨_, rfl⟩
  have works : (ofLinks .here).WorksAt .ofLinks := ⟨rfl, rfl, rfl, rfl⟩
  have loops : (ofLinks .remote).LoopsTo .ofLinks .none .none :=
    ⟨rfl, rfl, rfl, rfl, rfl, rfl, Compressor.none_reversible, Compressor.none_reversible⟩
  have requestFits : ∀ sent, Store.ring.payload? Formatter.links.registry.policy (some .inRing) =
      .ok sent → Compressor.none.Fits (Codec.request.encode (Demand.updateRing.request sent {})) := by
    intro sent same
    cases same
    exact Compressor.none_fits (by decide +kernel)
  have responseFits : Compressor.none.Fits
      (Codec.response.encode (.ofAnswer (some payload))) := by
    cases written
    exact Compressor.none_fits (by decide +kernel)
  obtain ⟨-, asked, -, here, remote⟩ := answers_at_either_place works loops rfl
    Handler.keepingLinks_functional Store.ring_wellTyped rfl rfl rfl
    (Handler.keepingLinks_succeeds written) requestFits responseFits
  exact ⟨asked, some payload, here, remote⟩

end ObjectCourier
