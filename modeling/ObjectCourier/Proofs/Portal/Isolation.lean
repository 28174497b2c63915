import ObjectCourier.Proofs.Graph.Seclusion
import ObjectCourier.Proofs.Portal.Admission
import ObjectCourier.Proofs.Portal.Failing
import ObjectCourier.Proofs.Portal.Reach

/-!
The objects of a caller. An update or an execution works on a copy of its target: at the host because
the target is copied, and behind a loopback because it is rebuilt from the request. Data access code
that works on what it can reach from that copy leaves every object of the caller as it was, also when
it fails halfway; and what is returned is a new object.
-/

namespace ObjectCourier

structure Store.Spares (start : Store) (run : Except Fault (Option Node) × World) : Prop where
  kept : start.Extends run.2.store
  made : ∀ node, run.1 = .ok (some node) → node.NewIn start run.2.store

private theorem Store.Shuns.spares {start : Store} {run : Except Fault (Option Node) × World}
    (shuns : start.Shuns run) : start.Spares run := ⟨shuns.secluded.grown, shuns.made⟩

section Places

variable {host : Host} {handler : Handler} {demand : Demand} {context : Context} {world : World}
  {start : Store} {object : Option Node} {dispatcher : Dispatcher} {operation : Operation}
  {typeKey : String} {criteria : Option Criteria}

private theorem Operation.target_eq_some {ref : Ref} (given : operation.target object = some ref) :
    ∃ node, object = some node ∧ node.ref = ref := by
  unfold target at given
  split at given
  · exact Option.map_eq_some_iff.mp given
  · cases given

private theorem Host.execute_secluded (criteria : Option Criteria) (context : Context)
    (confined : ∀ handler, host.handler? typeKey = some handler → handler.Confined operation)
    (shuns : start.Shuns (.ok object, world)) :
    start.Secluded (host.execute operation typeKey criteria object context world).2.store ∧
      world.store.cells.size ≤
        (host.execute operation typeKey criteria object context world).2.store.cells.size := by
  cases found : host.handler? typeKey with
  | none =>
      unfold execute
      rw [found]
      exact ⟨shuns.secluded, Nat.le_refl _⟩
  | some handler =>
      have reworked := (confined handler found).run criteria object context.enterServer world
      rw [host.execute_eq found]
      refine ⟨reworked.secluded shuns.secluded fun ref given => ?_, reworked.size_le⟩
      obtain ⟨node, rfl, rfl⟩ := Operation.target_eq_some given
      exact (shuns.made node rfl).new

private theorem Host.execute_spares (criteria : Option Criteria) (context : Context)
    (confined : ∀ handler, host.handler? typeKey = some handler → handler.Confined operation)
    (targets : operation.targetsObject = true) (shuns : start.Shuns (.ok object, world)) :
    start.Spares (host.execute operation typeKey criteria object context world) := by
  obtain ⟨secluded, grown⟩ := host.execute_secluded criteria context confined shuns
  refine ⟨secluded.grown, fun node ended => ?_⟩
  cases found : host.handler? typeKey with
  | none =>
      unfold execute at ended
      rw [found] at ended
      cases ended
  | some handler =>
      rw [host.execute_eq found] at ended
      have made := shuns.made node (Handler.object_of_run (Prod.ext ended rfl) targets ▸ rfl)
      exact ⟨made.new, Nat.lt_of_lt_of_le made.present grown⟩

private theorem Dispatcher.runHere_spares (works : dispatcher.host = some host)
    (clones : dispatcher.settings.autoClone = true)
    (targets : demand.operation.targetsObject = true)
    (confined : ∀ handler, host.handler? demand.typeKey = some handler →
      handler.Confined demand.operation) (context : Context) (world : World) :
    world.store.Spares (dispatcher.runHere demand context world) := by
  have shuns := dispatcher.formatter.mapM_copy_shuns demand.object world
  rcases copied : demand.object.mapM dispatcher.formatter.copy world with ⟨outcome, between⟩
  rw [copied] at shuns
  cases outcome with
  | error fault =>
      rw [runHere_uncopied works clones copied]
      exact ⟨shuns.secluded.grown, nofun⟩
  | ok object =>
      have spares := host.execute_spares demand.criteria context confined targets shuns
      rcases executed : host.execute demand.operation demand.typeKey demand.criteria object context
        between with ⟨outcome, after⟩
      rw [executed] at spares
      rw [runHere_ended works clones copied executed]
      refine ⟨spares.kept, fun node ended => spares.made node ?_⟩
      exact mapError_eq_ok.mp ended

private theorem Dispatcher.decodeResponse_spares (dispatcher : Dispatcher) (demand : Demand)
    (answer : Except Fault Bytes) (world : World) :
    world.store.Spares (dispatcher.decodeResponse demand answer world) := by
  rw [decodeResponse_ended]
  split
  · exact (dispatcher.formatter.mapM_deserialize_shuns _ world).spares
  · exact ⟨.refl _, nofun⟩
  · exact ⟨.refl _, nofun⟩
  · exact ⟨.refl _, nofun⟩

private theorem Host.runRequest_kept {request : Request}
    (confined : ∀ handler, host.handler? request.typeKey = some handler →
      handler.Confined request.operation) (world : World) :
    world.store.Extends (host.runRequest request world).2.store := by
  have shuns := host.formatter.mapM_deserialize_shuns request.object world
  rcases rebuilt : request.object.mapM host.formatter.deserialize world with ⟨outcome, between⟩
  rw [rebuilt] at shuns
  cases outcome with
  | error fault =>
      rw [runRequest_unread rebuilt]
      exact shuns.secluded.grown
  | ok object =>
      obtain ⟨secluded, -⟩ :=
        host.execute_secluded request.criteria request.context confined shuns
      rcases executed : host.execute request.operation request.typeKey request.criteria object
        request.context between with ⟨outcome, ended⟩
      rw [executed] at secluded
      cases outcome with
      | error fault =>
          rw [runRequest_failed rebuilt executed]
          exact secluded.grown
      | ok result =>
          rw [runRequest_served rebuilt executed,
            (host.formatter.mapM_serialize_passed result ended).store_eq]
          exact secluded.grown

/-- So does a host that takes a frame, whatever request it reads from it. -/
theorem Host.handle_kept {frame : Bytes}
    (confined : ∀ request, Frame.decode Codec.request frame host.formatter.compressors =
      .ok request → ∀ handler, host.handler? request.typeKey = some handler →
        handler.Confined request.operation) (world : World) :
    world.store.Extends (host.handle frame world).2.store := by
  have answered : world.store.Extends (host.answer frame world).2.store := by
    cases read : Frame.decode Codec.request frame host.formatter.compressors with
    | error fault =>
        by_cases crashed : fault = .crash
        · subst crashed
          rw [answer_crashed read]
          exact .refl _
        · rw [answer_unread read crashed]
          exact .refl _
    | ok request =>
        have kept := Host.runRequest_kept (confined request read)
          (world.note [.received request.operation request.typeKey])
        rw [answer_read read, respond_ended rfl]
        exact kept
  obtain ⟨events, handled⟩ := exists_handle_world (rfl : host.answer frame world = _)
  rw [handled]
  exact answered

structure Dispatcher.ReadBy (dispatcher : Dispatcher) (host : Host) : Prop where
  compressors : dispatcher.formatter.compressors = host.formatter.compressors
  lossless : ∀ compressor, dispatcher.formatter.compressor = .ok compressor → compressor.Lossless

theorem Dispatcher.ReadBy.reads (readBy : dispatcher.ReadBy host) {frame : Bytes} {after : World}
    {request : Request}
    (encoded : dispatcher.encodeRequest demand context world = (.ok frame, after))
    (read : Frame.decode Codec.request frame host.formatter.compressors = .ok request) :
    request.typeKey = demand.typeKey ∧ request.operation = demand.operation := by
  obtain ⟨sent, compressor, known, framed⟩ := exists_of_encodeRequest encoded
  have same := Formatter.read_of_framed Codec.request_faithful known
    (readBy.lossless compressor known) framed
  rw [readBy.compressors, read] at same
  cases same
  exact ⟨rfl, rfl⟩

/-- The demand works at the host on copies, or behind a loopback; and the data access code that may
be called for it works on what it can reach. Behind a loopback that is any code of the host, unless the
host reads the request as it was written. -/
inductive Dispatcher.Shields (dispatcher : Dispatcher) (host : Host) (demand : Demand) : Prop where
  | here (place : dispatcher.settings.place = .here) (works : dispatcher.host = some host)
      (clones : dispatcher.settings.autoClone = true)
      (confined : ∀ handler, host.handler? demand.typeKey = some handler →
        handler.Confined demand.operation)
  | remote (place : dispatcher.settings.place = .remote)
      (transport : dispatcher.transport = some (.loopback host))
      (confined : ∀ typeKey operation handler, host.handler? typeKey = some handler →
        (dispatcher.ReadBy host → typeKey = demand.typeKey ∧ operation = demand.operation) →
          handler.Confined operation)

private theorem Dispatcher.perform_remote_spares (place : dispatcher.settings.place = .remote)
    (transport : dispatcher.transport = some (.loopback host))
    (confined : ∀ typeKey operation handler, host.handler? typeKey = some handler →
      (dispatcher.ReadBy host → typeKey = demand.typeKey ∧ operation = demand.operation) →
        handler.Confined operation) :
    world.store.Spares ((dispatcher.perform demand context .authorizationChecked world).1.1,
      (dispatcher.perform demand context .authorizationChecked world).2) := by
  let begun := world.note
    [.advanced demand.operation demand.typeKey .authorizationChecked .serializingOut]
  have passed := dispatcher.encodeRequest_passed demand context begun
  rcases encoded : dispatcher.encodeRequest demand context begun with ⟨outcome, between⟩
  rw [encoded] at passed
  have unchanged : between.store = world.store := passed.store_eq
  cases outcome with
  | error fault =>
      rw [perform_unwritten place encoded]
      exact ⟨unchanged ▸ .refl _, nofun⟩
  | ok frame =>
      have reads : ∀ request, Frame.decode Codec.request frame host.formatter.compressors =
          .ok request → ∀ handler, host.handler? request.typeKey = some handler →
            handler.Confined request.operation :=
        fun request read handler found => confined request.typeKey request.operation handler found
          fun readBy => readBy.reads encoded read
      let sending := (between.note
        [.advanced demand.operation demand.typeKey .serializingOut .remoteRoundTrip]).calling
          (.sent frame)
      have spared := Host.handle_kept reads sending
      rcases handled : host.handle frame sending with ⟨answer, answered⟩
      rw [handled] at spared
      have kept : world.store.Extends answered.store := unchanged ▸ spared
      obtain ⟨stage, performed⟩ := perform_answered place transport encoded handled
      have spares := dispatcher.decodeResponse_spares demand answer
        (answered.note (demand.arrival answer))
      rw [performed]
      -- The result is rebuilt behind all that the host has left.
      refine ⟨kept.trans spares.kept, fun node ended => ?_⟩
      have made := spares.made node ended
      exact ⟨Nat.le_trans kept.size_le made.new, made.present⟩

private theorem Dispatcher.Shields.perform_spares (shields : dispatcher.Shields host demand)
    (targets : demand.operation.targetsObject = true) :
    world.store.Spares ((dispatcher.perform demand context .authorizationChecked world).1.1,
      (dispatcher.perform demand context .authorizationChecked world).2) := by
  cases shields with
  | here place works clones confined =>
      have spares := runHere_spares works clones targets confined context (world.note
        [.advanced demand.operation demand.typeKey .authorizationChecked .localExecuting])
      obtain ⟨stage, events, performed⟩ :=
        perform_here_ended place (rfl : dispatcher.runHere demand context _ = _)
      rw [performed]
      exact ⟨spares.kept, spares.made⟩
  | remote place transport confined => exact perform_remote_spares place transport confined

/-- Every object that was there is as it was, and a success returns an object that was not. -/
structure Store.Survives (start : Store) (run : Except Fault (Option Node) × World) : Prop where
  kept : start.Extends run.2.store
  returned : ∀ result, run.1 = .ok result → ∃ node, result = some node ∧
    start.cell? node.ref = none ∧ ∃ cell, run.2.store.cell? node.ref = some cell

private theorem Demand.checkResult_eq_ok {store : Store} {outcome result : Option Node}
    (checked : demand.checkResult store outcome = .ok result) :
    result = outcome ∧ (outcome = none → demand.operation.returnsObject = false) := by
  unfold checkResult at checked
  split at checked
  · split at checked
    · cases checked
    · rename_i nothing
      cases checked
      exact ⟨rfl, fun _ => eq_false_of_ne_true nothing⟩
  · split at checked
    · cases checked
    · split at checked
      · cases checked
      · cases checked
        exact ⟨rfl, nofun⟩

private theorem Operation.returnsObject_of_targetsObject
    (targets : operation.targetsObject = true) : operation.returnsObject = true := by
  cases operation with
  | create | fetch | update | execute => rfl
  | delete => cases targets

private theorem Dispatcher.guarding_survives {work : Staged (Option Node)}
    (targets : demand.operation.targetsObject = true)
    (spares : ∀ begun : World, begun.store.Spares ((work .authorizationChecked begun).1.1,
      (work .authorizationChecked begun).2)) (world : World) :
    world.store.Survives (dispatcher.guarding context demand work world) := by
  cases decided : dispatcher.refusal? demand context world.store with
  | some fault =>
      rw [guarding_refused decided]
      exact ⟨.refl _, nofun⟩
  | none =>
      have spared := spares (demand.entering context world)
      rw [guarding_admitted decided rfl]
      refine ⟨spared.kept, fun result ended => ?_⟩
      obtain ⟨outcome, worked, checked⟩ := bind_eq_ok.mp ended
      obtain ⟨rfl, nothing⟩ := Demand.checkResult_eq_ok checked
      cases result with
      | none =>
          have returns := Operation.returnsObject_of_targetsObject targets
          exact absurd (returns.symm.trans (nothing rfl)) nofun
      | some node => exact ⟨node, rfl, (spared.made node worked).cell?⟩

theorem Dispatcher.awaiting_eq (transport : dispatcher.transport = some (.loopback host)) :
    dispatcher.awaiting = dispatcher := by
  unfold awaiting
  rw [transport]
  cases dispatcher
  cases transport
  rfl

/-- An update or an execution, in whatever way it is asked for, and however its data access code ends,
changes no object that was there; when it succeeds, it returns a new one. -/
theorem Dispatcher.caller_survives (shields : dispatcher.Shields host demand)
    (targets : demand.operation.targetsObject = true) (world : World) :
    (∀ context, world.store.Survives (dispatcher.dispatchIn context demand world)) ∧
    world.store.Survives (dispatcher.dispatch demand world) ∧
    world.store.Survives (dispatcher.dispatchAsync demand world) ∧
    ∀ earlier : World, world.store.Survives ((dispatcher.begin demand earlier).1.run world) := by
  have survives (context : Context) :
      world.store.Survives (dispatcher.dispatchIn context demand world) :=
    guarding_survives targets (fun _ => shields.perform_spares targets) world
  refine ⟨survives, ?_, ?_, fun earlier => survives _⟩
  · rw [dispatch_eq]
    exact survives _
  · cases shields with
    | here place works clones confined =>
        rw [dispatchAsync_here place]
        exact survives _
    | remote place transport confined =>
        rw [dispatchAsync_remote place]
        refine guarding_survives targets (fun begun => ?_) world
        rw [performAsync_eq place transport, awaiting_eq transport]
        exact perform_remote_spares place transport confined

end Places

def Host.ofBusiness : Host where
  formatter := Business.formatter
  handlers := Business.types.filterMap Business.handler?

private theorem Host.ofBusiness_confined {typeKey : String} {handler : Handler}
    {operation : Operation} (found : ofBusiness.handler? typeKey = some handler)
    (targets : operation.targetsObject = true) : handler.Confined operation := by
  obtain ⟨type, -, known⟩ := List.mem_filterMap.mp (List.mem_of_find?_eq_some found)
  exact Business.handler?_confined known targets

def World.ofNode : World where
  store := ((ObjType.record .node).create {}).2

def Demand.executeNode : Demand where
  operation := .execute
  typeKey := (ObjType.record .node).key
  object := some ((ObjType.record .node).create {}).1

private theorem Dispatcher.shields_ofBusiness (demand : Demand)
    (targets : demand.operation.targetsObject = true) :
    (ofHost .here .ofBusiness).Shields .ofBusiness demand ∧
      (ofHost .remote .ofBusiness).Shields .ofBusiness demand := by
  constructor
  · exact .here rfl rfl rfl fun _ found => Host.ofBusiness_confined found targets
  · refine .remote rfl rfl fun _ _ _ found reads => ?_
    have readBy : (ofHost .remote .ofBusiness).ReadBy .ofBusiness := by
      refine ⟨rfl, ?_⟩
      rintro _ ⟨⟩
      exact Compressor.none_reversible.lossless
    obtain ⟨-, rfl⟩ := reads readBy
    exact Host.ofBusiness_confined found targets

/-- The node is executed at either place, and the one that was there is no child of its own. -/
theorem Dispatcher.caller_survives_node :
    World.ofNode.store.Survives
        ((ofHost .here .ofBusiness).dispatchIn {} .executeNode .ofNode) ∧
      World.ofNode.store.Survives
        ((ofHost .remote .ofBusiness).dispatchIn {} .executeNode .ofNode) ∧
      ((ofHost .here .ofBusiness).dispatchIn {} .executeNode .ofNode).1.isOk = true ∧
      ((ofHost .remote .ofBusiness).dispatchIn {} .executeNode .ofNode).1.isOk = true := by
  obtain ⟨here, remote⟩ := shields_ofBusiness .executeNode rfl
  have atHost := (caller_survives here rfl .ofNode).1 {}
  have behind := (caller_survives remote rfl .ofNode).1 {}
  exact ⟨atHost, behind, by decide +kernel, by decide +kernel⟩

end ObjectCourier
