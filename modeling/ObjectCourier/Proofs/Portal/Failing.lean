import ObjectCourier.Proofs.Graph.Blame
import ObjectCourier.Proofs.Graph.Passing
import ObjectCourier.Proofs.Portal.Transparency

/-!
Failures at either place. What data access code fails with, a type without data access code and a
target that cannot be copied become the same failure of the operation at the host and behind a
loopback, with one exception. Data access code may fail with the failure of an operation that it has
asked for itself: at the host this is reported as the failure of that other operation, while the
response behind a loopback does not tell which operation has failed, so that it is reported as a
failure of the operation that was demanded.
-/

namespace ObjectCourier

namespace Fault

def under (operation : Operation) : Fault → Fault
  | execution _ text reasons => execution operation text reasons
  | fault => fault

/-- Of what is reported only the operation is another one. -/
theorem chain_under (operation : Operation) (fault : Fault) :
    (fault.under operation).chain = fault.chain := by
  cases fault <;> rfl

private theorem under_whileRunning_iff {operation : Operation} {fault : Fault} :
    (fault.whileRunning operation).under operation = fault.whileRunning operation ↔
      ∀ other text reasons, fault = .execution other text reasons → other = operation := by
  cases fault with
  | execution other text reasons =>
      constructor
      · intro same
        injection same with operations
        rintro _ _ _ ⟨⟩
        exact operations.symm
      · intro only
        rw [only other text reasons rfl]
        rfl
  | _ => exact ⟨fun _ _ _ _ => nofun, fun _ => rfl⟩

private theorem under_whileRunning_of_blames {operation : Operation} {reason : Prop} {fault : Fault}
    (blames : fault.blamesPayload = true ∨ fault = .crash ∧ reason) :
    (fault.whileRunning operation).under operation = fault.whileRunning operation := by
  apply under_whileRunning_iff.mpr
  rintro _ _ _ rfl
  rcases blames with payload | ⟨⟨⟩, _⟩
  cases payload

end Fault

/-- The response to a failure of an operation tells everything of it but the operation. -/
theorem Response.ofFault_whileRunning (operation : Operation) {fault : Fault}
    (whole : fault ≠ .crash) :
    ∃ message reasons, Response.ofFault (fault.whileRunning operation) = .failed message reasons ∧
      ∀ asked, (fault.whileRunning operation).under asked = .execution asked message reasons := by
  cases fault with
  | crash => contradiction
  | _ => exact ⟨_, _, rfl, fun _ => rfl⟩

section Places

variable {host : Host} {handler : Handler} {demand : Demand} {context : Context}
  {world written : World} {sent : Option Payload} {fault : Fault} {dispatcher : Dispatcher}
  {packer answerer : Compressor}

/-- On a copy of the target data access code fails in this way, whatever has been written down. -/
def Handler.Fails (handler : Handler) (formatter : Formatter) (demand : Demand) (context : Context)
    (world : World) (fault : Fault) : Prop :=
  ∃ object copied, demand.object.mapM formatter.copy world = (.ok object, copied) ∧
    ∀ entered : World, entered.quiet = copied.quiet →
      (handler.run demand.operation demand.criteria object context.enterServer entered).1 =
        .error fault

def Host.Fails (host : Host) (demand : Demand) (context : Context) (world : World)
    (fault : Fault) : Prop :=
  ∃ object copied, demand.object.mapM host.formatter.copy world = (.ok object, copied) ∧
    ∀ entered : World, entered.quiet = copied.quiet →
      (host.execute demand.operation demand.typeKey demand.criteria object context entered).1 =
        .error fault

private theorem Host.fails_of_handler (found : host.handler? demand.typeKey = some handler)
    (fails : handler.Fails host.formatter demand context world fault) :
    host.Fails demand context world fault := by
  rcases fails with ⟨object, copied, copy, failing⟩
  refine ⟨object, copied, copy, fun entered same => ?_⟩
  rw [host.execute_eq found]
  exact failing entered same

private theorem Host.fails_of_unknown {object : Option Node} {copied : World}
    (unknown : host.handler? demand.typeKey = none)
    (copy : demand.object.mapM host.formatter.copy world = (.ok object, copied)) :
    host.Fails demand context world (.noDataAccess demand.typeKey) := by
  refine ⟨object, copied, copy, fun entered _ => ?_⟩
  unfold execute
  rw [unknown]
  rfl

theorem Store.payload?_of_ran {formatter : Formatter} {object : Option Node}
    (serialized : object.mapM formatter.serialize world = (.ok sent, written)) :
    world.store.payload? formatter.registry.policy object = .ok sent := by
  cases object with
  | none =>
      cases serialized
      rfl
  | some node =>
      obtain ⟨payload, ran, rfl⟩ := exists_of_mapM_some_ran serialized
      exact payload?_some.mpr ⟨payload, congrArg Prod.fst ran, rfl⟩

namespace Dispatcher.WorksAt

/-- The host works on the copy of the target that there would be. -/
theorem ends {object : Option Node} {copied : World} (works : dispatcher.WorksAt host)
    (valid : demand.validate world.store = .ok ())
    (allowed : dispatcher.authorizer demand.operation demand.typeKey context.principal = true)
    (copy : demand.object.mapM host.formatter.copy world = (.ok object, copied)) :
    ∃ entered : World, entered.quiet = copied.quiet ∧ ∀ outcome after,
      host.execute demand.operation demand.typeKey demand.criteria object context entered =
        (outcome, after) →
          (dispatcher.dispatchIn context demand world).1 =
            (outcome.mapError (Fault.whileRunning demand.operation) >>=
              demand.checkResult after.store) := by
  let begun := (demand.entering context world).note
    [.advanced demand.operation demand.typeKey .authorizationChecked .localExecuting]
  obtain ⟨entered, again, same⟩ :=
    (Act.Blind.mapM host.formatter.copy_blind demand.object).again copy begun rfl
  rw [← Formatter.copy_congr works.registry] at again
  refine ⟨entered, same, fun outcome after executed => ?_⟩
  obtain ⟨stage, events, performed⟩ := perform_here_ended works.place
    (runHere_ended works.works works.clones again executed)
  rw [dispatchIn_ended valid allowed performed]
  rfl

theorem fails (works : dispatcher.WorksAt host) (valid : demand.validate world.store = .ok ())
    (allowed : dispatcher.authorizer demand.operation demand.typeKey context.principal = true)
    (fails : host.Fails demand context world fault) :
    (dispatcher.dispatchIn context demand world).1 =
      .error (fault.whileRunning demand.operation) := by
  rcases fails with ⟨object, copied, copy, failing⟩
  obtain ⟨entered, same, ends⟩ := works.ends valid allowed copy
  rw [ends (.error fault) _ (Prod.ext (failing entered same) rfl)]
  rfl

theorem uncopied (works : dispatcher.WorksAt host) (valid : demand.validate world.store = .ok ())
    (allowed : dispatcher.authorizer demand.operation demand.typeKey context.principal = true)
    (uncopied : (demand.object.mapM host.formatter.copy world).1 = .error fault) :
    (dispatcher.dispatchIn context demand world).1 =
      .error (fault.whileRunning demand.operation) := by
  let begun := (demand.entering context world).note
    [.advanced demand.operation demand.typeKey .authorizationChecked .localExecuting]
  obtain ⟨after, again, -⟩ := (Act.Blind.mapM host.formatter.copy_blind demand.object).again
    (Prod.ext uncopied rfl) begun rfl
  rw [← Formatter.copy_congr works.registry] at again
  obtain ⟨stage, events, performed⟩ :=
    perform_here_ended works.place (runHere_uncopied works.works works.clones again)
  rw [dispatchIn_ended valid allowed performed]
  rfl

end Dispatcher.WorksAt

namespace Dispatcher.LoopsTo

/-- A request that is written reaches the host. -/
theorem reaches (loops : dispatcher.LoopsTo host packer answerer)
    (requestFits : packer.Fits (Codec.request.encode (demand.request sent context)))
    (serialized : demand.object.mapM host.formatter.serialize world = (.ok sent, written)) :
    ∃ between frame, dispatcher.encodeRequest demand context
      ((demand.entering context world).note
        [.advanced demand.operation demand.typeKey .authorizationChecked .serializingOut]) =
          (.ok frame, between) ∧ between.quiet = written.quiet ∧
      Frame.decode Codec.request frame host.formatter.compressors =
        .ok (demand.request sent context) := by
  let begun := (demand.entering context world).note
    [.advanced demand.operation demand.typeKey .authorizationChecked .serializingOut]
  obtain ⟨between, again, same⟩ :=
    (Act.Blind.mapM host.formatter.serialize_blind demand.object).again serialized begun rfl
  rw [← Formatter.serialize_congr loops.registry] at again
  obtain ⟨frame, framed, readRequest⟩ :=
    Formatter.frame_carries Codec.request_faithful loops.packs loops.packerReversible requestFits
  rw [loops.compressors] at readRequest
  exact ⟨between, frame, encodeRequest_ran loops.packs again framed, same, readRequest⟩

/-- A request that is written is responded to, and its response comes back, unless the work at the
host is broken off. -/
theorem sends (loops : dispatcher.LoopsTo host packer answerer)
    (valid : demand.validate world.store = .ok ())
    (allowed : dispatcher.authorizer demand.operation demand.typeKey context.principal = true)
    (requestFits : packer.Fits (Codec.request.encode (demand.request sent context)))
    (serialized : demand.object.mapM host.formatter.serialize world = (.ok sent, written)) :
    ∃ begun : World, begun.quiet = written.quiet ∧
      ∀ outcome after, host.runRequest (demand.request sent context) begun = (outcome, after) →
        (outcome = .error .crash →
          (dispatcher.dispatchIn context demand world).1 = .error .crash) ∧
        ∀ response, Host.responseTo demand.operation outcome = .ok response →
          answerer.Fits (Codec.response.encode response) →
            ∃ bytes, Frame.decode Codec.response bytes dispatcher.formatter.compressors =
              .ok response ∧
                ∀ result final, dispatcher.decodeResponse demand (.ok bytes) (after.note
                  [.advanced demand.operation demand.typeKey .remoteRoundTrip .serializingIn]) =
                    (result, final) →
                      dispatcher.dispatchIn context demand world =
                        (result >>= demand.checkResult final.store,
                          final.note (demand.epilogue .serializingIn
                            (result >>= demand.checkResult final.store))) := by
  obtain ⟨between, frame, encoded, same, readRequest⟩ := loops.reaches requestFits serialized
  let received := ((between.note [.advanced demand.operation demand.typeKey .serializingOut
    .remoteRoundTrip]).calling (.sent frame)).note [.received demand.operation demand.typeKey]
  refine ⟨received, same, fun outcome after ran => ⟨?_, fun response responded responseFits => ?_⟩⟩
  · rintro rfl
    have handled := Host.handle_crashed readRequest ran
    have performed := perform_sent_crashed loops.place loops.transport encoded handled
    rw [dispatchIn_ended valid allowed performed]
    rfl
  · obtain ⟨bytes, framedBack, readResponse⟩ := Formatter.frame_carries Codec.response_faithful
      loops.responds loops.answererReversible responseFits
    rw [← loops.compressors] at readResponse
    refine ⟨bytes, readResponse, fun result final decoded => ?_⟩
    have handled := Host.handle_ended readRequest ran responded loops.responds framedBack
    have performed := perform_remote loops.place loops.transport encoded handled decoded
    exact dispatchIn_ended valid allowed performed

/-- What the host fails with comes back as a failure of the demanded operation. -/
theorem reports (loops : dispatcher.LoopsTo host packer answerer)
    (valid : demand.validate world.store = .ok ())
    (allowed : dispatcher.authorizer demand.operation demand.typeKey context.principal = true)
    (requestFits : packer.Fits (Codec.request.encode (demand.request sent context)))
    (responseFits : answerer.Fits
      (Codec.response.encode (.ofFault (fault.whileRunning demand.operation))))
    (serialized : demand.object.mapM host.formatter.serialize world = (.ok sent, written))
    (failing : ∀ entered : World, entered.quiet = written.quiet →
      (host.runRequest (demand.request sent context) entered).1 = .error fault) :
    (dispatcher.dispatchIn context demand world).1 =
      .error ((fault.whileRunning demand.operation).under demand.operation) := by
  obtain ⟨begun, same, ran⟩ := loops.sends valid allowed requestFits serialized
  obtain ⟨crashes, answers⟩ := ran (.error fault) _ (Prod.ext (failing begun same) rfl)
  by_cases crashed : fault = .crash
  · subst crashed
    exact crashes rfl
  · obtain ⟨bytes, read, ends⟩ := answers _ (Host.responseTo_error crashed) responseFits
    obtain ⟨message, reasons, response, told⟩ :=
      Response.ofFault_whileRunning demand.operation crashed
    rw [response] at read
    rw [ends _ _ (decodeResponse_failed read), told]
    rfl

theorem fails (loops : dispatcher.LoopsTo host packer answerer)
    (valid : demand.validate world.store = .ok ())
    (allowed : dispatcher.authorizer demand.operation demand.typeKey context.principal = true)
    (requestFits : ∀ sent, world.store.payload? host.formatter.registry.policy demand.object =
      .ok sent → packer.Fits (Codec.request.encode (demand.request sent context)))
    (responseFits : answerer.Fits
      (Codec.response.encode (.ofFault (fault.whileRunning demand.operation))))
    (fails : host.Fails demand context world fault) :
    (dispatcher.dispatchIn context demand world).1 =
      .error ((fault.whileRunning demand.operation).under demand.operation) := by
  rcases fails with ⟨object, copied, copy, failing⟩
  rw [Formatter.mapM_copy] at copy
  obtain ⟨sent, written, serialized, deserialized⟩ := exists_of_bind_ran copy
  refine loops.reports valid allowed (requestFits sent (Store.payload?_of_ran serialized))
    responseFits serialized fun begun same => ?_
  obtain ⟨entered, rebuilt, here⟩ :=
    (Act.Blind.mapM host.formatter.deserialize_blind sent).again deserialized begun same
  have failed := failing entered here
  exact congrArg Prod.fst (Host.runRequest_failed rebuilt (Prod.ext failed rfl))

theorem uncopied (loops : dispatcher.LoopsTo host packer answerer)
    (valid : demand.validate world.store = .ok ())
    (allowed : dispatcher.authorizer demand.operation demand.typeKey context.principal = true)
    (requestFits : ∀ sent, world.store.payload? host.formatter.registry.policy demand.object =
      .ok sent → packer.Fits (Codec.request.encode (demand.request sent context)))
    (responseFits : answerer.Fits
      (Codec.response.encode (.ofFault (fault.whileRunning demand.operation))))
    (uncopied : (demand.object.mapM host.formatter.copy world).1 = .error fault) :
    (dispatcher.dispatchIn context demand world).1 =
      .error (fault.whileRunning demand.operation) := by
  rw [Formatter.mapM_copy] at uncopied
  rcases serialized : demand.object.mapM host.formatter.serialize world with ⟨outcome, written⟩
  cases outcome with
  | error found =>
      -- The target cannot be written, so that nothing is sent.
      rw [bind_of_ran_error serialized] at uncopied
      cases uncopied
      let begun := (demand.entering context world).note
        [.advanced demand.operation demand.typeKey .authorizationChecked .serializingOut]
      obtain ⟨after, again, -⟩ :=
        (Act.Blind.mapM host.formatter.serialize_blind demand.object).again serialized
          begun rfl
      rw [← Formatter.serialize_congr loops.registry] at again
      rw [dispatchIn_ended valid allowed
        (perform_unwritten loops.place (encodeRequest_unwritten again))]
      rfl
  | ok sent =>
      -- The host cannot read it back, which is never the failure of another operation.
      rw [bind_of_ran_ok serialized] at uncopied
      have blames := Formatter.mapM_deserialize_blames host.formatter sent written fault uncopied
      rw [← Fault.under_whileRunning_of_blames blames]
      refine loops.reports valid allowed (requestFits sent (Store.payload?_of_ran serialized))
        responseFits serialized fun begun same => ?_
      obtain ⟨entered, unread, -⟩ :=
        (Act.Blind.mapM host.formatter.deserialize_blind sent).again (Prod.ext uncopied rfl) begun same
      exact congrArg Prod.fst (Host.runRequest_unread unread)

end Dispatcher.LoopsTo

/-- An admitted request that fails at the host fails at either place as a failure of the operation,
with the same kind, message and reasons. Only when data access code fails with the failure of another
operation is the operation not the same: behind a loopback it is the demanded one. -/
theorem Dispatcher.fails_at_either_place {here remote : Dispatcher} (works : here.WorksAt host)
    (loops : remote.LoopsTo host packer answerer) (valid : demand.validate world.store = .ok ())
    (allowedHere : here.authorizer demand.operation demand.typeKey context.principal = true)
    (allowedRemote : remote.authorizer demand.operation demand.typeKey context.principal = true)
    (requestFits : ∀ sent, world.store.payload? host.formatter.registry.policy demand.object =
      .ok sent → packer.Fits (Codec.request.encode (demand.request sent context)))
    (responseFits : answerer.Fits
      (Codec.response.encode (.ofFault (fault.whileRunning demand.operation)))) :
    (∀ handler, host.handler? demand.typeKey = some handler →
      handler.Fails host.formatter demand context world fault →
        (here.dispatchIn context demand world).1 = .error (fault.whileRunning demand.operation) ∧
        (remote.dispatchIn context demand world).1 =
          .error ((fault.whileRunning demand.operation).under demand.operation) ∧
        ((fault.whileRunning demand.operation).under demand.operation).chain =
          (fault.whileRunning demand.operation).chain ∧
        ((remote.dispatchIn context demand world).1 = (here.dispatchIn context demand world).1 ↔
          ∀ other text reasons, fault = .execution other text reasons →
            other = demand.operation)) ∧
    (host.handler? demand.typeKey = none → fault = .noDataAccess demand.typeKey →
      ∀ object, (demand.object.mapM host.formatter.copy world).1 = .ok object →
        (here.dispatchIn context demand world).1 = .error (fault.whileRunning demand.operation) ∧
        (remote.dispatchIn context demand world).1 =
          .error (fault.whileRunning demand.operation)) ∧
    ((demand.object.mapM host.formatter.copy world).1 = .error fault →
      (here.dispatchIn context demand world).1 = .error (fault.whileRunning demand.operation) ∧
      (remote.dispatchIn context demand world).1 =
        .error (fault.whileRunning demand.operation)) := by
  refine ⟨?_, ?_, ?_⟩
  · intro handler found failing
    have fails := Host.fails_of_handler found failing
    have atHost := works.fails valid allowedHere fails
    have behind := loops.fails valid allowedRemote requestFits responseFits fails
    refine ⟨atHost, behind, Fault.chain_under _ _, ?_⟩
    rw [atHost, behind, Except.error.injEq]
    exact Fault.under_whileRunning_iff
  · rintro unknown rfl object copied
    have fails : host.Fails demand context world (.noDataAccess demand.typeKey) :=
      Host.fails_of_unknown unknown (Prod.ext copied rfl)
    have behind := loops.fails valid allowedRemote requestFits responseFits fails
    exact ⟨works.fails valid allowedHere fails, behind⟩
  · intro uncopied
    have behind := loops.uncopied valid allowedRemote requestFits responseFits uncopied
    exact ⟨works.uncopied valid allowedHere uncopied, behind⟩

end Places

def Dispatcher.ofHost (place : Place) (host : Host) : Dispatcher where
  settings := { place := place }
  formatter := host.formatter
  authorizer := .allowAll
  context := ⟨0⟩
  host := some host
  transport := some (.loopback host)

theorem Dispatcher.worksAt_ofHost (host : Host) : (ofHost .here host).WorksAt host :=
  ⟨rfl, rfl, rfl, rfl⟩

theorem Dispatcher.loopsTo_ofHost {host : Host} (plain : host.formatter.compressor = .ok .none) :
    (ofHost .remote host).LoopsTo host .none .none :=
  ⟨rfl, rfl, rfl, rfl, plain, plain, Compressor.none_reversible, Compressor.none_reversible⟩

def Handler.losingLinks : Handler where
  type := .record .link
  access := { fetch := fun _ _ => throw (.execution .delete "the link is gone" []) }

def Host.losingLinks : Host where
  formatter := .links
  handlers := [.losingLinks]

def Demand.fetchLink : Demand where
  operation := .fetch
  typeKey := (ObjectCourier.ObjType.record .link).key
  criteria := some {}

private theorem Host.losingLinks_fails :
    Handler.losingLinks.Fails .links .fetchLink {} {} (.execution .delete "the link is gone" []) :=
  ⟨none, {}, rfl, fun _ _ => rfl⟩

private theorem Demand.fetchLink_fits {sent : Option Payload}
    (written : Store.payload? {} Formatter.links.registry.policy fetchLink.object = .ok sent) :
    Compressor.none.Fits (Codec.request.encode (fetchLink.request sent {})) := by
  cases written
  exact Compressor.none_fits (by decide +kernel)

private theorem Host.losingLinks_fits : Compressor.none.Fits (Codec.response.encode
    (.ofFault ((Fault.execution .delete "the link is gone" []).whileRunning .fetch))) :=
  Compressor.none_fits (by decide +kernel)

/-- At the host the deletion is told to have failed, and behind the loopback the fetch. -/
theorem Dispatcher.fails_at_either_place_links :
    ((ofHost .here .losingLinks).dispatchIn {} .fetchLink {}).1 =
      .error (.execution .delete "the link is gone" []) ∧
    ((ofHost .remote .losingLinks).dispatchIn {} .fetchLink {}).1 =
      .error (.execution .fetch "the link is gone" []) := by
  have valid : Demand.fetchLink.validate ({} : World).store = .ok () := rfl
  obtain ⟨told, -, -⟩ := fails_at_either_place (worksAt_ofHost .losingLinks)
    (loopsTo_ofHost rfl) valid rfl rfl (fun _ => Demand.fetchLink_fits) Host.losingLinks_fits
  obtain ⟨here, remote, -, -⟩ := told .losingLinks rfl Host.losingLinks_fails
  exact ⟨here, remote⟩

/-- The two places do not report the same fault for the same failure. -/
theorem Dispatcher.reports_differ_by_place :
    Handler.losingLinks.Fails .links .fetchLink {} {} (.execution .delete "the link is gone" []) ∧
    ((ofHost .remote .losingLinks).dispatchIn {} .fetchLink {}).1 ≠
      ((ofHost .here .losingLinks).dispatchIn {} .fetchLink {}).1 := by
  have fails : Host.losingLinks.Fails .fetchLink {} {} (.execution .delete "the link is gone" []) :=
    Host.fails_of_handler rfl Host.losingLinks_fails
  refine ⟨Host.losingLinks_fails, ?_⟩
  rw [(worksAt_ofHost .losingLinks).fails rfl rfl fails,
    (loopsTo_ofHost rfl).fails rfl rfl (fun _ => Demand.fetchLink_fits) Host.losingLinks_fits fails]
  rintro ⟨⟩

end ObjectCourier
