import ObjectCourier.Proofs.Portal.Failing
import ObjectCourier.Proofs.Portal.Verdicts

/-!
What a host does with a frame, whatever bytes it holds. The frame is read, the carried graph is
rebuilt, the data access code of the type key is found and given what its operation needs, and only
then is it called. Whatever goes wrong on the way becomes a failed response. The response leaves the
host in a frame from which it can be read again, unless the host has no algorithm to write it with.
A frame that announces a text longer than any memory is not answered at all.
-/

namespace ObjectCourier

namespace Handler

structure Given (handler : Handler) (operation : Operation) (criteria : Option Criteria)
    (object : Option Node) : Prop where
  criteria : operation.targetsObject = false → ∃ values, criteria = some values
  target : operation.targetsObject = true → ∃ ref, object = some ⟨handler.type, ref⟩

/-- What a handler complains of before it calls its code. -/
def complaint? (handler : Handler) (operation : Operation) (criteria : Option Criteria)
    (object : Option Node) : Option Fault :=
  if operation.targetsObject then
    match object with
    | none => some (.hostRequiresObject operation)
    | some node =>
        if node.type = handler.type then none
        else some (.typeMismatch "target" handler.type.key node.typeKey)
  else
    match criteria with
    | none => some (.hostRequiresCriteria operation)
    | some _ => none

variable {handler : Handler} {operation : Operation} {criteria : Option Criteria}
  {object : Option Node}

private theorem ne_crash_of_complaint? {fault : Fault}
    (content : handler.complaint? operation criteria object = some fault) : fault ≠ .crash := by
  rintro rfl
  unfold complaint? at content
  split at content
  · split at content
    · cases content
    · split at content <;> cases content
  · split at content <;> cases content

private theorem given_of_complaint?_eq_none
    (content : handler.complaint? operation criteria object = none) :
    handler.Given operation criteria object := by
  unfold complaint? at content
  cases targets : operation.targetsObject with
  | true =>
      refine ⟨fun other => absurd (targets.symm.trans other) nofun, fun _ => ?_⟩
      rw [targets, if_pos rfl] at content
      cases object with
      | none => cases content
      | some node =>
          by_cases same : node.type = handler.type
          · exact ⟨node.ref, by rw [← same]⟩
          · simp only [if_neg same] at content
            cases content
  | false =>
      refine ⟨fun _ => ?_, fun other => absurd (targets.symm.trans other) nofun⟩
      rw [targets, if_neg Bool.false_ne_true] at content
      cases criteria with
      | none => cases content
      | some values => exact ⟨values, rfl⟩

private theorem complaint?_of_type {node : Node} (targets : operation.targetsObject = true)
    (same : node.type = handler.type) :
    handler.complaint? operation criteria (some node) = none := by
  simp only [complaint?, if_pos targets, if_pos same]

private theorem complaint?_of_other {node : Node} (targets : operation.targetsObject = true)
    (other : node.type ≠ handler.type) : handler.complaint? operation criteria (some node) =
      some (.typeMismatch "target" handler.type.key node.typeKey) := by
  simp only [complaint?, if_pos targets, if_neg other]

private theorem needTarget_of_type {node : Node} {world : World} (same : node.type = handler.type) :
    handler.needTarget operation (some node) world = (.ok node.ref, world) := by
  change (node.expect handler.type "target", world) = _
  rw [Node.expect, if_pos same]

private theorem needTarget_of_other {node : Node} {world : World}
    (other : node.type ≠ handler.type) : handler.needTarget operation (some node) world =
      (.error (.typeMismatch "target" handler.type.key node.typeKey), world) := by
  change (node.expect handler.type "target", world) = _
  rw [Node.expect, if_neg other]

/-- A handler complains and does nothing, or it writes the call down and hands over to its code. -/
theorem run_eq (handler : Handler) (operation : Operation) (criteria : Option Criteria)
    (object : Option Node) (context : Context) (world : World) :
    handler.run operation criteria object context world =
      match handler.complaint? operation criteria object with
      | some fault => (.error fault, world)
      | none => handler.work operation (operation.given criteria) (operation.target object) context
          (world.calling (.accessed operation handler.type.key (operation.given criteria)
            (operation.target object) context)) := by
  cases operation with
  | create | fetch | delete => cases criteria <;> rfl
  | update | execute =>
      cases object with
      | none => rfl
      | some node =>
          by_cases same : node.type = handler.type
          · rw [complaint?_of_type rfl same]
            exact bind_of_ran_ok (needTarget_of_type same)
          · rw [complaint?_of_other rfl same]
            exact bind_of_ran_error (needTarget_of_other same)

end Handler

/-- As the failure of an operation the fault has this message and these reasons. -/
def Fault.Wraps (operation : Operation) (fault : Fault) (message : String)
    (reasons : List Reason) : Prop :=
  ∃ told, fault.whileRunning operation = .execution told message reasons

private theorem Fault.exists_wraps (operation : Operation) {fault : Fault}
    (whole : fault ≠ .crash) : ∃ message reasons, fault.Wraps operation message reasons ∧
      Host.responseTo operation (.error fault) = .ok (.failed message reasons) := by
  cases fault with
  | crash => contradiction
  | _ => exact ⟨_, _, ⟨_, rfl⟩, rfl⟩

namespace Host

structure Receives (host : Host) (frame : Bytes) (world : World) (request : Request)
    (object : Option Node) (between : World) : Prop where
  read : Frame.decode Codec.request frame host.formatter.compressors = .ok request
  rebuilt : request.object.mapM host.formatter.deserialize
    (world.note [.received request.operation request.typeKey]) = (.ok object, between)
  calls : between.calls = world.calls

/-- The data access code for the type of a received request is given what it needs, and is called on
the server side of the request's context. It is the first and only thing that the host calls. -/
structure Accesses (host : Host) (frame : Bytes) (world : World) (request : Request)
    (handler : Handler) (object : Option Node) (outcome : Except Fault (Option Node))
    (ended : World) : Prop where
  found : host.handler? request.typeKey = some handler
  given : handler.Given request.operation request.criteria object
  called : ∃ between begun context, host.Receives frame world request object between ∧
    context = { request.context with location := .server } ∧
    begun = between.calling (.accessed request.operation handler.type.key
      (request.operation.given request.criteria) (request.operation.target object) context) ∧
    handler.work request.operation (request.operation.given request.criteria)
      (request.operation.target object) context begun = (outcome, ended)

/-- The response to a frame, and the world when it is built. -/
inductive Serves (host : Host) (frame : Bytes) (world : World) : Response → World → Prop where
  /-- The frame holds no request, and its fault is told as it is. -/
  | rejected {fault}
      (unread : Frame.decode Codec.request frame host.formatter.compressors = .error fault)
      (plain : fault.isPlain = true) :
      Serves host frame world (.failed fault.message fault.chain) (world.note [.rejected fault])
  /-- An algorithm fails on the frame with the failure of an operation, which is passed on. -/
  | relayed {operation message reasons}
      (unread : Frame.decode Codec.request frame host.formatter.compressors =
        .error (.execution operation message reasons))
      (raised : host.formatter.compressors.Raises (.execution operation message reasons)) :
      Serves host frame world (.failed message reasons)
        (world.note [.rejected (.execution operation message reasons)])
  | unbuilt {request fault message reasons after}
      (read : Frame.decode Codec.request frame host.formatter.compressors = .ok request)
      (unbuilt : request.object.mapM host.formatter.deserialize
        (world.note [.received request.operation request.typeKey]) = (.error fault, after))
      (calls : after.calls = world.calls)
      (wraps : fault.Wraps request.operation message reasons) :
      Serves host frame world (.failed message reasons) after
  | unknown {request object message reasons between}
      (receives : host.Receives frame world request object between)
      (unknown : host.handler? request.typeKey = none)
      (wraps : (Fault.noDataAccess request.typeKey).Wraps request.operation message reasons) :
      Serves host frame world (.failed message reasons) between
  | unfit {request handler object fault message reasons between}
      (receives : host.Receives frame world request object between)
      (found : host.handler? request.typeKey = some handler)
      (complains : handler.complaint? request.operation request.criteria object = some fault)
      (wraps : fault.Wraps request.operation message reasons) :
      Serves host frame world (.failed message reasons) between
  | failed {request handler object fault message reasons after}
      (accesses : host.Accesses frame world request handler object (.error fault) after)
      (wraps : fault.Wraps request.operation message reasons) :
      Serves host frame world (.failed message reasons) after
  | unwritten {request handler object result fault message reasons ended after}
      (accesses : host.Accesses frame world request handler object (.ok result) ended)
      (unwritten : result.mapM host.formatter.serialize ended = (.error fault, after))
      (calls : after.calls = ended.calls)
      (wraps : fault.Wraps request.operation message reasons) :
      Serves host frame world (.failed message reasons) after
  | answered {request handler object result answer ended after}
      (accesses : host.Accesses frame world request handler object (.ok result) ended)
      (written : result.mapM host.formatter.serialize ended = (.ok answer, after))
      (calls : after.calls = ended.calls) :
      Serves host frame world (.ofAnswer answer) after

/-- What breaks the handling of a frame off, and the world that it leaves. -/
inductive Crashes (host : Host) (frame : Bytes) (world : World) : World → Prop where
  /-- A text of the request is longer than any memory. -/
  | overreached
      (overreaches : Frame.Overreaches Codec.request host.formatter.compressors frame) :
      Crashes host frame world world
  /-- A text in a blob of the carried graph is longer than any memory. -/
  | overfilled {request payload after}
      (read : Frame.decode Codec.request frame host.formatter.compressors = .ok request)
      (carried : request.object = some payload) (overreaches : payload.Overreaches)
      (unbuilt : request.object.mapM host.formatter.deserialize
        (world.note [.received request.operation request.typeKey]) = (.error .crash, after))
      (calls : after.calls = world.calls) :
      Crashes host frame world after
  /-- The data access code is broken off itself. -/
  | broken {request handler object after}
      (accesses : host.Accesses frame world request handler object (.error .crash) after) :
      Crashes host frame world after
  /-- An algorithm is broken off itself, on the frame or on the response. -/
  | unread (raised : host.formatter.compressors.Raises .crash) : Crashes host frame world world
  | unframed {response served compressor} (serves : host.Serves frame world response served)
      (found : host.formatter.compressor = .ok compressor)
      (failed : compressor.compress (Codec.response.encode response) = .error .crash) :
      Crashes host frame world served

inductive Ends (host : Host) (frame : Bytes) (world : World) :
    Except Fault Response → World → Prop where
  | served {response after} (serves : host.Serves frame world response after) :
      Ends host frame world (.ok response) after
  | crashed {after} (crashes : host.Crashes frame world after) :
      Ends host frame world (.error .crash) after

variable {host : Host} {frame : Bytes} {world between after : World} {request : Request}
  {object : Option Node} {outcome : Except Fault Response}

private theorem Ends.of_fault {operation : Operation} {fault : Fault}
    (serves : ∀ message reasons, fault.Wraps operation message reasons →
      host.Serves frame world (.failed message reasons) after)
    (crashes : fault = .crash → host.Crashes frame world after) :
    host.Ends frame world (responseTo operation (.error fault)) after := by
  by_cases crashed : fault = .crash
  · have broken := crashes crashed
    rw [crashed]
    exact .crashed broken
  · obtain ⟨message, reasons, wraps, told⟩ := Fault.exists_wraps operation crashed
    rw [told]
    exact .served (serves message reasons wraps)

/-- Once data access code is called, the request ends as it does, but for the writing of its result. -/
theorem Accesses.ends {handler : Handler} {result : Except Fault (Option Node)} {ended : World}
    (accesses : host.Accesses frame world request handler object result ended)
    (receives : host.Receives frame world request object between)
    (executed : host.execute request.operation request.typeKey request.criteria object
      request.context between = (result, ended))
    (ran : host.runRequest request (world.note [.received request.operation request.typeKey]) =
      (outcome, after)) : host.Ends frame world (responseTo request.operation outcome) after := by
  cases result with
  | error fault =>
      rw [runRequest_failed receives.rebuilt executed] at ran
      cases ran
      refine .of_fault (fun _ _ wraps => .failed accesses wraps) ?_
      rintro rfl
      exact .broken accesses
  | ok result =>
      have quiet := (host.formatter.mapM_serialize_passed result ended).calls_eq
      have blames := host.formatter.mapM_serialize_blames result ended
      rw [runRequest_served receives.rebuilt executed] at ran
      rcases written : result.mapM host.formatter.serialize ended with ⟨answer, written⟩
      rw [written] at ran quiet blames
      cases ran
      cases answer with
      | error fault =>
          refine .of_fault (fun _ _ wraps => .unwritten accesses written quiet wraps) ?_
          rintro rfl
          cases blames _ rfl
      | ok answer => exact .served (.answered accesses written quiet)

/-- A request whose graph is rebuilt ends before data access code is called, or with it. -/
theorem Receives.ends (receives : host.Receives frame world request object between)
    (ran : host.runRequest request (world.note [.received request.operation request.typeKey]) =
      (outcome, after)) : host.Ends frame world (responseTo request.operation outcome) after := by
  rcases executed : host.execute request.operation request.typeKey request.criteria object
    request.context between with ⟨result, ended⟩
  cases found : host.handler? request.typeKey with
  | none =>
      have missing : host.execute request.operation request.typeKey request.criteria object
          request.context between = (.error (.noDataAccess request.typeKey), between) := by
        unfold execute
        rw [found]
        rfl
      rw [runRequest_failed receives.rebuilt missing] at ran
      cases ran
      exact .served (.unknown receives found ⟨_, rfl⟩)
  | some handler =>
      have handled := executed
      rw [host.execute_eq found, handler.run_eq] at handled
      cases content : handler.complaint? request.operation request.criteria object with
      | some fault =>
          rw [content] at handled
          cases handled
          rw [runRequest_failed receives.rebuilt executed] at ran
          cases ran
          exact .of_fault (fun _ _ wraps => .unfit receives found content wraps)
            fun crashed => absurd crashed (Handler.ne_crash_of_complaint? content)
      | none =>
          rw [content] at handled
          have accesses : host.Accesses frame world request handler object result ended :=
            ⟨found, Handler.given_of_complaint?_eq_none content, between, _, _, receives, rfl, rfl,
              handled⟩
          exact accesses.ends receives executed ran

private theorem ends_of_unread {fault : Fault}
    (unread : Frame.decode Codec.request frame host.formatter.compressors = .error fault) :
    host.Ends frame world (host.answer frame world).1 (host.answer frame world).2 := by
  have own := Frame.decode_own Codec.request host.formatter.compressors frame fault unread
  cases plain : fault.isPlain with
  | true =>
      have whole : fault ≠ .crash := by
        rintro rfl
        cases plain
      have told : Response.ofFault fault = .failed fault.message fault.chain := by
        cases fault with
        | execution => cases plain
        | _ => rfl
      rw [answer_unread unread whole, told]
      exact .served (.rejected unread plain)
  | false =>
      rcases Fault.cases_of_isPlain_eq_false plain with rfl | ⟨operation, message, reasons, rfl⟩
      · rw [answer_crashed unread]
        rcases own with own | ⟨-, overreaches⟩
        · exact .crashed (.unread (own.resolve_left nofun))
        · exact .crashed (.overreached overreaches)
      · rw [answer_unread unread (by rintro ⟨⟩)]
        have raised := (own.resolve_right (by rintro ⟨⟨⟩, _⟩)).resolve_left nofun
        exact .served (.relayed unread raised)

private theorem ends_answer (host : Host) (frame : Bytes) (world : World) :
    host.Ends frame world (host.answer frame world).1 (host.answer frame world).2 := by
  cases read : Frame.decode Codec.request frame host.formatter.compressors with
  | error fault => exact ends_of_unread read
  | ok request =>
      let received := world.note [.received request.operation request.typeKey]
      rcases ran : host.runRequest request received with ⟨outcome, after⟩
      rw [answer_read read, respond_ended ran]
      have passed := host.formatter.mapM_deserialize_passed request.object received
      have blames := host.formatter.mapM_deserialize_blames request.object received
      rcases rebuilt : request.object.mapM host.formatter.deserialize received with ⟨object, between⟩
      rw [rebuilt] at passed blames
      have quiet : between.calls = world.calls := by
        obtain ⟨store, passed⟩ := passed
        exact passed.calls_eq
      cases object with
      | error fault =>
          rw [runRequest_unread rebuilt] at ran
          cases ran
          refine .of_fault (fun _ _ wraps => .unbuilt read rebuilt quiet wraps) ?_
          rintro rfl
          obtain ⟨-, payload, carried, overreaches⟩ := (blames _ rfl).resolve_left nofun
          exact .overfilled read carried overreaches rebuilt quiet
      | ok object => exact Receives.ends ⟨read, rebuilt, quiet⟩ ran

/-- What leaves the host for a response: a frame that is read back as this response, or no bytes when
the host does not know its algorithm or the algorithm fails. -/
inductive Hands (host : Host) (response : Response) (served : World) :
    Except Fault Bytes × World → Prop where
  | framed {bytes} (filled : bytes ≠ [])
      (read : Frame.decode Codec.response bytes host.formatter.compressors = .ok response) :
      Hands host response served (.ok bytes, served)
  | unframed {fault}
      (prevents : host.formatter.compressor = .error fault ∨
        ∃ compressor, host.formatter.compressor = .ok compressor ∧
          compressor.compress (Codec.response.encode response) = .error fault) :
      Hands host response served (.ok [], served.note [.unanswered fault])

private theorem prevents_of_frameOf {response : Response} {fault : Fault}
    (fits : ∀ compressor, host.formatter.compressor = .ok compressor →
      compressor.Fits (Codec.response.encode response))
    (framing : host.frameOf response = .error fault) :
    host.formatter.compressor = .error fault ∨
      ∃ compressor, host.formatter.compressor = .ok compressor ∧
        compressor.compress (Codec.response.encode response) = .error fault := by
  unfold frameOf at framing
  cases found : host.formatter.compressor with
  | error other =>
      rw [found] at framing
      cases framing
      exact .inl rfl
  | ok compressor =>
      rw [found] at framing
      refine .inr ⟨compressor, rfl, ?_⟩
      obtain ⟨short, packedShort⟩ := fits compressor found
      cases packing : compressor.compress (Codec.response.encode response) with
      | error other =>
          cases (Frame.wrap_unpacked short packing).symm.trans framing
          rfl
      | ok packed =>
          obtain ⟨bytes, framed⟩ := Frame.wrap_ok short packing (packedShort packed packing)
          cases framed.symm.trans framing

/-- A frame that announces a text longer than any memory breaks every host off before it does
anything. -/
theorem handle_overreaching
    (overreaches : Frame.Overreaches Codec.request host.formatter.compressors frame) :
    host.handle frame world = (.error .crash, world) :=
  bind_of_ran_error (answer_crashed overreaches.crashes)

/-- Whatever bytes a host is handed and whatever data access code it has, it builds a response and
hands it over, or it is broken off: by a text longer than any memory or by what is plugged in. -/
theorem handles_every_frame (host : Host) (frame : Bytes) (world : World)
    (lossless : ∀ compressor, host.formatter.compressor = .ok compressor → compressor.Lossless)
    (fits : ∀ compressor, host.formatter.compressor = .ok compressor →
      ∀ response, (host.answer frame world).1 = .ok response →
        compressor.Fits (Codec.response.encode response)) :
    (∃ response served, host.answer frame world = (.ok response, served) ∧
      host.Serves frame world response served ∧
        host.Hands response served (host.handle frame world)) ∨
    ∃ after, host.handle frame world = (.error .crash, after) ∧
      host.Crashes frame world after := by
  have ends := host.ends_answer frame world
  rcases answered : host.answer frame world with ⟨outcome, served⟩
  rw [answered] at fits ends
  cases ends with
  | crashed crashes => exact .inr ⟨served, bind_of_ran_error answered, crashes⟩
  | @served response _ serves =>
      cases framing : host.frameOf response with
      | error fault =>
          have prevents := host.prevents_of_frameOf
            (fun compressor found => fits compressor found response rfl) framing
          by_cases crashed : fault = .crash
          · subst crashed
            refine .inr ⟨served, handle_broken answered framing, ?_⟩
            rcases prevents with unknown | ⟨compressor, found, failed⟩
            · exact absurd rfl (Compressors.ne_crash_of_get unknown)
            · exact .unframed serves found failed
          · rw [handle_unframed answered framing crashed]
            exact .inl ⟨response, served, rfl, serves, .unframed prevents⟩
      | ok bytes =>
          rw [handle_framed answered framing]
          obtain ⟨compressor, found, framed⟩ := bind_eq_ok.mp framing
          refine .inl ⟨response, served, rfl, serves, .framed (Frame.ne_nil_of_wrap framed) ?_⟩
          exact Formatter.read_of_framed Codec.response_faithful found (lossless _ found) framed

def fetchLinkFrame : Bytes :=
  ((Frame.encode Codec.request (Demand.fetchLink.request none {}) .none).toOption).getD []

private theorem losingLinks_lossless (compressor : Compressor)
    (found : losingLinks.formatter.compressor = .ok compressor) : compressor.Lossless := by
  cases found
  exact Compressor.none_reversible.lossless

private theorem losingLinks_fits_answer (compressor : Compressor)
    (found : losingLinks.formatter.compressor = .ok compressor) (response : Response)
    (answered : (losingLinks.answer fetchLinkFrame {}).1 = .ok response) :
    compressor.Fits (Codec.response.encode response) := by
  have short : (losingLinks.answer fetchLinkFrame {}).1.map (fun response =>
      decide ((Codec.response.encode response).length < Bytes.limit)) = .ok true := by
    decide +kernel
  rw [answered] at short
  cases found
  exact Compressor.none_fits (of_decide_eq_true (Except.ok.inj short))

/-- The host calls its data access code for the link and hands over its failure. -/
theorem handles_every_frame_links :
    (∃ response served, losingLinks.answer fetchLinkFrame {} = (.ok response, served) ∧
      losingLinks.Serves fetchLinkFrame {} response served ∧
        losingLinks.Hands response served (losingLinks.handle fetchLinkFrame {})) ∧
    (losingLinks.answer fetchLinkFrame {}).2.calls.length = 1 := by
  have handles := handles_every_frame losingLinks fetchLinkFrame {} losingLinks_lossless
    losingLinks_fits_answer
  refine ⟨handles.resolve_right ?_, by decide +kernel⟩
  rintro ⟨after, crashed, -⟩
  have returned : (losingLinks.handle fetchLinkFrame {}).1.isOk = true := by decide +kernel
  rw [crashed] at returned
  cases returned

/-- The frame is sound, and the host hands nothing over. -/
theorem handle_returns_nothing :
    (Frame.unwrap (Frame.overreaching 1) losingLinks.formatter.compressors).isOk = true ∧
      ¬∃ bytes after, losingLinks.handle (Frame.overreaching 1) {} = (.ok bytes, after) := by
  have overreaches : Frame.Overreaches Codec.request losingLinks.formatter.compressors
      (Frame.overreaching 1) := ⟨Frame.overreachingBody 1, by decide +kernel, rfl⟩
  refine ⟨by decide +kernel, ?_⟩
  rw [handle_overreaching overreaches]
  rintro ⟨bytes, after, ⟨⟩⟩

end Host

end ObjectCourier
