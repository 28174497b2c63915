import ObjectCourier.Portal.Dispatcher
import ObjectCourier.Proofs.Codec.Envelope
import ObjectCourier.Proofs.Codec.Frame
import ObjectCourier.Proofs.Outcome

/-!
The steps of a request, run one after another. A request that goes well adds nothing to the world
around its work but lines of the log and the calls to what is plugged in.
-/

namespace ObjectCourier

structure World.At (world : World) (store : Store) (calls : List Call) : Prop where
  store : world.store = store
  calls : world.calls = calls

def World.calling (world : World) (call : Call) : World :=
  { world with calls := world.calls ++ [call] }

private theorem World.note_nil (world : World) : world.note [] = world := by
  unfold note
  rw [List.append_nil]

/-- A fault inside becomes a failure of the operation, and what has been changed stays changed. -/
theorem Act.whileRunning_ended {α : Type} {action : Act α} {operation : Operation}
    {world after : World} {outcome : Except Fault α} (ran : action world = (outcome, after)) :
    Act.whileRunning operation action world =
      (outcome.mapError (Fault.whileRunning operation), after) := by
  unfold Act.whileRunning
  apply (bind_of_ran ran).trans
  cases outcome <;> rfl

theorem Act.attempt_ended {α : Type} {action : Act α} {world after : World}
    {outcome : Except Fault α} (ran : action world = (outcome, after))
    (whole : outcome ≠ .error .crash) : Act.attempt action world = (.ok outcome, after) := by
  unfold Act.attempt
  apply (bind_of_ran ran).trans
  split
  · contradiction
  · rfl

theorem Act.attempt_crashed {α : Type} {action : Act α} {world after : World}
    (ran : action world = (.error .crash, after)) :
    Act.attempt action world = (.error .crash, after) := (bind_of_ran ran).trans rfl

/-! ### Frames -/

structure Compressor.Reversible (compressor : Compressor) : Prop where
  total : ∀ body, ∃ packed, compressor.compress body = .ok packed
  lossless : compressor.Lossless

/-- The body fits into a memory, and the header of a frame can tell the length of what the algorithm
makes of it. -/
def Compressor.Fits (compressor : Compressor) (body : Bytes) : Prop :=
  body.length < Bytes.limit ∧ ∀ packed, compressor.compress body = .ok packed →
    Frame.headerSize + packed.length < Varint.bound

private theorem Compressors.id_of_get {compressors : Compressors} {id : UInt8}
    {compressor : Compressor}
    (found : compressors.get id = .ok compressor) : compressor.id = id := by
  unfold get at found
  split at found
  · rename_i algorithm first
    cases found
    have same := List.find?_some first
    exact of_decide_eq_true same
  · cases found

/-- What one formatter has framed is read by another one that knows the same algorithms. -/
theorem Formatter.read_of_framed {α : Type} {codec : Codec α} (faithful : codec.Faithful)
    {sender : Formatter} {compressor : Compressor} (found : sender.compressor = .ok compressor)
    (lossless : compressor.Lossless) {value : α} {bytes : Bytes}
    (framed : Frame.encode codec value compressor = .ok bytes) :
    Frame.decode codec bytes sender.compressors = .ok value := by
  have known : sender.compressors.get compressor.id = .ok compressor := by
    unfold Formatter.compressor at found
    rw [Compressors.id_of_get found]
    exact found
  have read := Frame.decode_encode faithful framed known lossless []
  rwa [List.append_nil] at read

theorem Formatter.frame_carries {α : Type} {codec : Codec α} (faithful : codec.Faithful)
    {sender : Formatter} {compressor : Compressor} (found : sender.compressor = .ok compressor)
    (reversible : compressor.Reversible) {value : α} (fits : compressor.Fits (codec.encode value)) :
    ∃ bytes, Frame.encode codec value compressor = .ok bytes ∧
      Frame.decode codec bytes sender.compressors = .ok value := by
  obtain ⟨packed, packing⟩ := reversible.total (codec.encode value)
  obtain ⟨bytes, framed⟩ := Frame.wrap_ok fits.1 packing (fits.2 packed packing)
  exact ⟨bytes, framed, read_of_framed faithful found reversible.lossless framed⟩

/-! ### The life of a request -/

namespace Staged

variable {α β : Type} {stage later : Stage} {world between after : World} {value : α}

theorem bind_ran {first : Staged α} {next : α → Staged β}
    (ran : first stage world = ((.ok value, later), between)) :
    (first >>= next) stage world = next value later between := by
  change (match first stage world with
    | ((outcome, later), between) => ExceptT.bindCont next outcome later between) = _
  rw [ran]
  rfl

theorem bind_failed {first : Staged α} {next : α → Staged β} {fault : Fault}
    (ran : first stage world = ((.error fault, later), between)) :
    (first >>= next) stage world = ((.error fault, later), between) := by
  change (match first stage world with
    | ((outcome, later), between) => ExceptT.bindCont next outcome later between) = _
  rw [ran]
  rfl

theorem ofAct_ended {action : Act α} {outcome : Except Fault α}
    (ran : action world = (outcome, after)) :
    ofAct action stage world = ((outcome, stage), after) := by
  change (match action world with
    | (outcome, after) => ((outcome, stage), after)) = _
  rw [ran]

private theorem ofAct_ran {action : Act α} (ran : action world = (.ok value, after)) :
    ofAct action stage world = ((.ok value, stage), after) := ofAct_ended ran

private theorem lift_ran {step : StateM World α} (ran : step world = (value, after)) :
    (liftM step : Staged α) stage world = ((.ok value, stage), after) := by
  change (match step world with
    | (value, after) => (((.ok value : Except Fault α), stage), after)) = _
  rw [ran]

end Staged

namespace Demand

variable {demand : Demand} {stage : Stage} {world after : World} {result : Option Node}

private theorem advance_ran (demand : Demand) (next stage : Stage) (world : World) :
    (liftM (demand.advance next) : Staged Unit) stage world =
      ((.ok (), next), world.note [.advanced demand.operation demand.typeKey stage next]) := rfl

def epilogue (demand : Demand) (stage : Stage) : Except Fault (Option Node) → List Event
  | .ok _ =>
      [.advanced demand.operation demand.typeKey stage .outcomeReady,
       .advanced demand.operation demand.typeKey .outcomeReady .returned,
       .returned demand.operation demand.typeKey]
  | .error .crash => []
  | .error fault =>
      [.advanced demand.operation demand.typeKey stage .faulted,
       .faulted demand.operation demand.typeKey stage fault]

theorem epilogue_of_fault (demand : Demand) (stage : Stage) {fault : Fault}
    (whole : fault ≠ .crash) : demand.epilogue stage (.error fault) =
      [.advanced demand.operation demand.typeKey stage .faulted,
       .faulted demand.operation demand.typeKey stage fault] := by
  cases fault with
  | crash => contradiction
  | _ => rfl

private theorem finish_ran (demand : Demand) (stage : Stage) (outcome : Except Fault (Option Node))
    (world : World) : ∃ last, demand.finish outcome stage world =
      (((), last), world.note (demand.epilogue stage outcome)) := by
  cases outcome with
  | ok result =>
      refine ⟨.returned, ?_⟩
      simp only [epilogue, World.note]
      rw [List.append_cons, List.append_cons]
      rfl
  | error fault =>
      cases fault with
      | crash =>
          refine ⟨stage, ?_⟩
          rw [epilogue, world.note_nil]
          rfl
      | _ =>
          refine ⟨.faulted, ?_⟩
          simp only [epilogue, World.note]
          rw [List.append_cons]
          rfl

def arrival (demand : Demand) : Except Fault Bytes → List Event
  | .error .crash => []
  | _ => [.advanced demand.operation demand.typeKey .remoteRoundTrip .serializingIn]

private theorem arrival_of_ne (demand : Demand) {answer : Except Fault Bytes}
    (whole : answer ≠ .error .crash) : demand.arrival answer =
      [.advanced demand.operation demand.typeKey .remoteRoundTrip .serializingIn] := by
  unfold arrival
  split
  · contradiction
  · rfl

private theorem live_ended {work : Staged (Option Node)} {outcome : Except Fault (Option Node)}
    (ran : work .requested (world.note [.requested demand.operation demand.typeKey]) =
      ((outcome, stage), after)) :
    demand.live work world = (outcome, after.note (demand.epilogue stage outcome)) := by
  obtain ⟨last, closed⟩ := demand.finish_ran stage outcome after
  have lived : (do
      let outcome ← work.run
      demand.finish outcome
      return outcome : StateT Stage (StateM World) (Except Fault (Option Node))) .requested
        (world.note [.requested demand.operation demand.typeKey]) =
          ((outcome, last), after.note (demand.epilogue stage outcome)) := by
    change (match work .requested (world.note [.requested demand.operation demand.typeKey]) with
      | ((outcome, stage), after) => (match demand.finish outcome stage after with
        | ((_, stage), after) => ((outcome, stage), after))) = _
    rw [ran]
    simp only [closed]
  unfold live
  apply (bind_of_ran rfl).trans
  exact congrArg (fun run => (run.1.1, run.2)) lived

def consultations (demand : Demand) (context : Context) (store : Store) : List Call :=
  match demand.validate store with
  | .ok () => [.consulted demand.operation demand.typeKey context.principal]
  | .error _ => []

def asking (demand : Demand) (context : Context) (world : World) : World :=
  { world with calls := world.calls ++ demand.consultations context world.store }

theorem asking_of_valid (demand : Demand) {context : Context} {world : World}
    (valid : demand.validate world.store = .ok ()) : demand.asking context world =
      world.calling (.consulted demand.operation demand.typeKey context.principal) := by
  unfold asking consultations
  rw [valid]
  rfl

def entering (demand : Demand) (context : Context) (world : World) : World :=
  ((world.note [.requested demand.operation demand.typeKey]).calling
    (.consulted demand.operation demand.typeKey context.principal)).note
      [.advanced demand.operation demand.typeKey .requested .authorizationChecked]

def request (demand : Demand) (sent : Option Payload) (context : Context) : Request where
  operation := demand.operation
  typeKey := demand.typeKey
  criteria := demand.criteria
  object := sent
  context := context

end Demand

namespace Dispatcher

variable {dispatcher : Dispatcher} {demand : Demand} {context : Context}
  {world between after : World} {object result : Option Node}

/-- What the gate turns a request away with. The authorizer is asked only when the arguments are
valid. -/
def refusal? (dispatcher : Dispatcher) (demand : Demand) (context : Context) (store : Store) :
    Option Fault :=
  match demand.validate store with
  | .error fault => some fault
  | .ok () =>
      if dispatcher.authorizer demand.operation demand.typeKey context.principal then none
      else some (.notAuthorized demand.operation demand.typeKey)

theorem refusal?_eq_none {store : Store} : dispatcher.refusal? demand context store = none ↔
    demand.validate store = .ok () ∧
      dispatcher.authorizer demand.operation demand.typeKey context.principal = true := by
  unfold refusal?
  split
  · rename_i fault refused
    rw [refused]
    exact ⟨nofun, nofun⟩
  · rename_i valid
    rw [valid]
    split
    · rename_i allowed
      exact ⟨fun _ => ⟨rfl, allowed⟩, fun _ => rfl⟩
    · rename_i denied
      exact ⟨nofun, fun both => absurd both.2 denied⟩

private theorem gate_ended (dispatcher : Dispatcher) (demand : Demand) (context : Context)
    (world : World) : dispatcher.gate demand context world =
      ((dispatcher.refusal? demand context world.store).elim (.ok ()) .error,
        demand.asking context world) := by
  have checked : fromStore demand.validate world = (demand.validate world.store, world) := rfl
  unfold gate refusal? Demand.asking Demand.consultations
  cases valid : demand.validate world.store with
  | error fault =>
      rw [valid] at checked
      rw [bind_of_ran_error checked]
      simp only [List.append_nil, Option.elim_some]
  | ok _ =>
      rw [valid] at checked
      rw [bind_of_ran_ok checked]
      by_cases allowed :
          dispatcher.authorizer demand.operation demand.typeKey context.principal = true
      · simp only [allowed, if_true]
        rfl
      · simp only [allowed]
        rfl

/-- The life of a request that does this work once it is admitted. -/
def guarding (dispatcher : Dispatcher) (context : Context) (demand : Demand)
    (work : Staged (Option Node)) : Act (Option Node) :=
  demand.live do
    Staged.ofAct (dispatcher.gate demand context)
    demand.advance .authorizationChecked
    let result ← work
    Staged.ofAct (fromStore fun store => demand.checkResult store result)

theorem guarding_refused {work : Staged (Option Node)} {fault : Fault}
    (refused : dispatcher.refusal? demand context world.store = some fault) :
    dispatcher.guarding context demand work world =
      (.error fault, (demand.asking context
        (world.note [.requested demand.operation demand.typeKey])).note
          (demand.epilogue .requested (.error fault))) := by
  have stopped := dispatcher.gate_ended demand context
    (world.note [.requested demand.operation demand.typeKey])
  have same : dispatcher.refusal? demand context
      (world.note [.requested demand.operation demand.typeKey]).store = some fault := refused
  rw [same] at stopped
  exact Demand.live_ended (Staged.bind_failed (Staged.ofAct_ended stopped))

/-- An admitted request ends as its work does, but for the check of the result. -/
theorem guarding_admitted {work : Staged (Option Node)} {stage : Stage}
    {outcome : Except Fault (Option Node)}
    (admitted : dispatcher.refusal? demand context world.store = none)
    (worked : work .authorizationChecked (demand.entering context world) =
      ((outcome, stage), after)) :
    dispatcher.guarding context demand work world =
      (outcome >>= demand.checkResult after.store,
        after.note (demand.epilogue stage (outcome >>= demand.checkResult after.store))) := by
  let requested := world.note [.requested demand.operation demand.typeKey]
  have valid : demand.validate requested.store = .ok () := (refusal?_eq_none.mp admitted).1
  have passed := dispatcher.gate_ended demand context requested
  rw [show dispatcher.refusal? demand context requested.store = none from admitted,
    demand.asking_of_valid valid] at passed
  apply Demand.live_ended
  apply (Staged.bind_ran (Staged.ofAct_ran passed)).trans
  apply (Staged.bind_ran (demand.advance_ran _ _ _)).trans
  cases outcome with
  | error fault => exact Staged.bind_failed worked
  | ok result =>
      apply (Staged.bind_ran worked).trans
      exact Staged.ofAct_ended rfl

theorem dispatchIn_eq_guarding (dispatcher : Dispatcher) (context : Context) (demand : Demand) :
    dispatcher.dispatchIn context demand =
      dispatcher.guarding context demand (dispatcher.perform demand context) := rfl

theorem dispatch_eq (dispatcher : Dispatcher) (demand : Demand) (world : World) :
    dispatcher.dispatch demand world =
      dispatcher.dispatchIn (world.context dispatcher.context) demand world := by
  have looked : (get : Act World) world = (.ok world, world) := rfl
  exact bind_of_ran_ok looked

theorem dispatchAsync_here (place : dispatcher.settings.place = .here) (world : World) :
    dispatcher.dispatchAsync demand world =
      dispatcher.dispatchIn (world.context dispatcher.context) demand world := by
  have looked : (get : Act World) world = (.ok world, world) := rfl
  unfold dispatchAsync
  rw [place]
  exact bind_of_ran_ok looked

/-- Without a thread the gate is the same. -/
theorem dispatchAsync_remote (place : dispatcher.settings.place = .remote) (world : World) :
    dispatcher.dispatchAsync demand world =
      dispatcher.guarding (world.context dispatcher.context) demand
        (dispatcher.performAsync demand (world.context dispatcher.context)) world := by
  have looked : (get : Act World) world = (.ok world, world) := rfl
  unfold dispatchAsync
  rw [place]
  refine (bind_of_ran_ok looked).trans (congrFun (congrArg demand.live ?_) world)
  funext stage world
  rcases passed : dispatcher.gate demand _ world with ⟨outcome, between⟩
  apply (Staged.bind_ran (Staged.lift_ran passed)).trans
  cases outcome with
  | error fault => exact (Staged.bind_failed (Staged.ofAct_ended passed)).symm
  | ok _ =>
      apply Eq.trans _ (Staged.bind_ran (Staged.ofAct_ended passed)).symm
      rfl

/-- An admitted request ends as its work does, unless the result does not pass its check. -/
theorem dispatchIn_ended {stage : Stage} {outcome : Except Fault (Option Node)}
    (valid : demand.validate world.store = .ok ())
    (allowed : dispatcher.authorizer demand.operation demand.typeKey context.principal = true)
    (performed : dispatcher.perform demand context .authorizationChecked
      (demand.entering context world) = ((outcome, stage), after)) :
    dispatcher.dispatchIn context demand world =
      (outcome >>= demand.checkResult after.store,
        after.note (demand.epilogue stage (outcome >>= demand.checkResult after.store))) :=
  guarding_admitted (refusal?_eq_none.mpr ⟨valid, allowed⟩) performed

theorem dispatchIn_ran {stage : Stage} (valid : demand.validate world.store = .ok ())
    (allowed : dispatcher.authorizer demand.operation demand.typeKey context.principal = true)
    (performed : dispatcher.perform demand context .authorizationChecked
      (demand.entering context world) = ((.ok result, stage), after))
    (checked : demand.checkResult after.store result = .ok result) :
    ∃ final, dispatcher.dispatchIn context demand world = (.ok result, final) ∧
      final.At after.store after.calls := by
  have dispatched := dispatchIn_ended valid allowed performed
  have checks : (.ok result >>= demand.checkResult after.store : Except Fault (Option Node)) =
      .ok result := checked
  rw [checks] at dispatched
  exact ⟨_, dispatched, rfl, rfl⟩

/-! ### Work at the host -/

/-- The work ends as data access code does on a copy of the target. -/
theorem runHere_ended {host : Host} {outcome : Except Fault (Option Node)}
    (works : dispatcher.host = some host) (clones : dispatcher.settings.autoClone = true)
    (copied : demand.object.mapM dispatcher.formatter.copy world = (.ok object, between))
    (executed : host.execute demand.operation demand.typeKey demand.criteria object context between =
      (outcome, after)) :
    dispatcher.runHere demand context world =
      (outcome.mapError (Fault.whileRunning demand.operation), after) := by
  unfold runHere
  rw [works]
  apply Act.whileRunning_ended
  rw [clones]
  exact (bind_of_ran_ok copied).trans executed

theorem runHere_ran {host : Host} (works : dispatcher.host = some host)
    (clones : dispatcher.settings.autoClone = true)
    (copied : demand.object.mapM dispatcher.formatter.copy world = (.ok object, between))
    (executed : host.execute demand.operation demand.typeKey demand.criteria object context between =
      (.ok result, after)) : dispatcher.runHere demand context world = (.ok result, after) :=
  runHere_ended works clones copied executed

/-- Nothing is run when the target cannot be copied. -/
theorem runHere_uncopied {host : Host} {fault : Fault} (works : dispatcher.host = some host)
    (clones : dispatcher.settings.autoClone = true)
    (uncopied : demand.object.mapM dispatcher.formatter.copy world = (.error fault, after)) :
    dispatcher.runHere demand context world =
      (.error (fault.whileRunning demand.operation), after) := by
  unfold runHere
  rw [works]
  rw [clones]
  exact (Act.whileRunning_ended (bind_of_ran_error uncopied)).trans rfl

theorem perform_here {outcome : Except Fault (Option Node)}
    (place : dispatcher.settings.place = .here)
    (ran : dispatcher.runHere demand context (world.note
      [.advanced demand.operation demand.typeKey .authorizationChecked .localExecuting]) =
        (outcome, after)) (whole : outcome ≠ .error .crash) :
    dispatcher.perform demand context .authorizationChecked world = ((outcome, .executed),
      after.note [.advanced demand.operation demand.typeKey .localExecuting .executed]) := by
  unfold perform
  rw [place]
  apply (Staged.bind_ran (demand.advance_ran _ _ _)).trans
  exact (Staged.bind_ran (Staged.ofAct_ran (Act.attempt_ended ran whole))).trans rfl

theorem perform_here_crashed (place : dispatcher.settings.place = .here)
    (ran : dispatcher.runHere demand context (world.note
      [.advanced demand.operation demand.typeKey .authorizationChecked .localExecuting]) =
        (.error .crash, after)) :
    dispatcher.perform demand context .authorizationChecked world =
      ((.error .crash, .localExecuting), after) := by
  unfold perform
  rw [place]
  apply (Staged.bind_ran (demand.advance_ran _ _ _)).trans
  exact Staged.bind_failed (Staged.ofAct_ended (Act.attempt_crashed ran))

/-- Work at the host changes the world in no other way than by lines of the log, whether it is
broken off or not. -/
theorem perform_here_ended {outcome : Except Fault (Option Node)}
    (place : dispatcher.settings.place = .here)
    (ran : dispatcher.runHere demand context (world.note
      [.advanced demand.operation demand.typeKey .authorizationChecked .localExecuting]) =
        (outcome, after)) :
    ∃ stage events, dispatcher.perform demand context .authorizationChecked world =
      ((outcome, stage), after.note events) := by
  by_cases crashed : outcome = .error .crash
  · subst crashed
    refine ⟨.localExecuting, [], ?_⟩
    rw [perform_here_crashed place ran, World.note_nil]
  · exact ⟨.executed, _, perform_here place ran crashed⟩

/-! ### Work behind a transport -/

def requestFrame (dispatcher : Dispatcher) (demand : Demand) (context : Context)
    (sent : Option Payload) : Except Fault Bytes :=
  dispatcher.formatter.compressor >>= Frame.encode Codec.request (demand.request sent context)

theorem encodeRequest_ended (dispatcher : Dispatcher) (demand : Demand) (context : Context)
    (world : World) : dispatcher.encodeRequest demand context world =
      (((demand.object.mapM dispatcher.formatter.serialize world).1 >>=
          dispatcher.requestFrame demand context).mapError (Fault.whileRunning demand.operation),
        (demand.object.mapM dispatcher.formatter.serialize world).2) := by
  rcases written : demand.object.mapM dispatcher.formatter.serialize world with ⟨outcome, after⟩
  apply Act.whileRunning_ended
  cases outcome with
  | error fault => exact bind_of_ran_error written
  | ok sent =>
      apply (bind_of_ran_ok written).trans
      change _ = (dispatcher.requestFrame demand context sent, after)
      unfold requestFrame
      cases dispatcher.formatter.compressor <;> rfl

theorem encodeRequest_ran {compressor : Compressor} {sent : Option Payload} {frame : Bytes}
    (found : dispatcher.formatter.compressor = .ok compressor)
    (written : demand.object.mapM dispatcher.formatter.serialize world = (.ok sent, after))
    (framed : Frame.encode Codec.request (demand.request sent context) compressor = .ok frame) :
    dispatcher.encodeRequest demand context world = (.ok frame, after) := by
  have made : dispatcher.requestFrame demand context sent = .ok frame := by
    unfold requestFrame
    rw [found]
    exact framed
  rw [encodeRequest_ended, written]
  exact congrArg (fun made => (Except.mapError (Fault.whileRunning demand.operation) made, after)) made

theorem encodeRequest_unwritten {fault : Fault}
    (unwritten : demand.object.mapM dispatcher.formatter.serialize world = (.error fault, after)) :
    dispatcher.encodeRequest demand context world =
      (.error (fault.whileRunning demand.operation), after) := by
  rw [encodeRequest_ended, unwritten]
  rfl

theorem exists_of_encodeRequest {frame : Bytes}
    (encoded : dispatcher.encodeRequest demand context world = (.ok frame, after)) :
    ∃ sent compressor, dispatcher.formatter.compressor = .ok compressor ∧
      Frame.encode Codec.request (demand.request sent context) compressor = .ok frame := by
  rw [encodeRequest_ended] at encoded
  obtain ⟨sent, -, made⟩ := bind_eq_ok.mp (mapError_eq_ok.mp (congrArg Prod.fst encoded))
  exact ⟨sent, bind_eq_ok.mp made⟩

theorem needTransport_found {transport : Transport} (found : dispatcher.transport = some transport)
    (world : World) : dispatcher.needTransport world = (.ok transport, world) := by
  unfold needTransport
  rw [found]
  rfl

theorem needTransport_missing (missing : dispatcher.transport = none) (world : World) :
    dispatcher.needTransport world = (.error .needsTransport, world) := by
  unfold needTransport
  rw [missing]
  rfl

/-- Nothing is sent when the request cannot be written. -/
theorem perform_unwritten {fault : Fault} (place : dispatcher.settings.place = .remote)
    (unwritten : dispatcher.encodeRequest demand context (world.note
      [.advanced demand.operation demand.typeKey .authorizationChecked .serializingOut]) =
        (.error fault, after)) :
    dispatcher.perform demand context .authorizationChecked world =
      ((.error fault, .serializingOut), after) := by
  unfold perform
  rw [place]
  apply (Staged.bind_ran (demand.advance_ran _ _ _)).trans
  exact Staged.bind_failed (Staged.ofAct_ended unwritten)

theorem perform_unsent {frame : Bytes} (place : dispatcher.settings.place = .remote)
    (missing : dispatcher.transport = none)
    (encoded : dispatcher.encodeRequest demand context (world.note
      [.advanced demand.operation demand.typeKey .authorizationChecked .serializingOut]) =
        (.ok frame, after)) :
    dispatcher.perform demand context .authorizationChecked world =
      ((.error .needsTransport, .remoteRoundTrip), after.note
        [.advanced demand.operation demand.typeKey .serializingOut .remoteRoundTrip]) := by
  unfold perform
  rw [place]
  apply (Staged.bind_ran (demand.advance_ran _ _ _)).trans
  apply (Staged.bind_ran (Staged.ofAct_ran encoded)).trans
  apply (Staged.bind_ran (demand.advance_ran _ _ _)).trans
  exact Staged.bind_failed (Staged.ofAct_ended (needTransport_missing missing _))

private theorem roundTrip_ended {send : Bytes → Act Bytes} {frame : Bytes}
    {answer : Except Fault Bytes}
    (sent : send frame (world.calling (.sent frame)) = (answer, after))
    (whole : answer ≠ .error .crash) : roundTrip send frame world = (.ok answer, after) :=
  (bind_of_ran_ok rfl).trans (Act.attempt_ended sent whole)

private theorem roundTrip_crashed {send : Bytes → Act Bytes} {frame : Bytes}
    (sent : send frame (world.calling (.sent frame)) = (.error .crash, after)) :
    roundTrip send frame world = (.error .crash, after) :=
  (bind_of_ran_ok rfl).trans (Act.attempt_crashed sent)

/-- The work ends as the answer of the transport says, whichever it is. -/
theorem perform_sent {transport : Transport} {frame : Bytes} {answer : Except Fault Bytes}
    {answered : World} {outcome : Except Fault (Option Node)}
    (place : dispatcher.settings.place = .remote) (found : dispatcher.transport = some transport)
    (encoded : dispatcher.encodeRequest demand context (world.note
      [.advanced demand.operation demand.typeKey .authorizationChecked .serializingOut]) =
        (.ok frame, between))
    (sent : transport.send frame ((between.note
      [.advanced demand.operation demand.typeKey .serializingOut .remoteRoundTrip]).calling
        (.sent frame)) = (answer, answered)) (whole : answer ≠ .error .crash)
    (decoded : dispatcher.decodeResponse demand answer (answered.note
      [.advanced demand.operation demand.typeKey .remoteRoundTrip .serializingIn]) =
        (outcome, after)) :
    dispatcher.perform demand context .authorizationChecked world =
      ((outcome, .serializingIn), after) := by
  unfold perform
  rw [place]
  apply (Staged.bind_ran (demand.advance_ran _ _ _)).trans
  apply (Staged.bind_ran (Staged.ofAct_ran encoded)).trans
  apply (Staged.bind_ran (demand.advance_ran _ _ _)).trans
  apply (Staged.bind_ran (Staged.ofAct_ran (needTransport_found found _))).trans
  apply (Staged.bind_ran (Staged.ofAct_ran (roundTrip_ended sent whole))).trans
  apply (Staged.bind_ran (demand.advance_ran _ _ _)).trans
  exact Staged.ofAct_ended decoded

/-- A transport that is broken off brings no answer. -/
theorem perform_sent_crashed {transport : Transport} {frame : Bytes} {answered : World}
    (place : dispatcher.settings.place = .remote) (found : dispatcher.transport = some transport)
    (encoded : dispatcher.encodeRequest demand context (world.note
      [.advanced demand.operation demand.typeKey .authorizationChecked .serializingOut]) =
        (.ok frame, between))
    (sent : transport.send frame ((between.note
      [.advanced demand.operation demand.typeKey .serializingOut .remoteRoundTrip]).calling
        (.sent frame)) = (.error .crash, answered)) :
    dispatcher.perform demand context .authorizationChecked world =
      ((.error .crash, .remoteRoundTrip), answered) := by
  unfold perform
  rw [place]
  apply (Staged.bind_ran (demand.advance_ran _ _ _)).trans
  apply (Staged.bind_ran (Staged.ofAct_ran encoded)).trans
  apply (Staged.bind_ran (demand.advance_ran _ _ _)).trans
  apply (Staged.bind_ran (Staged.ofAct_ran (needTransport_found found _))).trans
  exact Staged.bind_failed (Staged.ofAct_ended (roundTrip_crashed sent))

private theorem decodeResponse_crashed (dispatcher : Dispatcher) (demand : Demand) (world : World) :
    dispatcher.decodeResponse demand (.error .crash) world = (.error .crash, world) := rfl

/-- The work ends as the answer says, whichever it is. -/
theorem perform_answered {transport : Transport} {frame : Bytes} {answer : Except Fault Bytes}
    {answered : World} (place : dispatcher.settings.place = .remote)
    (found : dispatcher.transport = some transport)
    (encoded : dispatcher.encodeRequest demand context (world.note
      [.advanced demand.operation demand.typeKey .authorizationChecked .serializingOut]) =
        (.ok frame, between))
    (sent : transport.send frame ((between.note
      [.advanced demand.operation demand.typeKey .serializingOut .remoteRoundTrip]).calling
        (.sent frame)) = (answer, answered)) :
    ∃ stage, dispatcher.perform demand context .authorizationChecked world =
      (((dispatcher.decodeResponse demand answer (answered.note (demand.arrival answer))).1, stage),
        (dispatcher.decodeResponse demand answer (answered.note (demand.arrival answer))).2) := by
  by_cases crashed : answer = .error .crash
  · subst crashed
    refine ⟨.remoteRoundTrip, ?_⟩
    rw [perform_sent_crashed place found encoded sent, decodeResponse_crashed, Demand.arrival,
      World.note_nil]
  · rw [demand.arrival_of_ne crashed]
    exact ⟨.serializingIn, perform_sent place found encoded sent crashed rfl⟩

/-- The dispatcher with the transport's way of sending that gives up the thread. -/
def awaiting (dispatcher : Dispatcher) : Dispatcher :=
  { dispatcher with
    transport := dispatcher.transport.map fun transport =>
      { transport with send := transport.sendAsync } }

/-- Work at the host has nothing to do with the transport. -/
theorem dispatchIn_awaiting (place : dispatcher.settings.place = .here) :
    dispatcher.awaiting.dispatchIn context demand world =
      dispatcher.dispatchIn context demand world := by
  have same : dispatcher.awaiting.perform demand context = dispatcher.perform demand context := by
    unfold perform
    rw [place, show dispatcher.awaiting.settings.place = .here from place]
    rfl
  rw [dispatchIn_eq_guarding, dispatchIn_eq_guarding, same]
  rfl

theorem awaiting_transport {transport : Transport} (found : dispatcher.transport = some transport) :
    dispatcher.awaiting.transport = some { transport with send := transport.sendAsync } := by
  unfold awaiting
  rw [found]
  rfl

/-- Without a thread the work is the same, by the other way of sending. -/
theorem performAsync_eq {transport : Transport} (place : dispatcher.settings.place = .remote)
    (found : dispatcher.transport = some transport) :
    dispatcher.performAsync demand context .authorizationChecked world =
      dispatcher.awaiting.perform demand context .authorizationChecked world := by
  have awaits := awaiting_transport found
  have away : dispatcher.awaiting.settings.place = .remote := place
  rcases encoded : dispatcher.encodeRequest demand context (world.note
    [.advanced demand.operation demand.typeKey .authorizationChecked .serializingOut]) with
      ⟨outcome, between⟩
  unfold performAsync
  apply (Staged.bind_ran (demand.advance_ran _ _ _)).trans
  by_cases crashed : outcome = .error .crash
  · subst crashed
    exact (Staged.bind_failed (Staged.ofAct_ended (Act.attempt_crashed encoded))).trans
      (perform_unwritten away encoded).symm
  apply (Staged.bind_ran (Staged.ofAct_ran (Act.attempt_ended encoded crashed))).trans
  apply (Staged.bind_ran (Staged.lift_ran (needTransport_found found _))).trans
  cases outcome with
  | error fault => exact (perform_unwritten away encoded).symm
  | ok frame =>
      apply (Staged.bind_ran (demand.advance_ran _ _ _)).trans
      rcases sent : transport.sendAsync frame ((between.note
        [.advanced demand.operation demand.typeKey .serializingOut .remoteRoundTrip]).calling
          (.sent frame)) with ⟨answer, answered⟩
      by_cases stopped : answer = .error .crash
      · subst stopped
        exact (Staged.bind_failed (Staged.ofAct_ended (roundTrip_crashed sent))).trans
          (perform_sent_crashed away awaits encoded sent).symm
      · apply Eq.trans _ (perform_sent away awaits encoded sent stopped rfl).symm
        apply (Staged.bind_ran (Staged.ofAct_ran (roundTrip_ended sent stopped))).trans
        apply (Staged.bind_ran (demand.advance_ran _ _ _)).trans
        exact Staged.ofAct_ended rfl

theorem performAsync_unsent {written : Except Fault Bytes} (missing : dispatcher.transport = none)
    (encoded : dispatcher.encodeRequest demand context (world.note
      [.advanced demand.operation demand.typeKey .authorizationChecked .serializingOut]) =
        (written, after)) :
    dispatcher.performAsync demand context .authorizationChecked world =
      ((written >>= fun _ => .error .needsTransport, .serializingOut), after) := by
  unfold performAsync
  apply (Staged.bind_ran (demand.advance_ran _ _ _)).trans
  by_cases crashed : written = .error .crash
  · subst crashed
    exact Staged.bind_failed (Staged.ofAct_ended (Act.attempt_crashed encoded))
  apply (Staged.bind_ran (Staged.ofAct_ran (Act.attempt_ended encoded crashed))).trans
  apply (Staged.bind_ran (Staged.lift_ran (needTransport_missing missing _))).trans
  cases written <;> rfl

theorem perform_remote {host : Host} {frame bytes : Bytes} {answered : World}
    {outcome : Except Fault (Option Node)} (place : dispatcher.settings.place = .remote)
    (transport : dispatcher.transport = some (.loopback host))
    (encoded : dispatcher.encodeRequest demand context (world.note
      [.advanced demand.operation demand.typeKey .authorizationChecked .serializingOut]) =
        (.ok frame, between))
    (handled : host.handle frame ((between.note
      [.advanced demand.operation demand.typeKey .serializingOut .remoteRoundTrip]).calling
        (.sent frame)) = (.ok bytes, answered))
    (decoded : dispatcher.decodeResponse demand (.ok bytes) (answered.note
      [.advanced demand.operation demand.typeKey .remoteRoundTrip .serializingIn]) =
        (outcome, after)) :
    dispatcher.perform demand context .authorizationChecked world =
      ((outcome, .serializingIn), after) := by
  exact perform_sent place transport encoded handled (ok_ne_error _ _) decoded

end Dispatcher

def Response.ofAnswer : Option Payload → Response
  | some payload => .object payload
  | none => .done

namespace Dispatcher

variable {dispatcher : Dispatcher} {demand : Demand} {world : World} {bytes : Bytes}

def response (dispatcher : Dispatcher) (answer : Except Fault Bytes) : Except Fault Response :=
  answer >>= fun bytes => Frame.decode Codec.response bytes dispatcher.formatter.compressors

/-- An answer comes to what its response tells. -/
theorem decodeResponse_ended (dispatcher : Dispatcher) (demand : Demand)
    (answer : Except Fault Bytes) (world : World) : dispatcher.decodeResponse demand answer world =
      match dispatcher.response answer with
      | .ok (.object payload) => (some payload).mapM dispatcher.formatter.deserialize world
      | .ok .done => (.ok none, world)
      | .ok (.failed message reasons) => (.error (.execution demand.operation message reasons), world)
      | .error fault => (.error (fault.whileRunning demand.operation), world) := by
  have taken : Act.whileRunning demand.operation (do
      let bytes ← Act.ofExcept answer
      Act.ofExcept (Frame.decode Codec.response bytes dispatcher.formatter.compressors)) world =
        ((dispatcher.response answer).mapError (Fault.whileRunning demand.operation), world) := by
    apply Act.whileRunning_ended
    cases answer <;> rfl
  unfold decodeResponse
  cases read : dispatcher.response answer with
  | error fault =>
      rw [read] at taken
      exact bind_of_ran_error taken
  | ok response =>
      rw [read] at taken
      apply (bind_of_ran_ok taken).trans
      cases response <;> rfl

theorem decodeResponse_ran {after : World} {answer : Option Payload} {returned : Option Node}
    (read : Frame.decode Codec.response bytes dispatcher.formatter.compressors =
      .ok (.ofAnswer answer))
    (rebuilt : answer.mapM dispatcher.formatter.deserialize world = (.ok returned, after)) :
    dispatcher.decodeResponse demand (.ok bytes) world = (.ok returned, after) := by
  rw [decodeResponse_ended, show dispatcher.response (.ok bytes) = _ from read]
  cases answer with
  | none => exact rebuilt
  | some payload => exact rebuilt

theorem decodeResponse_failed {message : String} {reasons : List Reason}
    (read : Frame.decode Codec.response bytes dispatcher.formatter.compressors =
      .ok (.failed message reasons)) :
    dispatcher.decodeResponse demand (.ok bytes) world =
      (.error (.execution demand.operation message reasons), world) := by
  rw [decodeResponse_ended, show dispatcher.response (.ok bytes) = _ from read]

end Dispatcher

namespace Host

variable {host : Host} {request : Request} {world between ended after : World}

/-- A request that is served ends with the writing of its result. -/
theorem runRequest_served {object result : Option Node}
    (rebuilt : request.object.mapM host.formatter.deserialize world = (.ok object, between))
    (executed : host.execute request.operation request.typeKey request.criteria object
      request.context between = (.ok result, ended)) :
    host.runRequest request world =
      ((result.mapM host.formatter.serialize ended).1.map Response.ofAnswer,
        (result.mapM host.formatter.serialize ended).2) := by
  unfold runRequest
  refine (bind_of_ran_ok rebuilt).trans ((bind_of_ran_ok executed).trans ?_)
  cases result with
  | none => rfl
  | some node =>
      rw [mapM_some_run]
      rcases written : host.formatter.serialize node ended with ⟨outcome, after⟩
      cases outcome with
      | error fault => exact bind_of_ran_error written
      | ok payload => exact bind_of_ran_ok written

theorem runRequest_ran {object result : Option Node} {answer : Option Payload}
    (rebuilt : request.object.mapM host.formatter.deserialize world = (.ok object, between))
    (executed : host.execute request.operation request.typeKey request.criteria object
      request.context between = (.ok result, ended))
    (written : result.mapM host.formatter.serialize ended = (.ok answer, after)) :
    host.runRequest request world = (.ok (.ofAnswer answer), after) := by
  rw [runRequest_served rebuilt executed, written]
  rfl

theorem runRequest_unread {fault : Fault}
    (unread : request.object.mapM host.formatter.deserialize world = (.error fault, after)) :
    host.runRequest request world = (.error fault, after) := bind_of_ran_error unread

theorem runRequest_failed {object : Option Node} {fault : Fault}
    (rebuilt : request.object.mapM host.formatter.deserialize world = (.ok object, between))
    (failed : host.execute request.operation request.typeKey request.criteria object
      request.context between = (.error fault, after)) :
    host.runRequest request world = (.error fault, after) :=
  (bind_of_ran_ok rebuilt).trans (bind_of_ran_error failed)

/-- The response to the outcome of a request, unless it is a crash. -/
def responseTo (operation : Operation) : Except Fault Response → Except Fault Response
  | .ok response => .ok response
  | .error .crash => .error .crash
  | .error fault => .ok (.ofFault (fault.whileRunning operation))

theorem responseTo_error {operation : Operation} {fault : Fault} (whole : fault ≠ .crash) :
    responseTo operation (.error fault) = .ok (.ofFault (fault.whileRunning operation)) := by
  cases fault with
  | crash => contradiction
  | _ => rfl

theorem respond_ended {outcome : Except Fault Response}
    (ran : host.runRequest request (world.note [.received request.operation request.typeKey]) =
      (outcome, after)) :
    host.respond request world = (responseTo request.operation outcome, after) := by
  unfold respond
  refine (bind_of_ran_ok rfl).trans ?_
  by_cases crashed : outcome = .error .crash
  · subst crashed
    exact bind_of_ran_error (Act.attempt_crashed ran)
  · refine (bind_of_ran_ok (Act.attempt_ended ran crashed)).trans ?_
    cases outcome with
    | ok response => rfl
    | error fault =>
        rw [responseTo_error fun same => crashed (congrArg _ same)]
        rfl

/-- A host answers the frame of a request as it responds to the request. -/
theorem answer_read {frame : Bytes}
    (read : Frame.decode Codec.request frame host.formatter.compressors = .ok request) :
    host.answer frame world = host.respond request world := by
  unfold answer
  rw [read]
  exact bind_of_ran_ok (Act.attempt_ended rfl (ok_ne_error _ _))

theorem answer_unread {frame : Bytes} {fault : Fault}
    (unread : Frame.decode Codec.request frame host.formatter.compressors = .error fault)
    (whole : fault ≠ .crash) :
    host.answer frame world = (.ok (.ofFault fault), world.note [.rejected fault]) := by
  unfold answer
  rw [unread]
  exact bind_of_ran_ok (Act.attempt_ended rfl fun same => whole (Except.error.inj same))

theorem answer_crashed {frame : Bytes}
    (unread : Frame.decode Codec.request frame host.formatter.compressors = .error .crash) :
    host.answer frame world = (.error .crash, world) := by
  unfold answer
  rw [unread]
  exact bind_of_ran_error (Act.attempt_crashed rfl)

theorem handle_framed {frame : Bytes} {response : Response} {bytes : Bytes}
    (answered : host.answer frame world = (.ok response, after))
    (framing : host.frameOf response = .ok bytes) :
    host.handle frame world = (.ok bytes, after) := by
  unfold handle
  apply (bind_of_ran_ok answered).trans
  rw [framing]
  rfl

theorem handle_unframed {frame : Bytes} {response : Response} {fault : Fault}
    (answered : host.answer frame world = (.ok response, after))
    (framing : host.frameOf response = .error fault) (whole : fault ≠ .crash) :
    host.handle frame world = (.ok [], after.note [.unanswered fault]) := by
  unfold handle
  apply (bind_of_ran_ok answered).trans
  rw [framing]
  exact bind_of_ran_ok (Act.attempt_ended rfl fun same => whole (Except.error.inj same))

theorem handle_broken {frame : Bytes} {response : Response}
    (answered : host.answer frame world = (.ok response, after))
    (framing : host.frameOf response = .error .crash) :
    host.handle frame world = (.error .crash, after) := by
  unfold handle
  apply (bind_of_ran_ok answered).trans
  rw [framing]
  rfl

/-- Behind its answer a host does no more than to write down that there is none. -/
theorem exists_handle_world {frame : Bytes} {outcome : Except Fault Response}
    (answered : host.answer frame world = (outcome, after)) :
    ∃ events, (host.handle frame world).2 = after.note events := by
  cases outcome with
  | error fault =>
      refine ⟨[], ?_⟩
      rw [World.note_nil]
      exact congrArg Prod.snd (bind_of_ran_error answered)
  | ok response =>
      cases framing : host.frameOf response with
      | ok bytes =>
          rw [handle_framed answered framing]
          exact ⟨[], after.note_nil.symm⟩
      | error fault =>
          by_cases crashed : fault = .crash
          · subst crashed
            rw [handle_broken answered framing]
            exact ⟨[], after.note_nil.symm⟩
          · rw [handle_unframed answered framing crashed]
            exact ⟨_, rfl⟩

/-- A host answers the frame of a request by the frame of its response, however it ends. -/
theorem handle_ended {frame bytes : Bytes} {compressor : Compressor} {response : Response}
    {outcome : Except Fault Response}
    (read : Frame.decode Codec.request frame host.formatter.compressors = .ok request)
    (ran : host.runRequest request (world.note [.received request.operation request.typeKey]) =
      (outcome, after)) (responded : responseTo request.operation outcome = .ok response)
    (found : host.formatter.compressor = .ok compressor)
    (framed : Frame.encode Codec.response response compressor = .ok bytes) :
    host.handle frame world = (.ok bytes, after) := by
  have answered : host.answer frame world = (.ok response, after) := by
    rw [answer_read read, respond_ended ran, responded]
  apply handle_framed answered
  unfold frameOf
  rw [found]
  exact framed

theorem handle_crashed {frame : Bytes}
    (read : Frame.decode Codec.request frame host.formatter.compressors = .ok request)
    (ran : host.runRequest request (world.note [.received request.operation request.typeKey]) =
      (.error .crash, after)) : host.handle frame world = (.error .crash, after) := by
  have answered : host.answer frame world = (.error .crash, after) := by
    rw [answer_read read, respond_ended ran]
    rfl
  exact bind_of_ran_error answered

theorem handle_ran {frame bytes : Bytes} {compressor : Compressor} {response : Response}
    (read : Frame.decode Codec.request frame host.formatter.compressors = .ok request)
    (ran : host.runRequest request (world.note [.received request.operation request.typeKey]) =
      (.ok response, after))
    (found : host.formatter.compressor = .ok compressor)
    (framed : Frame.encode Codec.response response compressor = .ok bytes) :
    host.handle frame world = (.ok bytes, after) := handle_ended read ran rfl found framed

end Host

end ObjectCourier
