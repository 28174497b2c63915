import ObjectCourier.Business.Catalog
import ObjectCourier.Proofs.Portal.Admission
import ObjectCourier.Proofs.Portal.Failing
import ObjectCourier.Proofs.Status.Busy

/-!
What a remote request comes to. The transport may answer with any fault and with any bytes, so the
frames of a request and of its response are exchanged first, and then the outcome is read off what
the exchange has brought: it broke down, or the other side reports a failure, or what it returned is
refused here, or an object is returned, or nothing is. Each outcome is exactly one of these.
-/

namespace ObjectCourier

/-! ### Faults of frames -/

/-- The fault is neither the failure of an operation nor a crash, so that it becomes the reason of a
failure when it is met inside an operation. -/
def Fault.isPlain : Fault → Bool
  | execution .. | crash => false
  | _ => true

private theorem Fault.isPlain_of_blamesGraph {fault : Fault} (blames : fault.blamesGraph = true) :
    fault.isPlain = true := by
  cases fault with
  | execution operation text reasons => cases blames
  | crash => cases blames
  | _ => rfl

private theorem Fault.whileRunning_of_isPlain {fault : Fault} (operation : Operation)
    (plain : fault.isPlain = true) : fault.whileRunning operation =
      .execution operation s!"{operation.name} operation failed" [⟨fault.kind, fault.message⟩] := by
  cases fault with
  | execution other text reasons => cases plain
  | crash => cases plain
  | _ => rfl

theorem Fault.cases_of_isPlain_eq_false {fault : Fault} (plain : fault.isPlain = false) :
    fault = .crash ∨ ∃ operation text reasons, fault = .execution operation text reasons := by
  cases fault with
  | execution operation text reasons => exact .inr ⟨operation, text, reasons, rfl⟩
  | crash => exact .inl rfl
  | _ => cases plain

namespace Compressors

variable {compressors : Compressors}

def Raises (compressors : Compressors) (fault : Fault) : Prop :=
  ∃ algorithm ∈ compressors.algorithms, ∃ bytes,
    algorithm.compress bytes = .error fault ∨ algorithm.decompress bytes = .error fault

def Own (compressors : Compressors) (fault : Fault) : Prop :=
  fault.isPlain = true ∨ compressors.Raises fault

private theorem mem_of_get {id : UInt8} {algorithm : Compressor}
    (found : compressors.get id = .ok algorithm) : algorithm ∈ compressors.algorithms := by
  unfold get at found
  cases first : compressors.algorithms.find? (·.id = id) with
  | none =>
      rw [first] at found
      cases found
  | some other =>
      rw [first] at found
      cases found
      exact List.mem_of_find?_eq_some first

private theorem get_own (compressors : Compressors) (id : UInt8) :
    FailsOnly compressors.Own (compressors.get id) := by
  unfold get
  cases compressors.algorithms.find? (·.id = id) with
  | none => exact failsOnly_error (.inl rfl)
  | some algorithm => exact failsOnly_ok algorithm

theorem ne_crash_of_get {id : UInt8} {fault : Fault}
    (unknown : compressors.get id = .error fault) : fault ≠ .crash := by
  unfold get at unknown
  split at unknown
  · cases unknown
  · cases unknown
    rintro ⟨⟩

end Compressors

private theorem Compressor.expandRuns_plain (bytes : Bytes) :
    FailsOnly (fun fault => fault.isPlain = true) (expandRuns bytes) := by
  induction bytes using expandRuns.induct with
  | case1 => exact failsOnly_ok []
  | case2 byte => exact failsOnly_error rfl
  | case3 count byte rest ih => exact ih.bind fun _ => failsOnly_ok _

/-- None of the algorithms of the business application has its faults so. -/
theorem Business.plain_of_raises {fault : Fault} (raises : Business.compressors.Raises fault) :
    fault.isPlain = true := by
  obtain ⟨algorithm, known, bytes, failed⟩ := raises
  have algorithms : Business.compressors.algorithms = [.none, .mask, .runLength, .broken] := rfl
  rw [algorithms] at known
  simp only [List.mem_cons, List.not_mem_nil, or_false] at known
  rcases known with rfl | rfl | rfl | rfl
  · rcases failed with failed | failed <;> cases failed
  · rcases failed with failed | failed <;> cases failed
  · rcases failed with failed | failed
    · cases failed
    · exact Compressor.expandRuns_plain bytes fault failed
  · rcases failed with failed | failed <;> cases failed <;> rfl

namespace Frame

variable {compressors : Compressors} {algorithm : Compressor}

private theorem wrap_own (known : algorithm ∈ compressors.algorithms) (body : Bytes) :
    FailsOnly compressors.Own (wrap body algorithm) := by
  have packing : FailsOnly compressors.Own (algorithm.compress body) :=
    fun fault failed => .inr ⟨algorithm, known, body, .inl failed⟩
  unfold wrap
  by_cases oversized : Bytes.limit ≤ body.length
  · rw [if_pos oversized]
    exact failsOnly_error (.inl rfl)
  · rw [if_neg oversized]
    refine FailsOnly.bind packing fun packed => ?_
    by_cases larger : Varint.bound ≤ headerSize + packed.length
    · rw [if_pos larger]
      exact failsOnly_error (.inl rfl)
    · rw [if_neg larger]
      exact failsOnly_ok _

private theorem header_own (compressors : Compressors) (bytes : Bytes) :
    FailsOnly compressors.Own (Header.ofBytes bytes) := by
  unfold Header.ofBytes
  simp only
  split
  · exact failsOnly_error (.inl rfl)
  · split
    · exact failsOnly_error (.inl rfl)
    · split
      · exact failsOnly_error (.inl rfl)
      · exact failsOnly_ok _

private theorem unwrap_own (compressors : Compressors) (bytes : Bytes) :
    FailsOnly compressors.Own (unwrap bytes compressors) := by
  refine (header_own compressors bytes).bind fun header => ?_
  simp only
  split
  · exact failsOnly_error (.inl rfl)
  · split
    · exact failsOnly_error (.inl rfl)
    · refine (compressors.get_own _).bind_of_ok fun algorithm found => ?_
      refine FailsOnly.bind (fun fault failed => ?_) fun body => ?_
      · exact .inr ⟨algorithm, Compressors.mem_of_get found, _, .inr failed⟩
      · split
        · exact failsOnly_error (.inl rfl)
        · exact failsOnly_ok body

/-- The frame is sound, but a text in its body is announced to be longer than any memory. -/
def Overreaches {α : Type} (codec : Codec α) (compressors : Compressors) (bytes : Bytes) : Prop :=
  ∃ body, unwrap bytes compressors = .ok body ∧ codec.decode body = .error .unallocatable

/-- A body that announces a text of as many bytes as a number of 64 bits can tell. -/
def overreachingBody (variant : UInt8) : Bytes := variant :: 0xfd :: List.replicate 8 0xff

def overreaching (variant : UInt8) : Bytes :=
  ((wrap (overreachingBody variant) .none).toOption).getD []

theorem Overreaches.crashes {α : Type} {codec : Codec α} {bytes : Bytes}
    (overreaches : Overreaches codec compressors bytes) :
    decode codec bytes compressors = .error .crash := by
  obtain ⟨body, unwrapped, announced⟩ := overreaches
  simp only [decode, unwrapped, announced, bind, Except.bind, Fault.malformed]
  rfl

/-- A frame is not read for a fault of this side, or the reading is broken off. -/
theorem decode_own {α : Type} (codec : Codec α) (compressors : Compressors) (bytes : Bytes) :
    FailsOnly (fun fault => compressors.Own fault ∨
      fault = .crash ∧ Overreaches codec compressors bytes) (decode codec bytes compressors) := by
  refine ((unwrap_own compressors bytes).mono fun _ => .inl).bind_of_ok fun body unwrapped => ?_
  cases decoded : codec.decode body with
  | ok both => exact failsOnly_ok both.1
  | error cause =>
      cases cause with
      | unallocatable => exact failsOnly_error (.inr ⟨rfl, body, unwrapped, decoded⟩)
      | _ => exact failsOnly_error (.inl (.inl rfl))

end Frame

/-! ### The exchange of frames -/

inductive Breakdown where
  | unwritten
  | uncarried
  | unreadable (answer : Bytes)
  deriving DecidableEq, Repr

namespace Dispatcher

def reading (dispatcher : Dispatcher) : Except Fault Bytes → Except (Breakdown × Fault) Response
  | .error fault => .error (.uncarried, fault)
  | .ok bytes => (Frame.decode Codec.response bytes dispatcher.formatter.compressors).mapError
      fun fault => (.unreadable bytes, fault)

/-- The exchange of the frames of a request and its response, and the world after it. The transport
is given by its way of sending. -/
inductive Exchanges (dispatcher : Dispatcher) (send : Bytes → Act Bytes) (demand : Demand)
    (context : Context) (world : World) :
    Except (Breakdown × Fault) Response → World → Prop where
  | unwritten {written between fault}
      (ran : demand.object.mapM dispatcher.formatter.serialize (world.note
        [.advanced demand.operation demand.typeKey .authorizationChecked .serializingOut]) =
          (written, between))
      (unframed : written >>= dispatcher.requestFrame demand context = .error fault) :
      Exchanges dispatcher send demand context world (.error (.unwritten, fault)) between
  | sent {written between frame answer answered}
      (ran : demand.object.mapM dispatcher.formatter.serialize (world.note
        [.advanced demand.operation demand.typeKey .authorizationChecked .serializingOut]) =
          (written, between))
      (framed : written >>= dispatcher.requestFrame demand context = .ok frame)
      (sent : send frame ((between.note
        [.advanced demand.operation demand.typeKey .serializingOut .remoteRoundTrip]).calling
          (.sent frame)) = (answer, answered)) :
      Exchanges dispatcher send demand context world (dispatcher.reading answer)
        (answered.note (demand.arrival answer))

/-- What an exchange stands for before the result is checked. -/
def settle (dispatcher : Dispatcher) (demand : Demand) :
    Except (Breakdown × Fault) Response → Act (Option Node)
  | .error (_, fault) => throw (fault.whileRunning demand.operation)
  | .ok (.failed text reasons) => throw (.execution demand.operation text reasons)
  | .ok (.object payload) => (some payload).mapM dispatcher.formatter.deserialize
  | .ok .done => pure none

variable {dispatcher : Dispatcher} {demand : Demand} {context : Context} {world between : World}
  {send : Bytes → Act Bytes} {transport : Transport}
  {exchanged : Except (Breakdown × Fault) Response}

private theorem exists_exchanges (dispatcher : Dispatcher) (send : Bytes → Act Bytes)
    (demand : Demand) (context : Context) (world : World) :
    ∃ exchanged between, dispatcher.Exchanges send demand context world exchanged between := by
  rcases ran : demand.object.mapM dispatcher.formatter.serialize (world.note
    [.advanced demand.operation demand.typeKey .authorizationChecked .serializingOut]) with
      ⟨written, between⟩
  cases framed : written >>= dispatcher.requestFrame demand context with
  | error fault => exact ⟨_, _, .unwritten ran framed⟩
  | ok frame => exact ⟨_, _, .sent ran framed rfl⟩

/-- The world and the transport decide the exchange. -/
theorem Exchanges.unique {other : Except (Breakdown × Fault) Response} {after : World}
    (first : dispatcher.Exchanges send demand context world exchanged between)
    (second : dispatcher.Exchanges send demand context world other after) :
    other = exchanged ∧ after = between := by
  cases first with
  | unwritten ran unframed =>
      cases second with
      | unwritten again alike =>
          cases ran.symm.trans again
          cases unframed.symm.trans alike
          exact ⟨rfl, rfl⟩
      | sent again framed _ =>
          cases ran.symm.trans again
          cases unframed.symm.trans framed
  | sent ran framed answered =>
      cases second with
      | unwritten again unframed =>
          cases ran.symm.trans again
          cases framed.symm.trans unframed
      | sent again alike repeated =>
          cases ran.symm.trans again
          cases framed.symm.trans alike
          cases answered.symm.trans repeated
          exact ⟨rfl, rfl⟩

private theorem Exchanges.perform_eq (place : dispatcher.settings.place = .remote)
    (found : dispatcher.transport = some transport)
    (exchanges : dispatcher.Exchanges transport.send demand context world exchanged between) :
    ∃ stage, dispatcher.perform demand context .authorizationChecked world =
      (((dispatcher.settle demand exchanged between).1, stage),
        (dispatcher.settle demand exchanged between).2) := by
  have encoded := dispatcher.encodeRequest_ended demand context (world.note
    [.advanced demand.operation demand.typeKey .authorizationChecked .serializingOut])
  cases exchanges with
  | unwritten ran unframed =>
      simp only [ran, unframed] at encoded
      exact ⟨.serializingOut, perform_unwritten place encoded⟩
  | @sent _ _ _ answer _ ran framed answered =>
      simp only [ran, framed] at encoded
      have settles : dispatcher.decodeResponse demand answer =
          dispatcher.settle demand (dispatcher.reading answer) := by
        funext world
        rw [decodeResponse_ended]
        unfold response
        cases answer with
        | error fault => rfl
        | ok bytes =>
            simp only [reading, bind, Except.bind]
            cases Frame.decode Codec.response bytes dispatcher.formatter.compressors with
            | error fault => rfl
            | ok response => cases response <;> rfl
      rw [← settles]
      exact perform_answered place found encoded answered

/-- The work without a thread comes to what its exchange stands for, by the other way of sending. -/
theorem Exchanges.performAsync_eq (place : dispatcher.settings.place = .remote)
    (found : dispatcher.transport = some transport)
    (exchanges : dispatcher.Exchanges transport.sendAsync demand context world exchanged between) :
    ∃ stage, dispatcher.performAsync demand context .authorizationChecked world =
      (((dispatcher.settle demand exchanged between).1, stage),
        (dispatcher.settle demand exchanged between).2) := by
  have awaits := awaiting_transport found
  have awaited : dispatcher.awaiting.Exchanges transport.sendAsync demand context world exchanged
      between := by
    cases exchanges with
    | unwritten ran unframed => exact .unwritten ran unframed
    | sent ran framed answered => exact .sent ran framed answered
  rw [Dispatcher.performAsync_eq place found]
  exact @perform_eq dispatcher.awaiting _ _ _ _ _ _ place awaits awaited

private theorem requestFrame_own (dispatcher : Dispatcher) (demand : Demand) (context : Context)
    (sent : Option Payload) :
    FailsOnly dispatcher.formatter.compressors.Own (dispatcher.requestFrame demand context sent) :=
  (dispatcher.formatter.compressors.get_own _).bind_of_ok fun _ found =>
    Frame.wrap_own (Compressors.mem_of_get found) _

inductive Breaks (dispatcher : Dispatcher) : Breakdown → Fault → Prop where
  | uncarried {fault} : Breaks dispatcher .uncarried fault
  | own {breakdown fault} (own : dispatcher.formatter.compressors.Own fault) :
      Breaks dispatcher breakdown fault
  | overreaching {answer}
      (overreaches : Frame.Overreaches Codec.response dispatcher.formatter.compressors answer) :
      Breaks dispatcher (.unreadable answer) .crash

private theorem Exchanges.breaks
    (exchanges : dispatcher.Exchanges send demand context world exchanged between) :
    FailsOnly (fun broken => dispatcher.Breaks broken.1 broken.2) exchanged := by
  cases exchanges with
  | @unwritten written _ fault ran unframed =>
      have writing : FailsOnly dispatcher.formatter.compressors.Own written := by
        have blames := dispatcher.formatter.mapM_serialize_blames demand.object (world.note
          [.advanced demand.operation demand.typeKey .authorizationChecked .serializingOut])
        rw [ran] at blames
        exact blames.mono fun _ blamed => .inl (Fault.isPlain_of_blamesGraph blamed)
      have framing := writing.bind (dispatcher.requestFrame_own demand context)
      exact failsOnly_error (.own (framing fault unframed))
  | @sent _ _ _ answer _ ran framed answered =>
      cases answer with
      | error fault => exact failsOnly_error .uncarried
      | ok bytes =>
          refine (Frame.decode_own Codec.response _ bytes).mapError fun fault reason => ?_
          rcases reason with own | ⟨rfl, overreaches⟩
          · exact .own own
          · exact .overreaching overreaches

end Dispatcher

/-! ### Verdicts -/

inductive Verdict where
  | failed
  | reported
  | refused
  | returned
  | nothing
  | relayed
  | crashed
  deriving DecidableEq, Repr

open Dispatcher in
/-- How the outcome of a request follows from the exchange, by the verdict. -/
inductive Verdict.Describes (dispatcher : Dispatcher) (demand : Demand) :
    Verdict → Except (Breakdown × Fault) Response × World →
      Except Fault (Option Node) × World → Prop where
  /-- The exchange broke down: the operation has failed, and the fault is the reason. -/
  | wrapped {breakdown fault between after} (plain : fault.isPlain = true) :
      Describes dispatcher demand .failed (.error (breakdown, fault), between)
        (.error (.execution demand.operation s!"{demand.operation.name} operation failed"
          [⟨fault.kind, fault.message⟩]), after)
  /-- The transport answers with what already is the failure of an operation, which stays as it is. -/
  | kept {operation text reasons between after} :
      Describes dispatcher demand .failed
        (.error (.uncarried, .execution operation text reasons), between)
        (.error (.execution operation text reasons), after)
  /-- The other side reports a failure. -/
  | reported {text reasons between after} :
      Describes dispatcher demand .reported (.ok (.failed text reasons), between)
        (.error (.execution demand.operation text reasons), after)
  /-- The payload cannot be rebuilt. -/
  | unbuilt {payload fault between unchanged after}
      (failed : dispatcher.formatter.deserialize payload between = (.error fault, unchanged))
      (blames : fault.blamesPayload = true) :
      Describes dispatcher demand .refused (.ok (.object payload), between) (.error fault, after)
  /-- The rebuilt object is of another type. -/
  | mistyped {payload node between rebuilt after}
      (built : dispatcher.formatter.deserialize payload between = (.ok node, rebuilt))
      (other : node.typeKey ≠ demand.typeKey) :
      Describes dispatcher demand .refused (.ok (.object payload), between)
        (.error (.wrongResult demand.operation demand.typeKey node.typeKey), after)
  /-- The rebuilt object is busy. -/
  | busy {payload node between rebuilt after}
      (built : dispatcher.formatter.deserialize payload between = (.ok node, rebuilt))
      (same : node.typeKey = demand.typeKey) (busy : rebuilt.store.isBusy node = true) :
      Describes dispatcher demand .refused (.ok (.object payload), between)
        (.error (.busyResult demand.operation demand.typeKey), after)
  /-- There is no object where one is promised. -/
  | missing {between after} (returns : demand.operation.returnsObject = true) :
      Describes dispatcher demand .refused (.ok .done, between)
        (.error (.nothingReturned demand.operation demand.typeKey), after)
  /-- The rebuilt object is returned. -/
  | returned {payload node between rebuilt after}
      (built : dispatcher.formatter.deserialize payload between = (.ok node, rebuilt))
      (store : after.store = rebuilt.store)
      (same : node.typeKey = demand.typeKey) (idle : after.store.isBusy node = false) :
      Describes dispatcher demand .returned (.ok (.object payload), between)
        (.ok (some node), after)
  /-- A deletion is done. -/
  | nothing {between after} (deletes : demand.operation = .delete) :
      Describes dispatcher demand .nothing (.ok .done, between) (.ok none, after)
  /-- An algorithm fails with the failure of an operation, which stays as it is. -/
  | relayed {breakdown operation text reasons between after} (carried : breakdown ≠ .uncarried)
      (raised : dispatcher.formatter.compressors.Raises (.execution operation text reasons)) :
      Describes dispatcher demand .relayed
        (.error (breakdown, .execution operation text reasons), between)
        (.error (.execution operation text reasons), after)
  /-- A text of the response is longer than any memory. -/
  | overreached {answer between after}
      (overreaches : Frame.Overreaches Codec.response dispatcher.formatter.compressors answer) :
      Describes dispatcher demand .crashed (.error (.unreadable answer, .crash), between)
        (.error .crash, after)
  /-- A text in a blob of the payload is longer than any memory. -/
  | overfilled {payload between unchanged after} (overreaches : payload.Overreaches)
      (failed : dispatcher.formatter.deserialize payload between = (.error .crash, unchanged)) :
      Describes dispatcher demand .crashed (.ok (.object payload), between) (.error .crash, after)
  /-- The transport or an algorithm is broken off itself. -/
  | broken {breakdown between after}
      (raised : breakdown = .uncarried ∨ dispatcher.formatter.compressors.Raises .crash) :
      Describes dispatcher demand .crashed (.error (breakdown, .crash), between)
        (.error .crash, after)

namespace Verdict

def ofRun : Except (Breakdown × Fault) Response → Except Fault (Option Node) → Verdict
  | .error (_, .crash), _ => crashed
  | .error (.uncarried, .execution ..), _ => failed
  | .error (_, .execution ..), _ => relayed
  | .error _, _ => failed
  | .ok (.failed _ _), _ => reported
  | .ok (.object _), .error .crash => crashed
  | .ok (.object _), .error _ => refused
  | .ok (.object _), .ok _ => returned
  | .ok .done, .error _ => refused
  | .ok .done, .ok _ => nothing

variable {dispatcher : Dispatcher} {demand : Demand}

/-- The algorithms of the business application relay nothing, and are not broken off. -/
theorem Describes.ne_relayed
    (business : dispatcher.formatter.compressors = Business.compressors) {verdict : Verdict}
    {exchange : Except (Breakdown × Fault) Response × World}
    {run : Except Fault (Option Node) × World}
    (describes : verdict.Describes dispatcher demand exchange run) : verdict ≠ .relayed := by
  rintro rfl
  cases describes with
  | relayed carried raised =>
      rw [business] at raised
      cases Business.plain_of_raises raised

private theorem Describes.eq_ofRun {verdict : Verdict}
    {exchange : Except (Breakdown × Fault) Response × World}
    {run : Except Fault (Option Node) × World}
    (describes : verdict.Describes dispatcher demand exchange run) :
    verdict = ofRun exchange.1 run.1 := by
  cases describes with
  | @wrapped _ fault _ _ plain =>
      cases fault with
      | execution => cases plain
      | crash => cases plain
      | _ => rfl
  | @unbuilt _ fault _ _ _ _ blames =>
      cases fault with
      | crash => cases blames
      | _ => rfl
  | @relayed breakdown _ _ _ _ _ carried _ =>
      cases breakdown with
      | uncarried => contradiction
      | _ => rfl
  | _ => rfl

variable {exchanged : Except (Breakdown × Fault) Response} {between after : World}
  {outcome : Except Fault (Option Node)}

private theorem exists_describes_object {payload : Payload} {final : World}
    (ran : (some payload).mapM dispatcher.formatter.deserialize between = (outcome, after))
    (store : final.store = after.store) :
    ∃ verdict, Describes dispatcher demand verdict (.ok (.object payload), between)
      (outcome >>= demand.checkResult after.store, final) := by
  have blames := dispatcher.formatter.mapM_deserialize_blames (some payload) between
  rw [mapM_some_run] at ran blames
  rcases built : dispatcher.formatter.deserialize payload between with ⟨result, rebuilt⟩
  rw [built] at ran blames
  cases ran
  cases result with
  | error fault =>
      rcases blames fault rfl with payload | ⟨rfl, _, ⟨⟩, overreaches⟩
      · exact ⟨.refused, .unbuilt built payload⟩
      · exact ⟨.crashed, .overfilled overreaches built⟩
  | ok node =>
      change ∃ verdict, Describes dispatcher demand verdict _
        (demand.checkResult rebuilt.store (some node), final)
      by_cases same : node.typeKey = demand.typeKey
      · cases busy : rebuilt.store.isBusy node with
        | true =>
            have checked : demand.checkResult rebuilt.store (some node) =
                .error (.busyResult demand.operation demand.typeKey) :=
              (if_neg (not_not.mpr same)).trans (if_pos busy)
            rw [checked]
            exact ⟨.refused, .busy built same busy⟩
        | false =>
            have checked : demand.checkResult rebuilt.store (some node) = .ok (some node) :=
              (if_neg (not_not.mpr same)).trans (if_neg (Bool.not_eq_true _ ▸ busy))
            rw [checked]
            refine ⟨.returned, .returned built store same ?_⟩
            rw [store]
            exact busy
      · have checked : demand.checkResult rebuilt.store (some node) =
            .error (.wrongResult demand.operation demand.typeKey node.typeKey) := if_pos same
        rw [checked]
        exact ⟨.refused, .mistyped built same⟩

/-- What an exchange stands for has a verdict once it is checked. -/
theorem exists_describes
    (breaks : FailsOnly (fun broken => dispatcher.Breaks broken.1 broken.2) exchanged)
    (settled : dispatcher.settle demand exchanged between = (outcome, after)) (final : World)
    (store : final.store = after.store) :
    ∃ verdict, Describes dispatcher demand verdict (exchanged, between)
      (outcome >>= demand.checkResult after.store, final) := by
  match exchanged with
  | .error (breakdown, fault) =>
      cases settled
      cases plain : fault.isPlain with
      | true =>
          refine ⟨.failed, ?_⟩
          change Describes _ _ _ _ (.error (fault.whileRunning demand.operation), final)
          rw [Fault.whileRunning_of_isPlain _ plain]
          exact .wrapped plain
      | false =>
          have broken := breaks _ rfl
          rcases Fault.cases_of_isPlain_eq_false plain with rfl | ⟨operation, text, reasons, rfl⟩
          · refine ⟨.crashed, ?_⟩
            cases broken with
            | uncarried => exact .broken (.inl rfl)
            | own own => exact .broken (.inr (own.resolve_left nofun))
            | overreaching overreaches => exact .overreached overreaches
          · by_cases uncarried : breakdown = .uncarried
            · subst uncarried
              exact ⟨.failed, .kept⟩
            · refine ⟨.relayed, .relayed uncarried ?_⟩
              cases broken with
              | uncarried => contradiction
              | own own => exact own.resolve_left nofun
  | .ok (.failed text reasons) =>
      cases settled
      exact ⟨.reported, .reported⟩
  | .ok (.object payload) => exact exists_describes_object settled store
  | .ok .done =>
      cases settled
      change ∃ verdict, Describes dispatcher demand verdict _
        (demand.checkResult between.store none, final)
      cases returns : demand.operation.returnsObject with
      | true =>
          have checked : demand.checkResult between.store none =
              .error (.nothingReturned demand.operation demand.typeKey) := if_pos returns
          rw [checked]
          exact ⟨.refused, .missing returns⟩
      | false =>
          have checked : demand.checkResult between.store none = .ok none :=
            if_neg (Bool.not_eq_true _ ▸ returns)
          have deletes : demand.operation = .delete := by
            cases operation : demand.operation with
            | delete => rfl
            | create | fetch | update | execute =>
                rw [operation] at returns
                cases returns
          rw [checked]
          exact ⟨.nothing, .nothing deletes⟩

end Verdict

namespace Dispatcher

variable {dispatcher : Dispatcher} {demand : Demand} {context : Context} {world between : World}
  {transport : Transport}

/-- The run has exactly one verdict: there is one exchange, and one kind of outcome describes what
has become of it. -/
def Judged (dispatcher : Dispatcher) (send : Bytes → Act Bytes) (demand : Demand)
    (context : Context) (world : World) (run : Except Fault (Option Node) × World) : Prop :=
  ∃! verdict : Verdict, ∃ exchanged between,
    dispatcher.Exchanges send demand context (demand.entering context world) exchanged between ∧
      verdict.Describes dispatcher demand (exchanged, between) run

private theorem guarding_judged {send : Bytes → Act Bytes} {work : Staged (Option Node)}
    (admitted : dispatcher.refusal? demand context world.store = none)
    (worked : ∀ exchanged between, dispatcher.Exchanges send demand context
      (demand.entering context world) exchanged between →
        ∃ stage, work .authorizationChecked (demand.entering context world) =
          (((dispatcher.settle demand exchanged between).1, stage),
            (dispatcher.settle demand exchanged between).2)) :
    dispatcher.Judged send demand context world (dispatcher.guarding context demand work world) := by
  obtain ⟨exchanged, between, exchanges⟩ := dispatcher.exists_exchanges send demand context
    (demand.entering context world)
  obtain ⟨stage, performed⟩ := worked exchanged between exchanges
  rw [guarding_admitted admitted performed]
  obtain ⟨verdict, describes⟩ := Verdict.exists_describes exchanges.breaks
    (Prod.eta (dispatcher.settle demand exchanged between)).symm
    ((dispatcher.settle demand exchanged between).2.note (demand.epilogue stage _)) rfl
  refine ⟨verdict, ⟨exchanged, between, exchanges, describes⟩, ?_⟩
  -- There is no other exchange, and the exchange and the outcome tell the verdict.
  rintro other ⟨_, _, again, judged⟩
  obtain ⟨rfl, rfl⟩ := exchanges.unique again
  rw [judged.eq_ofRun, describes.eq_ofRun]

/-- In whatever way an admitted remote request is made and whatever its transport does, its outcome
has exactly one verdict. -/
theorem remote_judged (place : dispatcher.settings.place = .remote)
    (found : dispatcher.transport = some transport) (demand : Demand) (world : World) :
    (∀ context, dispatcher.refusal? demand context world.store = none →
      dispatcher.Judged transport.send demand context world
        (dispatcher.dispatchIn context demand world)) ∧
    (dispatcher.refusal? demand (world.context dispatcher.context) world.store = none →
      dispatcher.Judged transport.send demand (world.context dispatcher.context) world
        (dispatcher.dispatch demand world) ∧
      dispatcher.Judged transport.sendAsync demand (world.context dispatcher.context) world
        (dispatcher.dispatchAsync demand world)) ∧
    ∀ earlier : World, dispatcher.refusal? demand (earlier.context dispatcher.context) world.store =
      none → dispatcher.Judged transport.send demand (earlier.context dispatcher.context) world
        ((dispatcher.begin demand earlier).1.run world) := by
  have judged (context : Context)
      (admitted : dispatcher.refusal? demand context world.store = none) :
      dispatcher.Judged transport.send demand context world
        (dispatcher.dispatchIn context demand world) :=
    guarding_judged admitted fun _ _ exchanges => exchanges.perform_eq place found
  refine ⟨judged, fun admitted => ⟨?_, ?_⟩, fun earlier => judged _⟩
  · rw [dispatch_eq]
    exact judged _ admitted
  · rw [dispatchAsync_remote place]
    exact guarding_judged admitted fun _ _ exchanges => exchanges.performAsync_eq place found

/-- An answer that announces a text longer than any memory breaks every admitted request off. -/
theorem remote_overreaching {frame answer : Bytes} {answered : World}
    (place : dispatcher.settings.place = .remote) (found : dispatcher.transport = some transport)
    (admitted : dispatcher.refusal? demand context world.store = none)
    (encoded : dispatcher.encodeRequest demand context ((demand.entering context world).note
      [.advanced demand.operation demand.typeKey .authorizationChecked .serializingOut]) =
        (.ok frame, between))
    (sent : transport.send frame ((between.note
      [.advanced demand.operation demand.typeKey .serializingOut .remoteRoundTrip]).calling
        (.sent frame)) = (.ok answer, answered))
    (overreaches : Frame.Overreaches Codec.response dispatcher.formatter.compressors answer) :
    (dispatcher.dispatchIn context demand world).1 = .error .crash := by
  obtain ⟨stage, performed⟩ := perform_answered place found encoded sent
  have broken : dispatcher.response (.ok answer) = .error .crash := overreaches.crashes
  rw [decodeResponse_ended, broken] at performed
  rw [dispatchIn_eq_guarding, guarding_admitted admitted performed]
  rfl

end Dispatcher

def Transport.answering (bytes : Bytes) : Transport where
  send _ := pure bytes

def Dispatcher.answeredBy (bytes : Bytes) : Dispatcher where
  settings := { place := .remote }
  formatter := .links
  authorizer := .allowAll
  context := ⟨0⟩
  host := none
  transport := some (.answering bytes)

def Payload.ofLink : Payload where
  root := ⟨1⟩
  records :=
    [{ id := ⟨1⟩, typeKey := (ObjType.record .link).key
       values := [("index", IntKind.u32.toWire (IntKind.zero .u32)), ("next", .null)] }]

def Response.linkFrame : Bytes :=
  ((Frame.encode Codec.response (.object .ofLink) .none).toOption).getD []

/-- A fetch that is answered with a link is judged, and the link is rebuilt and returned. -/
theorem Dispatcher.remote_judged_link :
    (answeredBy Response.linkFrame).Judged (Transport.answering Response.linkFrame).send .fetchLink
        {} {} ((answeredBy Response.linkFrame).dispatchIn {} .fetchLink {}) ∧
      ((answeredBy Response.linkFrame).dispatchIn {} .fetchLink {}).1 =
        .ok (some { type := .record .link, ref := ⟨0⟩ }) := by
  have place : (answeredBy Response.linkFrame).settings.place = .remote := rfl
  have judged := (remote_judged place rfl .fetchLink {}).1 {} rfl
  exact ⟨judged, by decide +kernel⟩

def Demand.deleteLink : Demand where
  operation := .delete
  typeKey := (ObjType.record .link).key
  criteria := some {}

/-- The answer is a sound frame, and the deletion has no outcome. -/
theorem Dispatcher.remote_broken_off :
    (answeredBy (Frame.overreaching 2)).refusal? .deleteLink {} ({} : World).store = none ∧
      (Frame.unwrap (Frame.overreaching 2) Formatter.links.compressors).isOk = true ∧
        ((answeredBy (Frame.overreaching 2)).dispatchIn {} .deleteLink {}).1 = .error .crash := by
  have overreaches : Frame.Overreaches Codec.response Formatter.links.compressors
      (Frame.overreaching 2) := ⟨Frame.overreachingBody 2, by decide +kernel, rfl⟩
  have place : (answeredBy (Frame.overreaching 2)).settings.place = .remote := rfl
  refine ⟨rfl, by decide +kernel, ?_⟩
  exact remote_overreaching place rfl rfl rfl rfl overreaches

end ObjectCourier
