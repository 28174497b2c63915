import ObjectCourier.Proofs.Portal.Failing
import ObjectCourier.Proofs.Portal.Verdicts

/-!
Requests that ask for requests. Data access code may ask another portal and fail with what it is told
there. However many portals a failure passes on its way back, and wherever each of them works, the
first caller is told of one failed operation with one reason behind it: the failure itself.
-/

namespace ObjectCourier

inductive Manner where
  | within (context : Context)
  | now
  | waiting

namespace Manner

def context (dispatcher : Dispatcher) (world : World) : Manner → Context
  | within context => context
  | now | waiting => world.context dispatcher.context

def ask (dispatcher : Dispatcher) (demand : Demand) : Manner → Act (Option Node)
  | within context => dispatcher.dispatchIn context demand
  | now => dispatcher.dispatch demand
  | waiting => dispatcher.dispatchAsync demand

end Manner

/-- One request of a chain: the portal that is asked, its host, and what it is asked for. -/
structure Hop where
  dispatcher : Dispatcher
  host : Host
  demand : Demand
  manner : Manner

namespace Hop

def context (hop : Hop) (world : World) : Context := hop.manner.context hop.dispatcher world

def ask (hop : Hop) : Act (Option Node) := hop.manner.ask hop.dispatcher hop.demand

def serve (hop : Hop) (context : Context) (object : Option Node) : Act (Option Node) :=
  hop.host.execute hop.demand.operation hop.demand.typeKey hop.demand.criteria object context

structure Here (hop : Hop) : Prop where
  place : hop.dispatcher.settings.place = .here
  host : hop.dispatcher.host = some hop.host

structure Behind (hop : Hop) (packer answerer : Compressor) : Prop where
  place : hop.dispatcher.settings.place = .remote
  transport : hop.dispatcher.transport = some (.loopback hop.host)
  packs : hop.dispatcher.formatter.compressor = .ok packer
  responds : hop.host.formatter.compressor = .ok answerer
  hostKnows : hop.host.formatter.compressors.get packer.id = .ok packer
  knows : hop.dispatcher.formatter.compressors.get answerer.id = .ok answerer
  packerLossless : packer.Lossless
  answererReversible : answerer.Reversible

def handing (hop : Hop) : Act (Option Node) :=
  if hop.dispatcher.settings.autoClone then
    hop.demand.object.mapM hop.dispatcher.formatter.copy
  else pure hop.demand.object

inductive Reaches (hop : Hop) (world : World) : Option Node → World → Prop where
  | here {object entered} (here : hop.Here)
      (handed : hop.handing ((hop.demand.entering (hop.context world) world).note
        [.advanced hop.demand.operation hop.demand.typeKey .authorizationChecked
          .localExecuting]) = (.ok object, entered)) :
      Reaches hop world object entered
  | remote {packer answerer sent written frame object entered} (behind : hop.Behind packer answerer)
      (serialized : hop.demand.object.mapM hop.dispatcher.formatter.serialize
        ((hop.demand.entering (hop.context world) world).note
          [.advanced hop.demand.operation hop.demand.typeKey .authorizationChecked
            .serializingOut]) = (.ok sent, written))
      (framed : Frame.encode Codec.request (hop.demand.request sent (hop.context world)) packer =
        .ok frame)
      (rebuilt : sent.mapM hop.host.formatter.deserialize (((written.note
          [.advanced hop.demand.operation hop.demand.typeKey .serializingOut
            .remoteRoundTrip]).calling (.sent frame)).note
              [.received hop.demand.operation hop.demand.typeKey]) = (.ok object, entered)) :
      Reaches hop world object entered

def Returns (hop : Hop) (response : Response) : Prop :=
  hop.dispatcher.settings.place = .remote → ∀ answerer,
    hop.host.formatter.compressor = .ok answerer → answerer.Fits (Codec.response.encode response)

def tells (hop : Hop) (fault : Fault) : Fault :=
  match hop.dispatcher.settings.place with
  | .here => fault.whileRunning hop.demand.operation
  | .remote => (fault.whileRunning hop.demand.operation).under hop.demand.operation

/-- If the next portal fails in this world, the data access code fails with what it is told there. -/
def Relays (hop next : Hop) (context : Context) (object : Option Node)
    (entered asking : World) : Prop :=
  ∀ told, (next.ask asking).1 = .error told → (hop.serve context object entered).1 = .error told

section Steps

variable {hop next : Hop} {world entered asking : World} {object : Option Node}
  {packer answerer : Compressor} {fault : Fault}

/-- Data access code that asks the next portal at some point and leaves its failure alone relays. -/
theorem relays_of_bind {α : Type} {prepare : Act α} {finish : Option Node → Act (Option Node)}
    {context : Context} {value : α}
    (asks : hop.serve context object entered =
      (prepare >>= fun _ => next.ask >>= finish) entered)
    (prepared : prepare entered = (.ok value, asking)) :
    hop.Relays next context object entered asking := by
  intro told failed
  rw [asks, bind_of_ran_ok prepared, bind_of_ran_error (Prod.ext failed rfl)]

theorem Behind.awaiting_eq (behind : hop.Behind packer answerer) :
    hop.dispatcher.awaiting = hop.dispatcher := by
  have same : hop.dispatcher.transport.map (fun transport =>
      { transport with send := transport.sendAsync }) = hop.dispatcher.transport := by
    rw [behind.transport]
    rfl
  unfold Dispatcher.awaiting
  rw [same]

private theorem Behind.dispatchAsync_eq (behind : hop.Behind packer answerer)
    (admitted : hop.dispatcher.refusal? hop.demand (world.context hop.dispatcher.context)
      world.store = none) :
    hop.dispatcher.dispatchAsync hop.demand world =
      hop.dispatcher.dispatchIn (world.context hop.dispatcher.context) hop.demand world := by
  rcases performed : hop.dispatcher.perform hop.demand (world.context hop.dispatcher.context)
    .authorizationChecked (hop.demand.entering (world.context hop.dispatcher.context) world) with
      ⟨⟨outcome, stage⟩, after⟩
  have waiting : hop.dispatcher.performAsync hop.demand (world.context hop.dispatcher.context)
      .authorizationChecked (hop.demand.entering (world.context hop.dispatcher.context) world) =
        ((outcome, stage), after) := by
    rw [Dispatcher.performAsync_eq behind.place behind.transport, behind.awaiting_eq, performed]
  rw [Dispatcher.dispatchAsync_remote behind.place, Dispatcher.guarding_admitted admitted waiting,
    Dispatcher.dispatchIn_eq_guarding, Dispatcher.guarding_admitted admitted performed]

private theorem Reaches.ask_eq (reaches : hop.Reaches world object entered)
    (admitted : hop.dispatcher.refusal? hop.demand (hop.context world) world.store = none) :
    hop.ask world = hop.dispatcher.dispatchIn (hop.context world) hop.demand world := by
  unfold ask context at *
  cases manner : hop.manner with
  | within context => rfl
  | now => exact hop.dispatcher.dispatch_eq hop.demand world
  | waiting =>
      rw [manner] at admitted
      cases reaches with
      | here here _ => exact Dispatcher.dispatchAsync_here here.place world
      | remote behind _ _ _ => exact behind.dispatchAsync_eq admitted

private theorem Here.perform_failed (here : hop.Here) {context : Context} {begun after : World}
    (handed : hop.handing (begun.note [.advanced hop.demand.operation hop.demand.typeKey
      .authorizationChecked .localExecuting]) = (.ok object, entered))
    (failed : hop.serve context object entered = (.error fault, after)) :
    ∃ stage final, hop.dispatcher.perform hop.demand context .authorizationChecked begun =
      ((.error (hop.tells fault), stage), final) := by
  have ran : hop.dispatcher.runHere hop.demand context (begun.note
      [.advanced hop.demand.operation hop.demand.typeKey .authorizationChecked .localExecuting]) =
        (.error (fault.whileRunning hop.demand.operation), after) := by
    unfold Dispatcher.runHere
    rw [here.host]
    have executed := (bind_of_ran_ok handed).trans failed
    unfold handing at executed
    cases clones : hop.dispatcher.settings.autoClone with
    | true =>
        rw [clones] at executed
        exact Act.whileRunning_ended executed
    | false =>
        rw [clones] at executed
        exact Act.whileRunning_ended executed
  obtain ⟨stage, events, performed⟩ := Dispatcher.perform_here_ended here.place ran
  unfold tells
  rw [here.place]
  exact ⟨stage, _, performed⟩

private theorem Behind.perform_failed (behind : hop.Behind packer answerer) {context : Context}
    {sent : Option Payload} {frame : Bytes} {begun written after : World}
    (serialized : hop.demand.object.mapM hop.dispatcher.formatter.serialize
      (begun.note [.advanced hop.demand.operation hop.demand.typeKey .authorizationChecked
        .serializingOut]) = (.ok sent, written))
    (framed : Frame.encode Codec.request (hop.demand.request sent context) packer = .ok frame)
    (rebuilt : sent.mapM hop.host.formatter.deserialize (((written.note
        [.advanced hop.demand.operation hop.demand.typeKey .serializingOut
          .remoteRoundTrip]).calling (.sent frame)).note
            [.received hop.demand.operation hop.demand.typeKey]) = (.ok object, entered))
    (failed : hop.serve context object entered = (.error fault, after)) (whole : fault ≠ .crash)
    (fits : answerer.Fits
      (Codec.response.encode (.ofFault (fault.whileRunning hop.demand.operation)))) :
    ∃ stage final, hop.dispatcher.perform hop.demand context .authorizationChecked begun =
      ((.error (hop.tells fault), stage), final) := by
  have readRequest := Frame.decode_encode Codec.request_faithful framed behind.hostKnows
    behind.packerLossless []
  rw [List.append_nil] at readRequest
  have ran : hop.host.runRequest (hop.demand.request sent context) _ = (.error fault, after) :=
    Host.runRequest_failed rebuilt failed
  obtain ⟨packed, packing⟩ := behind.answererReversible.total
    (Codec.response.encode (.ofFault (fault.whileRunning hop.demand.operation)))
  obtain ⟨bytes, framedBack⟩ := Frame.wrap_ok fits.1 packing (fits.2 packed packing)
  have readResponse := Frame.decode_encode Codec.response_faithful framedBack behind.knows
    behind.answererReversible.lossless []
  rw [List.append_nil] at readResponse
  have handled :=
    Host.handle_ended readRequest ran (Host.responseTo_error whole) behind.responds framedBack
  obtain ⟨message, reasons, response, reported⟩ :=
    Response.ofFault_whileRunning hop.demand.operation whole
  rw [response] at readResponse
  have performed := Dispatcher.perform_remote behind.place behind.transport
    (Dispatcher.encodeRequest_ran behind.packs serialized framed) handled
    (Dispatcher.decodeResponse_failed readResponse)
  unfold tells
  rw [behind.place]
  simp only [reported]
  exact ⟨_, _, performed⟩

/-- Step: what the data access code fails with is told once. -/
theorem Reaches.told (reaches : hop.Reaches world object entered)
    (admitted : hop.dispatcher.refusal? hop.demand (hop.context world) world.store = none)
    (returns : hop.Returns (.ofFault (fault.whileRunning hop.demand.operation)))
    (failed : (hop.serve (hop.context world) object entered).1 = .error fault)
    (whole : fault ≠ .crash) : (hop.ask world).1 = .error (hop.tells fault) := by
  have performed : ∃ stage final, hop.dispatcher.perform hop.demand (hop.context world)
      .authorizationChecked (hop.demand.entering (hop.context world) world) =
        ((.error (hop.tells fault), stage), final) := by
    cases reaches with
    | here here handed => exact here.perform_failed handed (Prod.ext failed rfl)
    | remote behind serialized framed rebuilt =>
        have fits := returns behind.place _ behind.responds
        exact behind.perform_failed serialized framed rebuilt (Prod.ext failed rfl) whole fits
  obtain ⟨stage, final, performed⟩ := performed
  rw [reaches.ask_eq admitted, Dispatcher.dispatchIn_eq_guarding,
    Dispatcher.guarding_admitted admitted performed]
  rfl

end Steps

def innermost (first : Hop) : List Hop → Hop
  | [] => first
  | next :: hops => innermost next hops

/-- The operation that is told to have failed: the demanded one of the first remote portal, since a
response does not name its operation, and of the last portal when all work at their hosts. -/
def blamed (first : Hop) : List Hop → Operation
  | [] => first.demand.operation
  | next :: hops =>
      match first.dispatcher.settings.place with
      | .here => blamed next hops
      | .remote => first.demand.operation

/-- What the first caller of a chain is told when its last data access code fails. -/
def report (first : Hop) (hops : List Hop) (fault : Fault) : Fault :=
  .execution (first.blamed hops) s!"{(first.innermost hops).demand.operation.name} operation failed"
    fault.chain

/-- A chain of admitted requests. The data access code of each asks the next portal and fails with
what it is told, and the one of the last fails. -/
inductive Chain (fault : Fault) : Hop → List Hop → World → Prop where
  | last {hop : Hop} {world : World} {object : Option Node} {entered : World}
      (admitted : hop.dispatcher.refusal? hop.demand (hop.context world) world.store = none)
      (reaches : hop.Reaches world object entered)
      (failed : (hop.serve (hop.context world) object entered).1 = .error fault) :
      Chain fault hop [] world
  | relay {hop next : Hop} {hops : List Hop} {world : World} {object : Option Node}
      {entered asking : World}
      (admitted : hop.dispatcher.refusal? hop.demand (hop.context world) world.store = none)
      (reaches : hop.Reaches world object entered)
      (relays : hop.Relays next (hop.context world) object entered asking)
      (rest : Chain fault next hops asking) :
      Chain fault hop (next :: hops) world

variable {fault : Fault}

private theorem tells_plain (hop : Hop) (plain : fault.isPlain = true) :
    hop.tells fault = hop.report [] fault := by
  have wrapped : fault.whileRunning hop.demand.operation = hop.report [] fault := by
    cases fault with
    | execution operation text reasons => cases plain
    | crash => cases plain
    | _ => rfl
  unfold tells
  rw [wrapped]
  cases hop.dispatcher.settings.place <;> rfl

private theorem tells_report (hop next : Hop) (hops : List Hop) (fault : Fault) :
    hop.tells (next.report hops fault) = hop.report (next :: hops) fault := by
  unfold tells
  simp only [report, blamed]
  cases hop.dispatcher.settings.place <;> rfl

def response (first : Hop) (hops : List Hop) (fault : Fault) : Response :=
  .failed s!"{(first.innermost hops).demand.operation.name} operation failed" fault.chain

private theorem response_plain (hop : Hop) (plain : fault.isPlain = true) :
    Response.ofFault (fault.whileRunning hop.demand.operation) = hop.response [] fault := by
  cases fault with
  | execution operation text reasons => cases plain
  | crash => cases plain
  | _ => rfl

/-- However long a chain is and wherever its portals work, its first caller is told that an operation
has failed, in the words for the operation of the last portal, and the one reason behind it is the
failure of the last data access code. -/
theorem Chain.told_once {hop : Hop} {hops : List Hop} {world : World}
    (chain : Chain fault hop hops world) (plain : fault.isPlain = true)
    (returns : ∀ other ∈ hop :: hops, other.Returns (hop.response hops fault)) :
    (hop.ask world).1 = .error (hop.report hops fault) ∧
      (hop.report hops fault).causes = fault.chain ∧
      (hop.report hops fault).root = ⟨fault.kind, fault.message⟩ := by
  have root : (hop.report hops fault).root = ⟨fault.kind, fault.message⟩ := by
    cases fault with
    | execution operation text reasons => cases plain
    | crash => cases plain
    | _ => rfl
  refine ⟨?_, rfl, root⟩
  clear root
  induction chain with
  | @last hop world object entered admitted reaches failed =>
      have fits := returns hop List.mem_cons_self
      rw [← response_plain hop plain] at fits
      have whole : fault ≠ .crash := by
        rintro rfl
        cases plain
      rw [reaches.told admitted fits failed whole, tells_plain hop plain]
  | @relay hop next hops world object entered asking admitted reaches relays rest ih =>
      -- Every portal of the rest has the same response to carry.
      have inner := ih fun other member => returns other (List.mem_cons_of_mem _ member)
      have fits : hop.Returns (.ofFault ((next.report hops fault).whileRunning
        hop.demand.operation)) := returns hop List.mem_cons_self
      have whole : next.report hops fault ≠ .crash := by
        rintro ⟨⟩
      rw [reaches.told admitted fits (relays _ inner) whole, tells_report]

end Hop

def Handler.passing (next : Hop) : Handler where
  type := .record .link
  access := { delete := fun _ _ => next.ask >>= fun _ => pure () }

def Handler.lackingLinks : Handler where
  type := .record .link
  access := { fetch := fun _ _ => throw (.application "the link is gone") }

def Host.ofHandler (handler : Handler) : Host where
  formatter := .links
  handlers := [handler]

namespace Hop

def ofHandler (place : Place) (handler : Handler) (demand : Demand) : Hop where
  dispatcher := .ofHost place (.ofHandler handler)
  host := .ofHandler handler
  demand := demand
  manner := .waiting

def fetching : Hop := ofHandler .here .lackingLinks .fetchLink

def sending : Hop := ofHandler .remote (.passing fetching) .deleteLink

def deleting : Hop := ofHandler .here (.passing sending) .deleteLink

private theorem passing_relays (place : Place) (next : Hop) (context : Context) (entered : World) :
    (ofHandler place (.passing next) .deleteLink).Relays next context none entered
      (entered.calling (.accessed .delete (ObjType.record .link).key (some {}) none
        context.enterServer)) := by
  let prepare : Act Unit := record (.accessed .delete (ObjType.record .link).key (some {}) none
    context.enterServer)
  let finish : Option Node → Act (Option Node) := fun _ => pure none
  have same : (next.ask >>= fun _ => pure ()) >>= (fun _ => pure none) = next.ask >>= finish := by
    simp only [bind_assoc, pure_bind, finish]
  have asks : (ofHandler place (.passing next) .deleteLink).serve context none entered =
      (prepare >>= fun _ => next.ask >>= finish) entered := congrFun same _
  exact relays_of_bind asks rfl

private theorem sending_behind : sending.Behind .none .none where
  place := rfl
  transport := rfl
  packs := rfl
  responds := rfl
  hostKnows := rfl
  knows := rfl
  packerLossless := Compressor.none_reversible.lossless
  answererReversible := Compressor.none_reversible

private theorem deleteLink_fits :
    Compressor.none.Fits (Codec.request.encode (Demand.deleteLink.request none {})) :=
  Compressor.none_fits (by decide +kernel)

private theorem sending_returns : sending.Returns (.failed "fetch operation failed"
    [⟨"Application", "Application error: the link is gone"⟩]) := by
  intro _ answerer responds
  cases responds
  exact Compressor.none_fits (by decide +kernel)

private theorem deleting_chain :
    Chain (.application "the link is gone") deleting [sending, fetching] {} := by
  obtain ⟨frame, framed, -⟩ := Formatter.frame_carries Codec.request_faithful sending_behind.packs
    Compressor.none_reversible deleteLink_fits
  refine .relay rfl (.here ⟨rfl, rfl⟩ rfl) (passing_relays .here sending {} _) ?_
  refine .relay rfl (.remote sending_behind rfl framed rfl)
    (passing_relays .remote fetching {} _) ?_
  exact .last rfl (.here ⟨rfl, rfl⟩ rfl) rfl

/-- The failure of the fetch is passed on twice, and is the one reason behind what the first caller
is told. -/
theorem Chain.told_once_links :
    Chain (.application "the link is gone") deleting [sending, fetching] {} ∧
      (deleting.ask {}).1 = .error (.execution .delete "fetch operation failed"
        [⟨"Application", "Application error: the link is gone"⟩]) := by
  have returns : ∀ other ∈ [deleting, sending, fetching], other.Returns
      (deleting.response [sending, fetching] (.application "the link is gone")) := by
    intro other member
    simp only [List.mem_cons, List.not_mem_nil, or_false] at member
    rcases member with rfl | rfl | rfl
    · exact nofun
    · exact sending_returns
    · exact nofun
  exact ⟨deleting_chain, (deleting_chain.told_once rfl returns).1⟩

end Hop

end ObjectCourier
