import ObjectCourier.Proofs.Portal.Shapes

/-!
The life of a request as the log tells it. The stages of a request make one path, from its beginning
through the work that it was admitted to and up to its outcome, and every step of the path is written
down once, in order. In between stand only the lines of what is plugged in. A request that is broken
off has no outcome, and its lines end where it was on its path.
-/

namespace ObjectCourier

def Event.tellsPass : Event → Bool
  | backReference .. | serialized .. | rebuilt .. => true
  | _ => false

def Event.beyondPasses (events : List Event) : List Event := events.filter (!·.tellsPass)

private theorem Event.beyondPasses_append (early late : List Event) :
    beyondPasses (early ++ late) = beyondPasses early ++ beyondPasses late := List.filter_append _ _

/-- From the one world to the other the log has got these lines and else only lines about passes. -/
def World.Tells (before after : World) (lines : List Event) : Prop :=
  ∃ events, after.log = before.log ++ events ∧ Event.beyondPasses events = lines

namespace World.Tells

variable {before between after : World} {early late : List Event}

theorem note (world : World) (events : List Event) :
    world.Tells (world.note events) (Event.beyondPasses events) := ⟨events, rfl, rfl⟩

theorem trans (first : before.Tells between early) (second : between.Tells after late) :
    before.Tells after (early ++ late) := by
  obtain ⟨front, opened, rfl⟩ := first
  obtain ⟨back, closed, rfl⟩ := second
  refine ⟨front ++ back, ?_, Event.beyondPasses_append _ _⟩
  rw [closed, opened, List.append_assoc]

end World.Tells

/-! ### Passes over graphs -/

namespace Writing

variable {α : Type}

end Writing

namespace Store

variable (store : Store) (policy : Policy)

end Store

/-! ### Formatters -/

namespace Formatter

variable (formatter : Formatter) (world : World)

end Formatter

/-! ### The path of a request -/

def Stage.ending : Except Fault (Option Node) → List Stage
  | .ok _ => [outcomeReady, returned]
  | .error .crash => []
  | .error _ => [faulted]

namespace Demand

variable (demand : Demand)

def steps : List Stage → List Event
  | first :: second :: later =>
      .advanced demand.operation demand.typeKey first second :: steps (second :: later)
  | [_] | [] => []

def opening (path : List Stage) : List Event :=
  .requested demand.operation demand.typeKey :: demand.steps path

def closing (stage : Stage) : Except Fault (Option Node) → List Event
  | .ok _ => [.returned demand.operation demand.typeKey]
  | .error .crash => []
  | .error fault => [.faulted demand.operation demand.typeKey stage fault]

/-- All lines of a request that goes this path to its outcome. -/
def life (path : List Stage) (outcome : Except Fault (Option Node)) : List Event :=
  demand.opening (path ++ Stage.ending outcome) ++ demand.closing (path.getLastD .requested) outcome

end Demand

namespace Dispatcher

variable {dispatcher : Dispatcher} {demand : Demand} {context : Context} {start world after : World}
  {stages : List Stage} {lines : List Event}

/-- The stages of the work that a request is admitted to. The transport is left to work exactly when
there is a frame to send. -/
def course (dispatcher : Dispatcher) (demand : Demand) (context : Context) (world : World) :
    List Stage :=
  match dispatcher.settings.place with
  | .here => [.localExecuting, .executed]
  | .remote =>
      match (dispatcher.encodeRequest demand context world).1 with
      | .ok _ => [.serializingOut, .remoteRoundTrip, .serializingIn]
      | .error _ => [.serializingOut]

def path (dispatcher : Dispatcher) (demand : Demand) (context : Context) (world : World) :
    List Stage :=
  match dispatcher.refusal? demand context world.store with
  | some _ => [.requested]
  | none => .requested :: .authorizationChecked :: dispatcher.course demand context world

/-- On the way from the one world to the other a request through these stages has written these lines.
What is plugged in has not been called, or once, at its own stage, and the lines that it has written
stand between those of the request. -/
inductive Told (dispatcher : Dispatcher) (demand : Demand) (context : Context) (start after : World)
    (stages : List Stage) (lines : List Event) : Prop where
  | alone (unsent : .remoteRoundTrip ∉ stages) (tells : start.Tells after lines)
  | accessed {host : Host} {handler : Handler} {object : Option Node} {begun : World}
      {late : List Event} (unsent : .remoteRoundTrip ∉ stages) (works : dispatcher.host = some host)
      (found : host.handler? demand.typeKey = some handler)
      (opens : start.Tells begun
        (demand.opening [.requested, .authorizationChecked, .localExecuting]))
      (closes : (handler.work demand.operation (demand.operation.given demand.criteria)
        (demand.operation.target object) context.enterServer begun).2.Tells after late)
      (whole : demand.opening [.requested, .authorizationChecked, .localExecuting] ++ late = lines)
  | sent {transport : Transport} {frame : Bytes} {begun : World} {late : List Event}
      (passes : .remoteRoundTrip ∈ stages) (found : dispatcher.transport = some transport)
      (written : (dispatcher.encodeRequest demand context start).1 = .ok frame)
      (opens : start.Tells begun
        (demand.opening [.requested, .authorizationChecked, .serializingOut, .remoteRoundTrip]))
      (closes : (transport.send frame begun).2.Tells after late)
      (whole : demand.opening
        [.requested, .authorizationChecked, .serializingOut, .remoteRoundTrip] ++ late = lines)

structure Follows (path stages : List Stage) (outcome : Except Fault (Option Node)) : Prop where
  part : stages <+: path
  whole : outcome ≠ .error .crash → stages = path
  carried : .remoteRoundTrip ∈ stages ↔ .remoteRoundTrip ∈ path

theorem Follows.refl (path : List Stage) (outcome : Except Fault (Option Node)) :
    Follows path path outcome :=
  ⟨path.prefix_rfl, fun _ => rfl, Iff.rfl⟩

theorem Follows.cons {path : List Stage} {outcome : Except Fault (Option Node)}
    (follows : Follows path stages outcome) (stage : Stage) :
    Follows (stage :: path) (stage :: stages) outcome where
  part := (List.prefix_cons_inj stage).mpr follows.part
  whole ended := congrArg (stage :: ·) (follows.whole ended)
  carried := by rw [List.mem_cons, List.mem_cons, follows.carried]

structure Mute (dispatcher : Dispatcher) : Prop where
  access : ∀ host, dispatcher.host = some host → ∀ handler ∈ host.handlers,
    ∀ operation criteria target context, ∀ begun : World,
      begun.Tells (handler.work operation criteria target context begun).2 []
  transport : ∀ transport, dispatcher.transport = some transport → ∀ frame, ∀ begun : World,
    begun.Tells (transport.send frame begun).2 []

theorem Told.tells (told : dispatcher.Told demand context start after stages lines)
    (mute : dispatcher.Mute) : start.Tells after lines := by
  cases told with
  | alone unsent tells => exact tells
  | accessed unsent works found opens closes whole =>
      have working := mute.access _ works _ (List.mem_of_find?_eq_some found)
      rw [← whole]
      exact opens.trans ((working _ _ _ _ _).trans closes)
  | sent passes found written opens closes whole =>
      rw [← whole]
      exact opens.trans ((mute.transport _ found _ _).trans closes)

/-- The log of a request whose connection is lost. -/
example : (DispatcherParts.littering.build {}).1.toOption.map (fun dispatcher =>
    (dispatcher.dispatch .fetchLink {}).2.log.map (·.text)) = some
      ["fetch tests::Link: Requested",
       "fetch tests::Link: Requested -> AuthorizationChecked",
       "fetch tests::Link: AuthorizationChecked -> SerializingOut",
       "fetch tests::Link: SerializingOut -> RemoteRoundTrip",
       "fetch tests::Link: RemoteRoundTrip -> SerializingIn",
       "fetch tests::Link: SerializingIn -> Faulted",
       "fetch tests::Link faulted after SerializingIn: Execution error: fetch operation failed"] := by
  decide +kernel

end Dispatcher

end ObjectCourier
