import ObjectCourier.Proofs.Graph.Renaming
import ObjectCourier.Proofs.Portal.Admission
import ObjectCourier.Proofs.Portal.Failing

/-!
A request that holds its thread while the transport works, and one that gives it up. When the
transport answers alike in both ways, the two requests come to the same outcome, ask and call the same,
write the same lines, and leave the same objects but for the names of new ones.
-/

namespace ObjectCourier

namespace Renaming

def call (names : Renaming) : Call → Call
  | .accessed operation typeKey criteria target context =>
      .accessed operation typeKey criteria (target.map names.place) context
  | .consulted operation typeKey principal => .consulted operation typeKey principal
  | .sent frame => .sent frame

def openLoad (names : Renaming) (load : OpenLoad) : OpenLoad :=
  { load with counter := load.counter.map names.count }

structure RenamesWorld (names : Renaming) (start : Store) (left right : World) : Prop where
  store : names.Renames start left.store right.store
  contexts : right.contexts = left.contexts
  openLoads : right.openLoads = left.openLoads.map names.openLoad
  nextLoad : right.nextLoad = left.nextLoad
  log : right.log = left.log
  calls : right.calls = left.calls.map names.call
  journal : right.journal = left.journal

private theorem same_call (call : Call) : Renaming.same.call call = call := by
  cases call with
  | accessed _ _ _ target _ => cases target <;> rfl
  | consulted | sent => rfl

private theorem same_openLoad (load : OpenLoad) : Renaming.same.openLoad load = load := by
  obtain ⟨id, property, counter⟩ := load
  cases counter <;> rfl

private theorem same_renamesWorld (start : Store) (world : World) :
    Renaming.same.RenamesWorld start world world where
  store := same_renames start world.store
  contexts := rfl
  openLoads := (List.map_id'' same_openLoad _).symm
  nextLoad := rfl
  log := rfl
  calls := (List.map_id'' same_call _).symm
  journal := rfl

namespace RenamesWorld

variable {names : Renaming} {start : Store} {left right : World}

theorem note (renames : names.RenamesWorld start left right) (events : List Event) :
    names.RenamesWorld start (left.note events) (right.note events) :=
  { renames with log := congrArg (· ++ events) renames.log }

private theorem withStore (renames : names.RenamesWorld start left right) {store other : Store}
    (stores : names.Renames start store other) :
    names.RenamesWorld start { left with store := store } { right with store := other } :=
  { renames with store := stores }

/-- A payload is rebuilt in both worlds or in none, and its root has one name. -/
theorem deserialize (renames : names.RenamesWorld start left right) (formatter : Formatter)
    (payload : Payload) :
    (formatter.deserialize payload right).1 = (formatter.deserialize payload left).1 ∧
      (∀ root, (formatter.deserialize payload left).1 = .ok root →
        names.place root.ref = root.ref) ∧
      names.RenamesWorld start (formatter.deserialize payload left).2
        (formatter.deserialize payload right).2 := by
  have ended := formatter.deserialize_ended payload left
  have endedTwin := formatter.deserialize_ended payload right
  cases read : GraphPlan.read formatter.registry payload with
  | error fault =>
      simp only [read] at ended endedTwin
      rw [ended, endedTwin]
      exact ⟨rfl, nofun, renames⟩
  | ok plan =>
      simp only [read] at ended endedTwin
      obtain ⟨sameRoot, stores⟩ := renames.store.build plan
      rw [ended, endedTwin, sameRoot]
      refine ⟨rfl, ?_, (renames.withStore stores).note _⟩
      rintro _ ⟨⟩
      exact renames.store.place_root plan

end RenamesWorld

end Renaming

/-- Two runs come to the same, in worlds that are the same but for the names of what has been made
since the start. -/
def Agree {α : Type} (start : Store) (run other : α × World) : Prop :=
  other.1 = run.1 ∧ ∃ names : Renaming, names.RenamesWorld start run.2 other.2

theorem Agree.refl {α : Type} (start : Store) (run : α × World) : Agree start run run :=
  ⟨rfl, .same, Renaming.same_renamesWorld start run.2⟩

/-- Without a thread the transport answers as it does with one, whatever the log is and whatever has
been asked and sent. -/
def Transport.AnswersAlike (transport : Transport) (world : World) : Prop :=
  ∀ frame log (asked : List Call), (∀ call ∈ asked, call.isAccessed = false) →
    Agree world.store
      (transport.send frame { world with log := log, calls := world.calls ++ asked })
      (transport.sendAsync frame { world with log := log, calls := world.calls ++ asked })

/-- A transport with only one way to send answers alike. -/
theorem Transport.answersAlike_of_one_way {transport : Transport}
    (same : transport.sendAsync = transport.send) (world : World) :
    transport.AnswersAlike world := by
  intro frame log asked untargeted
  rw [same]
  exact .refl _ _

/-- The frame of an admitted request gets the same answer in both ways. -/
theorem Transport.AnswersAlike.answers {transport : Transport} {demand : Demand} {context : Context}
    {world between : World} (alike : transport.AnswersAlike world)
    (passed : (demand.entering context world).Passed world.store between) (frame : Bytes)
    (events : List Event) : Agree world.store
      (transport.send frame ((between.note events).calling (.sent frame)))
      (transport.sendAsync frame ((between.note events).calling (.sent frame))) := by
  obtain ⟨log, rfl⟩ := passed
  let asked : List Call :=
    [.consulted demand.operation demand.typeKey context.principal, .sent frame]
  have untargeted : ∀ call ∈ asked, call.isAccessed = false := by
    intro call member
    simp only [asked, List.mem_cons, List.not_mem_nil, or_false] at member
    obtain rfl | rfl := member <;> rfl
  have agrees := alike frame (log ++ events) asked untargeted
  have calls : (world.calls ++ [Call.consulted demand.operation demand.typeKey context.principal]) ++
      [.sent frame] = world.calls ++ asked := List.append_assoc _ _ _
  rw [← calls] at agrees
  exact agrees

section Results

variable {names : Renaming} {start : Store} {left right : World}

private theorem Demand.checkResult_renamed {before after : Store}
    (renames : names.Renames start before after)
    {result : Option Node} (kept : ∀ node ∈ result, names.place node.ref = node.ref)
    (demand : Demand) : demand.checkResult after result = demand.checkResult before result := by
  cases result with
  | none => rfl
  | some node =>
      have busy := renames.isBusy_moved node.type node.ref
      rw [kept node rfl] at busy
      unfold Store.isBusy at busy
      unfold checkResult
      simp only [busy]

private theorem Dispatcher.decodeResponse_renamed (dispatcher : Dispatcher) (demand : Demand)
    (answer : Except Fault Bytes) (renames : names.RenamesWorld start left right) :
    (dispatcher.decodeResponse demand answer right).1 =
        (dispatcher.decodeResponse demand answer left).1 ∧
      (∀ result, (dispatcher.decodeResponse demand answer left).1 = .ok result →
        ∀ node ∈ result, names.place node.ref = node.ref) ∧
      names.RenamesWorld start (dispatcher.decodeResponse demand answer left).2
        (dispatcher.decodeResponse demand answer right).2 := by
  rw [decodeResponse_ended, decodeResponse_ended]
  cases dispatcher.response answer with
  | error fault => exact ⟨rfl, nofun, renames⟩
  | ok response =>
      cases response with
      | failed message reasons => exact ⟨rfl, nofun, renames⟩
      | done =>
          refine ⟨rfl, ?_, renames⟩
          rintro _ ⟨⟩ node ⟨⟩
      | object payload =>
          obtain ⟨same, kept, later⟩ := renames.deserialize dispatcher.formatter payload
          simp only [mapM_some_run, same]
          refine ⟨trivial, ?_, later⟩
          intro result found node member
          obtain ⟨root, rebuilt, sameRoot⟩ := map_eq_ok.mp found
          subst sameRoot
          cases member
          exact kept node rebuilt

end Results

namespace Dispatcher

variable {dispatcher : Dispatcher} {demand : Demand} {context : Context} {world : World}
  {start : Store}

private theorem guarding_agree {work other : Staged (Option Node)} {stage : Stage}
    {outcome : Except Fault (Option Node)} {names : Renaming} {left right : World}
    (worked : work .authorizationChecked (demand.entering context world) =
      ((outcome, stage), left))
    (otherWorked : other .authorizationChecked (demand.entering context world) =
      ((outcome, stage), right))
    (kept : ∀ result, outcome = .ok result → ∀ node ∈ result, names.place node.ref = node.ref)
    (renames : names.RenamesWorld start left right) :
    Agree start (dispatcher.guarding context demand work world)
      (dispatcher.guarding context demand other world) := by
  cases decided : dispatcher.refusal? demand context world.store with
  | some fault =>
      rw [guarding_refused decided, guarding_refused decided]
      exact .refl _ _
  | none =>
      have checked : outcome >>= demand.checkResult right.store =
          outcome >>= demand.checkResult left.store := by
        cases outcome with
        | error fault => rfl
        | ok result => exact Demand.checkResult_renamed renames.store (kept result rfl) demand
      rw [guarding_admitted decided worked, guarding_admitted decided otherWorked, checked]
      exact ⟨rfl, names, renames.note _⟩

private theorem guarding_perform_agree {transport : Transport}
    (place : dispatcher.settings.place = .remote)
    (found : dispatcher.transport = some transport) (demand : Demand) (context : Context)
    (world : World) (alike : transport.AnswersAlike world) :
    Agree world.store (dispatcher.guarding context demand (dispatcher.perform demand context) world)
      (dispatcher.guarding context demand (dispatcher.performAsync demand context) world) := by
  have awaits := awaiting_transport found
  have waited : dispatcher.performAsync demand context .authorizationChecked
      (demand.entering context world) = _ := performAsync_eq place found
  have passed := dispatcher.encodeRequest_passed demand context ((demand.entering context world).note
    [.advanced demand.operation demand.typeKey .authorizationChecked .serializingOut])
  rcases encoded : dispatcher.encodeRequest demand context ((demand.entering context world).note
    [.advanced demand.operation demand.typeKey .authorizationChecked .serializingOut]) with
      ⟨outcome, between⟩
  rw [encoded] at passed
  cases outcome with
  | error fault =>
      have worked := perform_unwritten place encoded
      have workedAsync := waited.trans (@perform_unwritten dispatcher.awaiting _ _ _ _ _ place encoded)
      exact guarding_agree worked workedAsync nofun (Renaming.same_renamesWorld _ _)
  | ok frame =>
      let begun := (between.note [.advanced demand.operation demand.typeKey .serializingOut
        .remoteRoundTrip]).calling (.sent frame)
      have agrees : Agree world.store (transport.send frame begun) (transport.sendAsync frame begun) :=
        alike.answers passed frame _
      rcases sent : transport.send frame begun with ⟨answer, left⟩
      rcases sentAsync : transport.sendAsync frame begun with ⟨answerAsync, right⟩
      rw [sent, sentAsync] at agrees
      obtain ⟨sameAnswer, names, renames⟩ := agrees
      cases sameAnswer
      by_cases crashed : answer = .error .crash
      · subst crashed
        have worked := perform_sent_crashed place found encoded sent
        have workedAsync := waited.trans
          (@perform_sent_crashed dispatcher.awaiting _ _ _ _ _ _ _ place awaits encoded sentAsync)
        exact guarding_agree worked workedAsync nofun renames
      obtain ⟨sameResult, kept, later⟩ := dispatcher.decodeResponse_renamed demand answer
        (renames.note [.advanced demand.operation demand.typeKey .remoteRoundTrip .serializingIn])
      rcases decoded : dispatcher.decodeResponse demand answer (left.note
        [.advanced demand.operation demand.typeKey .remoteRoundTrip .serializingIn]) with
          ⟨outcome, ended⟩
      rcases decodedAsync : dispatcher.decodeResponse demand answer (right.note
        [.advanced demand.operation demand.typeKey .remoteRoundTrip .serializingIn]) with
          ⟨outcomeAsync, endedAsync⟩
      rw [decoded, decodedAsync] at sameResult later
      rw [decoded] at kept
      cases sameResult
      have worked := perform_sent place found encoded sent crashed decoded
      have workedAsync := waited.trans
        (@perform_sent dispatcher.awaiting _ _ _ _ _ _ _ _ _ _ place awaits encoded sentAsync
          crashed decodedAsync)
      exact guarding_agree worked workedAsync kept later

private theorem kept_of_assembled {parts : DispatcherParts} {before after : World}
    (assembled : (do
      let formatter ← Act.ofExcept parts.findFormatter
      let context ← match parts.context with
        | some context => pure context
        | none => newContext {}
      return { settings := parts.settings, formatter := formatter, authorizer := parts.authorizer
               context := context, host := parts.host, transport := parts.transport } :
        Act Dispatcher) before = (.ok dispatcher, after)) :
    dispatcher.settings = parts.settings ∧ dispatcher.transport = parts.transport := by
  obtain ⟨formatter, between, -, chosen⟩ := exists_of_bind_ran assembled
  cases given : parts.context with
  | none =>
      rw [given] at chosen
      cases chosen
      exact ⟨rfl, rfl⟩
  | some shared =>
      rw [given] at chosen
      cases chosen
      exact ⟨rfl, rfl⟩

theorem exists_transport_of_built {parts : DispatcherParts} {before after : World}
    (built : parts.build before = (.ok dispatcher, after))
    (place : dispatcher.settings.place = .remote) :
    ∃ transport, dispatcher.transport = some transport := by
  obtain ⟨settings, formatter, authorizer, context, host, transport⟩ := parts
  obtain ⟨chosen, clones, compression⟩ := settings
  cases chosen with
  | here =>
      cases host with
      | none => cases built
      | some host =>
          rw [(kept_of_assembled built).1] at place
          cases place
  | remote =>
      cases transport with
      | none => cases built
      | some transport => exact ⟨transport, (kept_of_assembled built).2⟩

/-- What a request gets does not depend on whether it holds its thread while the transport works, when
the transport answers alike in both ways. -/
theorem dispatchAsync_agrees {parts : DispatcherParts} {before after : World}
    (built : parts.build before = (.ok dispatcher, after)) (demand : Demand) (world : World)
    (alike : ∀ transport, dispatcher.transport = some transport → transport.AnswersAlike world) :
    Agree world.store (dispatcher.dispatch demand world) (dispatcher.dispatchAsync demand world) := by
  rw [dispatch_eq]
  cases place : dispatcher.settings.place with
  | here =>
      rw [dispatchAsync_here place]
      exact .refl _ _
  | remote =>
      obtain ⟨transport, found⟩ := exists_transport_of_built built place
      rw [dispatchAsync_remote place, dispatchIn_eq_guarding]
      exact guarding_perform_agree place found demand _ world (alike transport found)

end Dispatcher

/-- A transport that makes two lists, in an order that depends on the way to send, and then fails. -/
def Transport.littering : Transport where
  send _ := do
    let _ ← Act.onStore fun store => store.alloc (.list .link) []
    let _ ← Act.onStore fun store => store.alloc (.list .contact) []
    throw (.application "connection lost")
  sendAsync _ := do
    let _ ← Act.onStore fun store => store.alloc (.list .contact) []
    let _ ← Act.onStore fun store => store.alloc (.list .link) []
    throw (.application "connection lost")

def Renaming.swapping : Renaming where
  place := Equiv.swap ⟨0⟩ ⟨1⟩
  count := id
  place_injective := Equiv.injective _
  count_injective := Function.injective_id

private theorem Renaming.swapping_renames : Renaming.swapping.Renames {}
    { cells := #[{ type := .list .link, data := [] }, { type := .list .contact, data := [] }] }
    { cells := #[{ type := .list .contact, data := [] }, { type := .list .link, data := [] }] } where
  cells := rfl
  counters := rfl
  oldPlace _ old := absurd old (Nat.not_lt_zero _)
  freePlace ref free := by
    obtain ⟨index⟩ := ref
    have above : 2 ≤ index := free
    refine Equiv.swap_apply_of_ne_of_ne ?_ ?_
    · rintro ⟨⟩
      contradiction
    · rintro ⟨⟩
      contradiction
  oldCount _ _ := rfl
  freeCount _ _ := rfl
  objects ref cell present := by
    match ref with
    | ⟨0⟩ =>
        cases present
        exact ⟨[], rfl, .nil⟩
    | ⟨1⟩ =>
        cases present
        exact ⟨[], rfl, .nil⟩
    | ⟨_ + 2⟩ => cases present
  outstanding _ := rfl

private theorem Transport.littering_answersAlike (contexts : Array Context) :
    Transport.littering.AnswersAlike { contexts := contexts } := by
  intro frame log asked untargeted
  refine ⟨rfl, .swapping, Renaming.swapping_renames, rfl, rfl, rfl, rfl, ?_, rfl⟩
  have kept (call : Call) (member : call ∈ asked) : Renaming.swapping.call call = call := by
    have untargeted := untargeted call member
    cases call with
    | accessed => cases untargeted
    | consulted | sent => rfl
  exact (List.map_congr_left kept).trans (List.map_id _) |>.symm

def DispatcherParts.littering : DispatcherParts where
  settings := { place := .remote }
  formatter := some .links
  transport := some .littering

theorem Dispatcher.dispatchAsync_agrees_littering : ∃ dispatcher after,
    DispatcherParts.littering.build {} = (.ok dispatcher, after) ∧
      (∀ transport, dispatcher.transport = some transport → transport.AnswersAlike after) ∧
        Agree after.store (dispatcher.dispatch .fetchLink after)
          (dispatcher.dispatchAsync .fetchLink after) := by
  have alike (transport : Transport) (found : some Transport.littering = some transport) :
      transport.AnswersAlike { contexts := #[{}] } := by
    cases found
    exact Transport.littering_answersAlike _
  refine ⟨_, _, rfl, alike, ?_⟩
  exact @dispatchAsync_agrees _ .littering _ _ rfl .fetchLink _ alike

/-- The two requests leave the lists in different places. -/
example : (DispatcherParts.littering.build {}).1.toOption.map (fun dispatcher =>
    ((dispatcher.dispatch .fetchLink {}).2.store.cells.map (·.type),
      (dispatcher.dispatchAsync .fetchLink {}).2.store.cells.map (·.type))) =
    some (#[.list .link, .list .contact], #[.list .contact, .list .link]) := by decide +kernel

end ObjectCourier
