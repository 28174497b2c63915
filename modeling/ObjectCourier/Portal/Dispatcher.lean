import ObjectCourier.Portal.Authorization
import ObjectCourier.Portal.Host
import ObjectCourier.Status.Business

/-!
The dispatcher takes a request through its life: arguments and authorization are checked, the
operation runs at a host or behind a transport, and the result is checked. Faults of the work itself
are failures of the operation at either place; what was refused before, or found wrong with the
result, is reported as it is.
-/

namespace ObjectCourier

/-- A pipe for the frames of requests and responses. -/
structure Transport where
  send : Bytes → Act Bytes
  /-- The way to send that gives up the thread while it waits. -/
  sendAsync : Bytes → Act Bytes := send

/-- A transport that hands every frame to a host in the same process. -/
def Transport.loopback (host : Host) : Transport where
  send frame := host.handle frame

inductive Place where
  | here
  | remote
  deriving DecidableEq, Repr, Inhabited

def Place.name : Place → String
  | here => "Local"
  | remote => "Remote"

structure Settings where
  place : Place := .here
  /-- Local updates and executions work on a copy of their target. -/
  autoClone : Bool := true
  /-- The compression of request frames. -/
  compressionId : UInt8 := 0
  deriving DecidableEq, Repr, Inhabited

structure DispatcherParts where
  settings : Settings := {}
  formatter : Option Formatter := none
  authorizer : Authorizer := .allowAll
  context : Option ContextId := none
  host : Option Host := none
  transport : Option Transport := none

structure Dispatcher where
  settings : Settings
  formatter : Formatter
  authorizer : Authorizer
  context : ContextId
  host : Option Host
  transport : Option Transport

/-- The formatter of a dispatcher: its own, or else its host's, with the dispatcher's compression,
which must be known. -/
def DispatcherParts.findFormatter (parts : DispatcherParts) : Except Fault Formatter := do
  let found := parts.formatter.or (parts.host.map (·.formatter))
  match found with
  | none => throw .needsFormatter
  | some base =>
      let formatter := { base with compressionId := parts.settings.compressionId }
      match formatter.compressor with
      | .ok _ => return formatter
      | .error fault => throw (.invalidArgument fault.message)

/-- Check the parts and put them together. Without a context there is a new empty one. -/
def DispatcherParts.build (parts : DispatcherParts) : Act Dispatcher := do
  match parts.settings.place, parts.host, parts.transport with
  | .here, none, _ => throw .needsHost
  | .remote, _, none => throw .needsTransport
  | _, _, _ => pure ()
  let formatter ← Act.ofExcept parts.findFormatter
  let context ← match parts.context with
    | some context => pure context
    | none => newContext {}
  return { settings := parts.settings, formatter := formatter, authorizer := parts.authorizer
           context := context, host := parts.host, transport := parts.transport }

/-- An action of a request that has reached a stage of its life. -/
abbrev Staged := ExceptT Fault (StateT Stage (StateM World))

namespace Staged

/-- Take part in the life of a request without changing its stage. -/
def ofAct {α : Type} (action : Act α) : Staged α :=
  ExceptT.mk fun stage => do
    let outcome ← action.run
    return (outcome, stage)

end Staged

structure Demand where
  operation : Operation
  typeKey : String
  criteria : Option Criteria := none
  object : Option Node := none

namespace Demand

/-- Write down the next stage of a request and take the step. -/
def advance (demand : Demand) (next : Stage) : StateT Stage (StateM World) Unit := do
  note (.advanced demand.operation demand.typeKey (← get) next)
  set next

/-- An operation needs criteria or an object of its type. An object that is busy or part of another
cannot be updated. -/
def validate (demand : Demand) (store : Store) : Except Fault Unit := do
  if !demand.operation.targetsObject then
    match demand.criteria with
    | some _ => return ()
    | none => throw (.requiresCriteria demand.operation demand.typeKey)
  match demand.object with
  | none => throw (.requiresObject demand.operation demand.typeKey)
  | some node =>
      if node.typeKey ≠ demand.typeKey then
        throw (.wrongTarget demand.operation demand.typeKey node.typeKey)
      if demand.operation = .update then
        if let some status := store.nodeStatus? node then
          if status.busy then throw (.updateWhileBusy demand.typeKey)
          if status.child then throw (.updateOfChild demand.typeKey)

/-- A result must be there when one is promised, be of the type asked for, and not be busy. -/
def checkResult (demand : Demand) (store : Store) :
    Option Node → Except Fault (Option Node)
  | none =>
      if demand.operation.returnsObject then
        .error (.nothingReturned demand.operation demand.typeKey)
      else .ok none
  | some node =>
      if node.typeKey ≠ demand.typeKey then
        .error (.wrongResult demand.operation demand.typeKey node.typeKey)
      else if ((store.nodeStatus? node).map (·.busy)).getD false then
        .error (.busyResult demand.operation demand.typeKey)
      else .ok (some node)

/-- The last steps of a request, after which its outcome is handed over. A crash skips them. -/
def finish (demand : Demand) (outcome : Except Fault (Option Node)) :
    StateT Stage (StateM World) Unit := do
  match outcome with
  | .ok _ =>
      demand.advance .outcomeReady
      demand.advance .returned
      note (.returned demand.operation demand.typeKey)
  | .error .crash => return ()
  | .error fault =>
      let stage ← get
      demand.advance .faulted
      note (.faulted demand.operation demand.typeKey stage fault)

/-- The life of a request around its work. -/
def live (demand : Demand) (work : Staged (Option Node)) : Act (Option Node) :=
  ExceptT.mk do
    note (.requested demand.operation demand.typeKey)
    let life : StateT Stage (StateM World) (Except Fault (Option Node)) := do
      let outcome ← work.run
      demand.finish outcome
      return outcome
    life.run' .requested

end Demand

/-- Failures inside are failures of the operation. -/
def Act.whileRunning {α : Type} (operation : Operation) (action : Act α) : Act α :=
  ExceptT.mk do
    match ← action.run with
    | .ok value => return .ok value
    | .error fault => return .error (fault.whileRunning operation)

namespace Dispatcher

/-- The gate of a request. Nothing is written, run or sent before the arguments and the
authorization are checked. -/
def gate (dispatcher : Dispatcher) (demand : Demand) (context : Context) : Act Unit := do
  fromStore demand.validate
  record (.consulted demand.operation demand.typeKey context.principal)
  if !dispatcher.authorizer demand.operation demand.typeKey context.principal then
    throw (.notAuthorized demand.operation demand.typeKey)

def runHere (dispatcher : Dispatcher) (demand : Demand) (context : Context) :
    Act (Option Node) := do
  match dispatcher.host with
  | none => throw .needsHost
  | some host =>
      Act.whileRunning demand.operation do
        let object ←
          if dispatcher.settings.autoClone then demand.object.mapM dispatcher.formatter.copy
          else pure demand.object
        host.execute demand.operation demand.typeKey demand.criteria object context

def needTransport (dispatcher : Dispatcher) : Act Transport :=
  match dispatcher.transport with
  | some transport => pure transport
  | none => throw .needsTransport

def encodeRequest (dispatcher : Dispatcher) (demand : Demand) (context : Context) : Act Bytes :=
  Act.whileRunning demand.operation do
    let object ← demand.object.mapM dispatcher.formatter.serialize
    let request : Request :=
      { operation := demand.operation, typeKey := demand.typeKey, criteria := demand.criteria
        object := object, context := context }
    let compressor ← Act.ofExcept dispatcher.formatter.compressor
    Act.ofExcept (Frame.encode Codec.request request compressor)

/-- The outcome that an answer of the transport stands for. A graph that cannot be rebuilt here is
no failure of the other side. -/
def decodeResponse (dispatcher : Dispatcher) (demand : Demand)
    (answer : Except Fault Bytes) : Act (Option Node) := do
  let response ← Act.whileRunning demand.operation do
    let bytes ← Act.ofExcept answer
    Act.ofExcept (Frame.decode Codec.response bytes dispatcher.formatter.compressors)
  match response with
  | .object payload => return some (← dispatcher.formatter.deserialize payload)
  | .done => return none
  | .failed message reasons => throw (.execution demand.operation message reasons)

/-- Send a frame and take the answer, whichever it is. -/
def roundTrip (send : Bytes → Act Bytes) (frame : Bytes) : Act (Except Fault Bytes) := do
  record (.sent frame)
  Act.attempt (send frame)

def perform (dispatcher : Dispatcher) (demand : Demand) (context : Context) :
    Staged (Option Node) := do
  match dispatcher.settings.place with
  | .here =>
      demand.advance .localExecuting
      let executed ← Staged.ofAct (Act.attempt (dispatcher.runHere demand context))
      demand.advance .executed
      Staged.ofAct (Act.ofExcept executed)
  | .remote =>
      demand.advance .serializingOut
      let frame ← Staged.ofAct (dispatcher.encodeRequest demand context)
      demand.advance .remoteRoundTrip
      let transport ← Staged.ofAct dispatcher.needTransport
      let answer ← Staged.ofAct (roundTrip transport.send frame)
      demand.advance .serializingIn
      Staged.ofAct (dispatcher.decodeResponse demand answer)

def dispatchIn (dispatcher : Dispatcher) (context : Context) (demand : Demand) :
    Act (Option Node) :=
  demand.live do
    Staged.ofAct (dispatcher.gate demand context)
    demand.advance .authorizationChecked
    let result ← dispatcher.perform demand context
    Staged.ofAct (fromStore fun store => demand.checkResult store result)

/-- Run one operation in the context as it is now. -/
def dispatch (dispatcher : Dispatcher) (demand : Demand) : Act (Option Node) := do
  let context := (← get).context dispatcher.context
  dispatcher.dispatchIn context demand

/-- The remote work of an admitted request, waiting for the transport without a thread. The
transport is looked up together with the writing of the request. -/
def performAsync (dispatcher : Dispatcher) (demand : Demand) (context : Context) :
    Staged (Option Node) := do
  demand.advance .serializingOut
  let encoded ← Staged.ofAct (Act.attempt (dispatcher.encodeRequest demand context))
  let transport ← dispatcher.needTransport.run
  match encoded, transport with
  | .ok frame, .ok transport =>
      demand.advance .remoteRoundTrip
      let answer ← Staged.ofAct (roundTrip transport.sendAsync frame)
      demand.advance .serializingIn
      Staged.ofAct (dispatcher.decodeResponse demand answer)
  | .error fault, _ => throw fault
  | _, .error fault => throw fault

/-- Run one operation without holding a thread while the transport works. -/
def dispatchAsync (dispatcher : Dispatcher) (demand : Demand) : Act (Option Node) := do
  let context := (← get).context dispatcher.context
  match dispatcher.settings.place with
  | .here => dispatcher.dispatchIn context demand
  | .remote =>
      demand.live do
        let admitted ← (dispatcher.gate demand context).run
        match admitted with
        | .error fault => throw fault
        | .ok () =>
            demand.advance .authorizationChecked
            let result ← dispatcher.performAsync demand context
            Staged.ofAct (fromStore fun store => demand.checkResult store result)

end Dispatcher

/-- A request that has begun: it keeps the context of its beginning until a worker runs it. -/
structure BegunRequest where
  dispatcher : Dispatcher
  context : Context
  demand : Demand

def Dispatcher.begin (dispatcher : Dispatcher) (demand : Demand) : StateM World BegunRequest := do
  let context := (← get).context dispatcher.context
  return { dispatcher := dispatcher, context := context, demand := demand }

def BegunRequest.run (begun : BegunRequest) : Act (Option Node) :=
  begun.dispatcher.dispatchIn begun.context begun.demand

end ObjectCourier
