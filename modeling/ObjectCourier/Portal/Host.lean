import ObjectCourier.Graph.Formatter
import ObjectCourier.Portal.Envelope

/-!
The executing side of the portal. A host maps type keys to data access code. It runs one operation
for a caller at hand, or answers the frame of a request with the frame of a response; in the second
way every fault becomes a failed response, but a crash leaves no response at all.
-/

namespace ObjectCourier

/-- The code that does the work for one type. An operation that is not given is not supported. -/
structure DataAccess (type : ObjType) where
  create : Criteria → Context → Act (type.Data Carrier.live) :=
    fun _ _ => throw (.unsupported type.key .create)
  fetch : Criteria → Context → Act (type.Data Carrier.live) :=
    fun _ _ => throw (.unsupported type.key .fetch)
  update : Ref → Context → Act Unit := fun _ _ => throw (.unsupported type.key .update)
  delete : Criteria → Context → Act Unit := fun _ _ => throw (.unsupported type.key .delete)
  execute : Ref → Context → Act Unit := fun _ _ => throw (.unsupported type.key .execute)

structure Handler where
  type : ObjType
  access : DataAccess type

namespace Handler

def needCriteria (operation : Operation) (criteria : Option Criteria) : Act Criteria :=
  match criteria with
  | some criteria => pure criteria
  | none => throw (.hostRequiresCriteria operation)

/-- The object of the handler's type that an operation needs. -/
def needTarget (handler : Handler) (operation : Operation) (object : Option Node) : Act Ref :=
  match object with
  | some node => Act.ofExcept (node.expect handler.type "target")
  | none => throw (.hostRequiresObject operation)

/-- Run one operation. The result of an update or an execution is its target. -/
def run (handler : Handler) (operation : Operation) (criteria : Option Criteria)
    (object : Option Node) (context : Context) : Act (Option Node) := do
  let typeKey := handler.type.key
  match operation with
  | .create =>
      let criteria ← needCriteria operation criteria
      record (.accessed operation typeKey criteria none context)
      let data ← handler.access.create criteria context
      return some (← Act.onStore (handler.type.alloc data))
  | .fetch =>
      let criteria ← needCriteria operation criteria
      record (.accessed operation typeKey criteria none context)
      let data ← handler.access.fetch criteria context
      return some (← Act.onStore (handler.type.alloc data))
  | .update =>
      let target ← handler.needTarget operation object
      record (.accessed operation typeKey none target context)
      handler.access.update target context
      return some ⟨handler.type, target⟩
  | .delete =>
      let criteria ← needCriteria operation criteria
      record (.accessed operation typeKey criteria none context)
      handler.access.delete criteria context
      return none
  | .execute =>
      let target ← handler.needTarget operation object
      record (.accessed operation typeKey none target context)
      handler.access.execute target context
      return some ⟨handler.type, target⟩

end Handler

structure Host where
  formatter : Formatter
  /-- The latest handler of a type comes first. -/
  handlers : List Handler := []

namespace Host

/-- Add data access code, replacing what the type had. -/
def register (host : Host) (handler : Handler) : Host :=
  { host with
    handlers := handler :: host.handlers.filter (·.type.key ≠ handler.type.key) }

def handler? (host : Host) (typeKey : String) : Option Handler :=
  host.handlers.find? (·.type.key = typeKey)

/-- Run one operation on the server side of the context. -/
def execute (host : Host) (operation : Operation) (typeKey : String)
    (criteria : Option Criteria) (object : Option Node) (context : Context) :
    Act (Option Node) :=
  match host.handler? typeKey with
  | some handler => handler.run operation criteria object context.enterServer
  | none => throw (.noDataAccess typeKey)

def runRequest (host : Host) (request : Request) : Act Response := do
  let object ← request.object.mapM host.formatter.deserialize
  let outcome ←
    host.execute request.operation request.typeKey request.criteria object request.context
  match outcome with
  | some node => return .object (← host.formatter.serialize node)
  | none => return .done

def respond (host : Host) (request : Request) : Act Response := do
  note (.received request.operation request.typeKey)
  match ← Act.attempt (host.runRequest request) with
  | .ok response => return response
  | .error fault => return .ofFault (fault.whileRunning request.operation)

/-- The response to a frame, whatever it holds. -/
def answer (host : Host) (frame : Bytes) : Act Response := do
  let read := Frame.decode Codec.request frame host.formatter.compressors
  match ← Act.attempt (Act.ofExcept read) with
  | .ok request => host.respond request
  | .error fault =>
      note (.rejected fault)
      return .ofFault fault

def frameOf (host : Host) (response : Response) : Except Fault Bytes := do
  Frame.encode Codec.response response (← host.formatter.compressor)

/-- Answer one frame by another. There are no bytes when the response cannot be written. -/
def handle (host : Host) (frame : Bytes) : Act Bytes := do
  let response ← host.answer frame
  match ← Act.attempt (Act.ofExcept (host.frameOf response)) with
  | .ok bytes => return bytes
  | .error fault =>
      note (.unanswered fault)
      return []

end Host

end ObjectCourier
