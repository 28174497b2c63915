import ObjectCourier.Fault

/-!
What the library reports about its own work: passes over graphs, loads, the stages of requests and
what a host does with frames. Every event has a level and one line of text.
-/

namespace ObjectCourier

/-- Where a request is in its life. -/
inductive Stage where
  | requested
  | authorizationChecked
  | localExecuting
  | serializingOut
  | executed
  | remoteRoundTrip
  | serializingIn
  | outcomeReady
  | returned
  | faulted
  deriving DecidableEq, Repr, Inhabited

def Stage.name : Stage → String
  | requested => "Requested"
  | authorizationChecked => "AuthorizationChecked"
  | localExecuting => "LocalExecuting"
  | serializingOut => "SerializingOut"
  | executed => "Executed"
  | remoteRoundTrip => "RemoteRoundTrip"
  | serializingIn => "SerializingIn"
  | outcomeReady => "OutcomeReady"
  | returned => "Returned"
  | faulted => "Faulted"

inductive Level where
  | trace
  | debug
  | warn
  deriving DecidableEq, Repr

def Level.name : Level → String
  | trace => "TRACE"
  | debug => "DEBUG"
  | warn => "WARN"

inductive Event where
  /-- A writing pass met an object again. -/
  | backReference (id : RefId) (typeKey : String)
  /-- A writing pass has ended. -/
  | serialized (records : Nat) (root : RefId)
  /-- A reading pass has ended. -/
  | rebuilt (nodes : Nat) (root : RefId)
  | loading (property : String)
  | requested (operation : Operation) (typeKey : String)
  | advanced (operation : Operation) (typeKey : String) (before after : Stage)
  | returned (operation : Operation) (typeKey : String)
  | faulted (operation : Operation) (typeKey : String) (after : Stage) (fault : Fault)
  /-- A host starts to work on a request. -/
  | received (operation : Operation) (typeKey : String)
  /-- A host cannot read a frame. -/
  | rejected (fault : Fault)
  /-- A host cannot write its response. -/
  | unanswered (fault : Fault)
  deriving DecidableEq, Repr

namespace Event

def level : Event → Level
  | backReference .. | serialized .. | rebuilt .. | loading _ | requested .. | advanced .. => .trace
  | returned .. | received .. => .debug
  | faulted .. | rejected _ | unanswered _ => .warn

def text : Event → String
  | backReference id typeKey => s!"back reference to {id.label} ({typeKey})"
  | serialized records root => s!"serialized {records} records, root {root.label}"
  | rebuilt nodes root => s!"rebuilt {nodes} nodes, root {root.label}"
  | loading property => s!"loading property {property}"
  | requested operation typeKey => s!"{operation.name} {typeKey}: {Stage.requested.name}"
  | advanced operation typeKey before after =>
      s!"{operation.name} {typeKey}: {before.name} -> {after.name}"
  | returned operation typeKey => s!"{operation.name} {typeKey} returned"
  | faulted operation typeKey after fault =>
      s!"{operation.name} {typeKey} faulted after {after.name}: {fault.message}"
  | received operation typeKey => s!"host received {operation.name} {typeKey}"
  | rejected fault => s!"host rejected a request frame: {fault.message}"
  | unanswered fault => s!"host cannot encode its response: {fault.message}"

def line (event : Event) : String := s!"{event.level.name} {event.text}"

end Event

end ObjectCourier
