import ObjectCourier.Operation
import ObjectCourier.Wire.RefId

/-!
Faults and their reasons. A fault is what an operation of this library fails with. What survives of
it across a transport is its chain of reasons: its kind and message, followed by the reasons that an
execution fault carries. `Fault.whileRunning` turns a fault into an execution fault exactly once. A
crash is no fault that the library reports: whatever is going on is broken off by it.
-/

namespace ObjectCourier

/-- One link of a chain of reasons, in a form that can be sent. -/
structure Reason where
  kind : String
  message : String
  deriving DecidableEq, Repr, Inhabited

/-- What an operation fails with. -/
inductive Fault where
  /-- An object is built or configured from unusable values. -/
  | invalidArgument (text : String)
  /-- The caller may not run the operation on this type. -/
  | notAuthorized (operation : Operation) (typeKey : String)
  /-- A target or a parameter is missing or unfit for the operation. -/
  | argument (text : String)
  /-- A payload is not the picture of a graph, or a result is not what was asked for. -/
  | corruptGraph (text : String)
  /-- A stored value does not have the type that its field declares. -/
  | typeMismatch (field expected found : String)
  /-- Data access or its transport failed; the reasons are the chain behind the message. -/
  | execution (operation : Operation) (text : String) (reasons : List Reason)
  /-- Data access code reports a failure of its own. -/
  | application (text : String)
  | serialization (text : String)
  | compression (text : String)
  | format (text : String)
  | internal (text : String)
  /-- The work is broken off in the middle, since it asked for more memory than there can be. On its
  way out a crash is not taken for the failure of an operation, not written down and not sent. -/
  | crash
  deriving DecidableEq, Repr, Inhabited

namespace Fault

def kind : Fault → String
  | invalidArgument _ => "InvalidArgument"
  | notAuthorized .. => "NotAuthorized"
  | argument _ => "Argument"
  | corruptGraph _ => "CorruptGraph"
  | typeMismatch .. => "TypeMismatch"
  | execution .. => "RemoteExecution"
  | application _ => "Application"
  | serialization _ => "Serialization"
  | compression _ => "Compression"
  | format _ => "Format"
  | internal _ => "Internal"
  | crash => "Panic"

def message : Fault → String
  | invalidArgument text => s!"Invalid argument: {text}"
  | notAuthorized operation typeKey => s!"Not authorized to {operation.name} {typeKey}"
  | argument text => s!"Argument error: {text}"
  | corruptGraph text => s!"Corrupt graph: {text}"
  | typeMismatch field expected found =>
      s!"Type mismatch on '{field}': expected {expected}, found {found}"
  | execution _ text _ => s!"Execution error: {text}"
  | application text => s!"Application error: {text}"
  | serialization text => s!"Serialization Error: {text}"
  | compression text => s!"Compression Error: {text}"
  | format text => s!"Format Error: {text}"
  | internal text => s!"Internal Logic Error: {text}"
  | crash => "capacity overflow"

/-- The reasons behind a fault, from the nearest to the root. Only an execution fault has any. -/
def causes : Fault → List Reason
  | execution _ _ reasons => reasons
  | _ => []

/-- The fault itself as the first link of its chain. -/
def reason (fault : Fault) : Reason := ⟨fault.kind, fault.message⟩

def chain (fault : Fault) : List Reason := fault.reason :: fault.causes

/-- The end of the chain, which is the fault itself when nothing is behind it. -/
def root (fault : Fault) : Reason := fault.causes.getLastD fault.reason

/-- The failure of an operation because of a fault. A fault that already is the failure of an
operation stays as it is, so chains are never nested twice; and so does a crash. -/
def whileRunning (operation : Operation) (fault : Fault) : Fault :=
  match fault with
  | execution .. | crash => fault
  | _ => execution operation s!"{operation.name} operation failed" fault.chain

/-! Faults of objects and their fields. -/

def emptyFieldName : Fault := invalidArgument "field name must not be empty"

def objectPoisoned : Fault := internal "Object lock poisoned"

def nodePoisoned (typeKey : String) : Fault := internal s!"Lock poisoned on {typeKey}"

def danglingHandle : Fault := internal "handle leads to no object"

/-- Embedding by value met an object that is being embedded already. -/
def embeddingCycle : Fault := serialization "OtherString(\"cycle in opaque value\")"

def embeddingPoisoned : Fault := serialization "OtherString(\"object lock poisoned\")"

/-- Bytes that cannot be decoded are complained of, unless decoding them breaks the work off. -/
def malformed : DecodeFault → Fault
  | .unallocatable => crash
  | cause => serialization cause.message

/-- A body has more bytes than a memory holds, or than its length field can tell. -/
def oversized : Fault := serialization "LimitExceeded"

/-! Faults of graphs and payloads. -/

def missingValue (id : RefId) (typeKey name : String) : Fault :=
  corruptGraph s!"record {id.label} ({typeKey}) has no value '{name}'"

def repeatedId (id : RefId) : Fault :=
  corruptGraph s!"reference id {id.label} appears more than once"

def missingRoot (id : RefId) : Fault := corruptGraph s!"root {id.label} has no record"

def danglingSlot (id : RefId) (slot : String) (target : RefId) : Fault :=
  corruptGraph
    s!"record {id.label} slot '{slot}' points to missing reference id {target.label}"

def unresolvedId (id : RefId) : Fault := corruptGraph s!"no record for reference id {id.label}"

def missingElement (id : RefId) (index : Nat) : Fault :=
  corruptGraph s!"list record {id.label} has no element {index}"

def unknownType (typeKey : String) : Fault := corruptGraph s!"unknown type identity '{typeKey}'"

def unregisteredRoot (typeKey : String) : Fault :=
  argument s!"{typeKey} is not a registered graph type"

def unregisteredElements (typeKey : String) : Fault :=
  argument s!"{typeKey} elements are not a registered graph type"

def alreadyAssigned (node : String) (id : RefId) : Fault :=
  internal s!"{node} already registered as {id.label}"

def idsExhausted : Fault := internal "Reference id space exhausted"

/-- A walk went deeper than the store has objects. -/
def walkTooDeep : Fault := internal "object walk exceeds the store"

/-! Faults of frames. -/

def shortHeader : Fault := format "Buffer smaller than frame header"

def wrongMagic : Fault := format "Invalid Magic Bytes"

def wrongVersion (version : Nat) : Fault := format s!"Unsupported version: {version}"

def overflowingBody : Fault := format "Body length overflows"

def truncatedBody : Fault := format "Truncated payload body"

def wrongChecksum : Fault := corruptGraph "payload checksum mismatch"

def unknownAlgorithm (id : UInt8) : Fault :=
  compression s!"algorithm id {id.toNat} is not registered"

/-! Faults of requests. -/

def missingParameter (count index : Nat) : Fault :=
  argument s!"criteria has {count} values, parameter {index} requested"

def requiresCriteria (operation : Operation) (typeKey : String) : Fault :=
  argument s!"{operation.name} of {typeKey} requires criteria"

def requiresObject (operation : Operation) (typeKey : String) : Fault :=
  argument s!"{operation.name} of {typeKey} requires an object"

def wrongTarget (operation : Operation) (typeKey given : String) : Fault :=
  argument s!"{operation.name} of {typeKey} was given a {given}"

def updateWhileBusy (typeKey : String) : Fault :=
  argument s!"cannot update {typeKey} while it is busy"

def updateOfChild (typeKey : String) : Fault :=
  argument s!"cannot update child object {typeKey} directly"

def hostRequiresCriteria (operation : Operation) : Fault :=
  argument s!"{operation.name} requires criteria"

def hostRequiresObject (operation : Operation) : Fault :=
  argument s!"{operation.name} requires an object"

def unsupported (typeKey : String) (operation : Operation) : Fault :=
  application s!"{typeKey} does not support {operation.name}"

def noDataAccess (typeKey : String) : Fault :=
  application s!"no data access registered for {typeKey}"

def nothingReturned (operation : Operation) (typeKey : String) : Fault :=
  corruptGraph s!"{operation.name} of {typeKey} returned no object"

def wrongResult (operation : Operation) (typeKey returned : String) : Fault :=
  corruptGraph s!"{operation.name} of {typeKey} returned a {returned}"

def busyResult (operation : Operation) (typeKey : String) : Fault :=
  corruptGraph s!"{operation.name} of {typeKey} returned a busy object"

def noResult (typeKey : String) : Fault := corruptGraph s!"no {typeKey} was returned"

def needsHost : Fault := invalidArgument "local execution needs a host"

def needsTransport : Fault := invalidArgument "remote execution needs a transport"

def needsFormatter : Fault := invalidArgument "no graph formatter configured"

end Fault

namespace Codec

/-- A reason and the reasons behind it, each announced by a one byte and the last followed by a zero
byte; the fuel bounds the number of reasons that are read. -/
def reasonsWithin : (fuel : Nat) → Decoder (List Reason)
  | 0 => throw .unexpectedEnd
  | fuel + 1 => do
      match ← Decoder.byte with
      | 0 => return []
      | 1 =>
          let kind ← text.decode
          let message ← text.decode
          let others ← reasonsWithin fuel
          return ⟨kind, message⟩ :: others
      | _ => throw .unexpectedVariant

/-- A chain of reasons is nested: a reason is an optional value that ends with the next one. -/
def reasons : Codec (List Reason) where
  encode values :=
    values.flatMap (fun value => 1 :: (text.encode value.kind ++ text.encode value.message)) ++ [0]
  decode := fun bytes => reasonsWithin (bytes.length + 1) bytes

end Codec

end ObjectCourier
