import ObjectCourier.Portal.Context
import ObjectCourier.Portal.Criteria
import ObjectCourier.Wire.Frame
import ObjectCourier.Wire.Record

/-!
The envelopes that cross a transport. A request holds everything the other side needs to run one
operation; a response holds the resulting graph, the bare success of a delete, or a failure with its
chain of reasons.
-/

namespace ObjectCourier

structure Request where
  operation : Operation
  typeKey : String
  criteria : Option Criteria
  object : Option Payload
  context : Context

inductive Response where
  | object (payload : Payload)
  | done
  | failed (message : String) (reasons : List Reason)

/-- The response to a fault. An execution fault is sent as it is; any other fault is sent by its
message, with itself as the reason. -/
def Response.ofFault : Fault → Response
  | .execution _ message reasons => failed message reasons
  | fault => failed fault.message fault.chain

namespace Codec

def request : Codec Request where
  encode value :=
    operation.encode value.operation ++ text.encode value.typeKey
      ++ (option criteria).encode value.criteria ++ (option payload).encode value.object
      ++ context.encode value.context
  decode := do
    let kind ← operation.decode
    let typeKey ← text.decode
    let parameters ← (option criteria).decode
    let object ← (option payload).decode
    let origin ← context.decode
    return { operation := kind, typeKey := typeKey, criteria := parameters, object := object
             context := origin }

def response : Codec Response where
  encode
    | .object value => 0 :: payload.encode value
    | .done => [1]
    | .failed message why => 2 :: (text.encode message ++ reasons.encode why)
  decode := do
    match ← Varint.decode 4 with
    | 0 => return .object (← payload.decode)
    | 1 => return .done
    | 2 =>
        let message ← text.decode
        return .failed message (← reasons.decode)
    | _ => throw .unknownCase

end Codec

end ObjectCourier
