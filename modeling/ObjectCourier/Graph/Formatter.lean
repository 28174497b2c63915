import ObjectCourier.Graph.Reader
import ObjectCourier.Graph.Writer
import ObjectCourier.Wire.Frame
import ObjectCourier.World

/-!
A formatter brings together the registered types, the known compression algorithms and the one that
is used for writing. Every pass is on its own: nothing of it is kept in the formatter.
-/

namespace ObjectCourier

structure Formatter where
  registry : Registry := {}
  compressors : Compressors := .builtin
  compressionId : UInt8 := 0

namespace Formatter

instance : Inhabited Formatter := ⟨{}⟩

/-- The algorithm that frames are written with. -/
def compressor (formatter : Formatter) : Except Fault Compressor :=
  formatter.compressors.get formatter.compressionId

def serialize (formatter : Formatter) (root : Node) : Act Payload := do
  let (outcome, events) := (← get).store.serialize formatter.registry.policy root
  modify fun world => world.note events
  Act.ofExcept outcome

/-- Rebuild a graph as new objects. -/
def deserialize (formatter : Formatter) (payload : Payload) : Act Node := do
  let plan ← Act.ofExcept (GraphPlan.read formatter.registry payload)
  let root ← Act.onStore plan.build
  note (.rebuilt plan.objects.length plan.root)
  return root

/-- Copy a graph. The copy shares nothing with its source but is shared and cyclic in itself where
the source is. -/
def copy (formatter : Formatter) (root : Node) : Act Node := do
  formatter.deserialize (← formatter.serialize root)

def toBytes (formatter : Formatter) (root : Node) : Act Bytes := do
  let payload ← formatter.serialize root
  let compressor ← Act.ofExcept formatter.compressor
  Act.ofExcept (Frame.encode Codec.payload payload compressor)

def fromBytes (formatter : Formatter) (bytes : Bytes) : Act Node := do
  formatter.deserialize (← Act.ofExcept (Frame.decode Codec.payload bytes formatter.compressors))

end Formatter

namespace Node

/-- The identity of a node that must be of the given type. -/
def expect (node : Node) (type : ObjType) (field : String) : Except Fault Ref :=
  if node.type = type then .ok node.ref
  else .error (.typeMismatch field type.key node.typeKey)

/-- The node itself, if it is the root of a graph of the given type. -/
def asRoot (node : Node) (type : ObjType) : Except Fault Node :=
  (node.expect type "root").map fun _ => node

end Node

end ObjectCourier
