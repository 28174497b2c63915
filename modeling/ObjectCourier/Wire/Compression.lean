import ObjectCourier.Fault

/-!
Compression algorithms of frames and the set of them that a formatter knows. An algorithm is named
by the id that frames carry; id 0, which leaves a body as it is, is always known.
-/

namespace ObjectCourier

structure Compressor where
  id : UInt8
  /-- The short name shown in reports. -/
  name : String
  /-- The name of the algorithm's type. -/
  typeName : String
  compress : Bytes → Except Fault Bytes
  decompress : Bytes → Except Fault Bytes

namespace Compressor

def none : Compressor where
  id := 0
  name := "None"
  typeName := "NoCompression"
  compress body := .ok body
  decompress body := .ok body

end Compressor

/-- The known algorithms, in the order of their ids. -/
structure Compressors where
  algorithms : List Compressor

namespace Compressors

def builtin : Compressors := ⟨[.none]⟩

/-- Put an algorithm into its place, replacing the one with its id. -/
def insert (algorithm : Compressor) : List Compressor → List Compressor
  | [] => [algorithm]
  | other :: rest =>
      if algorithm.id < other.id then algorithm :: other :: rest
      else if algorithm.id = other.id then algorithm :: rest
      else other :: insert algorithm rest

def add (compressors : Compressors) (algorithm : Compressor) : Compressors :=
  ⟨insert algorithm compressors.algorithms⟩

def get (compressors : Compressors) (id : UInt8) : Except Fault Compressor :=
  match compressors.algorithms.find? (·.id = id) with
  | some algorithm => .ok algorithm
  | none => .error (.unknownAlgorithm id)

/-- The name of an algorithm, also of one that is not known. -/
def describe (compressors : Compressors) (id : UInt8) : String :=
  match compressors.get id with
  | .ok algorithm => algorithm.name
  | .error _ => s!"Unknown({id.toNat})"

end Compressors

end ObjectCourier
