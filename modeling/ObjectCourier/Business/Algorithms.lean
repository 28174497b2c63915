import ObjectCourier.Wire.Compression

/-!
The compression algorithms of the business application: a reversible mask, run lengths, and one that
never works.
-/

namespace ObjectCourier.Compressor

/-- Every byte is masked, both ways. -/
def mask : Compressor where
  id := 7
  name := "Xor"
  typeName := "Xor"
  compress body := .ok (body.map (· ^^^ 0x5a))
  decompress body := .ok (body.map (· ^^^ 0x5a))

/-- Put a byte before a sequence of runs. A run is at most 255 bytes long. -/
def extendRuns (byte : UInt8) : List (UInt8 × UInt8) → List (UInt8 × UInt8)
  | [] => [(1, byte)]
  | (count, other) :: rest =>
      if other = byte ∧ count < 255 then (count + 1, other) :: rest
      else (1, byte) :: (count, other) :: rest

def runs : Bytes → (pending : List (UInt8 × UInt8)) → List (UInt8 × UInt8)
  | [], pending => pending.reverse
  | byte :: rest, pending => runs rest (extendRuns byte pending)

/-- The bytes of runs that are written as pairs of a count and a byte. -/
def expandRuns : Bytes → Except Fault Bytes
  | [] => .ok []
  | [_] => .error (.compression "rle: odd length")
  | count :: byte :: rest => do
      return List.replicate count.toNat byte ++ (← expandRuns rest)

def runLength : Compressor where
  id := 9
  name := "Rle"
  typeName := "Rle"
  compress body := .ok ((runs body []).flatMap fun (count, byte) => [count, byte])
  decompress := expandRuns

def broken : Compressor where
  id := 13
  name := "Fail"
  typeName := "Fail"
  compress _ := .error (.compression "fail: compress")
  decompress _ := .error (.compression "fail: decompress")

def ofId (id : UInt8) : Compressor :=
  if id = 7 then mask else if id = 9 then runLength else if id = 13 then broken else none

end ObjectCourier.Compressor
