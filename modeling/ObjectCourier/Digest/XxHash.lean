import ObjectCourier.Bytes

/-!
The 64-bit xxHash of a byte sequence with seed zero. Inputs of at least 32 bytes pass through four
lanes, 32 bytes at a time; what is left is mixed in words of eight, four and one byte.
-/

namespace ObjectCourier.XxHash

def primeA : UInt64 := 0x9E3779B185EBCA87
def primeB : UInt64 := 0xC2B2AE3D27D4EB4F
def primeC : UInt64 := 0x165667B19E3779F9
def primeD : UInt64 := 0x85EBCA77C2B2AE63
def primeE : UInt64 := 0x27D4EB2F165667C5

def rotateLeft (word : UInt64) (count : UInt64) : UInt64 :=
  (word <<< count) ||| (word >>> (64 - count))

/-- The little-endian word of the first `width` bytes. -/
def word (width : Nat) (bytes : Bytes) : UInt64 :=
  UInt64.ofNat (Bytes.value (bytes.take width))

def round (lane input : UInt64) : UInt64 :=
  rotateLeft (lane + input * primeB) 31 * primeA

/-- The four lanes that take turns over a long input. -/
structure Lanes where
  first : UInt64
  second : UInt64
  third : UInt64
  fourth : UInt64

def Lanes.initial : Lanes where
  first := primeA + primeB
  second := primeB
  third := 0
  fourth := 0 - primeA

def Lanes.feed (lanes : Lanes) (stripe : Bytes) : Lanes where
  first := round lanes.first (word 8 stripe)
  second := round lanes.second (word 8 (stripe.drop 8))
  third := round lanes.third (word 8 (stripe.drop 16))
  fourth := round lanes.fourth (word 8 (stripe.drop 24))

/-- Feed the given number of stripes and return what follows them. -/
def Lanes.absorb : (stripes : Nat) → Lanes → Bytes → Lanes × Bytes
  | 0, lanes, bytes => (lanes, bytes)
  | stripes + 1, lanes, bytes => absorb stripes (lanes.feed bytes) (bytes.drop 32)

def Lanes.merge (lanes : Lanes) : UInt64 :=
  let joined := rotateLeft lanes.first 1 + rotateLeft lanes.second 7
    + rotateLeft lanes.third 12 + rotateLeft lanes.fourth 18
  [lanes.first, lanes.second, lanes.third, lanes.fourth].foldl
    (fun state lane => (state ^^^ round 0 lane) * primeA + primeD) joined

def mixEight (state input : UInt64) : UInt64 :=
  rotateLeft (state ^^^ round 0 input) 27 * primeA + primeD

def mixFour (state input : UInt64) : UInt64 :=
  rotateLeft (state ^^^ (input * primeA)) 23 * primeB + primeC

def mixOne (state input : UInt64) : UInt64 :=
  rotateLeft (state ^^^ (input * primeE)) 11 * primeA

/-- Mix in the given number of words of eight bytes and return what follows them. -/
def mixWords : (words : Nat) → UInt64 → Bytes → UInt64 × Bytes
  | 0, state, bytes => (state, bytes)
  | words + 1, state, bytes => mixWords words (mixEight state (word 8 bytes)) (bytes.drop 8)

/-- Mix in a remainder of less than 32 bytes. -/
def mixTail (state : UInt64) (bytes : Bytes) : UInt64 :=
  let (state, bytes) := mixWords (bytes.length / 8) state bytes
  let (state, bytes) :=
    if 4 ≤ bytes.length then (mixFour state (word 4 bytes), bytes.drop 4) else (state, bytes)
  bytes.foldl (fun state byte => mixOne state byte.toUInt64) state

/-- Spread every input bit over the whole result. -/
def avalanche (state : UInt64) : UInt64 :=
  let state := (state ^^^ (state >>> 33)) * primeB
  let state := (state ^^^ (state >>> 29)) * primeC
  state ^^^ (state >>> 32)

def hash (bytes : Bytes) : UInt64 :=
  let length := bytes.length
  let (lanes, rest) := Lanes.absorb (length / 32) Lanes.initial bytes
  let start := if 32 ≤ length then lanes.merge else primeE
  avalanche (mixTail (start + UInt64.ofNat length) rest)

end ObjectCourier.XxHash
