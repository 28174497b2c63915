import ObjectCourier.Codec.Varint

/-!
Floating-point numbers as bit patterns of the binary interchange formats. Working on the patterns
keeps every not-a-number value apart. A 32-bit number widens exactly; a 64-bit number narrows to
the nearest 32-bit one, a tie going to the even neighbour and an excess to infinity.
-/

namespace ObjectCourier

structure Binary64 where
  bits : UInt64
  deriving DecidableEq, Repr, Inhabited

structure Binary32 where
  bits : UInt32
  deriving DecidableEq, Repr, Inhabited

/-- The quotient rounded to the nearest natural number, a tie to the even one. -/
def divRoundEven (dividend divisor : Nat) : Nat :=
  let quotient := dividend / divisor
  let remainder := dividend % divisor
  if 2 * remainder < divisor then quotient
  else if divisor < 2 * remainder then quotient + 1
  else quotient + quotient % 2

namespace Binary64

def isNaN (number : Binary64) : Bool :=
  (number.bits &&& 0x7fffffffffffffff) > 0x7ff0000000000000

/-- The quiet form of a not-a-number pattern. -/
def quiet (number : Binary64) : Binary64 :=
  ⟨number.bits ||| 0x0008000000000000⟩

/-- One more. A not-a-number value keeps its pattern and becomes quiet. -/
def succ (number : Binary64) : Binary64 :=
  if number.isNaN then number.quiet
  else ⟨(Float.ofBits number.bits + 1.0).toBits⟩

def one : Binary64 := ⟨0x3ff0000000000000⟩

/-- The nearest 32-bit number. -/
def narrow (number : Binary64) : Binary32 :=
  let pattern := number.bits.toNat
  let sign := pattern >>> 63 <<< 31
  let exponent := (pattern >>> 52) % 0x800
  let fraction := pattern % 0x10000000000000
  if exponent = 0x7ff then
    let payload := if fraction = 0 then 0 else 0x400000 + (fraction >>> 29) % 0x400000
    ⟨UInt32.ofNat (sign + 0x7f800000 + payload)⟩
  else
    let significand := if exponent = 0 then fraction else 0x10000000000000 + fraction
    let kept := divRoundEven significand (1 <<< (29 + (897 - exponent)))
    ⟨UInt32.ofNat (sign + min ((exponent - 897) <<< 23 + kept) 0x7f800000)⟩

end Binary64

namespace Binary32

def widen (number : Binary32) : Binary64 :=
  let pattern := number.bits.toNat
  let sign := pattern >>> 31 <<< 63
  let exponent := (pattern >>> 23) % 0x100
  let fraction := pattern % 0x800000
  if exponent = 0xff then
    let payload :=
      if fraction = 0 then 0 else 0x8000000000000 + (fraction % 0x400000) <<< 29
    ⟨UInt64.ofNat (sign + 0x7ff0000000000000 + payload)⟩
  else if exponent = 0 then
    if fraction = 0 then ⟨UInt64.ofNat sign⟩
    else
      let place := Nat.log2 fraction
      let tail := (fraction - 1 <<< place) <<< (52 - place)
      ⟨UInt64.ofNat (sign + (place + 874) <<< 52 + tail)⟩
  else ⟨UInt64.ofNat (sign + (exponent + 896) <<< 52 + fraction <<< 29)⟩

end Binary32

namespace Codec

def binary64 : Codec Binary64 where
  encode value := Bytes.little 8 value.bits.toNat
  decode := do return ⟨UInt64.ofNat (← Decoder.little 8)⟩

def binary32 : Codec Binary32 where
  encode value := Bytes.little 4 value.bits.toNat
  decode := do return ⟨UInt32.ofNat (← Decoder.little 4)⟩

end Codec

end ObjectCourier
