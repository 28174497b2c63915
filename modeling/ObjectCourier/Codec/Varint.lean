import ObjectCourier.Codec.Basic

/-!
Numbers of variable length. A number up to 250 is one byte; a larger one is a marker byte followed
by two, four or eight bytes. The writer takes the shortest form, the reader accepts any form that is
not wider than the type being read. Signed numbers are folded onto the natural ones first.
-/

namespace ObjectCourier

namespace Varint

/-- Numbers below this bound, which takes 65 bits, can be written. -/
def bound : Nat := 0x10000000000000000

/-- The shortest form of a number below the bound. -/
def encode (number : Nat) : Bytes :=
  if number ≤ 250 then [UInt8.ofNat number]
  else if number < 0x10000 then 0xfb :: Bytes.little 2 number
  else if number < 0x100000000 then 0xfc :: Bytes.little 4 number
  else 0xfd :: Bytes.little 8 number

/-- A number of a type that is `width` bytes wide. -/
def decode (width : Nat) : Decoder Nat := do
  let marker ← Decoder.byte
  if marker.toNat ≤ 250 then return marker.toNat
  else if marker = 0xfb then Decoder.little 2
  else if marker = 0xfc ∧ 4 ≤ width then Decoder.little 4
  else if marker = 0xfd ∧ 8 ≤ width then Decoder.little 8
  else throw .invalidInteger

end Varint

/-- Fold the integers onto the natural numbers: 0, -1, 1, -2, … become 0, 1, 2, 3, … -/
def zigzag (number : Int) : Nat :=
  if 0 ≤ number then 2 * number.toNat else 2 * (-number).toNat - 1

def unzigzag (folded : Nat) : Int :=
  if folded % 2 = 0 then (folded / 2 : Nat) else -((folded / 2 + 1 : Nat) : Int)

theorem unzigzag_zigzag (number : Int) : unzigzag (zigzag number) = number := by
  unfold zigzag unzigzag
  by_cases positive : 0 ≤ number
  · rw [if_pos positive]
    split <;> omega
  · rw [if_neg positive]
    split <;> omega

namespace Codec

/-- A number that tells a length, a count or the case of a value. -/
def varint (width : Nat) : Codec Nat where
  encode := Varint.encode
  decode := Varint.decode width

/-- Raw bytes after their number. They are read one by one, so that a number that is too large only
leads to the end of the input. -/
def blob : Codec Bytes where
  encode value := Varint.encode value.length ++ value
  decode := do
    let count ← Varint.decode 8
    Decoder.take count

/-- A text is its UTF-8 form after the length of that form. The memory for a text is taken before its
bytes are looked for; a block of a possible length is supposed to be granted. -/
def text : Codec String where
  encode value := blob.encode (Bytes.ofText value)
  decode := do
    let count ← Varint.decode 8
    if Bytes.limit ≤ count then throw .unallocatable
    let bytes ← Decoder.take count
    match Bytes.toText? bytes with
    | some value => return value
    | none => throw .invalidText

def list {α : Type} (item : Codec α) : Codec (List α) where
  encode values := Varint.encode values.length ++ values.flatMap item.encode
  decode := do
    let count ← Varint.decode 8
    item.decode.times count

end Codec

end ObjectCourier
