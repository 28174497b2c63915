import ObjectCourier.Bytes

/-!
Decoders over byte sequences and the codecs built from them. A decoder consumes a front part of its
input and leaves the rest; a codec pairs a decoder with the writer of the same format.
-/

namespace ObjectCourier

/-- Why a body cannot be decoded. -/
inductive DecodeFault where
  | unexpectedEnd
  | invalidInteger
  | invalidBoolean
  | unexpectedVariant
  | invalidText
  | unknownCase
  /-- A text is announced to be longer than any block of memory. -/
  | unallocatable
  deriving DecidableEq, Repr

def DecodeFault.name : DecodeFault → String
  | unexpectedEnd => "UnexpectedEnd"
  | invalidInteger => "InvalidIntegerType"
  | invalidBoolean => "InvalidBooleanValue"
  | unexpectedVariant => "UnexpectedVariant"
  | invalidText => "Utf8"
  | unknownCase => "OtherString"
  | unallocatable => "LimitExceeded"

/-- What a decode fault tells beside its name. -/
def DecodeFault.detail : DecodeFault → String
  | unexpectedEnd => "the bytes end too early"
  | invalidInteger => "a number is wider than its type"
  | invalidBoolean => "a truth value is neither zero nor one"
  | unexpectedVariant => "an optional value begins with neither zero nor one"
  | invalidText => "a text is not in UTF-8"
  | unknownCase => "a value is of no known case"
  | unallocatable => "a text is longer than any memory"

def DecodeFault.message (fault : DecodeFault) : String := s!"{fault.name}: {fault.detail}"

/-- A reader of the front part of a byte sequence. -/
abbrev Decoder := StateT Bytes (Except DecodeFault)

namespace Decoder

def byte : Decoder UInt8 := fun bytes =>
  match bytes with
  | [] => .error .unexpectedEnd
  | first :: rest => .ok (first, rest)

def take (count : Nat) : Decoder Bytes := fun bytes =>
  let front := bytes.take count
  if front.length = count then .ok (front, bytes.drop count) else .error .unexpectedEnd

def little (width : Nat) : Decoder Nat := do
  return Bytes.value (← take width)

/-- The given number of items one after the other. The first item that is missing or malformed
ends the reading. -/
def times {α : Type} (item : Decoder α) : (count : Nat) → Decoder (List α)
  | 0 => pure []
  | count + 1 => do
      let first ← item
      let others ← times item count
      return first :: others

end Decoder

/-- A writer and the reader of what it writes. -/
structure Codec (α : Type) where
  encode : α → Bytes
  decode : Decoder α

namespace Codec

def byte : Codec UInt8 where
  encode value := [value]
  decode := Decoder.byte

/-- Read and write another type through a conversion in each direction. -/
def map {α β : Type} (codec : Codec α) (pack : α → β) (unpack : β → α) : Codec β where
  encode value := codec.encode (unpack value)
  decode := do return pack (← codec.decode)

def pair {α β : Type} (left : Codec α) (right : Codec β) : Codec (α × β) where
  encode value := left.encode value.1 ++ right.encode value.2
  decode := do
    let first ← left.decode
    let second ← right.decode
    return (first, second)

def unit : Codec Unit where
  encode _ := []
  decode := pure ()

def bool : Codec Bool where
  encode value := [if value then 1 else 0]
  decode := do
    match ← Decoder.byte with
    | 0 => return false
    | 1 => return true
    | _ => throw .invalidBoolean

/-- An optional value is a zero byte, or a one byte followed by the value. -/
def option {α : Type} (codec : Codec α) : Codec (Option α) where
  encode
    | none => [0]
    | some value => 1 :: codec.encode value
  decode := do
    match ← Decoder.byte with
    | 0 => return none
    | 1 => return some (← codec.decode)
    | _ => throw .unexpectedVariant

end Codec

end ObjectCourier
