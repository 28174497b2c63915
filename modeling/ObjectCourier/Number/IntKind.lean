import ObjectCourier.Codec.Varint

/-!
The ten integer types of business objects. A value of an integer type carries the proof that it is
in range, so a conversion between two types is a checked one.
-/

namespace ObjectCourier

inductive IntKind where
  | i8 | i16 | i32 | i64 | isize
  | u8 | u16 | u32 | u64 | usize
  deriving DecidableEq, Repr

namespace IntKind

def all : List IntKind := [i8, i16, i32, i64, isize, u8, u16, u32, u64, usize]

def width : IntKind → Nat
  | i8 | u8 => 1
  | i16 | u16 => 2
  | i32 | u32 => 4
  | i64 | u64 | isize | usize => 8

def signed : IntKind → Bool
  | i8 | i16 | i32 | i64 | isize => true
  | u8 | u16 | u32 | u64 | usize => false

def name : IntKind → String
  | i8 => "i8"
  | i16 => "i16"
  | i32 => "i32"
  | i64 => "i64"
  | isize => "isize"
  | u8 => "u8"
  | u16 => "u16"
  | u32 => "u32"
  | u64 => "u64"
  | usize => "usize"

def size : IntKind → Int
  | i8 | u8 => 0x100
  | i16 | u16 => 0x10000
  | i32 | u32 => 0x100000000
  | i64 | u64 | isize | usize => 0x10000000000000000

def lower (kind : IntKind) : Int :=
  if kind.signed then -(kind.size / 2) else 0

def upper (kind : IntKind) : Int :=
  if kind.signed then kind.size / 2 - 1 else kind.size - 1

def Value (kind : IntKind) : Type :=
  { number : Int // kind.lower ≤ number ∧ number ≤ kind.upper }

instance (kind : IntKind) : DecidableEq kind.Value :=
  inferInstanceAs (DecidableEq { number : Int // kind.lower ≤ number ∧ number ≤ kind.upper })

/-- The value of the type that equals `number`, when the type has one. -/
def ofInt? (kind : IntKind) (number : Int) : Option kind.Value :=
  if range : kind.lower ≤ number ∧ number ≤ kind.upper then some ⟨number, range⟩ else none

def zero (kind : IntKind) : kind.Value :=
  ⟨0, by cases kind <;> decide⟩

instance (kind : IntKind) : Inhabited kind.Value := ⟨kind.zero⟩

/-- A value is written as its shortest varint, a signed one folded; a type of one byte is written
as that byte. -/
def encode (kind : IntKind) (value : kind.Value) : Bytes :=
  if kind.width = 1 then [UInt8.ofNat (value.val % 256).toNat]
  else if kind.signed then Varint.encode (zigzag value.val)
  else Varint.encode value.val.toNat

def decodeInt (kind : IntKind) : Decoder Int :=
  if kind.width = 1 then do
    let byte ← Decoder.byte
    return if kind.signed then Int.bmod byte.toNat 256 else byte.toNat
  else do
    let number ← Varint.decode kind.width
    return if kind.signed then unzigzag number else number

def decode (kind : IntKind) : Decoder kind.Value := do
  match kind.ofInt? (← kind.decodeInt) with
  | some value => return value
  | none => throw .invalidInteger

def codec (kind : IntKind) : Codec kind.Value where
  encode := kind.encode
  decode := kind.decode

end IntKind

end ObjectCourier
