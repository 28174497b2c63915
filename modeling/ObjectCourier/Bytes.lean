/-!
Byte sequences and little-endian numbers. `Bytes.little` writes a number into a fixed number of
bytes and `Bytes.value` reads it back; numbers that do not fit lose their high part.
-/

namespace ObjectCourier

/-- A sequence of bytes in transmission order. -/
abbrev Bytes := List UInt8

namespace Bytes

/-- The `width` low bytes of `number`, lowest byte first. -/
def little : (width : Nat) → (number : Nat) → Bytes
  | 0, _ => []
  | width + 1, number => UInt8.ofNat number :: little width (number / 256)

def value : Bytes → Nat
  | [] => 0
  | byte :: rest => byte.toNat + 256 * value rest

@[simp] theorem length_little (width number : Nat) : (little width number).length = width := by
  induction width generalizing number with
  | zero => rfl
  | succ width ih => simp [little, ih]

/-- How many sequences of the given width there are. -/
def capacity : (width : Nat) → Nat
  | 0 => 1
  | width + 1 => 256 * capacity width

theorem value_little (width number : Nat) (fits : number < capacity width) :
    value (little width number) = number := by
  induction width generalizing number with
  | zero =>
      have : number = 0 := by simpa [capacity] using fits
      simp [little, value, this]
  | succ width ih =>
      have smaller : number / 256 < capacity width := Nat.div_lt_of_lt_mul fits
      simp only [little, value, ih _ smaller, UInt8.toNat_ofNat']
      omega

theorem value_lt (bytes : Bytes) : value bytes < capacity bytes.length := by
  induction bytes with
  | nil => simp [value, capacity]
  | cons byte rest ih =>
      have small := byte.toNat_lt
      simp only [value, List.length_cons, capacity]
      omega

/-- Every sequence of bytes in a memory is shorter than this, since no block of memory is longer than
the largest signed number of 64 bits. -/
def limit : Nat := 0x8000000000000000

def ofText (text : String) : Bytes :=
  text.toUTF8.data.toList

/-- The text whose UTF-8 form is given, or nothing when the bytes are not valid UTF-8. -/
def toText? (bytes : Bytes) : Option String :=
  String.fromUTF8? ⟨bytes.toArray⟩

/-- The value of a hexadecimal digit. Other characters count as zero. -/
def digitValue (digit : Char) : Nat :=
  if digit.isDigit then digit.toNat - '0'.toNat
  else if 'a' ≤ digit ∧ digit ≤ 'f' then digit.toNat - 'a'.toNat + 10
  else 0

def hexNumber (text : String) : Nat :=
  text.toList.foldl (fun number digit => 16 * number + digitValue digit) 0

/-- A number in hexadecimal digits, filled up with zeros to the given width. -/
def hexDigits (width number : Nat) : String :=
  let digits := Nat.toDigits 16 number
  String.ofList (List.replicate (width - digits.length) '0' ++ digits)

def toHex (bytes : Bytes) : String :=
  String.join (bytes.map fun byte => hexDigits 2 byte.toNat)

/-- The bytes of pairs of hexadecimal digits. A digit without a partner is left out. -/
def ofHex (text : String) : Bytes :=
  pairs text.toList
where
  pairs : List Char → Bytes
    | high :: low :: rest => UInt8.ofNat (16 * digitValue high + digitValue low) :: pairs rest
    | _ => []

end Bytes

end ObjectCourier
