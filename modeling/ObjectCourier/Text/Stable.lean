import ObjectCourier.Bytes

/-!
Texts made comparable between runs: where an object lies in memory differs from run to run, and the
details of a codec's complaint belong to the codec. Both are left out of a stable text.
-/

namespace ObjectCourier.Text

/-- What comes before the first occurrence of a mark, and what follows it. What was passed already
is given as `before`, the last character first. -/
def cutAt (mark : List Char) : (before text : List Char) → Option (List Char × List Char)
  | _, [] => none
  | before, char :: rest =>
      if mark.isPrefixOf (char :: rest) then
        some (before.reverse, (char :: rest).drop mark.length)
      else cutAt mark (char :: before) rest

/-- Whether a part occurs in a text. -/
def mentions (text part : String) : Bool := (cutAt part.toList [] text.toList).isSome

/-- The names of a codec's complaints; a name comes after the longer names that start with it. -/
def complaintNames : List String :=
  ["UnexpectedEnd", "InvalidIntegerType", "InvalidBooleanValue", "UnexpectedVariant", "Utf8",
   "OutsideUsizeRange", "LimitExceeded", "OtherString", "Other"]

/-- Complaints of the library itself that pass through a codec, and keep their text. -/
def ownComplaints : List String := ["cycle in opaque value", "object lock poisoned"]

/-- A text that names a codec's complaint, up to that name. -/
def complaint? (text : String) : Option String := do
  if ownComplaints.any (mentions text) then none
  let mark := "Serialization Error: "
  let (before, rest) ← cutAt mark.toList [] text.toList
  let name ← complaintNames.find? fun name => name.toList.isPrefixOf rest
  pure (String.ofList before ++ mark ++ name)

def withoutDetails (text : String) : String := (complaint? text).getD text

/-- Whether a text tells the details of a codec's complaint. -/
def hasDetails (text : String) : Bool := withoutDetails text ≠ text

/-- A character of an address, which is written in base sixteen with letters of either case. -/
def isAddressDigit (char : Char) : Bool :=
  char.isDigit || ('a' ≤ char && char ≤ 'f') || ('A' ≤ char && char ≤ 'F')

/-- A text with its addresses masked; the fuel bounds the number of addresses. -/
def maskAddresses : (fuel : Nat) → List Char → List Char
  | 0, text => text
  | fuel + 1, text =>
      match cutAt "@ 0x".toList [] text with
      | none => text
      | some (before, rest) =>
          before ++ "@ ADDR".toList ++ maskAddresses fuel (rest.dropWhile isAddressDigit)

def stable (text : String) : String :=
  let kept := (withoutDetails text).toList
  String.ofList (maskAddresses kept.length kept)

end ObjectCourier.Text
