import ObjectCourier.Bytes
import ObjectCourier.Text.Hidden

/-!
The notation in which values are described: quoted texts, structures with named parts, tagged values
and lists.
-/

namespace ObjectCourier.Text

def escape (char : Char) : String :=
  match char with
  | '\x00' => "\\0"
  | '\t' => "\\t"
  | '\n' => "\\n"
  | '\r' => "\\r"
  | '"' => "\\\""
  | '\\' => "\\\\"
  | other =>
      if isHidden other then
        "\\u\x7b" ++ Bytes.hexDigits 1 other.toNat ++ "\x7d"
      else String.singleton other

def quoted (text : String) : String :=
  "\"" ++ String.join (text.toList.map escape) ++ "\""

def list (items : List String) : String := "[" ++ ", ".intercalate items ++ "]"

def tagged (tag value : String) : String := tag ++ "(" ++ value ++ ")"

def part (entry : String × String) : String := entry.1 ++ ": " ++ entry.2

def record (name : String) (parts : List (String × String)) : String :=
  name ++ " \x7b " ++ ", ".intercalate (parts.map part) ++ " \x7d"

/-- A structure of which only some parts are shown. -/
def outline (name : String) (parts : List (String × String)) : String :=
  name ++ " \x7b " ++ ", ".intercalate (parts.map part ++ [".."]) ++ " \x7d"

def map (entries : List (String × String)) : String :=
  "\x7b" ++ ", ".intercalate (entries.map part) ++ "\x7d"

end ObjectCourier.Text
