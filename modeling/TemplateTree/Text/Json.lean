import TemplateTree.Text.Hexadecimal

/-!
# JSON

Values made of texts, arrays and records, and their JSON with one value a line. Characters are
written as they are unless JSON gives them a meaning or they are control characters.
-/

namespace TemplateTree.Text

/-- A value that can be written as JSON. -/
inductive Json where
  | text (value : String)
  | array (items : List Json)
  | record (fields : List (String × Json))

namespace Json

/-- A character as it stands between the quotes of a text. -/
def escapeChar (c : Char) : List Char :=
  match c with
  | '\x22' => ['\x5c', '\x22']
  | '\x5c' => ['\x5c', '\x5c']
  | '\x08' => ['\x5c', 'b']
  | '\x0c' => ['\x5c', 'f']
  | '\n' => ['\x5c', 'n']
  | '\r' => ['\x5c', 'r']
  | '\t' => ['\x5c', 't']
  | c =>
    if c.toNat < 0x20 then ['\x5c', 'u', '0', '0'] ++ hexPair c.toUInt8 else [c]

def quote (text : String) : String :=
  "\x22" ++ String.ofList (text.toList.flatMap escapeChar) ++ "\x22"

/-- The beginning of a line at a depth. -/
def newLine (depth : Nat) : String :=
  "\n" ++ String.ofList (List.replicate (2 * depth) ' ')

mutual

/-- The JSON of a value inside `depth` others. -/
def write (depth : Nat) : Json → String
  | .text value => quote value
  | .array [] => "[]"
  | .array (item :: items) =>
    "[" ++ newLine (depth + 1) ++ write (depth + 1) item ++ writeItems (depth + 1) items ++
      newLine depth ++ "]"
  | .record [] => "\x7b\x7d"
  | .record ((name, value) :: fields) =>
    "\x7b" ++ newLine (depth + 1) ++ quote name ++ ": " ++ write (depth + 1) value ++
      writeFields (depth + 1) fields ++ newLine depth ++ "\x7d"

/-- The JSON of the items of an array behind the first. -/
def writeItems (depth : Nat) : List Json → String
  | [] => ""
  | item :: items => "," ++ newLine depth ++ write depth item ++ writeItems depth items

/-- The JSON of the fields of a record behind the first. -/
def writeFields (depth : Nat) : List (String × Json) → String
  | [] => ""
  | (name, value) :: fields =>
    "," ++ newLine depth ++ quote name ++ ": " ++ write depth value ++ writeFields depth fields

end

/-- The JSON of a value. -/
def pretty (json : Json) : String :=
  write 0 json

end Json

end TemplateTree.Text
