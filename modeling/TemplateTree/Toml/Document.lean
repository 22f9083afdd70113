import TemplateTree.Toml.Scalar
import TemplateTree.Toml.Text
import TemplateTree.Toml.Value

/-!
# TOML documents

A document is read line by line: headers open sections, and pairs of a key and a value fill them.
`parse?` puts the sections together into one table.
-/

namespace TemplateTree.Toml

/-- Text without the spaces, line ends and comments it starts with. `fuel` is at least the length of
the text. -/
def skipLines : Nat → List Char → List Char
  | 0, text => text
  | fuel + 1, text =>
    let rest := skipSpace text
    match newline? rest, rest with
    | some rest, _ => skipLines fuel rest
    | none, '#' :: _ => skipLines fuel (skipComment rest)
    | none, _ => rest

def scalar? : Reader Value := fun text =>
  let word := wordIn text
  if isScalar word then some (.scalar, text.drop word.length) else none

/-- How many arrays and tables in braces may be open at the same time. -/
def nestingLimit : Nat := 80

mutual

/-- A value, in which up to `levels` arrays and tables in braces may be open at the same time.
`fuel` is at least the length of the text. -/
def value? : Nat → Nat → Reader Value
  | 0, _, _ => none
  | fuel + 1, levels, text =>
    match text, levels with
    | '[' :: _, 0 | '\x7b' :: _, 0 => none
    | '[' :: rest, levels + 1 =>
      (items? fuel levels rest).map fun (items, rest) => (.array items, rest)
    | '\x7b' :: rest, levels + 1 =>
      (pairs? fuel levels [] rest).map fun (entries, rest) => (.table .inline entries, rest)
    | '\x22' :: _, _ | '\x27' :: _, _ =>
      (string? text).map fun (text, rest) => (.string text, rest)
    | text, _ => scalar? text

/-- The rest of an array up to its closing bracket. -/
def items? : Nat → Nat → Reader (List Value)
  | 0, _, _ => none
  | fuel + 1, levels, text =>
    match skipLines text.length text with
    | ']' :: rest => some ([], rest)
    | text =>
      match value? fuel levels text with
      | none => none
      | some (item, rest) =>
        match skipLines rest.length rest with
        | ',' :: rest => (items? fuel levels rest).map fun (items, rest) => (item :: items, rest)
        | ']' :: rest => some ([item], rest)
        | _ => none

/-- The rest of a table in braces up to its closing brace, after the entries read before. Lines may
end before and behind each key, equals sign, value and comma. -/
def pairs? : Nat → Nat → Entries → Reader Entries
  | 0, _, _, _ => none
  | fuel + 1, levels, entries, text =>
    match skipLines text.length text with
    | '\x7d' :: rest => some (entries, rest)
    | text =>
      match key? text.length text with
      | none => none
      | some (keys, rest) =>
        match skipLines rest.length rest with
        | '=' :: rest =>
          match value? fuel levels (skipLines rest.length rest) with
          | none => none
          | some (value, rest) =>
            match entries.assign value keys, skipLines rest.length rest with
            | some entries, ',' :: rest => pairs? fuel levels entries rest
            | some entries, '\x7d' :: rest => some (entries, rest)
            | _, _ => none
        | _ => none

end

/-- A line that says something. -/
inductive Line where
  | header (double : Bool) (keys : List String)
  | pair (keys : List String) (value : Value)

/-- A header and the end of its line. -/
def header? (text : List Char) : Option (Line × List Char) :=
  let double := (Text.after? ['[', '['] text).isSome
  match key? text.length (text.drop (if double then 2 else 1)) with
  | none => none
  | some (keys, rest) =>
    match Text.after? (if double then [']', ']'] else [']']) rest with
    | none => none
    | some rest => (lineEnd? rest).map (.header double keys, ·)

/-- A pair and the end of its line. -/
def assignment? (text : List Char) : Option (Line × List Char) :=
  match key? text.length text with
  | some (keys, '=' :: rest) =>
    match value? (rest.length + 1) nestingLimit (skipSpace rest) with
    | some (value, rest) => (lineEnd? rest).map (.pair keys value, ·)
    | none => none
  | _ => none

/-- The lines of a text. `fuel` is at least the length of the text. -/
def lines? : Nat → List Char → Option (List Line)
  | fuel, text =>
    match fuel, skipLines text.length text with
    | _, [] => some []
    | 0, _ :: _ => none
    | fuel + 1, c :: rest =>
      match if c = '[' then header? (c :: rest) else assignment? (c :: rest) with
      | none => none
      | some (line, rest) => (lines? fuel rest).map (line :: ·)

/-- The table of the lines that follow a header. `entries` holds the sections closed before, and
`body` the pairs read under the header. -/
def build? (entries : Entries) (double : Bool) (keys : List String) (body : Entries) :
    List Line → Option Entries
  | [] => entries.attach double body keys
  | .pair names value :: rest =>
    match body.assign value names with
    | some body => build? entries double keys body rest
    | none => none
  | .header nextDouble nextKeys :: rest =>
    match entries.attach double body keys with
    | some entries => build? entries nextDouble nextKeys [] rest
    | none => none

/-- The table of the lines of a document, after the pairs read before its first header. -/
def buildRoot? (body : Entries) : List Line → Option Entries
  | [] => some body
  | .pair names value :: rest =>
    match body.assign value names with
    | some body => buildRoot? body rest
    | none => none
  | .header double keys :: rest => build? body double keys [] rest

/-- The table that a document describes, if it is well formed. -/
def parse? (text : List Char) : Option Entries :=
  let text := match text with
    | '\uFEFF' :: rest => rest
    | text => text
  match lines? text.length text with
  | some lines => buildRoot? [] lines
  | none => none

end TemplateTree.Toml
