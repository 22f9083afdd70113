import TemplateTree.Text.Hexadecimal
import TemplateTree.Text.Search

/-!
# Text in TOML documents

Strings in their four forms, keys, and what may stand between the parts of a document. Every reader
takes what it reads from the beginning of a text and hands back the rest.
-/

namespace TemplateTree.Toml

/-- A reader: what was read, and the rest of the text. -/
abbrev Reader (Item : Type) := List Char → Option (Item × List Char)

/-- Whether a character may stand as it is in strings on one line and in comments. -/
def isPlain (c : Char) : Bool :=
  c == '\t' || (0x20 ≤ c.toNat && c.toNat ≠ 0x7F)

def isSpace (c : Char) : Bool :=
  c == ' ' || c == '\t'

def skipSpace (text : List Char) : List Char :=
  text.dropWhile isSpace

def newline? : List Char → Option (List Char)
  | '\n' :: rest => some rest
  | '\r' :: '\n' :: rest => some rest
  | _ => none

/-- Text without the comment it may start with. -/
def skipComment : List Char → List Char
  | '#' :: rest => rest.dropWhile isPlain
  | text => text

/-- What follows the end of a line, before which a comment may stand. The end of the text ends a
line too. -/
def lineEnd? (text : List Char) : Option (List Char) :=
  match skipComment (skipSpace text) with
  | [] => some []
  | rest => newline? rest

/-- The character with this code point. -/
def scalarValue? (value : Nat) : Option Char :=
  if value < 0xD800 ∨ (0xDFFF < value ∧ value < 0x110000) then some (Char.ofNat value) else none

/-- A number of hexadecimal digits, after digits that came to `found`. -/
def hexNumber? (found : Nat) : Nat → Reader Nat
  | 0, text => some (found, text)
  | _ + 1, [] => none
  | more + 1, c :: rest =>
    match Text.hexValue? c with
    | some digit => hexNumber? (found * 16 + digit) more rest
    | none => none

/-- The character that a number of hexadecimal digits stand for. -/
def hexEscape? (digits : Nat) (text : List Char) : Option (Char × List Char) :=
  match hexNumber? 0 digits text with
  | some (value, rest) => (scalarValue? value).map (·, rest)
  | none => none

/-- The character that an escape stands for, without its backslash. -/
def escape? : Reader Char
  | 'b' :: rest => some ('\x08', rest)
  | 't' :: rest => some ('\t', rest)
  | 'n' :: rest => some ('\n', rest)
  | 'f' :: rest => some ('\x0c', rest)
  | 'r' :: rest => some ('\r', rest)
  | 'e' :: rest => some ('\x1b', rest)
  | '\x22' :: rest => some ('\x22', rest)
  | '\x5c' :: rest => some ('\x5c', rest)
  | 'x' :: rest => hexEscape? 2 rest
  | 'u' :: rest => hexEscape? 4 rest
  | 'U' :: rest => hexEscape? 8 rest
  | _ => none

/-- The rest of a string on one line up to its closing mark, which is `mark`. Escapes are read if
`escapes` says so. `fuel` is at least the length of the text. -/
def lineString? (mark : Char) (escapes : Bool) : Nat → Reader (List Char)
  | 0, _ => none
  | _ + 1, [] => none
  | fuel + 1, c :: rest =>
    if c = mark then some ([], rest)
    else if c = '\x5c' ∧ escapes then
      match escape? rest with
      | some (c, rest) =>
        (lineString? mark escapes fuel rest).map fun (text, rest) => (c :: text, rest)
      | none => none
    else if isPlain c then
      (lineString? mark escapes fuel rest).map fun (text, rest) => (c :: text, rest)
    else none

/-- Text without the spaces and line ends it starts with. -/
def skipBlank : List Char → List Char
  | [] => []
  | '\r' :: '\n' :: rest => skipBlank rest
  | c :: rest => if isSpace c || c == '\n' then skipBlank rest else c :: rest

/-- What follows a backslash at the end of a line: the first text that is no blank. -/
def continued? (text : List Char) : Option (List Char) :=
  (newline? (skipSpace text)).map skipBlank

/-- The rest of a string over several lines up to its closing marks. One or two marks that stand
before the closing ones belong to the string. -/
def blockString? (mark : Char) (escapes : Bool) : Nat → Reader (List Char)
  | 0, _ => none
  | _ + 1, [] => none
  | fuel + 1, c :: rest =>
    match Text.after? [mark, mark, mark] (c :: rest) with
    | some (d :: e :: more) =>
      if d = mark ∧ e = mark then some ([mark, mark], more)
      else if d = mark then some ([mark], e :: more)
      else some ([], d :: e :: more)
    | some [d] => if d = mark then some ([mark], []) else some ([], [d])
    | some [] => some ([], [])
    | none =>
      if c = '\x5c' ∧ escapes then
        match continued? rest with
        | some rest => blockString? mark escapes fuel rest
        | none =>
          match escape? rest with
          | some (c, rest) =>
            (blockString? mark escapes fuel rest).map fun (text, rest) => (c :: text, rest)
          | none => none
      else match newline? (c :: rest) with
        | some after =>
          (blockString? mark escapes fuel after).map fun (text, rest) =>
            (if c = '\r' then '\r' :: '\n' :: text else '\n' :: text, rest)
        | none =>
          if isPlain c then
            (blockString? mark escapes fuel rest).map fun (text, rest) => (c :: text, rest)
          else none

/-- A string that starts with this mark, in either of the two forms it has. -/
def quoted? (mark : Char) (escapes : Bool) (text : List Char) : Option (String × List Char) :=
  let found := match Text.after? [mark, mark, mark] text with
    | some rest => blockString? mark escapes (rest.length + 1) ((newline? rest).getD rest)
    | none => lineString? mark escapes text.length (text.drop 1)
  found.map fun (text, rest) => (String.ofList text, rest)

/-- A string. -/
def string? (text : List Char) : Option (String × List Char) :=
  match text with
  | '\x22' :: _ => quoted? '\x22' true text
  | '\x27' :: _ => quoted? '\x27' false text
  | _ => none

def isKeyPart (c : Char) : Bool :=
  c.isAlphanum || c == '_' || c == '-'

/-- A key without dots. -/
def simpleKey? (text : List Char) : Option (String × List Char) :=
  match text with
  | '\x22' :: rest =>
    (lineString? '\x22' true text.length rest).map fun (key, rest) => (String.ofList key, rest)
  | '\x27' :: rest =>
    (lineString? '\x27' false text.length rest).map fun (key, rest) => (String.ofList key, rest)
  | text =>
    match text.takeWhile isKeyPart with
    | [] => none
    | key => some (String.ofList key, text.dropWhile isKeyPart)

/-- Keys with dots between them, and the space behind them. `fuel` is at least the length of the
text. -/
def key? : Nat → Reader (List String)
  | 0, _ => none
  | fuel + 1, text =>
    match simpleKey? (skipSpace text) with
    | none => none
    | some (key, rest) =>
      match skipSpace rest with
      | '.' :: rest => (key? fuel rest).map fun (keys, rest) => (key :: keys, rest)
      | rest => some ([key], rest)

end TemplateTree.Toml
