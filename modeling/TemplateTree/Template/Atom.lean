import TemplateTree.Template

/-!
# Atoms

A line of a template taken apart into atoms: characters that are written as they stand, and
expressions. Within a line `@@` stands for one `@`, a comment from `@*` to the next `*@` stands for
nothing, and `@` before a name is an expression. Atoms are put together again into chunks by
`Chunk.ofAtoms`, which joins neighbouring characters into one literal.
-/

namespace TemplateTree

/-- The smallest parts of a template. -/
inductive Atom where
  | character (c : Char)
  | expression (name : List Char)
  | directive (directive : Directive)
  deriving DecidableEq, Repr

namespace Atom

def isNameStart (c : Char) : Bool :=
  c.isAlpha || c == '_'

def isNamePart (c : Char) : Bool :=
  c.isAlphanum || c == '_'

/-- How a name goes on after one of its characters: as far as it can, and past a dot if another name
starts behind it. -/
def nameRest : List Char → List Char
  | [] => []
  | '.' :: c :: rest => if isNameStart c then '.' :: c :: nameRest rest else []
  | c :: rest => if isNamePart c then c :: nameRest rest else []

/-- The longest name, or names with dots between them, that a text starts with. -/
def name : List Char → List Char
  | [] => []
  | c :: rest => if isNameStart c then c :: nameRest rest else []

/-- The number of characters up to the end of the first `*@`. -/
def commentLength? : List Char → Option Nat
  | [] => none
  | '*' :: '@' :: _ => some 2
  | _ :: rest => (commentLength? rest).map (· + 1)

/-- What an `@` stands for before this text, and the number of characters of the text that it takes
up. -/
def ofMark (text : List Char) : List Atom × Nat :=
  match text with
  | '@' :: _ => ([.character '@'], 1)
  | '*' :: comment =>
    match commentLength? comment with
    | some length => ([], length + 1)
    | none => ([.character '@'], 0)
  | text =>
    match name text with
    | [] => ([.character '@'], 0)
    | name => ([.expression name], name.length)

/-- The atoms of a line after its next `skip` characters, which an earlier `@` has taken up. -/
def ofLineAfter : Nat → List Char → List Atom
  | _, [] => []
  | skip + 1, _ :: rest => ofLineAfter skip rest
  | 0, c :: rest =>
    if c = '@' then
      let (atoms, taken) := ofMark rest
      atoms ++ ofLineAfter taken rest
    else .character c :: ofLineAfter 0 rest

/-- The atoms of a line that is neither a directive nor a comment. -/
def ofLine (line : List Char) : List Atom :=
  ofLineAfter 0 line

/-- Skipping characters is the same as dropping them first. -/
theorem ofLineAfter_eq_ofLine_drop (skip : Nat) (line : List Char) :
    ofLineAfter skip line = ofLine (line.drop skip) := by
  induction line generalizing skip with
  | nil => cases skip <;> simp [ofLine, ofLineAfter]
  | cons c rest hypothesis =>
    cases skip with
    | zero => rfl
    | succ skip => simpa [ofLineAfter] using hypothesis skip

end Atom

namespace Chunk

/-- Puts text in front of chunks as a literal, unless there is no text. -/
def consText (text : List Char) (chunks : List Chunk) : List Chunk :=
  if text.isEmpty then chunks else .literal (String.ofList text) :: chunks

/-- The characters that atoms start with, and the chunks that the other atoms come to. -/
def splitAtoms : List Atom → List Char × List Chunk
  | [] => ([], [])
  | .character c :: rest =>
    let (text, chunks) := splitAtoms rest
    (c :: text, chunks)
  | .expression name :: rest =>
    let (text, chunks) := splitAtoms rest
    ([], .expression (String.ofList name) :: consText text chunks)
  | .directive declared :: rest =>
    let (text, chunks) := splitAtoms rest
    ([], .directive declared :: consText text chunks)

/-- The chunks that atoms come to, with neighbouring characters in one literal. -/
def ofAtoms (atoms : List Atom) : List Chunk :=
  let (text, chunks) := splitAtoms atoms
  consText text chunks

end Chunk

end TemplateTree
