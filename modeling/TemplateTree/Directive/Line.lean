import TemplateTree.Directive
import TemplateTree.Text.Blank
import TemplateTree.Text.Search

/-!
# Lines that may hold a directive

A line is read for its directive without the blank at its ends. It is blank, a comment from `@*` to
`*@`, a directive, a keyword that lacks its argument, or other text. Directive files and templates
share this reading; they differ in what they do with the other text.
-/

namespace TemplateTree.Directive

/-- What a line is. A directive that lacks its argument is incomplete. -/
inductive Line where
  | blank
  | comment
  | directive (directive : Directive)
  | incomplete (kind : Kind)
  | text
  deriving DecidableEq, Repr

/-- Whether text without blank at its ends is a comment: the opening and the closing mark do not
overlap. -/
def isComment (content : List Char) : Bool :=
  ['@', '*'].isPrefixOf content && ['*', '@'].isSuffixOf content && 4 ≤ content.length

/-- What follows the keyword of a directive of this kind: nothing, or text that a blank sets off. -/
def Kind.rest? (kind : Kind) (content : List Char) : Option (List Char) :=
  match Text.after? ('@' :: kind.keyword.toList) content with
  | some [] => some []
  | some (c :: rest) => if Text.isBlank c then some (c :: rest) else none
  | none => none

/-- The argument in what follows a keyword. After a namespace, semicolons and then blank are
dropped. -/
def Kind.argument (kind : Kind) (rest : List Char) : List Char :=
  let written := Text.trim rest
  match kind with
  | .namespaceImport => Text.trimEnd Text.isBlank (Text.trimEnd (· == ';') written)
  | .baseType | .modelType => written

/-- Reads text without blank at its ends as a directive of one of these kinds. -/
def readDirective (content : List Char) : List Kind → Line
  | [] => .text
  | kind :: kinds =>
    match kind.rest? content with
    | none => readDirective content kinds
    | some rest =>
      match kind.argument rest with
      | [] => .incomplete kind
      | argument => .directive ⟨kind, String.ofList argument⟩

/-- Reads a line. -/
def Line.read (line : List Char) : Line :=
  let content := Text.trim line
  if content.isEmpty then .blank
  else if isComment content then .comment
  else readDirective content Kind.all

/-- The most characters of a line that an error quotes. -/
def excerptLength : Nat := 40

def excerpt (line : List Char) : String :=
  let content := Text.trim line
  if content.length ≤ excerptLength then String.ofList content
  else String.ofList (content.take excerptLength) ++ "..."

end TemplateTree.Directive
