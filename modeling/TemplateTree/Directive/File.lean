import TemplateTree.Directive.Line
import TemplateTree.Text.Lines

/-!
# Directive files

A directive file holds directives, one on a line; blank lines and comments may stand between them,
and nothing else may.
-/

namespace TemplateTree

/-- A text without the byte order mark it may start with. -/
def Text.withoutMark : List Char → List Char
  | '\uFEFF' :: rest => rest
  | text => text

namespace Directive

/-- The directives on these lines, of which the first has this number. -/
def ofLines (number : Nat) : List (List Char) → Except SyntaxError (List Directive)
  | [] => .ok []
  | line :: rest =>
    match Line.read line with
    | .blank | .comment => ofLines (number + 1) rest
    | .directive directive =>
      match ofLines (number + 1) rest with
      | .ok directives => .ok (directive :: directives)
      | .error error => .error error
    | .incomplete kind => .error ⟨number, .missingArgument kind⟩
    | .text => .error ⟨number, .notADirective (excerpt line)⟩

/-- The directives of a directive file, or the first line that is neither blank, a comment nor a
directive. -/
def parseFile (source : List Char) : Except SyntaxError (List Directive) :=
  ofLines 1 (Text.lines (Text.withoutMark source))

end Directive

end TemplateTree
