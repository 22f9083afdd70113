import TemplateTree.Directive.File
import TemplateTree.Template.Atom

/-!
# Reading templates

A template is read line by line. A line that is a comment is dropped, a directive is lifted out with
its whole line, and every other line belongs to the body. The only error is a directive keyword
without its argument.
-/

namespace TemplateTree.Template

/-- The atoms of these lines, of which the first has this number. -/
def atomsOfLines (number : Nat) : List (List Char) → Except Directive.SyntaxError (List Atom)
  | [] => .ok []
  | line :: rest =>
    match Directive.Line.read line with
    | .incomplete kind => .error ⟨number, .missingArgument kind⟩
    | .comment => atomsOfLines (number + 1) rest
    | .directive directive =>
      match atomsOfLines (number + 1) rest with
      | .ok atoms => .ok (.directive directive :: atoms)
      | .error error => .error error
    | .blank | .text =>
      match atomsOfLines (number + 1) rest with
      | .ok atoms => .ok (Atom.ofLine line ++ atoms)
      | .error error => .error error

def parse (source : List Char) : Except Directive.SyntaxError Template :=
  match atomsOfLines 1 (Text.lines (Text.withoutMark source)) with
  | .ok atoms => .ok ⟨Chunk.ofAtoms atoms⟩
  | .error error => .error error

end TemplateTree.Template
