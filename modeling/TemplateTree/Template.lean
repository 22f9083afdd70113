import TemplateTree.Directive

/-!
# Templates

A template as a list of chunks in the order of the text: directives, literal text, and expressions
whose value is written when the generated class runs.
-/

namespace TemplateTree

/-- A piece of a template. -/
inductive Chunk where
  | directive (directive : Directive)
  | literal (text : String)
  | expression (name : String)
  deriving DecidableEq, Repr

/-- A template that has been read. -/
structure Template where
  chunks : List Chunk := []
  deriving DecidableEq, Repr

namespace Template

def directive? : Chunk → Option Directive
  | .directive directive => some directive
  | _ => none

/-- Whether a chunk is written when the generated class runs. -/
def isBody : Chunk → Bool
  | .directive _ => false
  | _ => true

def directives (template : Template) : List Directive :=
  template.chunks.filterMap directive?

def body (template : Template) : List Chunk :=
  template.chunks.filter isBody

@[simp] theorem directives_append (first second : List Chunk) :
    (Template.mk (first ++ second)).directives =
      (Template.mk first).directives ++ (Template.mk second).directives := by
  simp [directives]

@[simp] theorem body_append (first second : List Chunk) :
    (Template.mk (first ++ second)).body =
      (Template.mk first).body ++ (Template.mk second).body := by
  simp [body]

end Template

end TemplateTree
