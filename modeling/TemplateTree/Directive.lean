/-!
# Directives

The facts that a directive file or a template declares about the class generated from a template:
the base type it derives from, the type of its model, and the namespaces it imports.
-/

namespace TemplateTree

/-- What a directive declares. -/
inductive Directive.Kind where
  | baseType
  | modelType
  | namespaceImport
  deriving DecidableEq, Repr

/-- The word that introduces a directive, after the `@`. -/
def Directive.Kind.keyword : Directive.Kind → String
  | .baseType => "inherits"
  | .modelType => "model"
  | .namespaceImport => "using"

def Directive.Kind.all : List Directive.Kind :=
  [.baseType, .modelType, .namespaceImport]

/-- One declaration. -/
structure Directive where
  kind : Directive.Kind
  argument : String
  deriving DecidableEq, Repr

namespace Directive

/-- What is wrong with a line that was read for its directive. -/
inductive Problem where
  | missingArgument (kind : Kind)
  | notADirective (excerpt : String)
  | notUtf8
  deriving DecidableEq, Repr

def Problem.message : Problem → String
  | .missingArgument kind => s!"'@{kind.keyword}' requires an argument"
  | .notADirective excerpt => s!"expected a directive, found '{excerpt}'"
  | .notUtf8 => "file is not valid UTF-8"

/-- A problem and the number, from 1, of the line that has it. -/
structure SyntaxError where
  line : Nat
  problem : Problem
  deriving DecidableEq, Repr

def SyntaxError.message (error : SyntaxError) : String :=
  s!"line {error.line}: {error.problem.message}"

theorem Kind.mem_all (kind : Kind) : kind ∈ Kind.all := by
  cases kind <;> simp [Kind.all]

theorem Kind.keyword_injective {first second : Kind} (same : first.keyword = second.keyword) :
    first = second := by
  cases first <;> cases second <;> simp_all [Kind.keyword]

end Directive

end TemplateTree
