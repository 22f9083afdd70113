import TemplateTree.CommandLine.Transcript
import TemplateTree.Host

/-!
# Verdicts on templates

What becomes of each template of a compilation. Code is used if it has no errors and no earlier
template of the compilation has taken the name of its class. A template whose code is not used takes
no name.
-/

namespace TemplateTree.CommandLine

/-- What becomes of a template: it cannot be compiled, its code has errors, the name of its class is
that of an earlier template, or its code is used. -/
inductive Verdict where
  | rejected (error : CompileError)
  | faulty (code : Code)
  | taken (code : Code) (first : Path)
  | used (code : Code)
  deriving DecidableEq, Repr

namespace Verdict

/-- Judges the results of a compilation in their order, when the templates in `names` have taken
these names of classes. -/
def judge (names : List (String × Path)) :
    List (Path × Except CompileError Code) → List (Path × Verdict)
  | [] => []
  | (path, .error error) :: rest => (path, .rejected error) :: judge names rest
  | (path, .ok code) :: rest =>
    if code.hasErrors then (path, .faulty code) :: judge names rest
    else match names.lookup code.className with
      | some first => (path, .taken code first) :: judge names rest
      | none => (path, .used code) :: judge ((code.className, path) :: names) rest

def code? : Verdict → Option Code
  | .used code => some code
  | _ => none

/-- The line for a remark on the code of a template. -/
def diagnosticLine (path : Path) (diagnostic : Diagnostic) : String :=
  let label := match diagnostic.severity with
    | .warning => "warning"
    | .error => "error"
  s!"  {label}: {diagnostic.message} ({path})"

/-- The lines that are printed about a template before its code is used. -/
def remarks (path : Path) : Verdict → List String
  | .rejected error => [s!"{Transcript.mark false} {path}: {error.message}"]
  | .faulty code =>
    code.diagnostics.map (diagnosticLine path) ++ [s!"{Transcript.mark false} {path}"]
  | .taken code first =>
    let taken := s!"class name '{code.className}' is already generated from '{first}'"
    code.diagnostics.map (diagnosticLine path) ++ [s!"{Transcript.mark false} {path}: {taken}"]
  | .used code => code.diagnostics.map (diagnosticLine path)

theorem map_fst_judge (names : List (String × Path))
    (results : List (Path × Except CompileError Code)) :
    (judge names results).map Prod.fst = results.map Prod.fst := by
  fun_induction judge names results <;> simp_all

end Verdict

end TemplateTree.CommandLine
