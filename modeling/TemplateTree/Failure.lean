import TemplateTree.Directive
import TemplateTree.Path.Normal

/-!
# Failures

Everything that can stop a compilation, as causes: input that is missing or unusable, a malformed
directive, and a storage that does not answer. `message` has the wording.
-/

namespace TemplateTree

/-- The kinds of failure of a storage. -/
inductive IoError.Kind where
  | notFound
  | permissionDenied
  | alreadyExists
  | notADirectory
  | isADirectory
  | invalidData
  | invalidInput
  | invalidFilename
  | filesystemLoop
  | timedOut
  | unexpectedEnd
  | other
  deriving DecidableEq, Repr

/-- A failure of a storage, with the storage's own wording. -/
structure IoError where
  kind : IoError.Kind
  message : String
  deriving DecidableEq, Repr

/-- The name under which errors speak of a template that has no path. -/
def inlineLabel : Path := ⟨"<inline>"⟩

/-- An input that is missing or unusable. -/
inductive InvalidArgument where
  | missingSource
  | notUtf8 (template : Path)
  | rejected (rejection : Path.Rejection) (root path : Path)
  deriving DecidableEq, Repr

def InvalidArgument.message : InvalidArgument → String
  | .missingSource => "a template source stream is required"
  | .notUtf8 template => s!"template '{template}' is not valid UTF-8"
  | .rejected rejection root path => rejection.message root path

/-- Why a template could not be compiled. -/
inductive CompileError where
  | invalidArgument (argument : InvalidArgument)
  | malformed (path : Path) (error : Directive.SyntaxError)
  | storage (path : Path) (error : IoError)
  deriving DecidableEq, Repr

def CompileError.message : CompileError → String
  | .invalidArgument argument => s!"Invalid argument: {argument.message}"
  | .malformed path error =>
    s!"Malformed directive in '{path}' (line {error.line}): {error.problem.message}"
  | .storage path error => s!"Storage error on '{path}': {error.message}"

def CompileError.cause? : CompileError → Option String
  | .storage _ error => some error.message
  | .invalidArgument _ | .malformed _ _ => none

end TemplateTree
