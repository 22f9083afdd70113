import TemplateTree.CommandLine.Invocation
import TemplateTree.Options

/-!
# Failures of commands

Everything that can stop a command, as causes. The wording of a failure goes from what was attempted
down to what lies at the bottom of it.
-/

namespace TemplateTree.CommandLine

/-- Why a command does not succeed. -/
inductive Failure where
  | usage (error : UsageError)
  | unknownCommand (name : String)
  | options (error : OptionsError)
  | document (path : Path) (error : OptionsError)
  | compilation (error : CompileError)
  | notCreated (directory : Path) (error : IoError)
  | notWritten (target : Path) (error : IoError)
  | incomplete (failed total : Nat)
  deriving DecidableEq, Repr

def UsageError.message : UsageError → String
  | .unknownArgument => "unexpected argument"
  | .missingOperand => "an argument is missing"
  | .missingValue => "a value is missing"
  | .unwantedValue => "a flag takes no value"
  | .repeatedArgument => "an argument is given twice"
  | .helpWanted => "help was asked for"
  | .versionWanted => "the version was asked for"

/-- The wordings from what was attempted down to what lies at the bottom. -/
def Failure.messages : Failure → List String
  | .usage error => [error.message]
  | .unknownCommand name =>
    let commands := String.intercalate ", " (Command.all.map Command.name)
    [s!"Unknown command '{name}'. Available commands: {commands}."]
  | .options error => error.message :: error.cause?.toList
  | .document path error => s!"Could not load '{path}'" :: error.message :: error.cause?.toList
  | .compilation error => error.message :: error.cause?.toList
  | .notCreated directory error => [s!"Could not create '{directory}'", error.message]
  | .notWritten target error => [s!"Could not write '{target}'", error.message]
  | .incomplete failed total => [s!"{failed} of {total} template(s) failed to compile."]

def Failure.message (failure : Failure) : String :=
  String.intercalate ": " failure.messages

end TemplateTree.CommandLine
