import TemplateTree.CommandLine.Compilation
import TemplateTree.CommandLine.Display

/-!
# The command line

What each command does on a disk and under an environment: whether it succeeds, what it prints, and
the disk that it leaves.
-/

namespace TemplateTree.CommandLine

/-- What comes of a command. -/
structure Outcome where
  result : Except Failure Unit
  transcript : Transcript := {}
  disk : Disk

def Outcome.failed (disk : Disk) (failure : Failure) : Outcome where
  result := .error failure
  disk := disk

/-- Compiles templates together, as a schedule has it. -/
def compile (schedule : List Nat) (environment : Environment) (disk : Disk)
    (arguments : CompileArguments) : Outcome :=
  match Compilation.run schedule environment disk arguments with
  | (.error failure, emission) => ⟨.error failure, emission.transcript, emission.disk⟩
  | (.ok summary, emission) =>
    if 0 < summary.failed then
      ⟨.error (.incomplete summary.failed summary.total), emission.transcript, emission.disk⟩
    else
      let line := s!"{Transcript.mark true} Compiled {summary.total} template(s)."
      ⟨.ok (), emission.transcript.remark ["", line], emission.disk⟩

/-- Shows the configuration of a template. -/
def resolve (environment : Environment) (disk : Disk) (arguments : ResolveArguments) : Outcome :=
  match arguments.tree.host environment disk with
  | .error failure => .failed disk failure
  | .ok (_, host, directory) =>
    match host.resolve .none arguments.path (Workspace.ofDirectory directory) with
    | (.error error, _) => .failed disk (.compilation error)
    | (.ok configuration, _) =>
      let lines :=
        if arguments.json then [(Display.json configuration).pretty]
        else Display.configuration arguments.path configuration
      ⟨.ok (), { output := lines }, disk⟩

/-- Shows where directive files may apply to a template, and whether they can be read. -/
def chain (environment : Environment) (disk : Disk) (arguments : ChainArguments) : Outcome :=
  match arguments.tree.host environment disk with
  | .error failure => .failed disk failure
  | .ok (_, host, directory) =>
    match host.levels arguments.path (Workspace.ofDirectory directory) with
    | (.error error, _) => .failed disk (.compilation error)
    | (.ok levels, workspace) =>
      let shown : Transcript := { output := Display.levels arguments.path levels }
      let (resolver, workspace) := host.resolver workspace
      match resolver.chain .none arguments.path workspace with
      | (.error error, _) => ⟨.error (.compilation error), shown, disk⟩
      | (.ok files, _) =>
        ⟨.ok (), shown.print ["", s!"{files.length} directive file(s) apply."], disk⟩

/-- Runs a command on its arguments, unless they make no run of it. -/
def withArguments {Arguments : Type} (disk : Disk) (command : Arguments → Outcome)
    (arguments : Except UsageError Arguments) : Outcome :=
  match arguments with
  | .error error => .failed disk (.usage error)
  | .ok arguments => command arguments

def usageLine : String :=
  let commands := String.intercalate "|" (Command.all.map Command.name)
  s!"Usage: cascade <{commands}> [ARGS..]"

def versionLine : String := "cascade 0.1.0"

/-- Carries an invocation out. -/
def perform (schedule : List Nat) (environment : Environment) (disk : Disk)
    (invocation : Invocation) : Outcome :=
  match invocation.command with
  | none => ⟨.ok (), { output := [usageLine] }, disk⟩
  | some name =>
    match Command.named? name with
    | none => .failed disk (.unknownCommand name)
    | some .chain =>
      withArguments disk (chain environment disk) (ChainArguments.parse invocation.arguments)
    | some .compile =>
      withArguments disk (compile schedule environment disk)
        (CompileArguments.parse invocation.arguments)
    | some .resolve =>
      withArguments disk (resolve environment disk) (ResolveArguments.parse invocation.arguments)

/-- Runs the program on its arguments. Templates that are compiled together take their steps as the
schedule has it. -/
def run (environment : Environment) (disk : Disk) (arguments : List String)
    (schedule : List Nat := []) : Outcome :=
  withArguments disk (perform schedule environment disk) (Invocation.ofArguments arguments)

end TemplateTree.CommandLine
