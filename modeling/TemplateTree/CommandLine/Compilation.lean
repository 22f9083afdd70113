import TemplateTree.CommandLine.Emission
import TemplateTree.CommandLine.Tree

/-!
# Compilations

The compilation of the templates of a tree, all of them or those asked for, and the account of it.
All templates are compiled before the first code is emitted.
-/

namespace TemplateTree.CommandLine

/-- The account of a compilation: the number of templates whose code is used, that of the others,
and the files written, in order. -/
structure Summary where
  compiled : Nat
  failed : Nat
  written : List Path
  deriving DecidableEq, Repr

def Summary.total (summary : Summary) : Nat :=
  summary.compiled + summary.failed

/-- The account of the templates judged and the files written. -/
def Summary.ofVerdicts (verdicts : List (Path × Verdict)) (written : List Path) : Summary where
  compiled := verdicts.countP fun entry => entry.2.code?.isSome
  failed := verdicts.countP fun entry => entry.2.code?.isNone
  written := written

namespace Compilation

def statsLine (cache : Cache) : String :=
  s!"Directive cache hits: {cache.hits}, misses: {cache.misses}, " ++
    s!"revalidations: {cache.revalidations}"

/-- The lines that tell how the cache of the resolver in use was used, if they are asked for. -/
def stats (arguments : CompileArguments) (host : Host) (workspace : Workspace Directory Unit) :
    List String :=
  if arguments.stats then
    let (resolver, after) := host.resolver workspace
    ["", statsLine (after.cache resolver.cache)]
  else []

/-- The templates to compile: those asked for, or else all of the tree. -/
def templates (arguments : CompileArguments) (options : Options) (directory : Directory) :
    List Path :=
  if arguments.paths.isEmpty then
    directory.templates options.templateExtension options.directiveFilename
  else arguments.paths

/-- Makes the directory for the code, if there is to be one. -/
def prepare (out : Option Path) (disk : Disk) : Except Failure Disk :=
  match out with
  | none => .ok disk
  | some out => (disk.makeDirectories out).mapError (.notCreated out)

/-- Compiles templates together, as a schedule has it, and emits their code. -/
def emit (schedule : List Nat) (arguments : CompileArguments) (host : Host) (directory : Directory)
    (templates : List Path) (disk : Disk) : Except Failure Summary × Emission :=
  let workspace := Workspace.ofDirectory { directory with disk }
  let (results, after) := host.compileBatch .none schedule templates workspace
  let verdicts := Verdict.judge [] results
  match Emission.run arguments.out { disk } verdicts with
  | (.error failure, emission) => (.error failure, emission)
  | (.ok _, emission) =>
    (.ok (.ofVerdicts verdicts emission.written), emission.remark (stats arguments host after))

/-- Carries a compilation out. -/
def run (schedule : List Nat) (environment : Environment) (disk : Disk)
    (arguments : CompileArguments) : Except Failure Summary × Emission :=
  match arguments.tree.host environment disk with
  | .error failure => (.error failure, { disk })
  | .ok (options, host, directory) =>
    match prepare arguments.out disk with
    | .error failure => (.error failure, { disk })
    | .ok prepared =>
      emit schedule arguments host directory (templates arguments options directory) prepared

end Compilation

end TemplateTree.CommandLine
