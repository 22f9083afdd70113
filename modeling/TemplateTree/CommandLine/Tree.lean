import TemplateTree.CommandLine.Arguments
import TemplateTree.CommandLine.Failure

/-!
# The tree of a command

A command takes the options of its tree from the document that it is told of, or else from the one
at the root, which is the current directory unless the command is told of another. The root that it
is told of is the root in any case.
-/

namespace TemplateTree.CommandLine.TreeArguments

/-- The document that options may be in. -/
def document (disk : Disk) (tree : TreeArguments) : Path :=
  tree.config.getD ((tree.root.getD (Disk.pathOf disk.current)).join ⟨optionsFilename⟩)

/-- The roots that the command and the document speak of, as they are written. -/
def writtenRoots (disk : Disk) (tree : TreeArguments) : List Path :=
  let options := (Options.readDocument disk (tree.document disk)).toOption.bind Options.ofText?
  tree.root.toList ++ (options.map (·.root)).toList

/-- The options in the document asked for, or else those of the tree at the root. -/
def documentOptions (environment : Environment) (disk : Disk) (tree : TreeArguments) :
    Except Failure Options :=
  match tree.config with
  | some path => (Options.load environment disk path).mapError (.document path)
  | none =>
    let root := tree.root.getD (Disk.pathOf disk.current)
    (Options.discover environment disk root).mapError .options

def options (environment : Environment) (disk : Disk) (tree : TreeArguments) :
    Except Failure Options :=
  (documentOptions environment disk tree).map fun options =>
    { options with root := tree.root.getD options.root }

/-- The options of the tree, its host, and the directory that it stands in. -/
def host (environment : Environment) (disk : Disk) (tree : TreeArguments) :
    Except Failure (Options × Host × Directory) :=
  match options environment disk tree with
  | .error failure => .error failure
  | .ok options =>
    match options.host environment disk with
    | .error error => .error (.options error)
    | .ok (host, directory) => .ok (options, host, directory)

end TemplateTree.CommandLine.TreeArguments
