import TemplateTree.CommandLine

/-!
# The program

Takes in the part of the file system that a command can look at, runs the command on it, prints what
the command prints, and makes the changes to the file system that the command made to the disk.
-/

namespace TemplateTree.Program

/-- Takes in what stands at a path, and where it leads if it is a link. -/
partial def see (disk : Disk) (path : Path) : IO Disk := do
  let here := (← IO.currentDir) / path.text
  try
    match (← here.symlinkMetadata).type with
    | .dir => return (disk.makeDirectories path).toOption.getD disk
    | .file =>
      let content ← IO.FS.readBinFile here
      return (disk.plant path (.file content.toList)).toOption.getD disk
    | .symlink =>
      let target : Path := ⟨(← IO.FS.realPath here).toString⟩
      let linked := (disk.plant path (.link target.text)).toOption.getD disk
      if target = path then return linked
      else target.ancestors.foldlM see linked >>= (see · target)
    | .other => return disk
  catch _ => return disk

/-- Takes in what stands at a path, with everything on the way there. -/
def sight (disk : Disk) (path : Path) : IO Disk :=
  (path.ancestors ++ [path]).foldlM see disk

/-- Takes in everything below a directory, behind links too unless they lead to what is taken in
already. -/
partial def surveyBelow (disk : Disk) (path : Path) : IO Disk := do
  let here := (← IO.currentDir) / path.text
  let names ← try pure ((← here.readDir).toList.map (·.fileName)) catch _ => pure []
  names.foldlM (fun disk name => do
    let child := path.join ⟨name⟩
    let known := disk.isDirectory child
    let disk ← see disk child
    if disk.isDirectory child && !known then surveyBelow disk child else return disk) disk

/-- Takes in what stands at a path and everything below it. -/
def survey (disk : Disk) (path : Path) : IO Disk := do
  surveyBelow (← sight disk path) path

/-- The home directory in the line of a password file that is about the user of this number. -/
def homeIn? (user : String) (line : String) : Option String :=
  match line.splitOn ":" with
  | [_, _, number, _, _, home, _] => if number = user && !home.isEmpty then some home else none
  | _ => none

/-- The user of this process, as the password file has it. -/
def readAccount : IO Account := do
  try
    let status ← IO.FS.lines "/proc/self/status"
    let users ← IO.FS.lines "/etc/passwd"
    let user? := status.findSome? fun line =>
      match line.splitOn "\t" with
      | "Uid:" :: user :: _ => some user
      | _ => none
    return ⟨user?.bind fun user => users.findSome? (homeIn? user)⟩
  catch _ => return {}

/-- Reads the variables that are needed, which those that have been read may tell more of. -/
partial def readEnvironment (needed : Environment → List String) (known : List String)
    (environment : Environment) : IO Environment := do
  let names := ((needed environment).filter fun name => !known.contains name).eraseDups
  if names.isEmpty then return environment
  let found ← names.filterMapM fun name => do
    return (← IO.getEnv name).map fun value => (name, value)
  readEnvironment needed (known ++ names)
    { environment with bindings := environment.bindings ++ found }

/-- The tree, the templates and the directory for code that a command line speaks of. -/
def subjects (arguments : List String) :
    CommandLine.TreeArguments × List Path × Option Path :=
  match CommandLine.Invocation.ofArguments arguments with
  | .error _ => ({}, [], none)
  | .ok invocation =>
    match invocation.command.bind CommandLine.Command.named? with
    | none => ({}, [], none)
    | some .chain =>
      match CommandLine.ChainArguments.parse invocation.arguments with
      | .error _ => ({}, [], none)
      | .ok found => (found.tree, [found.path], none)
    | some .compile =>
      match CommandLine.CompileArguments.parse invocation.arguments with
      | .error _ => ({}, [], none)
      | .ok found => (found.tree, found.paths, found.out)
    | some .resolve =>
      match CommandLine.ResolveArguments.parse invocation.arguments with
      | .error _ => ({}, [], none)
      | .ok found => (found.tree, [found.path], none)

/-- The variables that have to be known to find a tree: those that its root names as it is written,
and those that it names once it has been expanded and taken from the directory of its document. -/
def neededVariables (tree : CommandLine.TreeArguments) (disk : Disk) (environment : Environment) :
    List String :=
  let roots := tree.writtenRoots disk ++
    ((tree.options environment disk).toOption.map (·.root)).toList
  "HOME" :: roots.flatMap fun root => Expansion.namesIn root.text.toList

/-- Takes in what a command line speaks of. -/
def takeIn (arguments : List String) : IO (Environment × Disk) := do
  let (tree, paths, out) := subjects arguments
  let current : Path := ⟨(← IO.currentDir).toString⟩
  let empty : Disk := { current := (Path.pieces current.text.toList).filterMap fun piece =>
    if piece.isEmpty then none else some (String.ofList piece) }
  let disk ← sight empty current
  let disk ← sight disk (tree.document disk)
  let environment ← readEnvironment (neededVariables tree disk) [] { account := ← readAccount }
  match tree.options environment disk with
  | .error _ => return (environment, disk)
  | .ok options =>
    let root := (Options.expandRoot environment options.root).toOption.getD options.root
    let disk ← survey disk root
    let disk ← paths.foldlM (fun disk path => sight disk (root.join path)) disk
    let disk ← match out with
      | some out => survey disk out
      | none => pure disk
    return (environment, disk)

/-- Makes the changes to the file system that lead from one disk to another. -/
def applyChanges (before after : Disk) : IO Unit := do
  let changed := after.entries.entries.filter fun entry =>
    before.entries.get? entry.1 ≠ some entry.2
  let start ← IO.currentDir
  for (place, entry) in changed do
    if entry = .directory then IO.FS.createDirAll (start / (Disk.pathOf place).text)
  for (place, entry) in changed do
    if let .file content := entry then
      IO.FS.writeBinFile (start / (Disk.pathOf place).text) ⟨content.toArray⟩

end TemplateTree.Program

/-- Runs the program. -/
def main (arguments : List String) : IO UInt32 := do
  let (environment, disk) ← TemplateTree.Program.takeIn arguments
  let outcome := TemplateTree.CommandLine.run environment disk arguments
  TemplateTree.Program.applyChanges disk outcome.disk
  IO.print (TemplateTree.CommandLine.Transcript.text outcome.transcript.output)
  IO.eprint (TemplateTree.CommandLine.Transcript.text outcome.transcript.remarks)
  match outcome.result with
  | .ok _ => return 0
  | .error (.usage .helpWanted) =>
    IO.println TemplateTree.CommandLine.usageLine
    return 0
  | .error (.usage .versionWanted) =>
    IO.println TemplateTree.CommandLine.versionLine
    return 0
  | .error failure =>
    IO.eprintln s!"\nError: {failure.message}"
    return 1
