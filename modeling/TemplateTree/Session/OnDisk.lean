import TemplateTree.CommandLine.Tree
import TemplateTree.Session

/-!
# Sessions on a disk

A script of steps over a disk that does not change: options are read or given, a host is built from
them, and requests go to the host built last.
-/

namespace TemplateTree.Session.OnDisk

/-- A step of a script. -/
inductive Step where
  | load (path : Path)
  | discover (root : Path)
  | give (options : Options)
  | choose (tree : CommandLine.TreeArguments)
  | build
  | directory (path : Path)
  | templates (path : Path) (extension exclude : String)
  | ask (request : Request)
  deriving DecidableEq, Repr

/-- The answer to a step. -/
inductive Reply where
  | options (options : Options)
  | path (path : Path)
  | paths (paths : List Path)
  | answer (answer : Answer)
  | noHost
  | optionsError (error : OptionsError)
  | diskError (error : IoError)
  | failure (failure : CommandLine.Failure)

/-- A host and the workspace that it works in. -/
structure Active where
  host : Host
  workspace : Workspace Directory Unit

/-- The state of a session. -/
structure State where
  options : Options := {}
  active : Option Active := none

/-- What came of a step. -/
structure Outcome where
  reply : Reply
  warnings : List String := []
  status : Option Status

/-- Makes options the current ones, unless there are none. -/
def State.adopt {Error : Type} (state : State) (failed : Error → Reply) :
    Except Error Options → Reply × State
  | .ok options => (.options options, { state with options })
  | .error error => (failed error, state)

/-- Does a step. -/
def perform (environment : Environment) (disk : Disk) (step : Step) (state : State) :
    Reply × State :=
  match step with
  | .load path => state.adopt .optionsError (Options.load environment disk path)
  | .discover root => state.adopt .optionsError (Options.discover environment disk root)
  | .give options => (.options options, { state with options })
  | .choose tree => state.adopt .failure (tree.options environment disk)
  | .build =>
    match state.options.host environment disk with
    | .error error => (.optionsError error, state)
    | .ok (host, directory) =>
      (.path host.root, { state with active := some ⟨host, .ofDirectory directory⟩ })
  | .directory path =>
    match Directory.at? disk path with
    | .ok directory => (.path directory.root, state)
    | .error error => (.diskError error, state)
  | .templates path extension exclude =>
    match Directory.at? disk path with
    | .ok directory => (.paths (directory.templates extension exclude), state)
    | .error error => (.diskError error, state)
  | .ask request =>
    match state.active with
    | none => (.noHost, state)
    | some active =>
      let (answer, after) :=
        active.host.answer .none request { active.workspace with warnings := [] }
      (.answer answer, { state with active := some { active with workspace := after } })

def warningsOf (step : Step) (state : State) : List String :=
  match step, state.active with
  | .ask _, some active => active.workspace.warnings
  | _, _ => []

/-- Does the steps of a script one after the other. -/
def run (environment : Environment) (disk : Disk) : List Step → State → List Outcome
  | [], _ => []
  | step :: rest, state =>
    let (reply, after) := perform environment disk step state
    ⟨reply, warningsOf step after, after.active.map (statusOf ·.workspace)⟩ ::
      run environment disk rest after

end TemplateTree.Session.OnDisk
