import TemplateTree.Request
import TemplateTree.Storage.Memory

/-!
# Sessions

A session is a script of steps over a storage in memory: changes to the storage, and requests to a
host. Steps can be put off until a file is next opened; they then happen between the request for the
file and the answer, so that a script can rehearse what concurrent users of the storage do.
-/

namespace TemplateTree.Session

/-- A step of a script: a change of the storage, steps put off until the file at a path is next
opened, or a question to the host. -/
inductive Step where
  | insert (path : Path) (content : List UInt8)
  | touch (path : Path)
  | remove (path : Path)
  | addFault (path : Path) (point : FaultPoint) (error : IoError)
  | clearFaults
  | onNextOpen (path : Path) (steps : List Step)
  | ask (request : Request)

mutual

/-- The number of times that a step puts others off. -/
def Step.deferrals : Step → Nat
  | .onNextOpen _ steps => deferralsOf steps + 1
  | _ => 0

def deferralsOf : List Step → Nat
  | [] => 0
  | step :: rest => step.deferrals + deferralsOf rest

end

/-- The steps that have been put off, the earliest first, each with what the path means on whose
opening they wait, and the answers to those done meanwhile. -/
structure Agenda where
  pending : List (Path.Location × List Step) := []
  answers : List Answer := []

abbrev State := Workspace Memory Agenda

/-- Takes out the steps that have waited longest on the opening of a path. -/
def Agenda.due (location : Path.Location) :
    List (Path.Location × List Step) → Option (List Step × List (Path.Location × List Step))
  | [] => none
  | (place, steps) :: rest =>
    if place = location then some (steps, rest)
    else match due location rest with
      | some (found, others) => some (found, (place, steps) :: others)
      | none => none

/-- The number of times that the steps put off can still put others off, themselves included. -/
def Agenda.deferrals (agenda : Agenda) : Nat :=
  agenda.pending.foldr (fun entry count => deferralsOf entry.2 + 1 + count) 0

def changeStorage (change : Memory → Memory) (state : State) : State :=
  { state with storage := change state.storage }

/-- The steps that wait on a path happen when it is opened: `perform` does one of them. -/
def interruptBy (perform : Step → State → Answer × State) : Interrupt Memory Agenda :=
  fun path state =>
    match Agenda.due path.components state.agenda.pending with
    | none => state
    | some (steps, pending) =>
      steps.foldl (fun state step =>
        let (answer, after) := perform step state
        { after with agenda := { after.agenda with answers := after.agenda.answers ++ [answer] } })
        { state with agenda := { state.agenda with pending } }

/-- Does a step, in which steps put off may happen inside one another up to `depth` times. -/
def perform (host : Host) : Nat → Step → State → Answer × State
  | depth, step, state =>
    match step with
    | .insert path content => (.done, changeStorage (·.insert path content) state)
    | .touch path =>
      let (found, storage) := state.storage.touch path
      (.flag found, { state with storage })
    | .remove path =>
      let (found, storage) := state.storage.remove path
      (.flag found, { state with storage })
    | .addFault path point error => (.done, changeStorage (·.addFault path point error) state)
    | .clearFaults => (.done, changeStorage (·.clearFaults) state)
    | .onNextOpen path steps =>
      (.done, { state with agenda :=
        { state.agenda with pending := state.agenda.pending ++ [(path.components, steps)] } })
    | .ask request =>
      let interrupt := match depth with
        | 0 => Interrupt.none
        | depth + 1 => interruptBy (perform host depth)
      host.answer interrupt request state

/-- Does a step. Every time that steps put off happen, one deferral less is left, so that they
cannot happen inside one another more often than there are deferrals. -/
def step (host : Host) (step : Step) (state : State) : Answer × State :=
  perform host (step.deferrals + state.agenda.deferrals) step state

/-- What is seen of a cache from outside. -/
structure CacheStatus where
  size : Nat
  hits : Nat
  misses : Nat
  revalidations : Nat
  deriving DecidableEq, Repr

/-- What is seen of a workspace from outside. -/
structure Status where
  builds : Nat
  cache : Option CacheStatus
  deriving DecidableEq, Repr

/-- What is seen of a workspace from outside. -/
def statusOf {Store Agenda : Type} (workspace : Workspace Store Agenda) : Status where
  builds := workspace.builds
  cache := workspace.installed.map fun resolver =>
    let cache := workspace.cache resolver.cache
    ⟨cache.size, cache.hits, cache.misses, cache.revalidations⟩

/-- What came of a step. -/
structure Outcome where
  answer : Answer
  meanwhile : List Answer := []
  warnings : List String := []
  status : Option Status

/-- Does the steps of a script one after the other. -/
def run (host : Host) : List Step → State → List Outcome
  | [], _ => []
  | next :: rest, state =>
    let (answer, after) :=
      step host next { state with warnings := [], agenda := { state.agenda with answers := [] } }
    ⟨answer, after.agenda.answers, after.warnings, some (statusOf after)⟩ :: run host rest after

/-- The state in which a session begins, with these files put into the storage one by one. -/
def start (files : List (Path × List UInt8)) (frozen : Bool) : State where
  storage := files.foldl (fun memory file => memory.insert file.1 file.2) { frozen }
  agenda := {}

end TemplateTree.Session
