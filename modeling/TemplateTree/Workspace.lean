import TemplateTree.Cache
import TemplateTree.Process

/-!
# Workspaces

Everything that changes while templates are compiled: the storage, the caches of all resolvers there
have been, the resolver in use, and the warnings given.

Opening a file is the one moment at which others may act: an `Interrupt` stands for whatever they do
between the request and the answer. A workspace carries their `agenda`, of which nothing here
depends.

A lookup takes several steps, and lookups may run together: `lookUpSteps` has the steps, and
`lookUp` is a lookup that runs by itself.
-/

namespace TemplateTree

/-- Finds the directive files that apply to a template, and keeps them in a cache of its own. -/
structure Resolver where
  root : Path
  directiveFilename : String
  cache : Nat
  deriving DecidableEq, Repr

/-- The changing surroundings of compilations: the storage, the caches by number, the resolver in
use and the one that was in use before the last replacement, how often a resolver was built, the
warnings given, and what is yet to happen by itself. -/
structure Workspace (Store Agenda : Type) where
  storage : Store
  caches : List Cache := []
  installed : Option Resolver := none
  aside : Option Resolver := none
  builds : Nat := 0
  warnings : List String := []
  agenda : Agenda

/-- What happens to a workspace while the file at a path is opened. -/
abbrev Interrupt (Store Agenda : Type) : Type :=
  Path → Workspace Store Agenda → Workspace Store Agenda

/-- Nothing happens. -/
def Interrupt.none {Store Agenda : Type} : Interrupt Store Agenda :=
  fun _ workspace => workspace

namespace Workspace

variable {Store Agenda : Type}

def cache (workspace : Workspace Store Agenda) (number : Nat) : Cache :=
  workspace.caches.getD number .empty

def updateCache (workspace : Workspace Store Agenda) (number : Nat) (change : Cache → Cache) :
    Workspace Store Agenda :=
  { workspace with caches := workspace.caches.modify number change }

def warn (workspace : Workspace Store Agenda) (warnings : List String) :
    Workspace Store Agenda :=
  { workspace with warnings := workspace.warnings ++ warnings }

/-- A resolver with a cache of its own, which is empty. -/
def addResolver (workspace : Workspace Store Agenda) (root : Path) (directiveFilename : String) :
    Resolver × Workspace Store Agenda :=
  (⟨root, directiveFilename, workspace.caches.length⟩,
    { workspace with caches := workspace.caches ++ [.empty] })

variable [Storage Store]

/-- Opens the file at a path. -/
def openFile (interrupt : Interrupt Store Agenda) (path : Path)
    (workspace : Workspace Store Agenda) :
    Except IoError Stream × Workspace Store Agenda :=
  let after := interrupt path workspace
  (Storage.stream after.storage path, after)

/-- Reads the file at a path to its end. -/
def readFile (interrupt : Interrupt Store Agenda) (path : Path)
    (workspace : Workspace Store Agenda) :
    Except IoError (List UInt8) × Workspace Store Agenda :=
  match openFile interrupt path workspace with
  | (.error error, after) => (.error error, after)
  | (.ok stream, after) => (stream.content, after)

/-- Keeps a directive file in a cache, and answers with the one that is kept then. -/
def keepFile (number : Nat) (path : Path) (stamp : Stamp) (file : DirectiveFile)
    (workspace : Workspace Store Agenda) : DirectiveFile × Workspace Store Agenda :=
  ((workspace.cache number).kept path stamp file,
    workspace.updateCache number (·.keep path stamp file))

/-- Takes the content just read into a cache. `earlier` is what the cache held under the path
before the file was opened: if its fingerprint is that of the content, it is kept under the new
stamp, and otherwise the content is read for its directives. -/
def takeIn (number : Nat) (path : Path) (stamp : Stamp) (earlier : Option Cache.Entry)
    (content : List UInt8) (workspace : Workspace Store Agenda) :
    Except CompileError DirectiveFile × Workspace Store Agenda :=
  let unchanged := earlier.filter fun entry =>
    entry.file.contentHash = Digest.fingerprint content
  match unchanged with
  | some entry =>
    let (file, after) :=
      keepFile number path stamp entry.file (workspace.updateCache number Cache.countRevalidation)
    (.ok file, after)
  | none =>
    let counted := workspace.updateCache number Cache.countMiss
    match DirectiveFile.directivesIn path content with
    | .error error => (.error error, counted)
    | .ok directives =>
      let file := DirectiveFile.ofDirectives path (Digest.fingerprint content) directives
      let (file, after) :=
        keepFile number path stamp file (counted.warn (Directive.warnings path.text directives))
      (.ok file, after)

/-- What a cache keeps under a path. It is a hit if it is kept under this stamp. -/
def consult (number : Nat) (path : Path) (stamp : Stamp) (workspace : Workspace Store Agenda) :
    Option Cache.Entry × Workspace Store Agenda :=
  let earlier := (workspace.cache number).find? path
  match earlier.filter (·.stamp = stamp) with
  | some _ => (earlier, workspace.updateCache number Cache.countHit)
  | none => (earlier, workspace)

/-- The steps of a lookup of the directive file at a path, or of nothing where there is none: the
stamp of the file is taken, the cache is consulted and answers if it has kept the file under this
stamp, and otherwise the file is read and taken in. A file that has gone is dropped from the cache.
No step depends on a counter, so that counting needs no step of its own. -/
def lookUpSteps (interrupt : Interrupt Store Agenda) (number : Nat) (path : Path) :
    Process (Workspace Store Agenda) (Except CompileError (Option DirectiveFile)) := do
  match ← .ask fun workspace => Storage.stamp workspace.storage path with
  | .error error => return .error (.storage path error)
  | .ok none =>
    .change (·.updateCache number (·.evict path))
    return .ok none
  | .ok (some stamp) =>
    let earlier ← .act (consult number path stamp)
    match earlier.filter (·.stamp = stamp) with
    | some entry => return .ok (some entry.file)
    | none =>
      match ← .act (readFile interrupt path) with
      | .error error =>
        if error.kind = .notFound then
          .change (·.updateCache number (·.evict path))
          return .ok none
        else return .error (.storage path error)
      | .ok content =>
        match ← .act (takeIn number path stamp earlier content) with
        | .error error => return .error error
        | .ok file => return .ok (some file)

def lookUp (interrupt : Interrupt Store Agenda) (number : Nat) (path : Path) :
    Workspace Store Agenda →
      Except CompileError (Option DirectiveFile) × Workspace Store Agenda :=
  (lookUpSteps interrupt number path).run

/-- A lookup by itself, without its steps. -/
theorem lookUp_eq (interrupt : Interrupt Store Agenda) (number : Nat) (path : Path)
    (workspace : Workspace Store Agenda) :
    lookUp interrupt number path workspace =
      match Storage.stamp workspace.storage path with
      | .error error => (.error (.storage path error), workspace)
      | .ok none => (.ok none, workspace.updateCache number (·.evict path))
      | .ok (some stamp) =>
        let earlier := (workspace.cache number).find? path
        match earlier.filter (·.stamp = stamp) with
        | some entry => (.ok (some entry.file), workspace.updateCache number Cache.countHit)
        | none =>
          match readFile interrupt path workspace with
          | (.error error, after) =>
            if error.kind = .notFound then (.ok none, after.updateCache number (·.evict path))
            else (.error (.storage path error), after)
          | (.ok content, after) =>
            match takeIn number path stamp earlier content after with
            | (.error error, after) => (.error error, after)
            | (.ok file, after) => (.ok (some file), after) := by
  simp only [lookUp, lookUpSteps, Process.run_bind, Process.run_ask]
  cases Storage.stamp workspace.storage path with
  | error error => rfl
  | ok stamped =>
    cases stamped with
    | none => rfl
    | some stamp =>
      have consulted : consult number path stamp workspace =
          ((workspace.cache number).find? path,
            match ((workspace.cache number).find? path).filter (·.stamp = stamp) with
            | some _ => workspace.updateCache number Cache.countHit
            | none => workspace) := by
        rw [consult]
        split <;> rfl
      simp only [Process.run_bind, Process.run_act, consulted]
      cases ((workspace.cache number).find? path).filter (·.stamp = stamp) with
      | some entry => rfl
      | none =>
        simp only [Process.run_bind, Process.run_act]
        rcases readFile interrupt path workspace with ⟨error | content, after⟩
        · simp only
          split <;> rfl
        · simp only [Process.run_bind, Process.run_act]
          rcases takeIn number path stamp _ content after with ⟨error | file, last⟩ <;> rfl

end Workspace

end TemplateTree
