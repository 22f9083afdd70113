import TemplateTree.Storage
import TemplateTree.Table

/-!
# Storage in memory

Files held in memory under the meaning of their paths. Every change takes the next revision, which
is the stamp of the file it touches. For rehearsals a storage can be made to fail at chosen files,
and to forget the revision in its stamps.
-/

namespace TemplateTree

/-- A file in memory, with the revision of its last change. -/
structure MemoryFile where
  content : List UInt8
  revision : Nat
  deriving DecidableEq, Repr

/-- Where a storage can be made to fail: at the stamp, at the opening, or at the end of the content.
-/
inductive FaultPoint where
  | stamp
  | opening
  | reading
  deriving DecidableEq, Repr

/-- A storage in memory, with the last revision taken and the failures arranged. The stamps of a
frozen one say nothing of revisions. -/
structure Memory where
  files : Table Path.Location MemoryFile := .empty
  revision : Nat := 0
  faults : Table (Path.Location × FaultPoint) IoError := .empty
  frozen : Bool := false

namespace Memory

def file? (memory : Memory) (path : Path) : Option MemoryFile :=
  memory.files.get? path.components

/-- The failure that has been arranged for a path. -/
def fault? (memory : Memory) (path : Path) (point : FaultPoint) : Option IoError :=
  memory.faults.get? (path.components, point)

def insert (memory : Memory) (path : Path) (content : List UInt8) : Memory :=
  let revision := memory.revision + 1
  { memory with revision, files := memory.files.insert path.components ⟨content, revision⟩ }

/-- Gives the file at a path a new revision. The revision is taken even where there is no file. -/
def touch (memory : Memory) (path : Path) : Bool × Memory :=
  let revision := memory.revision + 1
  match memory.file? path with
  | some file =>
    (true, { memory with
      revision, files := memory.files.insert path.components { file with revision } })
  | none => (false, { memory with revision })

def remove (memory : Memory) (path : Path) : Bool × Memory :=
  ((memory.file? path).isSome, { memory with files := memory.files.erase path.components })

/-- Lets the storage fail at a path from now on. -/
def addFault (memory : Memory) (path : Path) (point : FaultPoint) (error : IoError) : Memory :=
  { memory with faults := memory.faults.insert (path.components, point) error }

def clearFaults (memory : Memory) : Memory :=
  { memory with faults := .empty }

/-- The failure of a storage that has nothing at a path. -/
def missing (path : Path) : IoError :=
  ⟨.notFound, s!"'{path}' does not exist"⟩

def stampOf (memory : Memory) (file : MemoryFile) : Stamp :=
  ⟨if memory.frozen then 0 else file.revision, file.content.length⟩

def stamp (memory : Memory) (path : Path) : Except IoError (Option Stamp) :=
  match memory.fault? path .stamp with
  | some error => .error error
  | none => .ok ((memory.file? path).map memory.stampOf)

/-- The content of the file at a path. -/
def stream (memory : Memory) (path : Path) : Except IoError Stream :=
  match memory.fault? path .opening with
  | some error => .error error
  | none =>
    match memory.file? path with
    | some file => .ok ⟨file.content, memory.fault? path .reading⟩
    | none => .error (missing path)

/-- Memory answers the questions that every storage answers. -/
instance : Storage Memory where
  stamp := stamp
  stream := stream

end Memory

end TemplateTree
