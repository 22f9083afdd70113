import TemplateTree.DirectiveFile
import TemplateTree.Storage
import TemplateTree.Table

/-!
# Caches

A cache keeps directive files that have been read, each with the stamp that the storage gave before
it was read, and counts how lookups were answered.
-/

namespace TemplateTree

/-- A directive file in a cache, with the stamp that was taken before it was read. -/
structure Cache.Entry where
  stamp : Stamp
  file : DirectiveFile
  deriving DecidableEq, Repr

/-- Directive files by the meaning of their paths. Counted as hits are the lookups answered by stamp
alone, as misses those for which directives were read, and as revalidations those in which the stamp
had changed and the content had not. -/
structure Cache where
  entries : Table Path.Location Cache.Entry := .empty
  hits : Nat := 0
  misses : Nat := 0
  revalidations : Nat := 0

namespace Cache

def empty : Cache := {}

/-- What is kept under a path. -/
def find? (cache : Cache) (path : Path) : Option Entry :=
  cache.entries.get? path.components

def size (cache : Cache) : Nat :=
  cache.entries.size

/-- Drops what is kept under a path. -/
def evict (cache : Cache) (path : Path) : Cache :=
  { cache with entries := cache.entries.erase path.components }

/-- Drops everything. The counters go on. -/
def clear (cache : Cache) : Cache :=
  { cache with entries := .empty }

/-- Counts a lookup answered by stamp alone. -/
def countHit (cache : Cache) : Cache :=
  { cache with hits := cache.hits + 1 }

/-- Counts a lookup for which directives are read. -/
def countMiss (cache : Cache) : Cache :=
  { cache with misses := cache.misses + 1 }

/-- Counts a lookup that found the content unchanged. -/
def countRevalidation (cache : Cache) : Cache :=
  { cache with revalidations := cache.revalidations + 1 }

/-- Keeps a file under a path, unless one with the same stamp is there already. -/
def keep (cache : Cache) (path : Path) (stamp : Stamp) (file : DirectiveFile) : Cache :=
  match cache.find? path with
  | some entry =>
    if entry.stamp = stamp then cache
    else { cache with entries := cache.entries.insert path.components ⟨stamp, file⟩ }
  | none => { cache with entries := cache.entries.insert path.components ⟨stamp, file⟩ }

/-- The file that `keep` leaves under the path: the one there if it has the same stamp, or else the
new one. -/
def kept (cache : Cache) (path : Path) (stamp : Stamp) (file : DirectiveFile) : DirectiveFile :=
  match cache.find? path with
  | some entry => if entry.stamp = stamp then entry.file else file
  | none => file

end Cache

end TemplateTree
