import TemplateTree.Workspace

/-!
# The entries of caches

What a cache keeps under a path after each of its operations, and what the caches of a workspace
keep after one of them has changed. Paths that mean the same share an entry.
-/

namespace TemplateTree

namespace Cache

@[simp] theorem find?_countHit (cache : Cache) (path : Path) :
    cache.countHit.find? path = cache.find? path := rfl

@[simp] theorem find?_countMiss (cache : Cache) (path : Path) :
    cache.countMiss.find? path = cache.find? path := rfl

@[simp] theorem find?_countRevalidation (cache : Cache) (path : Path) :
    cache.countRevalidation.find? path = cache.find? path := rfl

theorem find?_evict (cache : Cache) (path other : Path) :
    (cache.evict path).find? other =
      if other.components = path.components then none else cache.find? other :=
  Table.get?_erase ..

theorem find?_of_find?_evict {cache : Cache} {path other : Path} {entry : Entry}
    (found : (cache.evict path).find? other = some entry) : cache.find? other = some entry := by
  rw [find?_evict] at found
  split at found
  · cases found
  · exact found

/-- Keeping a file binds what its path means to the file that is kept then, and leaves the other
entries. -/
theorem get?_keep (cache : Cache) (path : Path) (stamp : Stamp) (file : DirectiveFile)
    (location : Path.Location) :
    (cache.keep path stamp file).entries.get? location =
      if location = path.components then some ⟨stamp, cache.kept path stamp file⟩
      else cache.entries.get? location := by
  rw [keep, kept]
  split
  · next entry found =>
    split
    · next same =>
      split
      · next there => rw [there, ← same, ← find?, found]
      · rfl
    · exact Table.get?_insert ..
  · exact Table.get?_insert ..

theorem find?_keep (cache : Cache) (path : Path) (stamp : Stamp) (file : DirectiveFile)
    (other : Path) :
    (cache.keep path stamp file).find? other =
      if other.components = path.components then some ⟨stamp, cache.kept path stamp file⟩
      else cache.find? other :=
  get?_keep ..

/-- Keeping a file answers with it, unless an entry with its stamp is there already. -/
theorem kept_cases (cache : Cache) (path : Path) (stamp : Stamp) (file : DirectiveFile) :
    cache.kept path stamp file = file ∨
      ∃ entry, cache.find? path = some entry ∧ entry.stamp = stamp ∧
        cache.kept path stamp file = entry.file := by
  rw [kept]
  split
  · next entry found =>
    split
    · next same => exact .inr ⟨entry, found, same, rfl⟩
    · exact .inl rfl
  · exact .inl rfl

/-- An entry found after a file was kept was there before, unless it is that of the file. -/
theorem find?_of_find?_keep {cache : Cache} {path other : Path} {stamp : Stamp}
    {file : DirectiveFile} {entry : Entry}
    (found : (cache.keep path stamp file).find? other = some entry) :
    cache.find? other = some entry ∨
      other.components = path.components ∧ entry = ⟨stamp, file⟩ := by
  rw [find?_keep] at found
  split at found
  · next there =>
    obtain rfl := Option.some.inj found
    rcases cache.kept_cases path stamp file with same | ⟨earlier, held, equal, same⟩
    · rw [same]
      exact .inr ⟨there, rfl⟩
    · rw [same, ← equal, find?, there]
      exact .inl held
  · exact .inl found

end Cache

namespace Workspace

variable {Store Agenda : Type}

/-- Changing one cache leaves the others alone. -/
theorem cache_updateCache (workspace : Workspace Store Agenda) (number : Nat)
    (change : Cache → Cache) (other : Nat) :
    (workspace.updateCache number change).cache other =
      if number = other ∧ other < workspace.caches.length then change (workspace.cache other)
      else workspace.cache other := by
  simp only [cache, updateCache, List.getD_eq_getElem?_getD, List.getElem?_modify]
  by_cases there : other < workspace.caches.length
  · by_cases same : number = other <;> simp [there, same]
  · simp [there]

/-- An entry found after a cache has changed was there before, or is one that the change made. -/
theorem find?_of_find?_updateCache {workspace : Workspace Store Agenda} {number other : Nat}
    {change : Cache → Cache} {path : Path} {entry : Cache.Entry}
    (found : ((workspace.updateCache number change).cache other).find? path = some entry) :
    (workspace.cache other).find? path = some entry ∨
      number = other ∧ (change (workspace.cache number)).find? path = some entry := by
  rw [cache_updateCache] at found
  split at found
  · next same =>
    obtain ⟨rfl, -⟩ := same
    exact .inr ⟨rfl, found⟩
  · exact .inl found

/-- An entry found after a cache has kept a file was there before, unless it is that of the file. -/
theorem find?_of_find?_updateCache_keep {workspace : Workspace Store Agenda} {number other : Nat}
    {path place : Path} {stamp : Stamp} {file : DirectiveFile} {entry : Cache.Entry}
    (found : ((workspace.updateCache number (·.keep path stamp file)).cache other).find? place =
      some entry) :
    (workspace.cache other).find? place = some entry ∨
      place.components = path.components ∧ entry = ⟨stamp, file⟩ := by
  rcases find?_of_find?_updateCache found with before | ⟨rfl, kept⟩
  · exact .inl before
  · exact Cache.find?_of_find?_keep kept

/-- After a cache has dropped a path, nothing is kept there, and everything else is kept as before.
-/
theorem find?_updateCache_evict {workspace : Workspace Store Agenda} {number : Nat} {path : Path}
    (other : Nat) (place : Path) :
    ((workspace.updateCache number (·.evict path)).cache other).find? place =
        (workspace.cache other).find? place ∨
      other = number ∧ place.components = path.components ∧
        ((workspace.updateCache number (·.evict path)).cache other).find? place = none := by
  rw [cache_updateCache]
  split
  · next here =>
    rw [Cache.find?_evict]
    split
    · next there => exact .inr ⟨here.1.symm, there, rfl⟩
    · exact .inl rfl
  · exact .inl rfl

/-- A change that leaves the entries of a cache alone leaves those of a workspace alone. -/
theorem find?_updateCache {change : Cache → Cache} (path : Path)
    (unchanged : ∀ cache : Cache, (change cache).find? path = cache.find? path)
    (workspace : Workspace Store Agenda) (number other : Nat) :
    ((workspace.updateCache number change).cache other).find? path =
      (workspace.cache other).find? path := by
  rw [cache_updateCache]
  split
  · exact unchanged _
  · rfl

/-- A new resolver leaves the caches there are alone. -/
@[simp] theorem cache_addResolver (workspace : Workspace Store Agenda) (root : Path)
    (directiveFilename : String) (number : Nat) :
    (workspace.addResolver root directiveFilename).2.cache number = workspace.cache number := by
  simp only [cache, addResolver, List.getD_eq_getElem?_getD]
  rcases Nat.lt_trichotomy number workspace.caches.length with before | rfl | behind
  · rw [List.getElem?_append_left before]
  · simp
  · rw [List.getElem?_eq_none (by simp; omega), List.getElem?_eq_none (by omega)]

end Workspace

end TemplateTree
