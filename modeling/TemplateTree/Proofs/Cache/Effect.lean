import TemplateTree.Proofs.Workspace.Alone

/-!
# What one lookup makes of its cache

A lookup changes one cache, once, after others may have acted while the file was opened.
`Cache.Becomes` has one case for each way in which it can end: what is kept then, and which counter
has gone up. Main statements: `makes_lookUp`, and `rebinds_lookUp` for a lookup while nobody acts.
-/

namespace TemplateTree

/-- Whether a lookup with this result is counted: it has found a file, or one that is malformed. -/
def counted : Except CompileError (Option DirectiveFile) → Bool
  | .ok (some _) | .error (.malformed ..) => true
  | _ => false

theorem DirectiveFile.exists_malformed {path : Path} {content : List UInt8} {error : CompileError}
    (failed : directivesIn path content = .error error) : ∃ problem, error = .malformed path problem := by
  revert failed
  fun_cases directivesIn path content <;> rintro ⟨⟩
  · exact ⟨_, rfl⟩
  · exact ⟨_, rfl⟩

namespace Cache

/-- What a lookup makes of a cache as others leave it, by its result. `stamped` is what the storage
said of the file at first, and `earlier` what was kept under the path then. -/
inductive Becomes (path : Path) (stamped : Except IoError (Option Stamp)) (earlier : Option Entry)
    (cache : Cache) : Except CompileError (Option DirectiveFile) → Cache → Prop where
  | failed {error} : Becomes path stamped earlier cache (.error (.storage path error)) cache
  | dropped : Becomes path stamped earlier cache (.ok none) (cache.evict path)
  | hit {entry} (reported : stamped = .ok (some entry.stamp)) (held : cache.find? path = some entry) :
      Becomes path stamped earlier cache (.ok (some entry.file)) cache.countHit
  | revalidated {stamp entry} (reported : stamped = .ok (some stamp)) (held : earlier = some entry) :
      Becomes path stamped earlier cache (.ok (some (cache.kept path stamp entry.file)))
        (cache.countRevalidation.keep path stamp entry.file)
  | malformed {problem} :
      Becomes path stamped earlier cache (.error (.malformed path problem)) cache.countMiss
  | parsed {stamp file} (reported : stamped = .ok (some stamp)) :
      Becomes path stamped earlier cache (.ok (some (cache.kept path stamp file)))
        (cache.countMiss.keep path stamp file)

/-- Keeping a file changes no counter. -/
theorem keep_counters (cache : Cache) (path : Path) (stamp : Stamp) (file : DirectiveFile) :
    (cache.keep path stamp file).hits = cache.hits ∧
      (cache.keep path stamp file).misses = cache.misses ∧
      (cache.keep path stamp file).revalidations = cache.revalidations := by
  rw [keep]
  split
  · split <;> exact ⟨rfl, rfl, rfl⟩
  · exact ⟨rfl, rfl, rfl⟩

/-- One counter has gone up by one, and the other two have not changed. -/
inductive CountsOne (before after : Cache) : Prop where
  | hit (hits : after.hits = before.hits + 1) (misses : after.misses = before.misses)
      (revalidations : after.revalidations = before.revalidations)
  | miss (hits : after.hits = before.hits) (misses : after.misses = before.misses + 1)
      (revalidations : after.revalidations = before.revalidations)
  | revalidation (hits : after.hits = before.hits) (misses : after.misses = before.misses)
      (revalidations : after.revalidations = before.revalidations + 1)

/-- No counter has changed. -/
structure CountsNone (before after : Cache) : Prop where
  hits : after.hits = before.hits
  misses : after.misses = before.misses
  revalidations : after.revalidations = before.revalidations

variable {path : Path} {stamped : Except IoError (Option Stamp)} {earlier : Option Entry}
  {cache after : Cache} {result : Except CompileError (Option DirectiveFile)}

/-- One counter goes up in a lookup that is counted. -/
theorem Becomes.countsOne (becomes : Becomes path stamped earlier cache result after)
    (counts : counted result = true) : CountsOne cache after := by
  cases becomes with
  | failed | dropped => cases counts
  | hit => exact .hit rfl rfl rfl
  | malformed => exact .miss rfl rfl rfl
  | @revalidated stamp entry =>
    obtain ⟨hits, misses, revalidations⟩ :=
      keep_counters cache.countRevalidation path stamp entry.file
    exact .revalidation hits misses revalidations
  | @parsed stamp file =>
    obtain ⟨hits, misses, revalidations⟩ := keep_counters cache.countMiss path stamp file
    exact .miss hits misses revalidations

theorem Becomes.countsNone (becomes : Becomes path stamped earlier cache result after)
    (uncounted : counted result = false) : CountsNone cache after := by
  cases becomes with
  | failed | dropped => exact ⟨rfl, rfl, rfl⟩
  | hit | revalidated | malformed | parsed => cases uncounted

end Cache

namespace Workspace

variable {Store Agenda : Type}

variable [Storage Store]

/-- Whether a lookup opens the file: there is one, and it is not kept under the stamp that it has.
-/
def opens (number : Nat) (path : Path) (workspace : Workspace Store Agenda) : Bool :=
  match Storage.stamp workspace.storage path with
  | .ok (some stamp) => ((workspace.cache number).find? path).all (·.stamp ≠ stamp)
  | _ => false

/-- The workspace in which a lookup goes on. If it opens the file, others have acted by then. -/
def afterOthers (interrupt : Interrupt Store Agenda) (number : Nat) (path : Path)
    (workspace : Workspace Store Agenda) : Workspace Store Agenda :=
  if workspace.opens number path then interrupt path workspace else workspace

/-- What a lookup makes of the workspace in which it is completed: it changes its cache, once. -/
structure Makes (number : Nat) (path : Path) (stamped : Except IoError (Option Stamp))
    (earlier : Option Cache.Entry) (left : Workspace Store Agenda)
    (result : Except CompileError (Option DirectiveFile)) (change : Cache → Cache)
    (after : Workspace Store Agenda) : Prop where
  caches : after.caches = left.caches.modify number change
  installed : after.installed = left.installed
  aside : after.aside = left.aside
  becomes : Cache.Becomes path stamped earlier (left.cache number) result (change (left.cache number))

variable {interrupt : Interrupt Store Agenda} {number : Nat} {path : Path}
  {workspace left after : Workspace Store Agenda} {stamped : Except IoError (Option Stamp)}
  {earlier : Option Cache.Entry} {result : Except CompileError (Option DirectiveFile)}
  {change : Cache → Cache}

omit [Storage Store]

theorem Makes.length_eq (makes : Makes number path stamped earlier left result change after) :
    after.caches.length = left.caches.length := by
  rw [makes.caches, List.length_modify]

/-- The caches are those before, but for the one that has changed. -/
theorem Makes.cache_eq (makes : Makes number path stamped earlier left result change after)
    (other : Nat) :
    after.cache other =
      if number = other ∧ other < left.caches.length then change (left.cache other)
      else left.cache other := by
  rw [← cache_updateCache, cache, makes.caches]
  rfl

theorem Makes.becomes_cache (makes : Makes number path stamped earlier left result change after)
    (there : number < left.caches.length) :
    Cache.Becomes path stamped earlier (left.cache number) result (after.cache number) := by
  rw [makes.cache_eq, if_pos ⟨rfl, there⟩]
  exact makes.becomes

theorem Makes.cache_of_ne (makes : Makes number path stamped earlier left result change after)
    {other : Nat} (apart : other ≠ number) : after.cache other = left.cache other := by
  rw [makes.cache_eq, if_neg fun same => apart same.1.symm]

/-- What is taken in changes the cache once. -/
theorem TakesIn.makes {stamp : Stamp} {content : List UInt8}
    {taken : Except CompileError DirectiveFile}
    (takes : TakesIn number path stamp earlier content left taken after)
    (reported : stamped = .ok (some stamp)) :
    ∃ change, Makes number path stamped earlier left (taken.map some) change after := by
  cases takes with
  | @revalidated entry held =>
    exact ⟨(·.countRevalidation.keep path stamp entry.file), List.modify_modify_eq .., rfl, rfl,
      .revalidated reported held⟩
  | malformed _ read =>
    obtain ⟨problem, rfl⟩ := DirectiveFile.exists_malformed read
    exact ⟨Cache.countMiss, rfl, rfl, rfl, .malformed⟩
  | @parsed directives file =>
    exact ⟨(·.countMiss.keep path stamp file), List.modify_modify_eq .., rfl, rfl, .parsed reported⟩

variable [Storage Store]

/-- A lookup that opens no file ends in the workspace in which it began. -/
theorem makes_lookUp_of_not_opens (kept : workspace.opens number path = false) :
    ∃ change, Makes number path (Storage.stamp workspace.storage path)
      ((workspace.cache number).find? path) workspace
      (lookUp interrupt number path workspace).1 change (lookUp interrupt number path workspace).2 := by
  rw [opens] at kept
  split at kept
  · next stamp stamped =>
    cases held : (workspace.cache number).find? path with
    | none =>
      rw [held] at kept
      cases kept
    | some entry =>
      have same : entry.stamp = stamp := by simpa [held] using kept
      subst same
      rw [lookUp_of_fresh stamped held]
      exact ⟨Cache.countHit, rfl, rfl, rfl, .hit stamped held⟩
  · next unstamped =>
    cases stamped : Storage.stamp workspace.storage path with
    | error error =>
      simp only [lookUp_eq, stamped]
      exact ⟨id, (List.modify_id ..).symm, rfl, rfl, .failed⟩
    | ok stamp =>
      cases stamp with
      | none =>
        simp only [lookUp_eq, stamped]
        exact ⟨(·.evict path), rfl, rfl, rfl, .dropped⟩
      | some stamp => exact absurd stamped (unstamped stamp)

/-- Every lookup changes its cache once, in the workspace in which it goes on. -/
theorem makes_lookUp (interrupt : Interrupt Store Agenda) (number : Nat) (path : Path)
    (workspace : Workspace Store Agenda) :
    ∃ change, Makes number path (Storage.stamp workspace.storage path)
      ((workspace.cache number).find? path) (workspace.afterOthers interrupt number path)
      (lookUp interrupt number path workspace).1 change
      (lookUp interrupt number path workspace).2 := by
  rw [afterOthers]
  split
  · next opened =>
    have courses := lookUp_courses interrupt number path workspace
    generalize (lookUp interrupt number path workspace).1 = result at courses
    generalize (lookUp interrupt number path workspace).2 = after at courses
    cases courses with
    | unanswered stamped | absent stamped => simp [opens, stamped] at opened
    | hit stamped held => simp [opens, stamped, held] at opened
    | vanished => exact ⟨(·.evict path), rfl, rfl, rfl, .dropped⟩
    | unreadable => exact ⟨id, (List.modify_id ..).symm, rfl, rfl, .failed⟩
    | read stamped _ _ taken => exact taken.makes stamped
  · next kept => exact makes_lookUp_of_not_opens (Bool.not_eq_true _ ▸ kept)

end Workspace

end TemplateTree
