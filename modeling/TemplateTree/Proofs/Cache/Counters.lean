import Mathlib.Data.Finset.Card
import TemplateTree.Proofs.Cache.Effect

/-!
# The counters of a cache

Counters never go down, and each counted lookup adds one to one of them: `Cache.Counts`. Where a
cache keeps no more files than it has counted misses, it never comes to keep more. This is carried
by a set of places that only grows, as `Cache.Covered` has it: what is kept may be dropped and kept
again without being missed a second time.
-/

namespace TemplateTree.Cache

/-- The number of lookups that a cache has counted. -/
def total (cache : Cache) : Nat :=
  cache.hits + cache.misses + cache.revalidations

/-- What holds of the counters of a cache when it has counted this many more lookups. -/
structure Counts (before : Cache) (lookups : Nat) (after : Cache) : Prop where
  hits : before.hits ≤ after.hits
  misses : before.misses ≤ after.misses
  revalidations : before.revalidations ≤ after.revalidations
  total : after.total = before.total + lookups

/-- A cache keeps files in these places only, and has counted a miss for each of them. -/
structure Covered (seen : Finset Path.Location) (cache : Cache) : Prop where
  inside : ∀ location entry, cache.entries.get? location = some entry → location ∈ seen
  missed : seen.card ≤ cache.misses

variable {before between after cache : Cache} {first second : Nat} {seen : Finset Path.Location}

theorem Counts.refl (cache : Cache) : Counts cache 0 cache :=
  ⟨Nat.le_refl _, Nat.le_refl _, Nat.le_refl _, rfl⟩

theorem Counts.trans (one : Counts before first between) (two : Counts between second after) :
    Counts before (first + second) after where
  hits := one.hits.trans two.hits
  misses := one.misses.trans two.misses
  revalidations := one.revalidations.trans two.revalidations
  total := by rw [two.total, one.total, Nat.add_assoc]

theorem card_keys (cache : Cache) : cache.entries.keys.toFinset.card = cache.size := by
  have distinct : cache.entries.keys.Nodup := cache.entries.nodup
  rw [List.toFinset_card_of_nodup distinct, Table.keys, List.length_map, size, Table.size]

theorem Covered.of_subset (covered : before.Covered seen) (misses : after.misses = before.misses)
    (kept : ∀ location entry, after.entries.get? location = some entry →
      before.entries.get? location = some entry) : after.Covered seen where
  inside location entry found := covered.inside location entry (kept location entry found)
  missed := misses ▸ covered.missed

/-- What is kept after a path was dropped is covered. -/
theorem Covered.evict (covered : cache.Covered seen) (path : Path) :
    (cache.evict path).Covered seen := by
  refine covered.of_subset rfl fun location entry found => ?_
  have erased : (cache.entries.erase path.components).get? location = some entry := found
  rw [Table.get?_erase] at erased
  split at erased
  · cases erased
  · exact erased

theorem Covered.clear (covered : cache.Covered seen) : cache.clear.Covered seen :=
  covered.of_subset rfl fun _ _ found => by cases found

/-- What is kept in a place covered already is covered. -/
theorem Covered.keep (covered : cache.Covered seen) {path : Path} (inside : path.components ∈ seen)
    (stamp : Stamp) (file : DirectiveFile) : (cache.keep path stamp file).Covered seen where
  inside location entry found := by
    rw [get?_keep] at found
    split at found
    · next there => exact there ▸ inside
    · exact covered.inside location entry found
  missed := (keep_counters cache path stamp file).2.1 ▸ covered.missed

theorem Covered.countMiss (covered : cache.Covered seen) (location : Path.Location) :
    cache.countMiss.Covered (insert location seen) where
  inside other entry found := Finset.mem_insert_of_mem (covered.inside other entry found)
  missed := (Finset.card_insert_le location seen).trans (Nat.succ_le_succ covered.missed)

variable {path : Path} {stamped : Except IoError (Option Stamp)} {earlier : Option Entry}
  {result : Except CompileError (Option DirectiveFile)}

/-- A lookup changes the counters only as its result says. -/
theorem Becomes.counts (becomes : Becomes path stamped earlier cache result after) :
    Counts cache (if counted result then 1 else 0) after := by
  cases counts : counted result with
  | true =>
    rw [if_pos rfl]
    cases becomes.countsOne counts <;> refine ⟨by omega, by omega, by omega, ?_⟩ <;>
      rw [total, total] <;> omega
  | false =>
    obtain ⟨hits, misses, revalidations⟩ := becomes.countsNone counts
    exact ⟨hits.ge, misses.ge, revalidations.ge, by simp [total, hits, misses, revalidations]⟩

/-- What a lookup leaves in a cache is covered if what it found there at first was in one of the
places. It may have been dropped since, but its place stays covered. -/
theorem Becomes.covered (becomes : Becomes path stamped earlier cache result after)
    (here : cache.Covered seen) (known : ∀ entry, earlier = some entry → path.components ∈ seen) :
    ∃ more, seen ⊆ more ∧ after.Covered more := by
  cases becomes with
  | failed | hit => exact ⟨seen, Finset.Subset.refl seen, here.inside, here.missed⟩
  | dropped => exact ⟨seen, Finset.Subset.refl seen, here.evict path⟩
  | @revalidated stamp entry _ held =>
    have counted : cache.countRevalidation.Covered seen := ⟨here.inside, here.missed⟩
    exact ⟨seen, Finset.Subset.refl seen, counted.keep (known entry held) stamp entry.file⟩
  | malformed =>
    exact ⟨seen, Finset.Subset.refl seen, here.inside, here.missed.trans (Nat.le_succ _)⟩
  | @parsed stamp file =>
    exact ⟨insert path.components seen, Finset.subset_insert _ _,
      (here.countMiss path.components).keep (Finset.mem_insert_self _ _) stamp file⟩

end TemplateTree.Cache
