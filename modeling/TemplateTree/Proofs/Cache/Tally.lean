import TemplateTree.Proofs.Cache.Counters
import TemplateTree.Proofs.Storage.Answers

/-!
# The tally of a cache

While a storage in memory stands still and its directive files are well-formed, every lookup of a
file that is there counts once, as a hit or as a miss, and leaves the file kept. `Cache.Tallies`
says so of any number of lookups; as many of them as were made before the file was kept may have
been misses.
-/

namespace TemplateTree

/-- What paths mean, each as often as it stands there. -/
def Path.locations (places : List Path) : Multiset Path.Location :=
  (places.map Path.components : List Path.Location)

theorem Path.locations_append (first second : List Path) :
    locations (first ++ second) = locations first + locations second := by
  rw [locations, List.map_append, ← Multiset.coe_add]
  rfl

namespace Memory

/-- Whether there is a file at a path. -/
def holds (memory : Memory) (path : Path) : Bool :=
  (memory.file? path).isSome

/-- What those of the paths mean under which there is a file. -/
def occupied (memory : Memory) (places : List Path) : Multiset Path.Location :=
  Path.locations (places.filter memory.holds)

variable {memory : Memory} {place : Path}

theorem occupied_cons (memory : Memory) (place : Path) (rest : List Path) :
    memory.occupied (place :: rest) = memory.occupied [place] + memory.occupied rest := by
  rw [occupied, ← List.singleton_append, List.filter_append, Path.locations_append]
  rfl

theorem occupied_reverse (memory : Memory) (places : List Path) :
    memory.occupied places.reverse = memory.occupied places :=
  Multiset.coe_eq_coe.2 (((List.reverse_perm places).filter _).map _)

theorem occupied_of_file? {file : MemoryFile} (there : memory.file? place = some file) :
    memory.occupied [place] = {place.components} := by
  simp [occupied, holds, there, Path.locations]

theorem occupied_of_absent (absent : memory.file? place = none) : memory.occupied [place] = 0 := by
  simp [occupied, holds, absent, Path.locations]

end Memory

namespace Cache

/-- The places of what is kept. -/
def places (cache : Cache) : Finset Path.Location :=
  cache.entries.keys.toFinset

theorem mem_places_iff {cache : Cache} {path : Path} :
    path.components ∈ cache.places ↔ ∃ entry, cache.find? path = some entry := by
  rw [places, List.mem_toFinset, Table.mem_keys_iff]
  rfl

/-- Keeping a file adds its place, if it is not there yet. -/
theorem places_keep (cache : Cache) (path : Path) (stamp : Stamp) (file : DirectiveFile) :
    (cache.keep path stamp file).places = insert path.components cache.places := by
  ext location
  simp only [places, Finset.mem_insert, List.mem_toFinset, Table.mem_keys_iff, get?_keep]
  split
  · next there => simp [there]
  · next other => simp [other]

/-- What is kept has the stamp that its file has in the storage. -/
def UpToDate (memory : Memory) (cache : Cache) : Prop :=
  ∀ place entry, cache.find? place = some entry →
    ∃ file, memory.file? place = some file ∧ entry.stamp = memory.stampOf file

/-- What becomes of a cache in these lookups, all of files that are there: they are kept, and each
lookup has counted as a hit or as a miss. For each file that is newly kept there is a miss, and
there are no more misses than `parses`. -/
structure Tallies (visits : Multiset Path.Location) (parses : Nat) (before after : Cache) : Prop where
  places : after.places = before.places ∪ visits.toFinset
  total : after.hits + after.misses = before.hits + before.misses + visits.card
  revalidations : after.revalidations = before.revalidations
  atLeast : after.size + before.misses ≤ before.size + after.misses
  atMost : after.misses ≤ before.misses + parses

variable {memory : Memory} {cache before between after : Cache} {place : Path}
  {first second : Multiset Path.Location} {parses more : Nat}

theorem Tallies.refl (cache : Cache) : Tallies 0 0 cache cache where
  places := by rw [Multiset.toFinset_zero, Finset.union_empty]
  total := rfl
  revalidations := rfl
  atLeast := le_rfl
  atMost := le_rfl

theorem Tallies.trans (one : Tallies first parses before between)
    (two : Tallies second more between after) :
    Tallies (first + second) (parses + more) before after where
  places := by rw [two.places, one.places, Multiset.toFinset_add, Finset.union_assoc]
  total := by rw [two.total, one.total, Multiset.card_add, Nat.add_assoc]
  revalidations := two.revalidations.trans one.revalidations
  atLeast := by
    have := one.atLeast
    have := two.atLeast
    omega
  atMost := by
    have := one.atMost
    have := two.atMost
    omega

theorem Tallies.subset (tallies : Tallies first parses before after) : before.places ⊆ after.places :=
  tallies.places ▸ Finset.subset_union_left

/-- Nothing is there to be dropped where there is no file. -/
theorem UpToDate.evict_eq (upToDate : cache.UpToDate memory) (absent : memory.file? place = none) :
    cache.evict place = cache := by
  have unbound : cache.entries.get? place.components = none := by
    by_contra bound
    obtain ⟨entry, bound⟩ := Option.ne_none_iff_exists'.1 bound
    obtain ⟨file, there, -⟩ := upToDate place entry bound
    cases absent.symm.trans there
  rw [evict, Table.erase_eq_self unbound]

/-- What is kept under a stamp that its file has now does not make the cache out of date. -/
theorem UpToDate.keep (upToDate : cache.UpToDate memory) {held : MemoryFile}
    (there : memory.file? place = some held) (file : DirectiveFile) :
    (cache.keep place (memory.stampOf held) file).UpToDate memory := by
  intro other entry found
  rcases find?_of_find?_keep found with before | ⟨same, rfl⟩
  · exact upToDate other entry before
  · exact ⟨held, (memory.file?_congr same).trans there, rfl⟩

/-- A lookup of what is kept is a hit. -/
theorem tallies_countHit {entry : Entry} (found : cache.find? place = some entry) (parses : Nat) :
    Tallies {place.components} parses cache cache.countHit where
  places := by
    rw [Multiset.toFinset_singleton, Finset.union_comm, ← Finset.insert_eq,
      Finset.insert_eq_of_mem (mem_places_iff.2 ⟨entry, found⟩)]
    rfl
  total := by
    simp only [Multiset.card_singleton, countHit]
    omega
  revalidations := rfl
  atLeast := le_rfl
  atMost := Nat.le_add_right _ _

/-- A lookup for which a file is read is a miss, whether or not it has been kept meanwhile. -/
theorem tallies_countMiss (cache : Cache) (place : Path) (stamp : Stamp) (file : DirectiveFile) :
    Tallies {place.components} 1 cache (cache.countMiss.keep place stamp file) := by
  obtain ⟨hits, misses, revalidations⟩ := keep_counters cache.countMiss place stamp file
  have places : (cache.countMiss.keep place stamp file).places =
      insert place.components cache.places :=
    places_keep ..
  refine ⟨?_, ?_, revalidations, ?_, misses.le⟩
  · rw [places, Multiset.toFinset_singleton, Finset.union_comm, Finset.insert_eq]
  · rw [hits, misses, Multiset.card_singleton]
    rfl
  · have grown : (cache.countMiss.keep place stamp file).size ≤ cache.size + 1 := by
      rw [← card_keys, ← card_keys]
      exact (congrArg Finset.card places).le.trans (Finset.card_insert_le ..)
    have counted : cache.countMiss.misses = cache.misses + 1 := rfl
    omega

end Cache

end TemplateTree
