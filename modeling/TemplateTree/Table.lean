/-!
# Keyed tables

A `Table` maps keys to values and holds each key once. The entries stand in a list, so that every
fact about a table is a fact about a list; the absence of repeated keys is part of the type. Main
statements: what `get?` and `size` see of `insert` and `erase`.
-/

namespace TemplateTree

/-- A finite map given by its entries, no key of which is repeated. -/
structure Table (Key Value : Type) where
  entries : List (Key × Value)
  nodup : (entries.map Prod.fst).Nodup

namespace Table

variable {Key Value : Type} [DecidableEq Key]

def empty : Table Key Value := ⟨[], List.nodup_nil⟩

omit [DecidableEq Key] in
private theorem nodup_filter {entries : List (Key × Value)} (keep : Key × Value → Bool)
    (nodup : (entries.map Prod.fst).Nodup) : ((entries.filter keep).map Prod.fst).Nodup :=
  nodup.sublist (List.filter_sublist.map _)

/-- Drops the entry of `key`, if there is one. -/
def erase (table : Table Key Value) (key : Key) : Table Key Value where
  entries := table.entries.filter fun entry => entry.1 ≠ key
  nodup := nodup_filter _ table.nodup

/-- Binds `key` to `value` in place of whatever it was bound to. -/
def insert (table : Table Key Value) (key : Key) (value : Value) : Table Key Value where
  entries := (key, value) :: (table.erase key).entries
  nodup := by
    rw [List.map_cons, List.nodup_cons]
    refine ⟨?_, (table.erase key).nodup⟩
    simp [erase]

def get? (table : Table Key Value) (key : Key) : Option Value :=
  (table.entries.find? fun entry => entry.1 = key).map Prod.snd

def contains (table : Table Key Value) (key : Key) : Bool :=
  (table.get? key).isSome

omit [DecidableEq Key] in
def size (table : Table Key Value) : Nat :=
  table.entries.length

/-- The keys bound, the one inserted last first. -/
def keys (table : Table Key Value) : List Key :=
  table.entries.map Prod.fst

@[simp] theorem get?_empty (key : Key) : (empty : Table Key Value).get? key = none := rfl

omit [DecidableEq Key] in
@[simp] theorem size_empty : (empty : Table Key Value).size = 0 := rfl

/-- An erased key is unbound, and the other keys keep their values. -/
theorem get?_erase (table : Table Key Value) (key other : Key) :
    (table.erase key).get? other = if other = key then none else table.get? other := by
  by_cases same : other = key
  · simp [get?, erase, same]
  · have search : (fun entry : Key × Value => !decide (entry.1 = key) && decide (entry.1 = other)) =
        fun entry => decide (entry.1 = other) := by
      funext entry
      by_cases there : entry.1 = other
      · simp [there, same]
      · simp [there]
    simp [get?, erase, same, search]

/-- A key is bound to what was inserted last under it. -/
theorem get?_insert (table : Table Key Value) (key : Key) (value : Value) (other : Key) :
    (table.insert key value).get? other = if other = key then some value else table.get? other := by
  have rest := get?_erase table key other
  by_cases same : other = key
  · subst same
    simp [get?, insert]
  · have different : ¬key = other := fun equal => same equal.symm
    simp only [same, if_false] at rest ⊢
    rw [← rest]
    simp [get?, insert, different]

/-- An unbound key changes nothing when it is erased. -/
theorem erase_eq_self {table : Table Key Value} {key : Key} (unbound : table.get? key = none) :
    table.erase key = table := by
  cases table with
  | mk entries nodup =>
    simp only [erase, mk.injEq, List.filter_eq_self]
    intro entry member
    simp only [get?, Option.map_eq_none_iff, List.find?_eq_none] at unbound
    simpa using unbound entry member

/-- The keys that are bound are those with a value. -/
theorem mem_keys_iff {table : Table Key Value} {key : Key} :
    key ∈ table.keys ↔ ∃ value, table.get? key = some value := by
  simp only [keys, get?, List.mem_map, Option.map_eq_some_iff]
  constructor
  · rintro ⟨entry, member, rfl⟩
    have there : (table.entries.find? fun other => other.1 = entry.1).isSome := by
      rw [List.find?_isSome]
      exact ⟨entry, member, decide_eq_true rfl⟩
    obtain ⟨found, there⟩ := Option.isSome_iff_exists.1 there
    exact ⟨found.2, found, there, rfl⟩
  · rintro ⟨value, entry, found, rfl⟩
    exact ⟨entry, List.mem_of_find?_eq_some found, by simpa using List.find?_some found⟩

end Table

end TemplateTree
