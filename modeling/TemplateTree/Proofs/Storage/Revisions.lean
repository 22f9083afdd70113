import TemplateTree.Storage.Memory

/-!
# Revisions of a storage in memory

Every change of a file takes a revision that no file had before. `Memory.Later` states what follows
for two moments of a storage, however much happened between them: a file that is there later is the
one that was there earlier, untouched, or has a revision above all earlier ones.
-/

namespace TemplateTree.Memory

theorem file?_congr (memory : Memory) {path other : Path}
    (same : path.components = other.components) : memory.file? path = memory.file? other := by
  rw [file?, file?, same]

theorem file?_insert (memory : Memory) (path : Path) (content : List UInt8) (other : Path) :
    (memory.insert path content).file? other =
      if other.components = path.components then some ⟨content, memory.revision + 1⟩
      else memory.file? other :=
  Table.get?_insert ..

/-- What is found at a path after a file was given a new revision. -/
theorem file?_touch (memory : Memory) (path other : Path) :
    (memory.touch path).2.file? other =
      if other.components = path.components then
        (memory.file? path).map fun file => { file with revision := memory.revision + 1 }
      else memory.file? other := by
  cases there : memory.file? path with
  | some file =>
    simp only [touch, there, Option.map_some]
    exact Table.get?_insert ..
  | none =>
    simp only [touch, there, Option.map_none]
    split
    · next same => rwa [file?, ← same] at there
    · rfl

theorem file?_remove (memory : Memory) (path other : Path) :
    (memory.remove path).2.file? other =
      if other.components = path.components then none else memory.file? other :=
  Table.get?_erase ..

/-- A storage and the same storage later. -/
structure Later (earlier later : Memory) : Prop where
  revision : earlier.revision ≤ later.revision
  frozen : later.frozen = earlier.frozen
  files : ∀ path file, later.file? path = some file → earlier.file? path = some file ∨
    earlier.revision < file.revision ∧ file.revision ≤ later.revision

namespace Later

theorem refl (memory : Memory) : Later memory memory :=
  ⟨Nat.le_refl _, rfl, fun _ _ there => .inl there⟩

/-- What happens to a storage afterwards happens later still. -/
theorem trans {earlier middle later : Memory} (first : Later earlier middle)
    (second : Later middle later) : Later earlier later where
  revision := Nat.le_trans first.revision second.revision
  frozen := second.frozen.trans first.frozen
  files := by
    intro path file there
    have start := first.revision
    have finish := second.revision
    rcases second.files path file there with before | ⟨above, below⟩
    · rcases first.files path file before with origin | ⟨above, below⟩
      · exact .inl origin
      · exact .inr ⟨above, by omega⟩
    · exact .inr ⟨by omega, below⟩

/-- Putting a file somewhere takes a revision. -/
theorem insert (memory : Memory) (path : Path) (content : List UInt8) :
    Later memory (memory.insert path content) where
  revision := Nat.le_succ _
  frozen := rfl
  files := by
    intro other file there
    rw [file?_insert] at there
    split at there
    · cases there
      exact .inr ⟨Nat.lt_succ_self _, Nat.le_refl _⟩
    · exact .inl there

theorem foldl_insert (files : List (Path × List UInt8)) (memory : Memory) :
    Later memory (files.foldl (fun memory file => memory.insert file.1 file.2) memory) := by
  induction files generalizing memory with
  | nil => exact refl memory
  | cons file rest inductionHypothesis =>
    exact (insert memory file.1 file.2).trans (inductionHypothesis _)

/-- Touching a file takes a revision, whether it is there or not. -/
theorem touch (memory : Memory) (path : Path) : Later memory (memory.touch path).2 := by
  have revision : (memory.touch path).2.revision = memory.revision + 1 := by
    rw [Memory.touch]
    split <;> rfl
  refine ⟨revision ▸ Nat.le_succ _, ?_, ?_⟩
  · rw [Memory.touch]
    split <;> rfl
  · intro other file there
    rw [file?_touch] at there
    split at there
    · obtain ⟨before, -, rfl⟩ := Option.map_eq_some_iff.1 there
      exact .inr ⟨Nat.lt_succ_self _, revision ▸ Nat.le_refl _⟩
    · exact .inl there

/-- Taking a file away leaves the others. -/
theorem remove (memory : Memory) (path : Path) : Later memory (memory.remove path).2 where
  revision := Nat.le_refl _
  frozen := rfl
  files := by
    intro other file there
    rw [file?_remove] at there
    split at there
    · cases there
    · exact .inl there

theorem addFault (memory : Memory) (path : Path) (point : FaultPoint) (error : IoError) :
    Later memory (memory.addFault path point error) :=
  ⟨Nat.le_refl _, rfl, fun _ _ there => .inl there⟩

theorem clearFaults (memory : Memory) : Later memory memory.clearFaults :=
  ⟨Nat.le_refl _, rfl, fun _ _ there => .inl there⟩

end Later

end TemplateTree.Memory
