import TemplateTree.Proofs.Storage.Revisions
import TemplateTree.Proofs.Workspace.LookUp

/-!
# What a storage in memory answers

A stamp or a content is that of the file at the path, whatever faults have been arranged. Where none
have been arranged, the only failure is that there is no file. A change of one file leaves the
answers about all others alone, as `SameAt` has it.
-/

namespace TemplateTree.Memory

/-- No failure has been arranged. -/
def Faultless (memory : Memory) : Prop :=
  ∀ path point, memory.fault? path point = none

variable {memory : Memory} {path : Path}

theorem faultless_of_entries (nothing : memory.faults.entries = []) : memory.Faultless := by
  intro path point
  simp [fault?, Table.get?, nothing]

/-- A stamp is that of the file there. -/
theorem file?_of_stamp {stamp : Stamp}
    (stamped : Storage.stamp memory path = .ok (some stamp)) :
    ∃ file, memory.file? path = some file ∧ stamp = memory.stampOf file := by
  change memory.stamp path = .ok (some stamp) at stamped
  rw [Memory.stamp] at stamped
  split at stamped
  · cases stamped
  · obtain ⟨file, there, rfl⟩ := Option.map_eq_some_iff.1 (Except.ok.inj stamped)
    exact ⟨file, there, rfl⟩

/-- Where there is said to be no stamp, there is no file. -/
theorem file?_of_no_stamp (stamped : Storage.stamp memory path = .ok none) :
    memory.file? path = none := by
  change memory.stamp path = .ok none at stamped
  rw [Memory.stamp] at stamped
  split at stamped
  · cases stamped
  · simpa using stamped

/-- What there is to read at a path, by the faults on the way and the file. -/
theorem content_eq (memory : Memory) (path : Path) :
    Storage.content memory path =
      match memory.fault? path .opening, memory.file? path, memory.fault? path .reading with
      | some error, _, _ => .error error
      | none, none, _ => .error (missing path)
      | none, some _, some error => .error error
      | none, some file, none => .ok file.content := by
  rw [Storage.content, show Storage.stream memory path = memory.stream path from rfl, Memory.stream]
  cases memory.fault? path .opening with
  | some error => rfl
  | none =>
    cases memory.file? path with
    | none => rfl
    | some file => cases fault : memory.fault? path .reading <;> simp [Stream.content]

/-- A content is that of the file there. -/
theorem file?_of_content {content : List UInt8}
    (read : Storage.content memory path = .ok content) :
    ∃ file, memory.file? path = some file ∧ file.content = content := by
  rw [content_eq] at read
  split at read
  · cases read
  · cases read
  · cases read
  · next file _ there _ => exact ⟨file, there, Except.ok.inj read⟩

theorem Faultless.stamp_ne_error (faultless : memory.Faultless) (path : Path) (error : IoError) :
    Storage.stamp memory path ≠ .error error := by
  change memory.stamp path ≠ .error error
  simp [Memory.stamp, faultless path]

/-- A storage without faults fails to give content only where there is no file, and says so. -/
theorem Faultless.file?_of_unread (faultless : memory.Faultless) {error : IoError}
    (read : Storage.content memory path = .error error) :
    memory.file? path = none ∧ error.kind = .notFound := by
  rw [content_eq, faultless path, faultless path] at read
  cases there : memory.file? path with
  | none =>
    rw [there] at read
    exact ⟨rfl, Except.error.inj read ▸ rfl⟩
  | some file =>
    rw [there] at read
    cases read

/-- A storage without faults hands out what it has. -/
theorem Faultless.stream_eq (faultless : memory.Faultless) (path : Path) :
    Storage.stream memory path =
      match memory.file? path with
      | some file => .ok ⟨file.content, none⟩
      | none => .error (missing path) := by
  change memory.stream path = _
  cases there : memory.file? path <;> simp [Memory.stream, faultless path, there]

/-- Two storages that answer alike about a place. -/
structure SameAt (place : Path) (first second : Memory) : Prop where
  stamp : Storage.stamp second place = Storage.stamp first place
  stream : Storage.stream second place = Storage.stream first place

theorem SameAt.content {place : Path} {first second : Memory} (same : SameAt place first second) :
    Storage.content second place = Storage.content first place := by
  rw [Storage.content, Storage.content, same.stream]

/-- A storage answers alike about a place as long as the file there is the same and nothing is
arranged. -/
theorem sameAt_of_file? {place : Path} {first second : Memory}
    (file : second.file? place = first.file? place) (faults : second.faults = first.faults)
    (frozen : second.frozen = first.frozen) : SameAt place first second := by
  have fault (point : FaultPoint) : second.fault? place point = first.fault? place point := by
    rw [fault?, fault?, faults]
  have stamps : second.stampOf = first.stampOf := by
    funext file
    rw [stampOf, stampOf, frozen]
  constructor
  · change second.stamp place = first.stamp place
    rw [Memory.stamp, Memory.stamp, fault, file, stamps]
  · change second.stream place = first.stream place
    rw [Memory.stream, Memory.stream, fault, fault, file]

variable {place : Path} (apart : path.components ≠ place.components)

include apart in
theorem sameAt_insert (content : List UInt8) :
    SameAt place memory (memory.insert path content) := by
  refine sameAt_of_file? ?_ rfl rfl
  rw [file?_insert, if_neg (Ne.symm apart)]

include apart in
/-- Giving a file elsewhere a new revision changes no answer about a place. -/
theorem sameAt_touch : SameAt place memory (memory.touch path).2 := by
  have file : (memory.touch path).2.file? place = memory.file? place := by
    rw [file?_touch, if_neg (Ne.symm apart)]
  refine sameAt_of_file? file ?_ ?_
  · rw [touch]
    split <;> rfl
  · rw [touch]
    split <;> rfl

include apart in
theorem sameAt_remove : SameAt place memory (memory.remove path).2 := by
  refine sameAt_of_file? ?_ rfl rfl
  rw [file?_remove, if_neg (Ne.symm apart)]

end TemplateTree.Memory
