import Mathlib.Data.List.Infix
import TemplateTree.Proofs.Cache.Faithful
import TemplateTree.Proofs.Process.Interference
import TemplateTree.Proofs.Session.Chronicle

/-!
# Moments of a recorded session

`Sound` is what holds at every point of a session: the entries of all caches are faithful to the
storages there have been. `regime` lets sound points follow one another as long as the chronicle is
continued; `moments` are the storages that it has from one point to a later one.
-/

namespace TemplateTree.Session.Recorded

/-- What holds at every point of a session. Stamps give revisions, the chronicle ends with the
present storage and is in order, and all caches are faithful. -/
structure Sound (recorded : Recorded) : Prop where
  thawed : recorded.storage.frozen = false
  noted : recorded.agenda.past.getLast? = some recorded.storage
  ordered : ∀ earlier ∈ recorded.agenda.past, earlier.Later recorded.storage
  dated : ∀ path file, recorded.storage.file? path = some file →
    file.revision ≤ recorded.storage.revision
  faithful : ∀ number path entry, (recorded.cache number).find? path = some entry →
    entry.Faithful recorded.agenda.past path

/-- A point that a sound one leads to is sound too, and continues its chronicle. -/
def Advances (before after : Recorded) : Prop :=
  Sound before → Sound after ∧ before.agenda.past <+: after.agenda.past

/-- Whatever others do while a file is opened, they advance. -/
abbrev Advancing (interrupt : Interrupt Memory Chronicle) : Prop :=
  ∀ path recorded, Advances recorded (interrupt path recorded)

/-- The storages from one point to a later one. -/
def moments (before after : Recorded) : List Memory :=
  before.storage :: after.agenda.past.drop before.agenda.past.length

variable {before middle after recorded : Recorded}

theorem Sound.mem_past (sound : Sound recorded) : recorded.storage ∈ recorded.agenda.past :=
  List.mem_of_getLast? sound.noted

/-- A storage that has been there was there before a point, or is one of the moments from there. -/
theorem mem_or_mem_moments (past : before.agenda.past <+: after.agenda.past) {storage : Memory}
    (member : storage ∈ after.agenda.past) :
    storage ∈ before.agenda.past ∨ storage ∈ moments before after := by
  obtain ⟨further, whole⟩ := past
  rw [moments, ← whole, List.drop_left]
  rw [← whole] at member
  exact (List.mem_append.1 member).imp_right (List.mem_cons_of_mem _)

theorem moments_subset_past (sound : Sound before)
    (past : before.agenda.past <+: after.agenda.past) :
    moments before after ⊆ after.agenda.past :=
  List.cons_subset.2 ⟨past.subset sound.mem_past, List.drop_subset _ _⟩

/-- The present storage is the last moment. -/
theorem present_mem_moments (sound : Sound before) (final : Sound after)
    (past : before.agenda.past <+: after.agenda.past) : after.storage ∈ moments before after := by
  obtain ⟨further, whole⟩ := past
  have last := final.noted
  rw [moments, ← whole, List.drop_left]
  rw [← whole, List.getLast?_append, sound.noted] at last
  cases ends : further.getLast? with
  | none =>
    rw [ends] at last
    exact List.mem_cons.2 (.inl (Option.some.inj last).symm)
  | some storage =>
    rw [ends] at last
    obtain rfl : storage = after.storage := Option.some.inj last
    exact List.mem_cons_of_mem _ (List.mem_of_getLast? ends)

theorem moments_subset_left (past : middle.agenda.past <+: after.agenda.past) :
    moments before middle ⊆ moments before after :=
  List.cons_subset_cons _ (List.IsPrefix.drop past _).subset

/-- The moments from a point on are among those from an earlier one on. -/
theorem moments_subset_right (present : middle.storage ∈ moments before after)
    (past : before.agenda.past <+: middle.agenda.past) :
    moments middle after ⊆ moments before after := by
  have dropped : after.agenda.past.drop middle.agenda.past.length ⊆
      after.agenda.past.drop before.agenda.past.length :=
    (List.drop_sublist_drop_left _ past.length_le).subset
  exact List.cons_subset.2 ⟨present, fun storage member => List.mem_cons_of_mem _ (dropped member)⟩

/-- Sound points, and how they follow one another. -/
def regime : Process.Regime {recorded : Recorded // Sound recorded} Recorded Unit where
  seen := Subtype.val
  adds _ before after := before.1.agenda.past <+: after.1.agenda.past
  nothing _ := List.prefix_rfl
  more := List.IsPrefix.trans

theorem allows_of_advances {change : Recorded → Recorded}
    (advances : ∀ recorded, Advances recorded (change recorded)) : regime.Allows change := by
  rintro ⟨recorded, sound⟩
  obtain ⟨final, past⟩ := advances recorded sound
  exact ⟨⟨change recorded, final⟩, past, rfl⟩

theorem Advances.trans (first : Advances before middle) (second : Advances middle after) :
    Advances before after := by
  intro sound
  obtain ⟨halfway, past⟩ := first sound
  obtain ⟨final, further⟩ := second halfway
  exact ⟨final, past.trans further⟩

/-- A session advances by entries that are faithful to what has been stored. -/
theorem advances_of_entries (storage : after.storage = before.storage)
    (past : after.agenda.past = before.agenda.past)
    (entries : ∀ number path entry, (after.cache number).find? path = some entry →
      (before.cache number).find? path = some entry ∨ entry.Faithful before.agenda.past path) :
    Advances before after := by
  intro sound
  refine ⟨⟨?_, ?_, ?_, ?_, fun number path entry found => ?_⟩, past ▸ List.prefix_rfl⟩
  · exact storage ▸ sound.thawed
  · rw [past, storage]
    exact sound.noted
  · rw [past, storage]
    exact sound.ordered
  · rw [storage]
    exact sound.dated
  · rw [past]
    exact (entries number path entry found).elim (sound.faithful number path entry) id

/-- A session advances while no entry is made and the storage stays. -/
theorem advances_of_unchanged (storage : after.storage = before.storage)
    (past : after.agenda.past = before.agenda.past)
    (entries : ∀ number path entry, (after.cache number).find? path = some entry →
      (before.cache number).find? path = some entry) :
    Advances before after :=
  advances_of_entries storage past fun number path entry found =>
    .inl (entries number path entry found)

theorem advances_of_caches (storage : after.storage = before.storage)
    (past : after.agenda.past = before.agenda.past) (caches : after.caches = before.caches) :
    Advances before after := by
  refine advances_of_unchanged storage past fun number path entry found => ?_
  rwa [Workspace.cache, caches] at found

theorem Advances.refl (recorded : Recorded) : Advances recorded recorded :=
  advances_of_caches rfl rfl rfl

/-- A session advances by a change of its storage, once it is noted. -/
theorem advances_note {state : State} (caches : state.caches = recorded.caches)
    (later : recorded.storage.Later state.storage) : Advances recorded (recorded.note state) := by
  intro sound
  have past : recorded.agenda.past <+: (recorded.note state).agenda.past := List.prefix_append ..
  refine ⟨⟨later.frozen.trans sound.thawed, List.getLast?_concat, ?_, ?_, ?_⟩, past⟩
  · intro earlier member
    rcases List.mem_append.1 member with member | member
    · exact (sound.ordered earlier member).trans later
    · obtain rfl := List.mem_singleton.1 member
      exact .refl _
  · intro path file there
    rcases later.files path file there with there | ⟨-, below⟩
    · exact (sound.dated path file there).trans later.revision
    · exact below
  · intro number path entry found
    have same : (recorded.note state).cache number = recorded.cache number :=
      congrArg (·.getD number .empty) caches
    rw [same] at found
    exact (sound.faithful number path entry found).later past.subset

theorem advances_evict (number : Nat) (path : Path) (recorded : Recorded) :
    Advances recorded (recorded.updateCache number (·.evict path)) := by
  refine advances_of_unchanged rfl rfl fun other place entry found => ?_
  rcases Workspace.find?_of_find?_updateCache found with before | ⟨rfl, left⟩
  · exact before
  · exact Cache.find?_of_find?_evict left

theorem advances_countHit (number : Nat) (recorded : Recorded) :
    Advances recorded (recorded.updateCache number Cache.countHit) := by
  refine advances_of_unchanged rfl rfl fun other place entry found => ?_
  rwa [Workspace.find?_updateCache place (Cache.find?_countHit · place)] at found

/-- A session advances by taking in what has been stored since its stamp was given. -/
theorem advances_of_takesIn {number : Nat} {path : Path} {stamp : Stamp}
    {earlier : Option Cache.Entry} {content : List UInt8}
    {result : Except CompileError DirectiveFile}
    (taken : Workspace.TakesIn number path stamp earlier content before result after)
    (read : ∃ storage ∈ before.agenda.past, stamp.version ≤ storage.revision ∧
      storage.Holds path content)
    (faithful : ∀ entry, earlier = some entry → entry.Faithful before.agenda.past path) :
    Advances before after := by
  obtain ⟨storage, member, dated, held⟩ := read
  have fresh {file : DirectiveFile} {place : Path} {entry : Cache.Entry}
      (parsed : ∃ content ∈ Memory.contents before.agenda.past,
        DirectiveFile.ofContent file.path content = .ok file)
      (placed : file.path.components = path.components)
      (hash : file.contentHash = Digest.fingerprint content)
      (new : place.components = path.components ∧ entry = ⟨stamp, file⟩) :
      entry.Faithful before.agenda.past place := by
    obtain ⟨there, rfl⟩ := new
    exact Cache.Entry.Faithful.congr
      ⟨parsed, placed, storage, member, dated, content, held, hash⟩ there
  refine advances_of_entries ?_ ?_ fun other place entry found => ?_
  · cases taken <;> rfl
  · cases taken <;> rfl
  · cases taken with
    | revalidated held same =>
      rcases Workspace.find?_of_find?_updateCache_keep found with found | new
      · rw [Workspace.find?_updateCache place (Cache.find?_countRevalidation · place)] at found
        exact .inl found
      · have origin := faithful _ held
        exact .inr (fresh origin.parsed origin.placed same new)
    | malformed _ _ =>
      rw [Workspace.find?_updateCache place (Cache.find?_countMiss · place)] at found
      exact .inl found
    | parsed _ read made =>
      rcases Workspace.find?_of_find?_updateCache_keep found with found | new
      · change ((before.updateCache number Cache.countMiss).cache other).find? place = _ at found
        rw [Workspace.find?_updateCache place (Cache.find?_countMiss · place)] at found
        exact .inl found
      · subst made
        exact .inr (fresh ⟨content, ⟨storage, member, path, held⟩,
          DirectiveFile.ofContent_of_directivesIn read⟩ rfl rfl new)

end TemplateTree.Session.Recorded
