import TemplateTree.Proofs.Session.Moments
import TemplateTree.Proofs.Storage.Answers
import TemplateTree.Proofs.Workspace.Steps

/-!
# Answers that are right for a moment

Between the stamp that a lookup asks for and its answer, others may change the file and use the
cache. `Explained` says that an answer is right for one of the storages in between. Main statements:
`explained_of_looksUp` for a lookup that is left to itself but for those who act while the file is
opened, and `serves_lookUp` for one among others, who may act between any two of its steps.
-/

namespace TemplateTree.Session

/-- An answer to a lookup that is right for one of these storages. -/
inductive Explained (storages : List Memory) (path : Path) :
    Except CompileError (Option DirectiveFile) → Prop where
  | found {storage content file} (member : storage ∈ storages) (held : storage.Holds path content)
      (placed : file.path.components = path.components)
      (made : DirectiveFile.ofContent file.path content = .ok file) :
      Explained storages path (.ok (some file))
  | absent {storage} (member : storage ∈ storages) (missing : storage.file? path = none) :
      Explained storages path (.ok none)
  | malformed {storage content error} (member : storage ∈ storages)
      (held : storage.Holds path content)
      (made : DirectiveFile.ofContent path content = .error error) :
      Explained storages path (.error error)

theorem Explained.mono {some all : List Memory} {path : Path}
    {result : Except CompileError (Option DirectiveFile)} (explained : Explained some path result)
    (more : some ⊆ all) : Explained all path result := by
  cases explained with
  | found member held placed made => exact .found (more member) held placed made
  | absent member missing => exact .absent (more member) missing
  | malformed member held made => exact .malformed (more member) held made

namespace Recorded

variable {before after last : Recorded} {number : Nat} {path : Path} {stamp : Stamp}

/-- A faithful entry explains an answer by any moment at which the path held a content with its
fingerprint. -/
theorem explained_of_faithful {past storages : List Memory} {entry : Cache.Entry}
    (faithful : entry.Faithful past path)
    (distinct : Set.InjOn Digest.fingerprint (Memory.contents past))
    {storage : Memory} (member : storage ∈ storages) (noted : storage ∈ past)
    {content : List UInt8} (held : storage.Holds path content)
    (same : entry.file.contentHash = Digest.fingerprint content) :
    Explained storages path (.ok (some entry.file)) :=
  .found member held faithful.placed
    (faithful.ofContent_eq distinct ⟨storage, noted, path, held⟩ same)

/-- An entry that is kept under the stamp which the file had at some point was right at that point,
or has become right since: it may have been read before that point, but then the file has not
changed between. -/
theorem explained_of_stamped (sound : Sound before) (final : Sound after)
    (past : before.agenda.past <+: after.agenda.past) {file : MemoryFile}
    (there : before.storage.file? path = some file) {entry : Cache.Entry}
    (stamped : entry.stamp = before.storage.stampOf file)
    (kept : (after.cache number).find? path = some entry)
    (distinct : Set.InjOn Digest.fingerprint (Memory.contents after.agenda.past)) :
    Explained (moments before after) path (.ok (some entry.file)) := by
  have faithful := final.faithful number path entry kept
  have version : file.revision = entry.stamp.version := by
    simp [stamped, Memory.stampOf, sound.thawed]
  obtain ⟨storage, noted, dated, content, held, hash⟩ := faithful.read
  rcases mem_or_mem_moments past noted with early | meanwhile
  · have was : storage.file? path = some file := by
      rcases (sound.ordered storage early).files path file there with was | ⟨above, -⟩
      · exact was
      · omega
    obtain ⟨old, holds, rfl⟩ := held
    obtain rfl : old = file := Option.some.inj (holds.symm.trans was)
    exact explained_of_faithful faithful distinct List.mem_cons_self
      (past.subset sound.mem_past) ⟨old, there, rfl⟩ hash
  · exact explained_of_faithful faithful distinct meanwhile noted held hash

/-- What is taken in explains the answer: it was read at one of the moments, or somebody else has
kept a file under the same stamp. -/
theorem explained_of_takesIn {earlier : Option Cache.Entry} {content : List UInt8}
    {result : Except CompileError DirectiveFile} (sound : Sound before) (final : Sound after)
    (past : before.agenda.past <+: after.agenda.past) {file : MemoryFile}
    (there : before.storage.file? path = some file)
    (taken : Workspace.TakesIn number path (before.storage.stampOf file) earlier content after
      result last)
    {storage : Memory} (member : storage ∈ moments before after)
    (held : storage.Holds path content)
    (faithful : ∀ entry, earlier = some entry → entry.Faithful after.agenda.past path)
    (distinct : Set.InjOn Digest.fingerprint (Memory.contents after.agenda.past)) :
    Explained (moments before after) path (result.map some) := by
  have kept (made : DirectiveFile)
      (fresh : Explained (moments before after) path (.ok (some made))) :
      Explained (moments before after) path
        (.ok (some ((after.cache number).kept path (before.storage.stampOf file) made))) := by
    rcases (after.cache number).kept_cases path (before.storage.stampOf file) made with
      same | ⟨entry, found, stamped, same⟩
    · rwa [same]
    · rw [same]
      exact explained_of_stamped sound final past there stamped found distinct
  have noted := moments_subset_past sound past member
  cases taken with
  | @revalidated entry known same =>
    exact kept entry.file
      (explained_of_faithful (faithful entry known) distinct member noted held same)
  | malformed _ read =>
    exact .malformed member held (DirectiveFile.ofContent_of_malformed read)
  | parsed _ read made =>
    subst made
    exact kept _ (.found member held rfl (DirectiveFile.ofContent_of_directivesIn read))

/-- A sound point of a recorded session. -/
abbrev Point := {recorded : Recorded // Sound recorded}

theorem mem_moments_of_later {start point now : Point} (begun : regime.Later start point)
    (later : regime.Later point now) : point.1.storage ∈ moments start.1 now.1 := by
  obtain ⟨_, begun⟩ := begun
  obtain ⟨_, later⟩ := later
  exact moments_subset_left later (present_mem_moments start.2 point.2 begun)

/-- The moments between two points on the way are among those of the whole way. -/
theorem moments_subset_of_later {start first last now : Point} (begun : regime.Later start first)
    (between : regime.Later first last) (ended : regime.Later last now) :
    moments first.1 last.1 ⊆ moments start.1 now.1 := by
  have present := mem_moments_of_later begun between
  obtain ⟨_, begun⟩ := begun
  obtain ⟨_, ended⟩ := ended
  exact List.Subset.trans (moments_subset_right present begun) (moments_subset_left ended)

theorem distinct_of_later {before after : Point} (later : regime.Later before after)
    (distinct : Set.InjOn Digest.fingerprint (Memory.contents after.1.agenda.past)) :
    Set.InjOn Digest.fingerprint (Memory.contents before.1.agenda.past) :=
  let ⟨_, past⟩ := later
  distinct.mono (Memory.contents_mono past.subset)

/-- The stamp of a file is not newer than the storage is at any later point. -/
theorem version_le_of_later {asked now : Point} (later : regime.Later asked now) {file : MemoryFile}
    (there : asked.1.storage.file? path = some file) :
    (asked.1.storage.stampOf file).version ≤ now.1.storage.revision := by
  obtain ⟨_, past⟩ := later
  have version : (asked.1.storage.stampOf file).version = file.revision := by
    simp [Memory.stampOf, asked.2.thawed]
  rw [version]
  exact (asked.2.dated path file there).trans
    (now.2.ordered _ (past.subset asked.2.mem_past)).revision

variable {interrupt : Interrupt Memory Chronicle} (advancing : Advancing interrupt)
include advancing

/-- Every course of a lookup is explained by one of its moments, where the storage does not fail and
fingerprints tell contents apart. -/
theorem explained_of_looksUp {result : Except CompileError (Option DirectiveFile)}
    (courses : Workspace.LooksUp interrupt number path before result after) (sound : Sound before)
    (first : before.storage.Faultless) (last : after.storage.Faultless)
    (distinct : Set.InjOn Digest.fingerprint (Memory.contents after.agenda.past)) :
    Explained (moments before after) path result := by
  obtain ⟨opened, past⟩ := advancing path before sound
  have present := present_mem_moments sound opened past
  cases courses with
  | unanswered stamped => exact absurd stamped (first.stamp_ne_error path _)
  | absent stamped => exact .absent List.mem_cons_self (Memory.file?_of_no_stamp stamped)
  | @hit entry stamped found =>
    obtain ⟨file, there, same⟩ := Memory.file?_of_stamp stamped
    exact explained_of_stamped sound sound List.prefix_rfl there same found distinct
  | vanished _ read _ => exact .absent present (last.file?_of_unread read).1
  | unreadable _ read kind => exact absurd (last.file?_of_unread read).2 kind
  | read stamped _ read taken =>
    obtain ⟨file, there, rfl⟩ := Memory.file?_of_stamp stamped
    have same : after.agenda.past = (interrupt path before).agenda.past := by
      cases taken <;> rfl
    rw [same] at distinct
    have explained := explained_of_takesIn sound opened past there taken present
      (Memory.file?_of_content read)
      (fun entry known => (sound.faithful number path entry known).later past.subset) distinct
    rwa [moments, ← same] at explained

/-- The regime of sound points allows for every lookup, and its answer is explained by one of the
moments from its beginning on, where the storage does not fail at any of them and fingerprints tell
contents apart. -/
theorem serves_lookUp (number : Nat) (path : Path) (start : Point) :
    Workspace.Serves interrupt regime number path (fun now result =>
      (∀ storage ∈ moments start.1 now.1, storage.Faultless) →
        Set.InjOn Digest.fingerprint (Memory.contents now.1.agenda.past) →
        Explained (moments start.1 now.1) path result) 0 start where
  opening := allows_of_advances (advancing path)
  unanswered begun stamped := ⟨rfl, fun now later faultless _ =>
    absurd stamped ((faultless _ (mem_moments_of_later begun later)).stamp_ne_error path _)⟩
  absent {_ now} begun later stamped :=
    (allows_of_advances (advances_evict number path)).reaches now fun final further _ _ =>
      .absent (mem_moments_of_later begun (later.trans further)) (Memory.file?_of_no_stamp stamped)
  hit {asked now entry} begun ready stamped kept :=
    (allows_of_advances (advances_countHit number)).reaches now fun final later _ distinct => by
      obtain ⟨file, there, same⟩ := Memory.file?_of_stamp stamped
      have subset := moments_subset_of_later begun ready later
      obtain ⟨_, past⟩ := ready
      exact (explained_of_stamped asked.2 now.2 past there same kept
        (distinct_of_later later distinct)).mono subset
  vanished {_ _ _ now _ _} begun ready reading later _ _ read _ :=
    (allows_of_advances (advances_evict number path)).reaches now fun final further faultless _ => by
      have present := mem_moments_of_later (begun.trans (ready.trans reading))
        (later.trans further)
      exact .absent present ((faultless _ present).file?_of_unread read).1
  unreadable begun ready reading _ _ read kind := ⟨rfl, fun now later faultless _ => by
    have present := mem_moments_of_later (begun.trans (ready.trans reading)) later
    exact absurd ((faultless _ present).file?_of_unread read).2 kind⟩
  read {asked consulted opened now _ content _ after} begun ready reading later stamped _ read
      taken := by
    obtain ⟨file, there, rfl⟩ := Memory.file?_of_stamp stamped
    have held := Memory.file?_of_content read
    have first := ready.trans reading
    have member := mem_moments_of_later first later
    obtain ⟨_, since⟩ := first.trans later
    have known (entry : Cache.Entry) (kept : (consulted.1.cache number).find? path = some entry) :
        entry.Faithful now.1.agenda.past path := by
      obtain ⟨_, past⟩ := reading.trans later
      exact (consulted.2.faithful number path entry kept).later past.subset
    obtain ⟨final, further⟩ := advances_of_takesIn taken ⟨opened.1.storage,
      moments_subset_past asked.2 since member, version_le_of_later first there, held⟩ known now.2
    have passed : regime.Later now ⟨after, final⟩ := ⟨(), further⟩
    refine ⟨⟨after, final⟩, further, rfl, fun last ended _ distinct => ?_⟩
    have explained := explained_of_takesIn asked.2 now.2 since there taken member held known
      (distinct_of_later (passed.trans ended) distinct)
    exact explained.mono (moments_subset_of_later begun ⟨_, since⟩ (passed.trans ended))

end Recorded

end TemplateTree.Session
