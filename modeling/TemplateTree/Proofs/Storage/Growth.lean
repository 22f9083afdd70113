import Mathlib.Data.List.TakeWhile
import TemplateTree.Proofs.Storage.Walks

/-!
# Disks that grow

What an entry put where nothing stands changes of a disk, and what making directories does: it adds
directories and nothing else, and ends with a path that leads to one. Main statement:
`of_makeDirectories`.
-/

namespace TemplateTree.Disk

variable {disk before after : Disk} {place goal : Place} {path : Path}

/-- Only the place at which an entry is put has another entry then. -/
theorem entryAt_put (filled : place ≠ []) (disk : Disk) (entry : Entry) (other : Place) :
    (disk.put place entry).entryAt other =
      if other = place then some entry else disk.entryAt other := by
  rw [entryAt, entryAt, put, Table.get?_insert]
  by_cases top : other = []
  · simp [top, filled.symm]
  · simp [top]

/-- A disk grows by what is put where nothing stands. -/
theorem Grown.put (filled : place ≠ []) (nothing : disk.entryAt place = none) (entry : Entry) :
    disk.Grown (disk.put place entry) where
  current := rfl
  kept := by
    intro other standing there
    have different : other ≠ place := by
      rintro rfl
      cases nothing.symm.trans there
    rw [entryAt_put filled, if_neg different, there]

/-- A path that leads to a directory leads to it when the disk has grown. -/
theorem Grown.directoryAt? (grown : before.Grown after)
    (there : before.directoryAt? path = some place) : after.directoryAt? path = some place := by
  rw [directoryAt?_eq_some_iff] at there ⊢
  rcases there with ⟨empty, current⟩ | ⟨filled, found⟩
  · exact .inl ⟨empty, grown.current.trans current⟩
  · obtain ⟨proper, walked⟩ := findWith_eq_ok_iff.1 found
    obtain ⟨left, walks⟩ := (leads_of_findFrom walked).goes_on (.inl rfl)
    have walks := walks after grown Found.noConfusion []
    rw [List.append_nil, findFrom_nil] at walks
    refine .inr ⟨filled, findWith_eq_ok_iff.2 ⟨proper, ?_⟩⟩
    rw [← walks, origin, grown.current, ← origin]

/-- What has a stamp is a file. -/
theorem find_of_stamp {stamp : Stamp} (stamped : disk.stamp path = .ok (some stamp)) :
    ∃ place content, disk.find path = .ok (.entry place (.file content)) := by
  rw [Disk.stamp] at stamped
  split at stamped
  · next place content led => exact ⟨place, content, led⟩
  · cases stamped
  · split at stamped <;> cases stamped

/-- What can be read to its end has a stamp. -/
theorem exists_stamp_of_content {source : Stream} {bytes : List UInt8}
    (opened : disk.stream path = .ok source) (read : source.content = .ok bytes) :
    ∃ stamp, disk.stamp path = .ok (some stamp) := by
  rw [stream] at opened
  split at opened
  · next place content led => exact ⟨_, by rw [stamp, led]⟩
  · cases opened
    cases read
  · cases opened
  · cases opened

/-- A disk that differs from another by more directories. -/
structure MoreDirectories (before after : Disk) : Prop where
  grown : before.Grown after
  added : ∀ {place entry}, after.entryAt place = some entry →
    before.entryAt place = some entry ∨ entry = .directory

namespace MoreDirectories

theorem refl (disk : Disk) : disk.MoreDirectories disk := ⟨.refl disk, .inl⟩

theorem trans {middle : Disk} (first : before.MoreDirectories middle)
    (second : middle.MoreDirectories after) : before.MoreDirectories after where
  grown := first.grown.trans second.grown
  added there := (second.added there).elim first.added .inr

/-- A directory is put where nothing stands. -/
theorem put (filled : place ≠ []) (nothing : disk.entryAt place = none) :
    disk.MoreDirectories (disk.put place .directory) where
  grown := .put filled nothing .directory
  added := by
    intro other entry there
    rw [entryAt_put filled] at there
    split at there
    · exact .inr (Option.some.inj there).symm
    · exact .inl there

/-- A path that leads anywhere leads there when directories have been added, or else to one that has
been added where it found nothing. -/
theorem find_of_ok {found : Found} (more : before.MoreDirectories after)
    (led : before.find path = .ok found) :
    after.find path = .ok found ∨
      ∃ place, found = .vacant place ∧ after.find path = .ok (.entry place .directory) := by
  obtain ⟨proper, walked⟩ := findWith_eq_ok_iff.1 led
  have start : after.origin path = before.origin path := by
    rw [origin, origin, more.grown.current]
  have leads := leads_of_findFrom walked
  by_cases nothing : ∀ goal, found = .vacant goal → after.entryAt goal = none
  · refine .inl (findWith_eq_ok_iff.2 ⟨proper, ?_⟩)
    rw [start]
    exact leads.again more.grown nothing
  · push Not at nothing
    obtain ⟨place, rfl, standing⟩ := nothing
    obtain ⟨entry, standing⟩ := Option.ne_none_iff_exists'.1 standing
    obtain rfl : entry = .directory :=
      (more.added standing).resolve_left fun stood => by cases leads.of_vacant.2.symm.trans stood
    obtain ⟨left, walks⟩ := leads.goes_on (.inr rfl)
    have arrives := walks after more.grown (fun _ => standing) []
    rw [List.append_nil, findFrom_nil, ← start] at arrives
    exact .inr ⟨place, rfl, findWith_eq_ok_iff.2 ⟨proper, arrives⟩⟩

/-- A path that led to a vacant place, and leads to a directory now, leads to that place. -/
theorem directoryAt?_of_vacant (more : before.MoreDirectories after)
    (vacant : before.find path = .ok (.vacant goal))
    (there : after.directoryAt? path = some place) : goal = place := by
  have filled : path.text ≠ "" := by
    intro empty
    have proper := (findWith_eq_ok_iff.1 vacant).1
    simp [fault?, empty] at proper
  obtain ⟨-, found⟩ :=
    (directoryAt?_eq_some_iff.1 there).resolve_left fun empty => filled empty.1
  rcases more.find_of_ok vacant with still | ⟨_, ⟨⟩, made⟩
  · cases still.symm.trans found
  · exact (Found.entry.inj (Except.ok.inj (made.symm.trans found))).1

/-- A path that could not be followed, but not because something was missing, still cannot. -/
theorem find_eq_error_again {error : IoError} (more : before.MoreDirectories after)
    (failed : before.find path = .error error) (other : error.kind ≠ .notFound) :
    after.find path = .error error := by
  rw [find, findWith] at failed ⊢
  split at failed
  · exact failed
  · rw [origin, more.grown.current, ← origin]
    exact findFrom_eq_error_again more.grown failed other

/-- Added directories change no stamp, unless they bring a file to light where there was none. -/
theorem stamp_eq (more : before.MoreDirectories after)
    (hidden : before.stamp path = .ok none → after.stamp path = .ok none) :
    after.stamp path = before.stamp path := by
  cases led : before.find path with
  | error error =>
    by_cases missing : error.kind = .notFound
    · have nothing : before.stamp path = .ok none := by simp only [stamp, led, if_pos missing]
      rw [hidden nothing, nothing]
    · rw [stamp, stamp, led, more.find_eq_error_again led missing]
  | ok found =>
    rcases more.find_of_ok led with still | ⟨place, rfl, made⟩
    · rw [stamp, stamp, led, still]
    · simp only [stamp, led, made]

theorem stream_eq {stamp : Stamp} (more : before.MoreDirectories after)
    (stamped : before.stamp path = .ok (some stamp)) : after.stream path = before.stream path := by
  obtain ⟨place, content, led⟩ := find_of_stamp stamped
  rcases more.find_of_ok led with still | ⟨_, ⟨⟩, _⟩
  rw [stream, stream, led, still]

end MoreDirectories

/-- The slashes at the end of a path are all that is taken from it. -/
theorem exists_slashes (path : Path) :
    ∃ count, path.text.toList =
      (withoutTrailingSlashes path).text.toList ++ List.replicate count '/' := by
  rw [withoutTrailingSlashes]
  split
  · exact ⟨0, by simp⟩
  · next kept =>
    have slashes : ∀ c ∈ (path.text.toList.reverse.takeWhile (· = '/')).reverse, c = '/' := by
      intro c member
      simpa using List.mem_takeWhile_imp (List.mem_reverse.1 member)
    obtain ⟨count, slashes⟩ : ∃ count, _ = List.replicate count '/' :=
      ⟨_, List.eq_replicate_of_mem slashes⟩
    refine ⟨count, ?_⟩
    rw [String.toList_ofList, ← slashes, ← List.reverse_append,
      List.takeWhile_append_dropWhile, List.reverse_reverse]

/-- Slashes at the end of a path add empty parts to it. -/
theorem pieces_append_slashes (text : List Char) (count : Nat) :
    Path.pieces (text ++ List.replicate count '/') =
      Path.pieces text ++ List.replicate count [] := by
  induction count with
  | zero => simp
  | succ count inductionHypothesis =>
    rw [List.replicate_succ', ← List.append_assoc, Path.pieces_append_slash, inductionHypothesis,
      List.replicate_succ', List.append_assoc]
    rfl

/-- Empty parts lead nowhere. -/
theorem findFrom_replicate (disk : Disk) (follow : Bool) (links : Nat) (place : Place)
    (count : Nat) :
    disk.findFrom follow links place (List.replicate count []) = .ok (.entry place .directory) := by
  induction count with
  | zero => exact findFrom_nil ..
  | succ count inductionHypothesis =>
    rw [List.replicate_succ, findFrom_of_none rfl, inductionHypothesis]

/-- A directory that is added is one more, and the path leads to it. -/
theorem of_add (added : disk.add path .directory = .ok after) :
    disk.MoreDirectories after ∧ after.isDirectory path = true := by
  rw [add] at added
  split at added
  · cases added
  · cases added
  · cases added
  · next proper found =>
    next place =>
    obtain rfl := Except.ok.inj added
    obtain ⟨properly, walked⟩ := findWith_eq_ok_iff.1 found
    have leads := leads_of_findFrom walked
    obtain ⟨below, nothing⟩ := leads.of_vacant
    have more := MoreDirectories.put below nothing
    refine ⟨more, ?_⟩
    -- The walk finds the directory where it found nothing, and the slashes lead no further.
    obtain ⟨left, walks⟩ := leads.goes_on (.inr rfl)
    obtain ⟨count, spelled⟩ := exists_slashes path
    have filled : (withoutTrailingSlashes path).text ≠ "" := by
      intro empty
      simp [fault?, empty] at properly
    have start : disk.origin path = disk.origin (withoutTrailingSlashes path) := by
      rw [origin, origin, Path.isAbsolute, Path.isAbsolute, spelled,
        Path.isRooted_append (mt String.toList_eq_nil_iff.1 filled)]
    have made : (disk.put place .directory).entryAt place = some .directory := by
      rw [entryAt_put below, if_pos rfl]
    have again := walks _ more.grown (fun _ => made) (List.replicate count [])
    rw [← pieces_append_slashes, ← spelled, findFrom_replicate, ← start] at again
    have arrives : (disk.put place .directory).find path = .ok (.entry place .directory) :=
      findWith_eq_ok_iff.2 ⟨proper, again⟩
    rw [isDirectory, arrives]

/-- What is a directory already is left as it is. -/
theorem of_isDirectory {error : IoError}
    (made : (if disk.isDirectory path then .ok disk else .error error) = Except.ok after) :
    disk.MoreDirectories after ∧ after.isDirectory path = true := by
  split at made
  · next there =>
    obtain rfl := Except.ok.inj made
    exact ⟨.refl disk, there⟩
  · cases made

/-- A directory that is made along with those above it is there then, and only directories have been
added. -/
theorem of_makeDirectoriesBelow {above : List Path}
    (made : disk.makeDirectoriesBelow path above = .ok after) :
    disk.MoreDirectories after ∧ after.isDirectory path = true := by
  induction above generalizing disk path after with
  | nil =>
    rw [makeDirectoriesBelow] at made
    split at made
    · next added =>
      obtain rfl := Except.ok.inj made
      exact of_add added
    · exact of_isDirectory made
  | cons parent above inductionHypothesis =>
    rw [makeDirectoriesBelow] at made
    split at made
    · next added =>
      obtain rfl := Except.ok.inj made
      exact of_add added
    · split at made
      · split at made
        · cases made
        · next below outer =>
          -- The directories above come first.
          have first : disk.MoreDirectories below := by
            split at outer
            · obtain rfl := Except.ok.inj outer
              exact .refl disk
            · exact (inductionHypothesis outer).1
          split at made
          · next added =>
            obtain rfl := Except.ok.inj made
            obtain ⟨second, there⟩ := of_add added
            exact ⟨first.trans second, there⟩
          · obtain ⟨second, there⟩ := of_isDirectory made
            exact ⟨first.trans second, there⟩
      · exact of_isDirectory made

/-- Where directories have been made, only directories have been added, and the path leads to one.
-/
theorem of_makeDirectories (made : disk.makeDirectories path = .ok after) :
    disk.MoreDirectories after ∧ ∃ place, after.directoryAt? path = some place := by
  rw [makeDirectories] at made
  split at made
  · next empty =>
    obtain rfl := Except.ok.inj made
    exact ⟨.refl disk, disk.current, directoryAt?_eq_some_iff.2 (.inl ⟨by simpa using empty, rfl⟩)⟩
  · next filled =>
    obtain ⟨more, there⟩ := of_makeDirectoriesBelow made
    refine ⟨more, ?_⟩
    rw [isDirectory] at there
    split at there
    · next place found =>
      exact ⟨place, directoryAt?_eq_some_iff.2 (.inr ⟨by simpa using filled, found⟩)⟩
    · cases there

end TemplateTree.Disk
