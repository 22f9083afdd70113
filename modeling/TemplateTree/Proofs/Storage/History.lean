import TemplateTree.Proofs.Storage.Answers

/-!
# The history of a storage in memory

A storage begins empty and is changed again and again. The revision of a file goes back to the last
change made at its path, and no other change has taken the same one. Main statement:
`stamp_identifies_revision`.
-/

namespace TemplateTree.Memory

/-- A change of a storage in memory. -/
inductive Change where
  | insert (path : Path) (content : List UInt8)
  | touch (path : Path)
  | remove (path : Path)

namespace Change

/-- Where a change is made. -/
def path : Change → Path
  | insert path _ => path
  | touch path => path
  | remove path => path

/-- Whether a change takes a revision. Giving a new one takes it even where there is no file. -/
def takesRevision : Change → Bool
  | insert _ _ => true
  | touch _ => true
  | remove _ => false

/-- The storage after a change. -/
def apply (memory : Memory) : Change → Memory
  | insert path content => memory.insert path content
  | touch path => (memory.touch path).2
  | remove path => (memory.remove path).2

end Change

/-- The storage after the first few changes of a history, the number of which is the moment. -/
def atMoment (history : List Change) (moment : Nat) : Memory :=
  (history.take moment).foldl Change.apply {}

/-- The change that gave the file at a path the revision it has at a moment: it took this revision,
and no change has been made at the path since. -/
structure Origin (history : List Change) (path : Path) (moment : Nat) (file : MemoryFile)
    (origin : Nat) : Prop where
  earlier : origin < moment
  here : ∃ change, history[origin]? = some change ∧ change.path.components = path.components
  next : file.revision = (atMoment history origin).revision + 1
  last : (atMoment history (origin + 1)).revision = file.revision
  since : ∀ between change, origin < between → between < moment →
    history[between]? = some change → change.path.components ≠ path.components

variable {memory : Memory} {history : List Change} {change : Change} {path other : Path}
variable {file : MemoryFile} {moment first last origin : Nat}

theorem Later.apply (memory : Memory) (change : Change) : Later memory (change.apply memory) := by
  cases change with
  | insert path content => exact .insert memory path content
  | touch path => exact .touch memory path
  | remove path => exact .remove memory path

/-- A change takes one revision or none. -/
theorem revision_apply (memory : Memory) (change : Change) :
    (change.apply memory).revision = memory.revision + change.takesRevision.toNat := by
  cases change with
  | insert | remove => rfl
  | touch path =>
    rw [Change.apply, Memory.touch]
    split <;> rfl

/-- No change arranges failures. -/
theorem faults_apply (memory : Memory) (change : Change) :
    (change.apply memory).faults = memory.faults := by
  cases change with
  | insert | remove => rfl
  | touch path =>
    rw [Change.apply, Memory.touch]
    split <;> rfl

/-- A file that is there after a change was there before, if the change was made elsewhere, or else
has the revision that the change took. -/
theorem file?_apply (there : (change.apply memory).file? path = some file) :
    change.path.components ≠ path.components ∧ memory.file? path = some file ∨
      change.path.components = path.components ∧ file.revision = memory.revision + 1 ∧
        (change.apply memory).revision = memory.revision + 1 := by
  have taken := revision_apply memory change
  cases change with
  | insert place content =>
    rw [Change.apply, file?_insert] at there
    split at there
    · next same =>
      cases there
      exact .inr ⟨same.symm, rfl, taken⟩
    · next apart => exact .inl ⟨Ne.symm apart, there⟩
  | touch place =>
    rw [Change.apply, file?_touch] at there
    split at there
    · next same =>
      obtain ⟨before, -, rfl⟩ := Option.map_eq_some_iff.1 there
      exact .inr ⟨same.symm, rfl, taken⟩
    · next apart => exact .inl ⟨Ne.symm apart, there⟩
  | remove place =>
    rw [Change.apply, file?_remove] at there
    split at there
    · cases there
    · next apart => exact .inl ⟨Ne.symm apart, there⟩

theorem sameAt_apply (apart : change.path.components ≠ path.components) :
    SameAt path memory (change.apply memory) := by
  cases change with
  | insert place content => exact sameAt_insert apart content
  | touch place => exact sameAt_touch apart
  | remove place => exact sameAt_remove apart

/-- From one moment to the next there is one change, or the history has ended. -/
theorem atMoment_succ (history : List Change) (moment : Nat) :
    atMoment history (moment + 1) =
      match history[moment]? with
      | some change => change.apply (atMoment history moment)
      | none => atMoment history moment := by
  rw [atMoment, List.take_add_one, List.foldl_append, ← atMoment]
  cases history[moment]? <;> rfl

/-- The revision of a storage counts the changes that took one. -/
theorem revision_atMoment (history : List Change) (moment : Nat) :
    (atMoment history moment).revision = (history.take moment).countP Change.takesRevision := by
  induction moment with
  | zero => rfl
  | succ moment inductionHypothesis =>
    rw [atMoment_succ, List.take_add_one, List.countP_append, ← inductionHypothesis]
    cases history[moment]? with
    | none => rfl
    | some change =>
      rw [revision_apply]
      cases taken : change.takesRevision <;> simp [taken]

/-- Later moments come later. -/
theorem later_atMoment (history : List Change) (order : first ≤ last) :
    Later (atMoment history first) (atMoment history last) := by
  induction order with
  | refl => exact .refl _
  | @step last _ inductionHypothesis =>
    refine inductionHypothesis.trans ?_
    rw [atMoment_succ]
    split
    · exact .apply ..
    · exact .refl _

/-- As long as all changes are made elsewhere, the answers about a path stay the same. -/
theorem sameAt_atMoment (order : first ≤ last)
    (elsewhere : ∀ moment change, first ≤ moment → moment < last →
      history[moment]? = some change → change.path.components ≠ path.components) :
    SameAt path (atMoment history first) (atMoment history last) := by
  induction order with
  | refl => exact ⟨rfl, rfl⟩
  | @step last order inductionHypothesis =>
    have before := inductionHypothesis fun moment change behind within =>
      elsewhere moment change behind (Nat.lt_succ_of_lt within)
    rw [atMoment_succ]
    split
    · next change made =>
      have after : SameAt path (atMoment history last) (change.apply (atMoment history last)) :=
        sameAt_apply (elsewhere last change order (Nat.lt_succ_self last) made)
      exact ⟨after.stamp.trans before.stamp, after.stream.trans before.stream⟩
    · exact before

/-- No failure is arranged at any moment. -/
theorem faultless_atMoment (history : List Change) (moment : Nat) :
    (atMoment history moment).Faultless := by
  refine faultless_of_entries ?_
  induction moment with
  | zero => rfl
  | succ moment inductionHypothesis =>
    rw [atMoment_succ]
    split
    · rwa [faults_apply]
    · exact inductionHypothesis

/-- At every moment, a stamp tells the revision of the file and its length. -/
theorem exists_file_of_stamp {stamp : Stamp}
    (stamped : Storage.stamp (atMoment history moment) path = .ok (some stamp)) :
    ∃ file, (atMoment history moment).file? path = some file ∧
      stamp = ⟨file.revision, file.content.length⟩ := by
  obtain ⟨file, there, rfl⟩ := file?_of_stamp stamped
  have plain := (later_atMoment history (Nat.zero_le moment)).frozen
  exact ⟨file, there, by rw [stampOf, plain]; rfl⟩

/-- The revision of every file that is there has an origin. -/
theorem exists_origin (there : (atMoment history moment).file? path = some file) :
    ∃ origin, Origin history path moment file origin := by
  induction moment with
  | zero => cases there
  | succ moment inductionHypothesis =>
    have elsewhere (before : (atMoment history moment).file? path = some file)
        (apart : ∀ change, history[moment]? = some change →
          change.path.components ≠ path.components) :
        ∃ origin, Origin history path (moment + 1) file origin := by
      obtain ⟨origin, is⟩ := inductionHypothesis before
      refine ⟨origin, { is with earlier := Nat.lt_succ_of_lt is.earlier, since := ?_ }⟩
      intro between change behind within made
      rcases Nat.lt_or_eq_of_le (Nat.le_of_lt_succ within) with inside | rfl
      · exact is.since between change behind inside made
      · exact apart change made
    rw [atMoment_succ] at there
    split at there
    · next change made =>
      rcases file?_apply there with ⟨apart, before⟩ | ⟨same, next, last⟩
      · exact elsewhere before fun other again =>
          Option.some.inj (made.symm.trans again) ▸ apart
      · refine ⟨moment, Nat.lt_succ_self _, ⟨change, made, same⟩, next, ?_, ?_⟩
        · rw [atMoment_succ, made, next]
          exact last
        · intro between change behind within
          omega
    · next ended => exact elsewhere there (by simp [ended])

/-- Changes that took the same revision are one change. -/
theorem Origin.unique {place : Path} {other : MemoryFile} {again : Nat}
    (is : Origin history path first file origin) (also : Origin history place last other again)
    (same : file.revision = other.revision) : origin = again := by
  have notBefore {near far : Nat}
      (taken : (atMoment history (near + 1)).revision = file.revision)
      (next : file.revision = (atMoment history far).revision + 1) : far ≤ near := by
    refine Nat.le_of_not_lt fun before => ?_
    have grown : (atMoment history (near + 1)).revision ≤ (atMoment history far).revision :=
      (later_atMoment history before).revision
    omega
  exact Nat.le_antisymm (notBefore (also.last.trans same.symm) is.next)
    (notBefore is.last (same.trans also.next))

theorem revision_le_atMoment (there : (atMoment history moment).file? path = some file) :
    file.revision ≤ (atMoment history moment).revision := by
  obtain ⟨origin, is⟩ := exists_origin there
  exact is.last ▸ (later_atMoment history (Nat.succ_le_of_lt is.earlier)).revision

/-- Once a change has been made at a path, a file there has a higher revision than before. -/
theorem revision_lt_of_changed {later : MemoryFile} (made : history[moment]? = some change)
    (here : change.path.components = path.components) (before : first ≤ moment)
    (after : moment < last) (early : (atMoment history first).file? path = some file)
    (late : (atMoment history last).file? path = some later) : file.revision < later.revision := by
  obtain ⟨origin, is⟩ := exists_origin late
  have since : moment ≤ origin :=
    Nat.le_of_not_lt fun behind => is.since moment change behind after made here
  have low := revision_le_atMoment early
  have high := (later_atMoment history (Nat.le_trans before since)).revision
  have next := is.next
  omega

/-- In every history, a stamp tells one revision from all others. If a path has the same stamp at
two moments, no change has been made at it between them, and it has the same content at both. Two
paths that mean different places never have the same version, not even at different moments. No
version is above the revision of the storage, which counts the changes that took one and so never
becomes smaller. At a path where a change has been made, such as one whose file was taken away and
put back as it was, a file has a higher version than any there had before. -/
theorem stamp_identifies_revision (history : List Change) :
    let stampAt (moment : Nat) (path : Path) := Storage.stamp (atMoment history moment) path
    let contentAt (moment : Nat) (path : Path) := Storage.content (atMoment history moment) path
    let revisionAt (moment : Nat) := (atMoment history moment).revision
    (∀ path stamp first last, first ≤ last →
      stampAt first path = .ok (some stamp) → stampAt last path = .ok (some stamp) →
        (∀ moment change, first ≤ moment → moment < last → history[moment]? = some change →
          change.path.components ≠ path.components) ∧
        ∃ content, contentAt first path = .ok content ∧ contentAt last path = .ok content) ∧
    (∀ path other stamp another first last, path.components ≠ other.components →
      stampAt first path = .ok (some stamp) → stampAt last other = .ok (some another) →
        stamp.version ≠ another.version) ∧
    (∀ path stamp moment, stampAt moment path = .ok (some stamp) →
      stamp.version ≤ revisionAt moment) ∧
    (∀ moment, revisionAt moment = (history.take moment).countP Change.takesRevision) ∧
    (∀ first last, first ≤ last → revisionAt first ≤ revisionAt last) ∧
    ∀ path stamp another first moment last change, first ≤ moment → moment < last →
      history[moment]? = some change → change.path.components = path.components →
      stampAt first path = .ok (some stamp) → stampAt last path = .ok (some another) →
        stamp.version < another.version := by
  intro stampAt contentAt revisionAt
  have changed {path : Path} {stamp another : Stamp} {first moment last : Nat} {change : Change}
      (before : first ≤ moment) (after : moment < last) (made : history[moment]? = some change)
      (here : change.path.components = path.components)
      (early : stampAt first path = .ok (some stamp))
      (late : stampAt last path = .ok (some another)) :
      stamp.version < another.version := by
    obtain ⟨file, there, rfl⟩ := exists_file_of_stamp early
    obtain ⟨later, again, rfl⟩ := exists_file_of_stamp late
    exact revision_lt_of_changed made here before after there again
  refine ⟨?_, ?_, ?_, revision_atMoment history,
    fun first last order => (later_atMoment history order).revision, ?_⟩
  · intro path stamp first last order early late
    have elsewhere : ∀ moment change, first ≤ moment → moment < last →
        history[moment]? = some change → change.path.components ≠ path.components :=
      fun moment change before after made here =>
        Nat.lt_irrefl _ (changed before after made here early late)
    refine ⟨elsewhere, ?_⟩
    have same := (sameAt_atMoment order elsewhere).content
    obtain ⟨file, there, -⟩ := exists_file_of_stamp early
    have read : Storage.content (atMoment history first) path = .ok file.content := by
      have working := faultless_atMoment history first
      rw [content_eq, working, working, there]
    exact ⟨file.content, read, same.trans read⟩
  · intro path other stamp another first last apart early late same
    obtain ⟨file, there, rfl⟩ := exists_file_of_stamp early
    obtain ⟨later, again, rfl⟩ := exists_file_of_stamp late
    obtain ⟨origin, is⟩ := exists_origin there
    obtain ⟨source, also⟩ := exists_origin again
    -- The one change that took the revision was made at both paths.
    obtain rfl := is.unique also same
    obtain ⟨change, made, here⟩ := is.here
    obtain ⟨change', made', there'⟩ := also.here
    obtain rfl := Option.some.inj (made.symm.trans made')
    exact apart (here.symm.trans there')
  · intro path stamp moment stamped
    obtain ⟨file, there, rfl⟩ := exists_file_of_stamp stamped
    exact revision_le_atMoment there
  · intro path stamp another first moment last change before after made here early late
    exact changed before after made here early late

/-- A file that is taken away and put back as it was, under other spellings of its path, has another
version, while the one beside it keeps its stamp. A touch that finds nothing takes a revision. -/
theorem stamp_identifies_revision_of_file_put_back :
    let history : List Change := [.insert ⟨"b/c"⟩ [1], .insert ⟨"a"⟩ [1], .touch ⟨"d"⟩,
      .remove ⟨"b//c"⟩, .insert ⟨"b/./c/"⟩ [1]]
    let stampAt (moment : Nat) (path : Path) := Storage.stamp (atMoment history moment) path
    (stampAt 2 ⟨"a"⟩ = .ok (some ⟨2, 1⟩) ∧ stampAt 5 ⟨"a"⟩ = .ok (some ⟨2, 1⟩) ∧
      ∀ moment change, 2 ≤ moment → moment < 5 → history[moment]? = some change →
        change.path.components ≠ (Path.mk "a").components) ∧
    ((Path.mk "b//c").components = (Path.mk "b/c").components ∧
      stampAt 1 ⟨"b/c"⟩ = .ok (some ⟨1, 1⟩) ∧ stampAt 5 ⟨"b/c"⟩ = .ok (some ⟨4, 1⟩) ∧ 1 < 4) ∧
    ((Path.mk "a").components ≠ (Path.mk "b/c").components ∧ 2 ≠ 4) ∧
    (4 ≤ (atMoment history 5).revision ∧ (atMoment history 5).revision = 4) := by
  intro history stampAt
  have early : stampAt 2 ⟨"a"⟩ = .ok (some ⟨2, 1⟩) := rfl
  have late : stampAt 5 ⟨"a"⟩ = .ok (some ⟨2, 1⟩) := rfl
  have before : stampAt 1 ⟨"b/c"⟩ = .ok (some ⟨1, 1⟩) := rfl
  have after : stampAt 5 ⟨"b/c"⟩ = .ok (some ⟨4, 1⟩) := rfl
  have spelled : (Path.mk "b//c").components = (Path.mk "b/c").components := by decide
  have apart : (Path.mk "a").components ≠ (Path.mk "b/c").components := by decide
  obtain ⟨told, different, bounded, counted, -, grown⟩ := stamp_identifies_revision history
  obtain ⟨untouched, -⟩ := told _ _ 2 5 (by decide) early late
  have higher := grown _ _ _ 1 3 5 _ (by decide) (by decide) rfl spelled before after
  exact ⟨⟨early, late, untouched⟩, ⟨spelled, before, after, higher⟩,
    ⟨apart, different _ _ _ _ 5 5 apart late after⟩, bounded _ _ 5 after, counted 5⟩

end TemplateTree.Memory
