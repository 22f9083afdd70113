import TemplateTree.Proofs.Path.Levels
import TemplateTree.Storage.Disk

/-!
# Walks on disks

The courses that a walk along a path can take: `Leads` has one case for each step, and
`leads_of_findFrom` says that there is no other. A disk that has grown is walked as before, and the
walk goes on from where it ended. Main statements: `find_join_name` says what a name leads to below
a path that leads to a directory, and `exists_directoryAt?_of_find_join` that nothing is found below
another path.
-/

namespace TemplateTree

theorem Path.component?_cases (piece : List Char) :
    component? piece = none ∨ component? piece = some .parent ∨
      ∃ name, component? piece = some (.name name) := by
  fun_cases component? piece <;> simp

theorem Path.isRooted_append {text : List Char} (filled : text ≠ []) (more : List Char) :
    isRooted (text ++ more) = isRooted text := by
  obtain ⟨c, rest, rfl⟩ := List.exists_cons_of_ne_nil filled
  by_cases slash : c = '/' <;> simp [isRooted, slash]

/-- The text of a name below a path: a slash is put between them unless one stands there or the path
is empty. -/
theorem Path.toList_join_name (base : Path) {name : String} (named : IsName name) :
    ∃ between, (base.join ⟨name⟩).text.toList = base.text.toList ++ between ++ name.toList ∧
      (between = [] ∧ (base.text = "" ∨ ∃ front, base.text.toList = front ++ ['/']) ∨
        between = ['/']) := by
  have relative := named.isAbsolute_eq
  by_cases bare : base.text = "" ∨ base.text.toList.getLast? = some '/'
  · refine ⟨[], by simp [join, relative, bare], .inl ⟨rfl, bare.imp_right fun ends => ?_⟩⟩
    exact List.getLast?_eq_some_iff.1 ends
  · obtain ⟨filled, unended⟩ := not_or.1 bare
    exact ⟨['/'], by simp [join, relative, filled, unended], .inr rfl⟩

/-- The parts of a path with a name below it: its own without the empty one at the end, if it ends
in a slash, and the name. -/
theorem Path.exists_pieces_join {base : Path} {name : String} (filled : base.text ≠ "")
    (named : IsName name) :
    ∃ front, pieces (base.join ⟨name⟩).text.toList = front ++ [name.toList] ∧
      (pieces base.text.toList = front ∨ pieces base.text.toList = front ++ [[]]) := by
  have one := pieces_of_unbroken named.unbroken
  obtain ⟨between, spelled, ⟨rfl, ends⟩ | rfl⟩ := toList_join_name base named
  · obtain ⟨front, ends⟩ := ends.resolve_left filled
    refine ⟨pieces front, ?_, .inr ?_⟩
    · rw [spelled, ends, List.append_nil, List.append_assoc, List.singleton_append,
        pieces_append_slash, one]
    · rw [ends, pieces_append_slash]
      rfl
  · refine ⟨pieces base.text.toList, ?_, .inl rfl⟩
    rw [spelled, List.append_assoc, List.singleton_append, pieces_append_slash, one]

namespace Disk

/-- The courses of a walk, by what the next part of the path stands for and what is there. -/
inductive Leads (disk : Disk) (follow : Bool) :
    Nat → Place → List (List Char) → Found → Prop where
  | arrived {links place} : Leads disk follow links place [] (.entry place .directory)
  | stayed {links place piece rest found} (step : Path.component? piece = none)
      (onward : Leads disk follow links place rest found) :
      Leads disk follow links place (piece :: rest) found
  | up {links place piece rest found} (step : Path.component? piece = some .parent)
      (onward : Leads disk follow links place.dropLast rest found) :
      Leads disk follow links place (piece :: rest) found
  | down {links place piece name rest found} (step : Path.component? piece = some (.name name))
      (short : name.utf8ByteSize ≤ longestName)
      (there : disk.entryAt (place ++ [name]) = some .directory)
      (onward : Leads disk follow links (place ++ [name]) rest found) :
      Leads disk follow links place (piece :: rest) found
  | through {links place piece name target rest found}
      (step : Path.component? piece = some (.name name))
      (short : name.utf8ByteSize ≤ longestName)
      (there : disk.entryAt (place ++ [name]) = some (.link target))
      (onward : Leads disk follow links (if Path.isRooted target.toList then [] else place)
        (Path.pieces target.toList ++ rest) found) :
      Leads disk follow (links + 1) place (piece :: rest) found
  | ended {links place piece name entry} (step : Path.component? piece = some (.name name))
      (short : name.utf8ByteSize ≤ longestName)
      (there : disk.entryAt (place ++ [name]) = some entry) (other : entry ≠ .directory)
      (solid : follow = true → ∀ target, entry ≠ .link target) :
      Leads disk follow links place [piece] (.entry (place ++ [name]) entry)
  | vacant {links place piece name} (step : Path.component? piece = some (.name name))
      (short : name.utf8ByteSize ≤ longestName)
      (nothing : disk.entryAt (place ++ [name]) = none) :
      Leads disk follow links place [piece] (.vacant (place ++ [name]))

variable {disk before after : Disk} {follow : Bool} {links : Nat} {place goal : Place}
variable {piece : List Char} {rest pieces : List (List Char)} {name : String} {found : Found}

@[simp] theorem findFrom_nil (disk : Disk) (follow : Bool) (links : Nat) (place : Place) :
    disk.findFrom follow links place [] = .ok (.entry place .directory) := by
  cases links <;> rfl

theorem findFrom_of_none (step : Path.component? piece = none) :
    disk.findFrom follow links place (piece :: rest) = disk.findFrom follow links place rest := by
  cases links <;> simp [findFrom, walk, step]

theorem findFrom_of_parent (step : Path.component? piece = some .parent) :
    disk.findFrom follow links place (piece :: rest) =
      disk.findFrom follow links place.dropLast rest := by
  cases links <;> simp [findFrom, walk, step]

/-- Where a name leads to depends on what is there. -/
theorem findFrom_of_name (step : Path.component? piece = some (.name name)) :
    disk.findFrom follow links place (piece :: rest) =
      if longestName < name.utf8ByteSize then .error nameTooLong
      else match disk.entryAt (place ++ [name]) with
        | none =>
          if rest.isEmpty then .ok (.vacant (place ++ [name])) else .error noEntry
        | some .directory => disk.findFrom follow links (place ++ [name]) rest
        | some (.file content) =>
          if rest.isEmpty then .ok (.entry (place ++ [name]) (.file content))
          else .error notADirectory
        | some (.link target) =>
          if rest.isEmpty && !follow then .ok (.entry (place ++ [name]) (.link target))
          else match links with
            | 0 => .error tooManyLinks
            | links + 1 =>
              disk.findFrom follow links (if Path.isRooted target.toList then [] else place)
                (Path.pieces target.toList ++ rest) := by
  cases links <;> (rewrite [findFrom, walk, step]; rfl)

theorem findFrom_of_directory (step : Path.component? piece = some (.name name))
    (short : name.utf8ByteSize ≤ longestName)
    (there : disk.entryAt (place ++ [name]) = some .directory) :
    disk.findFrom follow links place (piece :: rest) =
      disk.findFrom follow links (place ++ [name]) rest := by
  rw [findFrom_of_name step, if_neg (Nat.not_lt.2 short), there]

/-- The name of a link that is followed leads where its target does. -/
theorem findFrom_of_link {target : String} (step : Path.component? piece = some (.name name))
    (short : name.utf8ByteSize ≤ longestName)
    (there : disk.entryAt (place ++ [name]) = some (.link target)) :
    disk.findFrom true (links + 1) place (piece :: rest) =
      disk.findFrom true links (if Path.isRooted target.toList then [] else place)
        (Path.pieces target.toList ++ rest) := by
  rw [findFrom_of_name step, if_neg (Nat.not_lt.2 short), there]
  simp only [Bool.not_true, Bool.and_false, Bool.false_eq_true, if_false]

theorem findFrom_of_vacant (step : Path.component? piece = some (.name name))
    (short : name.utf8ByteSize ≤ longestName) (nothing : disk.entryAt (place ++ [name]) = none) :
    disk.findFrom follow links place [piece] = .ok (.vacant (place ++ [name])) := by
  rw [findFrom_of_name step, if_neg (Nat.not_lt.2 short), nothing]
  rfl

/-- A walk that leads anywhere takes one of these courses. -/
theorem leads_of_findFrom (walked : disk.findFrom follow links place pieces = .ok found) :
    disk.Leads follow links place pieces found := by
  induction links using Nat.strong_induction_on generalizing place pieces with
  | _ links fewer =>
    induction pieces generalizing place with
    | nil =>
      rw [findFrom_nil] at walked
      obtain rfl := Except.ok.inj walked
      exact .arrived
    | cons piece rest inductionHypothesis =>
      rcases Path.component?_cases piece with step | step | ⟨name, step⟩
      · exact .stayed step (inductionHypothesis (findFrom_of_none step ▸ walked))
      · exact .up step (inductionHypothesis (findFrom_of_parent step ▸ walked))
      · rw [findFrom_of_name step] at walked
        split at walked
        · cases walked
        · next short =>
          have short := Nat.le_of_not_lt short
          split at walked
          · next nothing =>
            -- Only the last part of a path may name what is not there.
            cases rest with
            | nil =>
              obtain rfl := Except.ok.inj walked
              exact .vacant step short nothing
            | cons => cases walked
          · next there => exact .down step short there (inductionHypothesis walked)
          · next content there =>
            cases rest with
            | nil =>
              obtain rfl := Except.ok.inj walked
              exact .ended step short there Entry.noConfusion fun _ _ => Entry.noConfusion
            | cons => cases walked
          · next target there =>
            split at walked
            · next last =>
              obtain ⟨last, unfollowed⟩ := Bool.and_eq_true_iff.1 last
              obtain rfl := List.isEmpty_iff.1 last
              obtain rfl := Except.ok.inj walked
              refine .ended step short there Entry.noConfusion fun followed => ?_
              rw [followed] at unfollowed
              cases unfollowed
            · cases links with
              | zero => cases walked
              | succ links =>
                exact .through step short there (fewer links (Nat.lt_succ_self links) walked)

/-- Nothing stands at a place that a walk finds vacant, and the root is never vacant. -/
theorem Leads.of_vacant (leads : disk.Leads follow links place pieces (.vacant goal)) :
    goal ≠ [] ∧ disk.entryAt goal = none := by
  generalize ends : Found.vacant goal = found at leads
  induction leads with
  | arrived | ended => cases ends
  | stayed _ _ inductionHypothesis | up _ _ inductionHypothesis
  | down _ _ _ _ inductionHypothesis | through _ _ _ _ inductionHypothesis =>
    exact inductionHypothesis ends
  | vacant step short nothing =>
    obtain rfl := Found.vacant.inj ends
    exact ⟨by simp, nothing⟩

/-- A disk on which everything stands that stood on another. -/
structure Grown (before after : Disk) : Prop where
  current : after.current = before.current
  kept : ∀ {place entry}, before.entryAt place = some entry → after.entryAt place = some entry

theorem Grown.refl (disk : Disk) : disk.Grown disk := ⟨rfl, id⟩

theorem Grown.trans {middle : Disk} (first : before.Grown middle) (second : middle.Grown after) :
    before.Grown after :=
  ⟨second.current.trans first.current, fun there => second.kept (first.kept there)⟩

/-- A walk that ends in a directory, or where one has been made since, is taken again when the disk
has grown, and goes on from there. -/
theorem Leads.goes_on (leads : disk.Leads follow links place pieces found)
    (ends : found = .entry goal .directory ∨ found = .vacant goal) :
    ∃ left, ∀ after, disk.Grown after →
      (found = .vacant goal → after.entryAt goal = some .directory) → ∀ more,
        after.findFrom true links place (pieces ++ more) = after.findFrom true left goal more := by
  induction leads with
  | @arrived links place =>
    obtain rfl : place = goal := by simpa using ends
    exact ⟨links, fun after _ _ more => rfl⟩
  | stayed step onward inductionHypothesis =>
    obtain ⟨left, walks⟩ := inductionHypothesis ends
    refine ⟨left, fun after grown made more => ?_⟩
    rw [List.cons_append, findFrom_of_none step, walks after grown made]
  | up step onward inductionHypothesis =>
    obtain ⟨left, walks⟩ := inductionHypothesis ends
    refine ⟨left, fun after grown made more => ?_⟩
    rw [List.cons_append, findFrom_of_parent step, walks after grown made]
  | down step short there onward inductionHypothesis =>
    obtain ⟨left, walks⟩ := inductionHypothesis ends
    refine ⟨left, fun after grown made more => ?_⟩
    rw [List.cons_append, findFrom_of_directory step short (grown.kept there),
      walks after grown made]
  | through step short there onward inductionHypothesis =>
    obtain ⟨left, walks⟩ := inductionHypothesis ends
    refine ⟨left, fun after grown made more => ?_⟩
    rw [List.cons_append, findFrom_of_link step short (grown.kept there), ← List.append_assoc,
      walks after grown made]
  | ended step short there other _ =>
    rcases ends with ends | ends
    · obtain ⟨-, directory⟩ := Found.entry.inj ends
      exact absurd directory other
    · cases ends
  | @vacant links place piece name step short nothing =>
    obtain rfl : place ++ [name] = goal := by simpa using ends
    refine ⟨links, fun after grown made more => ?_⟩
    rw [List.cons_append, findFrom_of_directory step short (made rfl), List.nil_append]

/-- A walk that follows links ends where it did when the disk has grown, unless something stands now
where it found nothing. -/
theorem Leads.again (leads : disk.Leads true links place pieces found) (grown : disk.Grown after)
    (nothing : ∀ goal, found = .vacant goal → after.entryAt goal = none) :
    after.findFrom true links place pieces = .ok found := by
  induction leads with
  | arrived => exact findFrom_nil ..
  | stayed step onward inductionHypothesis =>
    rw [findFrom_of_none step, inductionHypothesis nothing]
  | up step onward inductionHypothesis =>
    rw [findFrom_of_parent step, inductionHypothesis nothing]
  | down step short there onward inductionHypothesis =>
    rw [findFrom_of_directory step short (grown.kept there), inductionHypothesis nothing]
  | through step short there onward inductionHypothesis =>
    rw [findFrom_of_link step short (grown.kept there), inductionHypothesis nothing]
  | @ended _ _ _ _ entry step short there other solid =>
    rw [findFrom_of_name step, if_neg (Nat.not_lt.2 short), grown.kept there]
    cases entry with
    | file content => rfl
    | directory => exact absurd rfl other
    | link target => exact absurd rfl (solid rfl target)
  | vacant step short before => exact findFrom_of_vacant step short (nothing _ rfl)

/-- A walk that fails, but not because something is missing, fails again when the disk has grown. -/
theorem findFrom_eq_error_again {error : IoError} (grown : before.Grown after)
    (failed : before.findFrom true links place pieces = .error error)
    (other : error.kind ≠ .notFound) :
    after.findFrom true links place pieces = .error error := by
  induction links using Nat.strong_induction_on generalizing place pieces with
  | _ links fewer =>
    induction pieces generalizing place with
    | nil =>
      rw [findFrom_nil] at failed
      cases failed
    | cons piece rest inductionHypothesis =>
      rcases Path.component?_cases piece with step | step | ⟨name, step⟩
      · rw [findFrom_of_none step] at failed ⊢
        exact inductionHypothesis failed
      · rw [findFrom_of_parent step] at failed ⊢
        exact inductionHypothesis failed
      · rw [findFrom_of_name step] at failed ⊢
        split
        · next long => rwa [if_pos long] at failed
        · next short =>
          rw [if_neg short] at failed
          cases there : before.entryAt (place ++ [name]) with
          | none =>
            -- Nothing stood there, so that the walk failed for want of it.
            rw [there] at failed
            cases rest with
            | nil => cases failed
            | cons =>
              obtain rfl := Except.error.inj failed
              exact absurd rfl other
          | some entry =>
            rw [there] at failed
            rw [grown.kept there]
            cases entry with
            | directory => exact inductionHypothesis failed
            | file content => exact failed
            | link target =>
              cases links with
              | zero => exact failed
              | succ links =>
                simp only [Bool.not_true, Bool.and_false, Bool.false_eq_true, if_false] at failed ⊢
                exact fewer links (Nat.lt_succ_self links) failed

/-- A part that is no step makes no difference in front of another. -/
theorem findFrom_append_blank (blank : Path.component? piece = none) (filled : rest ≠ []) :
    disk.findFrom follow links place (pieces ++ piece :: rest) =
      disk.findFrom follow links place (pieces ++ rest) := by
  induction links using Nat.strong_induction_on generalizing place pieces with
  | _ links fewer =>
    induction pieces generalizing place with
    | nil => exact findFrom_of_none blank
    | cons head others inductionHypothesis =>
      rw [List.cons_append, List.cons_append]
      rcases Path.component?_cases head with step | step | ⟨name, step⟩
      · rw [findFrom_of_none step, findFrom_of_none step, inductionHypothesis]
      · rw [findFrom_of_parent step, findFrom_of_parent step, inductionHypothesis]
      · -- Neither what follows the name with this part nor what follows without it is nothing.
        have more : (others ++ piece :: rest).isEmpty = (others ++ rest).isEmpty := by
          rw [List.isEmpty_eq_false_iff.2 (by simp), List.isEmpty_eq_false_iff.2 (by simp [filled])]
        rw [findFrom_of_name step, findFrom_of_name step, more, inductionHypothesis]
        rcases disk.entryAt (place ++ [name]) with _ | _ | _ | target
        · rfl
        · rfl
        · rfl
        · cases links with
          | zero => rfl
          | succ links =>
            dsimp only
            rw [← List.append_assoc, ← List.append_assoc, fewer links (Nat.lt_succ_self links)]

/-- A walk that leads anywhere beyond the first parts of a path stands in a directory behind
them. -/
theorem exists_directory_of_findFrom_append (filled : rest ≠ [])
    (walked : disk.findFrom true links place (pieces ++ rest) = .ok found) :
    ∃ goal, disk.findFrom true links place pieces = .ok (.entry goal .directory) := by
  induction links using Nat.strong_induction_on generalizing place pieces with
  | _ links fewer =>
    induction pieces generalizing place with
    | nil => exact ⟨place, findFrom_nil disk true links place⟩
    | cons piece others inductionHypothesis =>
      rw [List.cons_append] at walked
      rcases Path.component?_cases piece with step | step | ⟨name, step⟩
      · rw [findFrom_of_none step] at walked ⊢
        exact inductionHypothesis walked
      · rw [findFrom_of_parent step] at walked ⊢
        exact inductionHypothesis walked
      · rw [findFrom_of_name step] at walked ⊢
        have more : (others ++ rest).isEmpty = false :=
          List.isEmpty_eq_false_iff.2 (by simp [filled])
        split at walked
        · cases walked
        · next short =>
          rw [more] at walked
          rw [if_neg short]
          split at walked
          · cases walked
          · exact inductionHypothesis walked
          · cases walked
          · cases links with
            | zero => cases walked
            | succ links =>
              rw [Bool.not_true, Bool.and_false, if_neg Bool.false_ne_true] at walked ⊢
              rw [← List.append_assoc] at walked
              exact fewer links (Nat.lt_succ_self links) walked

/-- What stands at a place, as a walk finds it. -/
def standing (disk : Disk) (place : Place) : Found :=
  match disk.entryAt place with
  | none => .vacant place
  | some entry => .entry place entry

/-- The directory that a path leads to. The empty path stands for the directory that paths start
from. -/
def directoryAt? (disk : Disk) (path : Path) : Option Place :=
  if path.text = "" then some disk.current
  else match disk.find path with
    | .ok (.entry place .directory) => some place
    | _ => none

/-- Where a path leads is where the walk along it does. -/
theorem findWith_eq_ok_iff {path : Path} :
    disk.findWith follow path = .ok found ↔
      fault? path = none ∧
        disk.findFrom follow mostLinks (disk.origin path) (Path.pieces path.text.toList) =
          .ok found := by
  rw [findWith]
  cases fault? path <;> simp

/-- A path leads to a directory if it is empty, or if the walk along it ends in one. -/
theorem directoryAt?_eq_some_iff {path : Path} :
    disk.directoryAt? path = some place ↔
      path.text = "" ∧ disk.current = place ∨
        path.text ≠ "" ∧ disk.find path = .ok (.entry place .directory) := by
  rw [directoryAt?]
  split
  · next empty => simp [empty]
  · next filled =>
    simp only [filled, false_and, ne_eq, not_false_eq_true, true_and, false_or]
    split
    · next there => simp [there]
    · next other =>
      simp only [reduceCtorEq, false_iff]
      exact other place

theorem origin_join {base : Path} (filled : base.text ≠ "") (named : Path.IsName name) :
    disk.origin (base.join ⟨name⟩) = disk.origin base := by
  obtain ⟨between, spelled, -⟩ := Path.toList_join_name base named
  rw [origin, origin, Path.isAbsolute, Path.isAbsolute, spelled, List.append_assoc,
    Path.isRooted_append (mt String.toList_eq_nil_iff.1 filled)]

/-- A text is a path as long as it is not empty, does not end early and is not too long. -/
theorem fault?_eq_none_iff {path : Path} :
    fault? path = none ↔ path.text ≠ "" ∧ '\x00' ∉ path.text.toList ∧
      path.text.utf8ByteSize ≤ longestPath := by
  rw [fault?]
  split
  · next empty => simp [String.isEmpty_iff.1 empty]
  · next filled =>
    split
    · next ended => simp [List.contains_iff_mem.1 ended]
    · next whole =>
      split
      · next long => simp [Nat.not_le.2 long]
      · next short =>
        simp only [true_iff]
        exact ⟨by simpa using filled, by simpa using whole, Nat.le_of_not_lt short⟩

/-- What makes a name below a path no path at all is its length. -/
theorem fault?_join {base : Path} (proper : base.text = "" ∨ fault? base = none)
    (named : Path.IsName name) (clean : '\x00' ∉ name.toList) :
    fault? (base.join ⟨name⟩) =
      if longestPath < (base.join ⟨name⟩).text.utf8ByteSize then some nameTooLong else none := by
  obtain ⟨between, spelled, ends⟩ := Path.toList_join_name base named
  have filled : (base.join ⟨name⟩).text ≠ "" := by
    obtain ⟨c, rest, start, -⟩ := named.exists_cons
    intro empty
    rw [empty, start] at spelled
    simp at spelled
  have unended : '\x00' ∉ (base.join ⟨name⟩).text.toList := by
    have first : '\x00' ∉ base.text.toList := by
      rcases proper with empty | proper
      · simp [empty]
      · exact (fault?_eq_none_iff.1 proper).2.1
    have middle : '\x00' ∉ between := by
      rcases ends with ⟨rfl, -⟩ | rfl <;> simp
    simp [spelled, first, middle, clean]
  simp [fault?, filled, unended]

/-- A path below which a name can be looked for is one itself. -/
theorem fault?_of_join {base : Path} (filled : base.text ≠ "") (named : Path.IsName name)
    (proper : fault? (base.join ⟨name⟩) = none) : fault? base = none := by
  obtain ⟨between, spelled, -⟩ := Path.toList_join_name base named
  have whole : (base.join ⟨name⟩).text = base.text ++ (String.ofList between ++ name) := by
    simp [← String.toList_inj, spelled]
  obtain ⟨-, unended, short⟩ := fault?_eq_none_iff.1 proper
  rw [whole, String.toList_append] at unended
  rw [whole, String.utf8ByteSize_append] at short
  exact fault?_eq_none_iff.2 ⟨filled, fun ended => unended (List.mem_append_left _ ended),
    (Nat.le_add_right _ _).trans short⟩

/-- Whether a name below a path is not too long to be looked for. -/
def Fits (base : Path) (name : String) : Prop :=
  (base.join ⟨name⟩).text.utf8ByteSize ≤ longestPath ∧ name.utf8ByteSize ≤ longestName

/-- Lengths can be compared. -/
instance (base : Path) (name : String) : Decidable (Fits base name) :=
  inferInstanceAs (Decidable (_ ∧ _))

/-- What a name leads to below a path that leads to a directory: what stands under the name in the
directory, unless that is a link. -/
theorem find_join_name {base : Path} (there : disk.directoryAt? base = some place)
    (named : Path.IsName name) (clean : '\x00' ∉ name.toList)
    (solid : ∀ target, disk.entryAt (place ++ [name]) ≠ some (.link target)) :
    disk.find (base.join ⟨name⟩) =
      if Fits base name then .ok (disk.standing (place ++ [name])) else .error nameTooLong := by
  -- Wherever the walk to the directory ends, one step is left.
  have step (left : Nat) : disk.findFrom true left place [name.toList] =
      if longestName < name.utf8ByteSize then .error nameTooLong
      else .ok (disk.standing (place ++ [name])) := by
    rw [findFrom_of_name named.step, standing]
    rcases entry : disk.entryAt (place ++ [name]) with _ | _ | _ | target
    · rfl
    · rfl
    · simp
    · exact absurd entry (solid target)
  have reached : (base.text = "" ∨ fault? base = none) ∧
      ∃ left, disk.findFrom true mostLinks (disk.origin (base.join ⟨name⟩))
        (Path.pieces (base.join ⟨name⟩).text.toList) =
          disk.findFrom true left place [name.toList] := by
    rcases directoryAt?_eq_some_iff.1 there with ⟨empty, rfl⟩ | ⟨filled, found⟩
    · have alone : base.join ⟨name⟩ = ⟨name⟩ := by simp [Path.join, named.isAbsolute_eq, empty]
      refine ⟨.inl empty, mostLinks, ?_⟩
      rw [alone, Path.pieces_of_unbroken named.unbroken, origin, named.isAbsolute_eq]
      rfl
    · obtain ⟨proper, walked⟩ := findWith_eq_ok_iff.1 found
      obtain ⟨left, walks⟩ := (leads_of_findFrom walked).goes_on (.inl rfl)
      have walks := walks disk (.refl disk) Found.noConfusion [name.toList]
      refine ⟨.inr proper, left, ?_⟩
      obtain ⟨front, joined, spelled | spelled⟩ := Path.exists_pieces_join filled named
      · rw [joined, origin_join filled named, ← walks, spelled]
      · rw [joined, origin_join filled named, ← walks, spelled, List.append_assoc]
        exact (findFrom_append_blank rfl (List.cons_ne_nil _ _)).symm
  obtain ⟨proper, left, walks⟩ := reached
  rw [find, findWith, fault?_join proper named clean]
  by_cases long : longestPath < (base.join ⟨name⟩).text.utf8ByteSize
  · simp [long, Fits, Nat.not_le.2 long]
  · by_cases wide : longestName < name.utf8ByteSize
    · simp [long, wide, walks, step, Fits, Nat.not_le.2 wide]
    · simp [long, wide, walks, step, Fits, Nat.le_of_not_lt long, Nat.le_of_not_lt wide]

/-- What is found below a path is found in a directory to which the path leads. -/
theorem exists_directoryAt?_of_find_join {base : Path} (named : Path.IsName name)
    (led : disk.find (base.join ⟨name⟩) = .ok found) :
    ∃ place, disk.directoryAt? base = some place := by
  by_cases empty : base.text = ""
  · exact ⟨disk.current, directoryAt?_eq_some_iff.2 (.inl ⟨empty, rfl⟩)⟩
  · obtain ⟨proper, walked⟩ := findWith_eq_ok_iff.1 led
    obtain ⟨front, joined, spelled⟩ := Path.exists_pieces_join empty named
    rw [joined, origin_join empty named] at walked
    obtain ⟨goal, arrived⟩ := exists_directory_of_findFrom_append (List.cons_ne_nil _ _) walked
    have whole : disk.findFrom true mostLinks (disk.origin base)
        (Path.pieces base.text.toList) = .ok (.entry goal .directory) := by
      rcases spelled with spelled | spelled
      · rw [spelled, arrived]
      · obtain ⟨left, walks⟩ := (leads_of_findFrom arrived).goes_on (.inl rfl)
        rw [spelled, walks disk (.refl disk) Found.noConfusion, findFrom_of_none rfl, findFrom_nil]
    refine ⟨goal, directoryAt?_eq_some_iff.2 (.inr ⟨empty, findWith_eq_ok_iff.2 ⟨?_, whole⟩⟩)⟩
    exact fault?_of_join empty named proper
end Disk

end TemplateTree
