import TemplateTree.CommandLine.Emission
import TemplateTree.Proofs.CommandLine.Verdicts
import TemplateTree.Proofs.Path.ClassNames
import TemplateTree.Proofs.Storage.Growth

/-!
# What an emission writes

An emission writes one file for each code that verdicts let through. In a directory where none of
these files stands yet, none of them gets in the way of another, as long as no two classes have the
same name. Main statement: `run_of_ok` says which files are on the disk when the emission has ended.
-/

namespace TemplateTree.CommandLine.Emission

/-- The name of the file for the code of a class. -/
def fileName (className : String) : String := className ++ "." ++ generatedExtension

/-- The file with code. -/
def fileOf (code : Code) : Disk.Entry := .file code.source.toUTF8.toList

/-- A name that a class can have. -/
def IsClassName (name : String) : Prop :=
  ∀ c ∈ name.toList, Path.isClassNameChar c = true

variable {name className : String} {out path : Path} {place : Disk.Place} {disk : Disk}
variable {emission next final : Emission} {code : Code}

theorem isClassName_className (path : Path) : IsClassName path.className := by
  intro c member
  rw [Path.className, String.toList_ofList] at member
  exact Path.isClassNameChar_of_isIdentifier (Path.isIdentifier_classNameOf _) member

theorem toList_fileName (className : String) :
    (fileName className).toList = className.toList ++ ['.', 'g', 'e', 'n'] := by
  simp [fileName, generatedExtension]

/-- A character that cannot stand in a class name is in the name of no file, but for the dot. -/
theorem not_mem_fileName {c : Char} (plain : IsClassName className)
    (other : Path.isClassNameChar c = false) (extra : c ≠ '.') :
    c ∉ (fileName className).toList := by
  rw [toList_fileName]
  intro member
  rcases List.mem_append.1 member with inside | behind
  · cases other.symm.trans (plain c inside)
  · simp only [List.mem_cons, List.not_mem_nil, or_false] at behind
    rcases behind with rfl | rfl | rfl | rfl
    · exact extra rfl
    · cases other
    · cases other
    · cases other

theorem clean_fileName (plain : IsClassName className) : '\x00' ∉ (fileName className).toList :=
  not_mem_fileName plain (by decide) (by decide)

/-- The name of a file with code is one step to it. -/
theorem isName_fileName (plain : IsClassName className) : Path.IsName (fileName className) where
  unbroken := not_mem_fileName plain (by decide) (by decide)
  step := by
    have lettered (piece : List Char) (letter : 'g' ∈ piece) :
        Path.component? piece = some (.name (String.ofList piece)) := by
      fun_cases Path.component? piece <;> simp_all
    rw [lettered _ (by simp [toList_fileName]), String.ofList_toList]

theorem fileName_inj {other : String} : fileName className = fileName other ↔ className = other := by
  simp [fileName]

/-- Different classes have files at different paths. -/
theorem target_inj {other : String} (plain : IsClassName className) (normal : IsClassName other) :
    target out className = target out other ↔ className = other := by
  have first : (Path.mk (fileName className)).isAbsolute = false :=
    (isName_fileName plain).isAbsolute_eq
  have second : (Path.mk (fileName other)).isAbsolute = false :=
    (isName_fileName normal).isAbsolute_eq
  change out.join ⟨fileName className⟩ = out.join ⟨fileName other⟩ ↔ _
  rw [Path.join, Path.join, first, second, if_neg Bool.false_ne_true, if_neg Bool.false_ne_true]
  split <;> simp [fileName]

/-- A disk on which the code of several classes has been written into a directory. -/
def emitted (place : Disk.Place) (disk : Disk) (codes : List Code) : Disk :=
  codes.foldl (fun disk code => disk.put (place ++ [fileName code.className]) (fileOf code)) disk

/-- Whether no file and no link stands at a place. -/
def IsFree (disk : Disk) (place : Disk.Place) : Prop :=
  ∀ entry, disk.entryAt place = some entry → entry = .directory

/-- Where code could be written and no file or link stood, nothing stood. -/
theorem write_of_ok (there : emission.disk.directoryAt? out = some place)
    (plain : IsClassName code.className)
    (free : IsFree emission.disk (place ++ [fileName code.className]))
    (written : emission.write out path code = .ok next) :
    emission.disk.entryAt (place ++ [fileName code.className]) = none ∧
      next.disk = emission.disk.put (place ++ [fileName code.className]) (fileOf code) ∧
        next.written = emission.written ++ [target out code.className] ∧
          Disk.Fits out (fileName code.className) := by
  have found : emission.disk.find (target out code.className) =
      if Disk.Fits out (fileName code.className) then
        .ok (emission.disk.standing (place ++ [fileName code.className]))
      else .error Disk.nameTooLong :=
    Disk.find_join_name there (isName_fileName plain) (clean_fileName plain) fun target link =>
      nomatch free _ link
  by_cases fits : Disk.Fits out (fileName code.className)
  · cases standing : emission.disk.entryAt (place ++ [fileName code.className]) with
    | none =>
      rw [if_pos fits, Disk.standing, standing] at found
      simp only [write, Disk.write, found, Except.ok.injEq] at written
      subst written
      exact ⟨rfl, rfl, rfl, fits⟩
    | some entry =>
      obtain rfl := free entry standing
      rw [if_pos fits, Disk.standing, standing] at found
      simp only [write, Disk.write, found, reduceCtorEq] at written
  · simp only [write, Disk.write, found, if_neg fits, reduceCtorEq] at written

/-- The templates are emitted one after the other, each after the remarks on it. -/
theorem run_cons (directory : Option Path) (emission : Emission) (path : Path) (verdict : Verdict)
    (rest : List (Path × Verdict)) :
    run directory emission ((path, verdict) :: rest) =
      match verdict.code?, directory with
      | none, _ => run directory (emission.remark (verdict.remarks path)) rest
      | some code, none =>
        run directory ((emission.remark (verdict.remarks path)).print path code) rest
      | some code, some out =>
        match (emission.remark (verdict.remarks path)).write out path code with
        | .error failure => (.error failure, emission.remark (verdict.remarks path))
        | .ok next => run directory next rest := rfl

/-- Printed code changes no file. -/
theorem run_none_of_ok {verdicts : List (Path × Verdict)}
    (ran : run none emission verdicts = (.ok (), final)) :
    final.disk = emission.disk ∧ final.written = emission.written := by
  induction verdicts generalizing emission with
  | nil =>
    obtain ⟨-, rfl⟩ := Prod.mk.inj ran
    exact ⟨rfl, rfl⟩
  | cons entry rest inductionHypothesis =>
    obtain ⟨path, verdict⟩ := entry
    cases judged : verdict.code? with
    | none =>
      simp only [run_cons, judged] at ran
      exact @inductionHypothesis (emission.remark _) ran
    | some code =>
      simp only [run_cons, judged] at ran
      exact @inductionHypothesis ((emission.remark _).print path code) ran

/-- Code can always be printed. -/
theorem exists_run_none (emission : Emission) (verdicts : List (Path × Verdict)) :
    ∃ final, run none emission verdicts = (.ok (), final) := by
  induction verdicts generalizing emission with
  | nil => exact ⟨emission, rfl⟩
  | cons entry rest inductionHypothesis =>
    obtain ⟨path, verdict⟩ := entry
    rw [run_cons]
    cases verdict.code? with
    | none => exact inductionHypothesis _
    | some code => exact inductionHypothesis _

/-- An emission that ends well has written the code of all verdicts, if no file or link stood in its
way. -/
theorem run_of_ok {verdicts : List (Path × Verdict)}
    (there : emission.disk.directoryAt? out = some place)
    (plain : ∀ code ∈ codes verdicts, IsClassName code.className)
    (distinct : ((codes verdicts).map Code.className).Nodup)
    (free : ∀ code ∈ codes verdicts, IsFree emission.disk (place ++ [fileName code.className]))
    (ran : run (some out) emission verdicts = (.ok (), final)) :
    final.disk = emitted place emission.disk (codes verdicts) ∧
      final.written =
        emission.written ++ (codes verdicts).map (fun code => target out code.className) ∧
        ∀ code ∈ codes verdicts, Disk.Fits out (fileName code.className) ∧
          emission.disk.entryAt (place ++ [fileName code.className]) = none := by
  induction verdicts generalizing emission with
  | nil =>
    obtain ⟨-, rfl⟩ := Prod.mk.inj ran
    exact ⟨rfl, by simp [codes], by simp [codes]⟩
  | cons entry rest inductionHypothesis =>
    obtain ⟨path, verdict⟩ := entry
    cases judged : verdict.code? with
    | none =>
      have same : codes ((path, verdict) :: rest) = codes rest := by simp [codes, judged]
      rw [same] at plain distinct free ⊢
      simp only [run_cons, judged] at ran
      exact @inductionHypothesis (emission.remark _) there plain distinct free ran
    | some code =>
      have first : codes ((path, verdict) :: rest) = code :: codes rest := by simp [codes, judged]
      rw [first] at plain distinct free ⊢
      obtain ⟨plainly, plain⟩ := List.forall_mem_cons.1 plain
      obtain ⟨freely, free⟩ := List.forall_mem_cons.1 free
      obtain ⟨distinctly, distinct⟩ := List.nodup_cons.1 distinct
      simp only [run_cons, judged] at ran
      split at ran
      · cases ran
      · next next written =>
        -- The remarks that come before the code leave the disk as it is.
        change (emission.remark (verdict.remarks path)).disk.directoryAt? out = some place at there
        obtain ⟨vacant, disk, list, fits⟩ := write_of_ok there plainly freely written
        have below : place ++ [fileName code.className] ≠ [] := by simp
        have grown : (emission.remark (verdict.remarks path)).disk.Grown next.disk := by
          rw [disk]
          exact .put below vacant _
        have apart (other) (member : other ∈ codes rest) :
            next.disk.entryAt (place ++ [fileName other.className]) =
              emission.disk.entryAt (place ++ [fileName other.className]) := by
          have different : other.className ≠ code.className := by
            intro same
            exact distinctly (same ▸ List.mem_map_of_mem member)
          rw [disk, Disk.entryAt_put below, if_neg (by simpa [fileName_inj] using different)]
          rfl
        obtain ⟨after, lists, all⟩ := inductionHypothesis (grown.directoryAt? there) plain distinct
          (fun other member entry standing => free other member entry (apart other member ▸ standing))
          ran
        refine ⟨?_, ?_, List.forall_mem_cons.2 ⟨⟨fits, vacant⟩, fun other member => ?_⟩⟩
        · rw [after, disk]
          rfl
        · rw [lists, list, List.append_assoc]
          rfl
        · rw [← apart other member]
          exact all other member

/-- What stands elsewhere is left as it is. -/
theorem entryAt_emitted_of_ne {codes : List Code} {goal : Disk.Place}
    (other : ∀ code ∈ codes, goal ≠ place ++ [fileName code.className]) :
    (emitted place disk codes).entryAt goal = disk.entryAt goal := by
  induction codes generalizing disk with
  | nil => rfl
  | cons code rest inductionHypothesis =>
    obtain ⟨here, others⟩ := List.forall_mem_cons.1 other
    rw [emitted, List.foldl_cons, ← emitted, inductionHypothesis others,
      Disk.entryAt_put (by simp), if_neg here]

/-- Every file has the code of its class. -/
theorem entryAt_emitted_of_mem {codes : List Code} (distinct : (codes.map Code.className).Nodup)
    (member : code ∈ codes) :
    (emitted place disk codes).entryAt (place ++ [fileName code.className]) =
      some (fileOf code) := by
  induction codes generalizing disk with
  | nil => cases member
  | cons first rest inductionHypothesis =>
    obtain ⟨distinctly, distinct⟩ := List.nodup_cons.1 distinct
    rw [emitted, List.foldl_cons, ← emitted]
    rcases List.mem_cons.1 member with rfl | later
    · rw [entryAt_emitted_of_ne, Disk.entryAt_put (by simp), if_pos rfl]
      -- No other class has this name, so that no later file takes its place.
      rintro other member same
      have same : fileName code.className = fileName other.className := by simpa using same
      exact distinctly (fileName_inj.1 same ▸ List.mem_map_of_mem member)
    · exact inductionHypothesis distinct later

/-- Relative paths start from the same directory after code has been written. -/
theorem current_emitted (place : Disk.Place) (disk : Disk) (codes : List Code) :
    (emitted place disk codes).current = disk.current := by
  induction codes generalizing disk with
  | nil => rfl
  | cons code rest inductionHypothesis =>
    rw [emitted, List.foldl_cons, ← emitted, inductionHypothesis]
    rfl

/-- A disk grows by code that is written where nothing stands. -/
theorem grown_emitted {codes : List Code}
    (vacant : ∀ code ∈ codes, disk.entryAt (place ++ [fileName code.className]) = none) :
    disk.Grown (emitted place disk codes) where
  current := current_emitted place disk codes
  kept := by
    intro goal entry there
    rw [entryAt_emitted_of_ne, there]
    rintro code member rfl
    cases there.symm.trans (vacant code member)

end TemplateTree.CommandLine.Emission
