import Mathlib.Data.List.Nodup
import TemplateTree.CommandLine.Verdict

/-!
# Verdicts by position

Which templates of a compilation are used, told from their results alone: those that have code
without errors, where no earlier template has code without errors for the same class. Main
statement: `codes_judge` says that the verdicts, given one after the other with the names taken so
far, come to this.
-/

namespace TemplateTree.CommandLine

/-- The code of a result, if it has no errors. -/
def flawless? : Except CompileError Code → Option Code
  | .ok code => if code.hasErrors then none else some code
  | .error _ => none

/-- Code is flawless if there is such code and it has no errors. -/
theorem flawless?_eq_some_iff {result : Except CompileError Code} {code : Code} :
    flawless? result = some code ↔ result = .ok code ∧ code.hasErrors = false := by
  cases result with
  | error error => simp [flawless?]
  | ok made =>
    simp only [flawless?, Except.ok.injEq]
    split
    · next faulty =>
      simp only [reduceCtorEq, false_iff]
      rintro ⟨rfl, sound⟩
      cases faulty.symm.trans sound
    · next sound =>
      simp only [Option.some.injEq, iff_self_and]
      rintro rfl
      simpa using sound

/-- The code of the template at a position, if it is used: it is flawless, and no earlier template
has flawless code for a class of the same name. -/
def usedAt? (results : List (Path × Except CompileError Code)) (position : Nat) : Option Code :=
  (results[position]?.bind fun entry => flawless? entry.2).filter fun code =>
    (results.take position).all fun earlier =>
      (flawless? earlier.2).all fun other => other.className ≠ code.className

/-- The code that is used, in the order of the templates. -/
def used (results : List (Path × Except CompileError Code)) : List Code :=
  (List.range results.length).filterMap (usedAt? results)

/-- Which code is used depends on the flawless code of the templates only. -/
theorem used_congr {first second : List (Path × Except CompileError Code)}
    (same : first.map (flawless? ·.2) = second.map (flawless? ·.2)) : used first = used second := by
  have positions (results : List (Path × Except CompileError Code)) :
      usedAt? results = fun position =>
        ((results.map (flawless? ·.2))[position]?.bind id).filter fun code =>
          ((results.map (flawless? ·.2)).take position).all
            (·.all fun other => other.className ≠ code.className) := by
    funext position
    simp [usedAt?, List.getElem?_map, ← List.map_take, List.all_map, Function.comp_def,
      Option.bind_map]
  have length : first.length = second.length := by
    simpa using congrArg List.length same
  rw [used, used, positions, positions, same, length]

variable {results : List (Path × Except CompileError Code)} {position : Nat} {code : Code}

/-- Code is used if it is the first flawless code for its class. -/
theorem usedAt?_eq_some_iff :
    usedAt? results position = some code ↔
      (∃ path, results[position]? = some (path, .ok code)) ∧ code.hasErrors = false ∧
        ∀ earlier < position, ∀ path other, results[earlier]? = some (path, .ok other) →
          other.hasErrors = false → other.className ≠ code.className := by
  have first : ((results.take position).all fun earlier =>
      (flawless? earlier.2).all fun other => other.className ≠ code.className) = true ↔
        ∀ earlier < position, ∀ path other, results[earlier]? = some (path, .ok other) →
          other.hasErrors = false → other.className ≠ code.className := by
    simp only [List.all_eq_true, Option.all_eq_true, flawless?_eq_some_iff, decide_eq_true_eq]
    constructor
    · intro unique earlier before path other there sound
      have member : (path, .ok other) ∈ results.take position :=
        List.mem_of_getElem? (List.getElem?_take_of_lt before ▸ there)
      exact unique _ member other ⟨rfl, sound⟩
    · rintro unique ⟨path, result⟩ member other ⟨rfl, sound⟩
      obtain ⟨earlier, there⟩ := List.mem_iff_getElem?.1 member
      rw [List.getElem?_take] at there
      split at there
      · next before => exact unique earlier before path other there sound
      · cases there
  have here : (results[position]?.bind fun entry => flawless? entry.2) = some code ↔
      (∃ path, results[position]? = some (path, .ok code)) ∧ code.hasErrors = false := by
    simp only [Option.bind_eq_some_iff, flawless?_eq_some_iff]
    constructor
    · rintro ⟨⟨path, result⟩, there, rfl, sound⟩
      exact ⟨⟨path, there⟩, sound⟩
    · rintro ⟨⟨path, there⟩, sound⟩
      exact ⟨_, there, rfl, sound⟩
  rw [usedAt?, Option.filter_eq_some_iff, first, here, and_assoc]

theorem exists_mem_of_mem_used (member : code ∈ used results) :
    ∃ path, (path, .ok code) ∈ results := by
  obtain ⟨position, -, here⟩ := List.mem_filterMap.1 member
  obtain ⟨⟨path, there⟩, -⟩ := usedAt?_eq_some_iff.1 here
  exact ⟨path, List.mem_of_getElem? there⟩

/-- No two classes that are used have the same name. -/
theorem nodup_classNames_used (results : List (Path × Except CompileError Code)) :
    ((used results).map Code.className).Nodup := by
  rw [List.Nodup, List.pairwise_map, used, List.pairwise_filterMap]
  refine List.pairwise_lt_range.imp fun {first second} before one here other there => ?_
  obtain ⟨⟨path, made⟩, sound, -⟩ := usedAt?_eq_some_iff.1 here
  obtain ⟨-, -, unique⟩ := usedAt?_eq_some_iff.1 there
  exact unique first before path one made sound

/-- The code that verdicts let through. -/
def codes (verdicts : List (Path × Verdict)) : List Code :=
  verdicts.filterMap fun entry => entry.2.code?

theorem length_codes (verdicts : List (Path × Verdict)) :
    (codes verdicts).length = verdicts.countP fun entry => entry.2.code?.isSome :=
  List.length_filterMap_eq_countP

theorem countP_add_countP (verdicts : List (Path × Verdict)) :
    (verdicts.countP fun entry => entry.2.code?.isSome) +
      (verdicts.countP fun entry => entry.2.code?.isNone) = verdicts.length := by
  rw [List.length_eq_countP_add_countP (fun entry : Path × Verdict => entry.2.code?.isSome)]
  refine congrArg _ (List.countP_congr fun entry _ => ?_)
  cases entry.2.code? <;> simp

/-- Names are recorded if they are those of the flawless code of earlier templates. -/
def Records (names : List (String × Path)) (before : List (Path × Except CompileError Code)) :
    Prop :=
  ∀ className, names.lookup className = none ↔
    ∀ earlier ∈ before, ∀ other, flawless? earlier.2 = some other → other.className ≠ className

namespace Records

variable {names : List (String × Path)} {before : List (Path × Except CompileError Code)}
variable {entry : Path × Except CompileError Code}

/-- A template without flawless code, or with a name that is recorded, adds no name. -/
theorem keep (records : Records names before)
    (other : ∀ code, flawless? entry.2 = some code → names.lookup code.className ≠ none) :
    Records names (before ++ [entry]) := by
  intro className
  rw [records className, List.forall_mem_append, List.forall_mem_singleton, iff_self_and]
  rintro vacant code flawless rfl
  exact other code flawless ((records code.className).2 vacant)

/-- The name of a template with flawless code is recorded. -/
theorem add (records : Records names before) (flawless : flawless? entry.2 = some code) :
    Records ((code.className, entry.1) :: names) (before ++ [entry]) := by
  intro className
  rw [List.forall_mem_append, List.forall_mem_singleton, ← records className, List.lookup_cons,
    flawless]
  by_cases same : className = code.className
  · simp [same]
  · simp only [beq_false_of_ne same, Option.some.injEq, forall_eq', ne_eq, Ne.symm same,
      not_false_eq_true, and_true]

end Records

/-- The first template is judged by itself and the names that are taken, the others after it. -/
theorem codes_judge_cons (names : List (String × Path)) (path : Path)
    (result : Except CompileError Code) (rest : List (Path × Except CompileError Code)) :
    codes (Verdict.judge names ((path, result) :: rest)) =
      match (flawless? result).filter fun code => (names.lookup code.className).isNone with
      | none => codes (Verdict.judge names rest)
      | some code => code :: codes (Verdict.judge ((code.className, path) :: names) rest) := by
  cases result with
  | error error => rfl
  | ok code =>
    rw [flawless?, Verdict.judge]
    split
    · rfl
    · cases taken : names.lookup code.className with
      | none => simp [codes, Verdict.code?, Option.filter, taken]
      | some first => simp [codes, Verdict.code?, Option.filter, taken]

/-- Judging with names that are recorded lets through the code that is used after the templates that
took them. -/
theorem codes_judge_of_records {names : List (String × Path)}
    {before : List (Path × Except CompileError Code)} (records : Records names before)
    (results : List (Path × Except CompileError Code)) :
    codes (Verdict.judge names results) =
      (List.range results.length).filterMap fun position =>
        usedAt? (before ++ results) (before.length + position) := by
  induction results generalizing names before with
  | nil => rfl
  | cons entry rest inductionHypothesis =>
    have later (position : Nat) : usedAt? (before ++ entry :: rest) (before.length + (position + 1)) =
        usedAt? ((before ++ [entry]) ++ rest) ((before ++ [entry]).length + position) := by
      rw [List.append_assoc, List.singleton_append, List.length_append, List.length_singleton,
        Nat.add_comm position, Nat.add_assoc]
    have here : usedAt? (before ++ entry :: rest) (before.length + 0) =
        (flawless? entry.2).filter fun code => (names.lookup code.className).isNone := by
      have first (code : Code) : (before.all fun earlier =>
          (flawless? earlier.2).all fun other => other.className ≠ code.className) =
            (names.lookup code.className).isNone := by
        rw [Bool.eq_iff_iff, Option.isNone_iff_eq_none, records code.className]
        simp only [List.all_eq_true, Option.all_eq_true, decide_eq_true_eq]
      rw [usedAt?, Nat.add_zero, List.getElem?_append_right (Nat.le_refl _), Nat.sub_self,
        List.take_left]
      simp only [first, List.getElem?_cons_zero, Option.bind_some]
    rw [List.length_cons, List.range_succ_eq_map, List.filterMap_cons, here, List.filterMap_map,
      codes_judge_cons]
    simp only [Function.comp_def, Nat.succ_eq_add_one, later]
    cases passed : (flawless? entry.2).filter fun code => (names.lookup code.className).isNone with
    | none =>
      refine inductionHypothesis (records.keep fun code flawless vacant => ?_)
      rw [flawless, Option.filter_some, vacant] at passed
      cases passed
    | some code =>
      obtain ⟨flawless, -⟩ := Option.filter_eq_some_iff.1 passed
      exact congrArg (code :: ·) (inductionHypothesis (records.add flawless))

/-- Judging lets through the code that is used. -/
theorem codes_judge (results : List (Path × Except CompileError Code)) :
    codes (Verdict.judge [] results) = used results := by
  have records : Records [] [] := by simp [Records]
  rw [codes_judge_of_records records results, used]
  simp

end TemplateTree.CommandLine
