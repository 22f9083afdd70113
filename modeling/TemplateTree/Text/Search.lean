/-!
# Search and replacement

Text that starts with a given beginning, and the replacement of every occurrence of a pattern in one
pass from left to right. An occurrence that overlaps one already taken is not taken, and what was
put in is not searched again.
-/

namespace TemplateTree.Text

/-- Text before a mark that it does not hold is told apart from what follows the mark. -/
theorem append_cons_inj_of_not_mem {Symbol : Type} {mark : Symbol} {first second : List Symbol}
    {rest more : List Symbol} (inFirst : mark ∉ first) (inSecond : mark ∉ second) :
    first ++ mark :: rest = second ++ mark :: more ↔ first = second ∧ rest = more := by
  induction first generalizing second with
  | nil =>
    cases second with
    | nil => simp
    | cons c second => simp_all
  | cons c first hypothesis =>
    cases second with
    | nil =>
      have other : c ≠ mark := fun equal => inFirst (by simp [equal])
      simp [other]
    | cons d second =>
      simp only [List.mem_cons, not_or] at inFirst inSecond
      simp [hypothesis inFirst.2 inSecond.2, and_assoc]

variable {Symbol : Type} [DecidableEq Symbol]

/-- What follows `start` in a text, of characters or of anything else, that starts with it. -/
def after? : List Symbol → List Symbol → Option (List Symbol)
  | [], text => some text
  | _ :: _, [] => none
  | c :: start, d :: text => if c = d then after? start text else none

/-- A text starts with `start` exactly when it is `start` followed by what `after?` returns. -/
theorem after?_eq_some_iff {start text rest : List Symbol} :
    after? start text = some rest ↔ text = start ++ rest := by
  induction start generalizing text with
  | nil => simp [after?, eq_comm]
  | cons c start hypothesis =>
    cases text with
    | nil => simp [after?]
    | cons d text =>
      by_cases same : c = d
      · simp [after?, same, hypothesis]
      · simp only [after?, same, if_false, List.cons_append, List.cons.injEq, reduceCtorEq,
          false_iff]
        exact fun equal => same equal.1.symm

theorem after?_eq_none_iff {start text : List Symbol} :
    after? start text = none ↔ ∀ rest, text ≠ start ++ rest := by
  rw [Option.eq_none_iff_forall_not_mem]
  simp [after?_eq_some_iff]

/-- Replaces the occurrences of `pattern` after the next `skip` characters, which belong to an
occurrence already replaced. -/
def replaceAfter (pattern replacement : List Char) : Nat → List Char → List Char
  | _, [] => []
  | skip + 1, _ :: rest => replaceAfter pattern replacement skip rest
  | 0, c :: rest =>
    if (after? pattern (c :: rest)).isSome then
      replacement ++ replaceAfter pattern replacement (pattern.length - 1) rest
    else c :: replaceAfter pattern replacement 0 rest

/-- Replaces every occurrence of a pattern, which must not be empty, from left to right. -/
def replace (pattern replacement text : List Char) : List Char :=
  replaceAfter pattern replacement 0 text

/-- Skipping characters is the same as dropping them first. -/
theorem replaceAfter_eq_drop (pattern replacement : List Char) (skip : Nat) (text : List Char) :
    replaceAfter pattern replacement skip text =
      replaceAfter pattern replacement 0 (text.drop skip) := by
  induction text generalizing skip with
  | nil => cases skip <;> simp [replaceAfter]
  | cons c rest hypothesis =>
    cases skip with
    | zero => rfl
    | succ skip => simpa [replaceAfter] using hypothesis skip

end TemplateTree.Text
