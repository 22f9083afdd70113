import Mathlib.Data.List.DropRight
import TemplateTree.Text.Blank

/-!
# Text outside comments

Within a line a comment goes from `@*` to the first `*@` after it, and an `@` written twice starts
none. `outsideComments` is the text that is left; `OnlyComments` says that a line is nothing but
blank and complete comments. Main statement: a line is that exactly when all text outside its
comments is blank.
-/

namespace TemplateTree.Text

/-- Nothing is left of a text without the blank at its ends exactly when all of it is blank. -/
theorem trim_eq_nil_iff {text : List Char} :
    trim text = [] ↔ ∀ c ∈ text, isBlank c = true := by
  have started : (trimStart isBlank text).dropWhile isBlank = trimStart isBlank text :=
    List.dropWhile_idempotent ..
  rw [← List.dropWhile_eq_nil_iff, trim, trimEnd, List.reverse_eq_nil_iff,
    List.dropWhile_eq_nil_iff]
  simp only [List.mem_reverse]
  rw [← List.dropWhile_eq_nil_iff, started, trimStart]

/-- The text behind the first `*@`. -/
def afterClosing? : List Char → Option (List Char)
  | [] => none
  | '*' :: '@' :: rest => some rest
  | _ :: rest => afterClosing? rest

theorem afterClosing?_cons {c : Char} {rest : List Char}
    (other : ¬(c = '*' ∧ rest.head? = some '@')) :
    afterClosing? (c :: rest) = afterClosing? rest := by
  rw [afterClosing?]
  rintro more rfl rfl
  exact other ⟨rfl, rfl⟩

/-- What stands behind a closing mark is found when there is none before it. -/
theorem afterClosing?_append {body : List Char} (first : ¬['*', '@'] <:+: body)
    (rest : List Char) : afterClosing? (body ++ '*' :: '@' :: rest) = some rest := by
  induction body with
  | nil => rfl
  | cons c body inductionHypothesis =>
    have later : ¬['*', '@'] <:+: body := fun inside =>
      first (inside.trans (List.suffix_cons c body).isInfix)
    rw [List.cons_append, afterClosing?_cons, inductionHypothesis later]
    rintro ⟨rfl, next⟩
    cases body with
    | nil => simp at next
    | cons d body =>
      simp only [List.cons_append, List.head?_cons, Option.some.injEq] at next
      subst next
      exact first ⟨[], body, rfl⟩

/-- What is found behind a closing mark stands behind the first one. -/
theorem exists_of_afterClosing? {text rest : List Char} (found : afterClosing? text = some rest) :
    ∃ body, text = body ++ '*' :: '@' :: rest ∧ ¬['*', '@'] <:+: body := by
  fun_induction afterClosing? text with
  | case1 => cases found
  | case2 more =>
    cases found
    exact ⟨[], rfl, by simp⟩
  | case3 c more other inductionHypothesis =>
    obtain ⟨body, rfl, first⟩ := inductionHypothesis found
    refine ⟨c :: body, rfl, ?_⟩
    intro inside
    rcases List.infix_cons_iff.1 inside with ⟨tail, here⟩ | later
    · cases body with
      | nil => simp at here
      | cons d body =>
        obtain ⟨rfl, rfl, -⟩ : '*' = c ∧ '@' = d ∧ tail = body := by simpa using here
        exact other _ rfl rfl
    · exact first later

theorem length_of_afterClosing? {text rest : List Char} (found : afterClosing? text = some rest) :
    rest.length < text.length := by
  obtain ⟨body, rfl, -⟩ := exists_of_afterClosing? found
  simp only [List.length_append, List.length_cons]
  omega

/-- The text outside the comments of a line, with one `@` for each `@@`. -/
def outsideComments : List Char → List Char
  | [] => []
  | '@' :: '@' :: rest => '@' :: outsideComments rest
  | '@' :: '*' :: rest =>
    match _closed : afterClosing? rest with
    | some rest => outsideComments rest
    | none => '@' :: '*' :: outsideComments rest
  | c :: rest => c :: outsideComments rest
termination_by line => line.length
decreasing_by
  all_goals simp only [List.length_cons]
  all_goals first
    | omega
    | exact Nat.lt_succ_of_lt (Nat.lt_succ_of_lt (length_of_afterClosing? ‹_›))

/-- A line of nothing but blank and complete comments, each of which ends at the first closing mark
after its opening mark. -/
inductive OnlyComments : List Char → Prop where
  | nil : OnlyComments []
  | blank {c rest} (blank : isBlank c = true) (others : OnlyComments rest) :
      OnlyComments (c :: rest)
  | comment {body rest} (first : ¬['*', '@'] <:+: body) (others : OnlyComments rest) :
      OnlyComments ('@' :: '*' :: (body ++ '*' :: '@' :: rest))

/-- A comment that is closed leaves the text behind its closing mark. -/
theorem outsideComments_comment {text rest : List Char} (closed : afterClosing? text = some rest) :
    outsideComments ('@' :: '*' :: text) = outsideComments rest := by
  rw [outsideComments]
  split
  · next found =>
    rw [closed] at found
    cases found
    rfl
  · next unclosed =>
    rw [closed] at unclosed
    cases unclosed

/-- Without a closing mark there is no comment. -/
theorem outsideComments_unclosed {text : List Char} (unclosed : afterClosing? text = none) :
    outsideComments ('@' :: '*' :: text) = '@' :: '*' :: outsideComments text := by
  rw [outsideComments]
  split
  · next found =>
    rw [unclosed] at found
    cases found
  · rfl

/-- Every character but `@` stands for itself. -/
theorem outsideComments_cons {c : Char} (other : c ≠ '@') (rest : List Char) :
    outsideComments (c :: rest) = c :: outsideComments rest := by
  rw [outsideComments]
  · rintro more rfl
    exact absurd rfl other
  · rintro more rfl
    exact absurd rfl other

/-- An `@` that starts neither an escape nor a comment stands for itself. -/
theorem outsideComments_mark {rest : List Char} (single : rest.head? ≠ some '@')
    (plain : rest.head? ≠ some '*') : outsideComments ('@' :: rest) = '@' :: outsideComments rest := by
  rw [outsideComments]
  · rintro more - rfl
    exact single rfl
  · rintro more - rfl
    exact plain rfl

/-- Text without an `@` stands for itself. -/
theorem outsideComments_append {first : List Char} (unmarked : '@' ∉ first) (rest : List Char) :
    outsideComments (first ++ rest) = first ++ outsideComments rest := by
  induction first with
  | nil => rfl
  | cons c first inductionHypothesis =>
    obtain ⟨other, later⟩ := List.ne_and_not_mem_of_not_mem_cons unmarked
    rw [List.cons_append, outsideComments_cons other.symm, inductionHypothesis later,
      List.cons_append]

theorem ne_mark_of_isBlank {c : Char} (blank : isBlank c = true) : c ≠ '@' := by
  rintro rfl
  exact absurd blank (by decide)

/-- A line is nothing but blank and complete comments exactly when all text outside its comments is
blank. -/
theorem onlyComments_iff {line : List Char} :
    OnlyComments line ↔ ∀ c ∈ outsideComments line, isBlank c = true := by
  constructor
  · intro only
    induction only with
    | nil => simp [outsideComments]
    | blank blank _ inductionHypothesis =>
      rw [outsideComments_cons (ne_mark_of_isBlank blank)]
      exact List.forall_mem_cons.2 ⟨blank, inductionHypothesis⟩
    | comment first _ inductionHypothesis =>
      rwa [outsideComments_comment (afterClosing?_append first _)]
  · intro allBlank
    fun_induction outsideComments line with
    | case1 => exact .nil
    | case2 rest inductionHypothesis =>
      exact absurd (allBlank '@' (by simp)) (by decide)
    | case3 text rest closed inductionHypothesis =>
      obtain ⟨body, rfl, first⟩ := exists_of_afterClosing? closed
      exact .comment first (inductionHypothesis allBlank)
    | case4 text unclosed inductionHypothesis =>
      exact absurd (allBlank '@' (by simp)) (by decide)
    | case5 c rest _ _ inductionHypothesis =>
      obtain ⟨blank, others⟩ := List.forall_mem_cons.1 allBlank
      exact .blank blank (inductionHypothesis others)

/-- Blank is left outside comments. -/
theorem onlyComments_of_blank {line : List Char} (blank : ∀ c ∈ line, isBlank c = true) :
    OnlyComments line := by
  induction line with
  | nil => exact .nil
  | cons c rest inductionHypothesis =>
    obtain ⟨here, others⟩ := List.forall_mem_cons.1 blank
    exact .blank here (inductionHypothesis others)

/-- Whether a line is nothing but blank and complete comments can be computed. -/
instance (line : List Char) : Decidable (OnlyComments line) :=
  decidable_of_iff ((outsideComments line).all isBlank = true)
    (List.all_eq_true.trans onlyComments_iff.symm)

end TemplateTree.Text
