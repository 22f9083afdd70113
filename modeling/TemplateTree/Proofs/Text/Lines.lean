import TemplateTree.Directive.File

/-!
# Lines counted

How many lines a text has, with its byte order mark or without it, and where line feeds stand in
them. Main statement: `length_lines` counts the lines by the line feeds.
-/

namespace TemplateTree.Text

variable {text first : List Char}

theorem EndsLine.tail {c : Char} {rest : List Char} (ended : EndsLine (c :: rest)) :
    EndsLine rest := by
  cases rest with
  | nil => exact .inl rfl
  | cons d more => simpa [EndsLine] using ended

/-- Whether a text ends a line can be computed. -/
instance (text : List Char) : Decidable (EndsLine text) :=
  inferInstanceAs (Decidable (text = [] ∨ text.getLast? = some '\n'))

/-- A text has a line for each line feed, and one more for what stands behind the last of them. -/
theorem length_lines (text : List Char) :
    (lines text).length = text.count '\n' + if EndsLine text then 0 else 1 := by
  induction text with
  | nil => rfl
  | cons c rest inductionHypothesis =>
    cases rest with
    | nil => by_cases feed : c = '\n' <;> simp [lines, EndsLine, feed]
    | cons d more =>
      have behind : EndsLine (c :: d :: more) ↔ EndsLine (d :: more) := by simp [EndsLine]
      by_cases feed : c = '\n'
      · rw [lines, if_pos feed, List.length_cons, inductionHypothesis, feed, List.count_cons_self]
        rw [feed] at behind
        simp only [behind]
        omega
      · have some : lines (d :: more) ≠ [] := by
          intro none
          have whole := flatten_lines (d :: more)
          rw [none] at whole
          cases whole
        obtain ⟨first, others, cut⟩ := List.exists_cons_of_ne_nil some
        rw [cut] at inductionHypothesis
        rw [lines, if_neg feed, cut, List.count_cons_of_ne feed]
        simp only [behind]
        exact inductionHypothesis

/-- A text that ends its last line has a line for each line feed. -/
theorem EndsLine.length_lines (ended : EndsLine text) :
    (lines text).length = text.count '\n' := by
  rw [Text.length_lines, if_pos ended, Nat.add_zero]

/-- A mark at the beginning of a text is that of its first part, if the second has none. -/
theorem withoutMark_append {second : List Char} (unmarked : second.head? ≠ some '\uFEFF') :
    withoutMark (first ++ second) = withoutMark first ++ second := by
  cases first with
  | nil =>
    rw [List.nil_append, withoutMark]
    · rfl
    · rintro rest rfl
      exact unmarked rfl
  | cons c rest =>
    by_cases mark : c = '\uFEFF'
    · rw [mark]
      rfl
    · rw [withoutMark, List.cons_append, withoutMark, List.cons_append]
      · rintro more ⟨⟩
        exact mark rfl
      · rintro more ⟨⟩
        exact mark rfl

theorem count_withoutMark (text : List Char) :
    (withoutMark text).count '\n' = text.count '\n' := by
  fun_cases withoutMark text with
  | case1 rest => simp
  | case2 => rfl

theorem EndsLine.withoutMark (ended : EndsLine text) : EndsLine (Text.withoutMark text) := by
  fun_cases Text.withoutMark text with
  | case1 rest => exact ended.tail
  | case2 => exact ended

/-- A text has no more lines without its mark. -/
theorem length_lines_withoutMark_le (text : List Char) :
    (lines (withoutMark text)).length ≤ (lines text).length := by
  rw [length_lines, length_lines, count_withoutMark]
  by_cases ended : EndsLine text
  · simp only [if_pos ended, if_pos ended.withoutMark, Nat.le_refl]
  · rw [if_neg ended]
    split <;> omega

/-- A line has a line feed nowhere but at its end. -/
theorem exists_unbroken_append {text line : List Char} (member : line ∈ lines text) :
    ∃ front last, line = front ++ last ∧ '\n' ∉ front ∧ (last = [] ∨ last = ['\n']) := by
  induction text generalizing line with
  | nil => cases member
  | cons c rest inductionHypothesis =>
    rw [lines] at member
    split at member
    · next feed =>
      rcases List.mem_cons.1 member with rfl | later
      · exact ⟨[], [c], rfl, List.not_mem_nil, .inr (by rw [feed])⟩
      · exact inductionHypothesis later
    · next other =>
      have longer {front : List Char} (unbroken : '\n' ∉ front) : '\n' ∉ c :: front := by
        simp [unbroken, Ne.symm other]
      split at member
      · rcases List.mem_singleton.1 member with rfl
        exact ⟨[c], [], rfl, longer List.not_mem_nil, .inl rfl⟩
      · next first more cut =>
        rcases List.mem_cons.1 member with rfl | later
        · obtain ⟨front, last, rfl, unbroken, ends⟩ :=
            inductionHypothesis (cut ▸ List.mem_cons_self)
          exact ⟨c :: front, last, rfl, longer unbroken, ends⟩
        · exact inductionHypothesis (cut ▸ List.mem_cons_of_mem _ later)

end TemplateTree.Text
