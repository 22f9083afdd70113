/-!
# Lines

Text cut after each line feed. Main statements: the lines of a text are the text again when they are
put together, and cutting commutes with joining two texts the first of which ends its last line.
-/

namespace TemplateTree.Text

/-- The lines of a text, each with the line feed that ends it; the last one may lack it. -/
def lines : List Char → List (List Char)
  | [] => []
  | c :: rest =>
    if c = '\n' then [c] :: lines rest
    else match lines rest with
      | [] => [[c]]
      | line :: more => (c :: line) :: more

/-- Cutting a text into lines loses nothing. -/
theorem flatten_lines (text : List Char) : (lines text).flatten = text := by
  induction text with
  | nil => rfl
  | cons c rest hypothesis =>
    rw [lines]
    split
    · simp [hypothesis]
    · split
      · next empty => simpa [empty] using hypothesis
      · next line more equal => simpa [equal] using hypothesis

/-- Whether a text is empty or ends in a line feed. -/
def EndsLine (text : List Char) : Prop :=
  text = [] ∨ text.getLast? = some '\n'

/-- A text that ends its last line is cut apart from whatever follows it. -/
theorem lines_append {first : List Char} (ended : EndsLine first) (second : List Char) :
    lines (first ++ second) = lines first ++ lines second := by
  induction first with
  | nil => rfl
  | cons c rest hypothesis =>
    have restEnded : EndsLine rest ∨ (rest = [] ∧ c = '\n') := by
      cases rest with
      | nil => right; simpa [EndsLine] using ended
      | cons d more => left; right; simpa [EndsLine] using ended
    by_cases feed : c = '\n'
    · have : EndsLine rest := by
        rcases restEnded with h | ⟨h, -⟩
        · exact h
        · exact Or.inl h
      simp [lines, feed, hypothesis this]
    · have restLine : EndsLine rest := by
        rcases restEnded with h | ⟨-, h⟩
        · exact h
        · exact absurd h feed
      have nonempty : rest ≠ [] := by
        intro empty
        subst empty
        simp [EndsLine, feed] at ended
      have cut := hypothesis restLine
      have some : lines rest ≠ [] := by
        intro none
        have whole := flatten_lines rest
        rw [none] at whole
        exact nonempty whole.symm
      simp only [List.cons_append, lines, feed, if_false, cut]
      cases equal : lines rest with
      | nil => exact absurd equal some
      | cons line more => simp

/-- A text without a line feed is one line. -/
theorem lines_of_unbroken {line : List Char} (filled : line ≠ []) (unbroken : '\n' ∉ line) :
    lines line = [line] := by
  induction line with
  | nil => exact absurd rfl filled
  | cons c rest hypothesis =>
    obtain ⟨other, later⟩ := List.ne_and_not_mem_of_not_mem_cons unbroken
    rw [lines, if_neg (Ne.symm other)]
    cases rest with
    | nil => rfl
    | cons d more => rw [hypothesis (List.cons_ne_nil d more) later]

/-- The first line of a text goes up to its first line feed. -/
theorem lines_append_lineFeed {line : List Char} (unbroken : '\n' ∉ line) (rest : List Char) :
    lines (line ++ '\n' :: rest) = (line ++ ['\n']) :: lines rest := by
  induction line with
  | nil => rfl
  | cons c more hypothesis =>
    obtain ⟨other, later⟩ := List.ne_and_not_mem_of_not_mem_cons unbroken
    rw [List.cons_append, lines, if_neg (Ne.symm other), hypothesis later]
    rfl

end TemplateTree.Text
