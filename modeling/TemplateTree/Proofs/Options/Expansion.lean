import TemplateTree.Options.Expansion

/-!
# What expansion leaves alone

Text that names no variable and does not begin with a `~` comes out of an expansion as it went in.
-/

namespace TemplateTree.Expansion

variable {environment : Environment} {text front behind : List Char}

/-- A text in which there is nothing to expand. -/
structure IsPlain (text : List Char) : Prop where
  unmarked : '$' ∉ text
  away : text.head? ≠ some '~'

/-- Without a `$` no variable is expanded. -/
theorem expandVariables_of_unmarked (unmarked : '$' ∉ text) :
    expandVariables environment text = .ok text := by
  rw [expandVariables]
  induction text with
  | nil => rfl
  | cons c rest inductionHypothesis =>
    obtain ⟨other, unmarked⟩ := not_or.1 (mt List.mem_cons.2 unmarked)
    rw [expandVariablesAfter, if_neg (Ne.symm other), inductionHypothesis unmarked]

theorem IsPlain.expand_eq (plain : IsPlain text) : expand environment text = .ok text := by
  rw [expand, expandVariables_of_unmarked plain.unmarked]
  simp only [plain.away, if_false]

theorem IsPlain.of_prefix (plain : IsPlain text) (begins : front <+: text) : IsPlain front := by
  obtain ⟨rest, rfl⟩ := begins
  refine ⟨fun marked => plain.unmarked (List.mem_append_left _ marked), fun first => plain.away ?_⟩
  rw [List.head?_append, first, Option.some_or]

/-- Where there is nothing to expand in either of two texts, there is nothing in both together. -/
theorem IsPlain.append (first : IsPlain front) (second : IsPlain behind) :
    IsPlain (front ++ behind) := by
  refine ⟨?_, ?_⟩
  · rw [List.mem_append]
    exact not_or.2 ⟨first.unmarked, second.unmarked⟩
  · cases front with
    | nil => exact second.away
    | cons c rest => exact first.away

end TemplateTree.Expansion
