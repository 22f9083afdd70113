import TemplateTree.Template.Atom
import TemplateTree.Text.Blank

/-!
# Names in expressions

The names that expressions have: identifiers with dots between them. Main statement: such a name is
read back whole where an `@` stands behind it, and so is the expression of this name.
-/

namespace TemplateTree.Atom

/-- A character that a name may start with, and others that a name may go on with. -/
def IsIdentifier (text : List Char) : Prop :=
  ∃ c rest, text = c :: rest ∧ isNameStart c = true ∧ ∀ d ∈ rest, isNamePart d = true

/-- Identifiers with dots between them. -/
inductive IsDotted : List Char → Prop where
  | identifier {text} (first : IsIdentifier text) : IsDotted text
  | dot {text more} (first : IsIdentifier text) (others : IsDotted more) :
      IsDotted (text ++ '.' :: more)

theorem isNamePart_of_isNameStart {c : Char} (start : isNameStart c = true) :
    isNamePart c = true := by
  simp only [isNameStart, isNamePart, Char.isAlphanum, Bool.or_eq_true] at start ⊢
  exact start.imp_left .inl

/-- A part of a name, like a dot, lies between the dot and the last small letter. -/
theorem bounds_of_part {c : Char} (part : isNamePart c = true ∨ c = '.') :
    '.'.toNat ≤ c.toNat ∧ c.toNat ≤ 'z'.toNat := by
  rcases part with part | rfl
  · rcases Bool.or_eq_true_iff.1 part with plain | line
    · rcases Bool.or_eq_true_iff.1 plain with letter | digit
      · rcases Bool.or_eq_true_iff.1 letter with upper | lower
        · have within : 'A'.val ≤ c.val ∧ c.val ≤ 'Z'.val := of_decide_eq_true upper
          exact ⟨Nat.le_trans (by decide) within.1, Nat.le_trans within.2 (by decide)⟩
        · obtain ⟨low, high⟩ := Bool.and_eq_true_iff.1 lower
          have low : 'a'.val ≤ c.val := of_decide_eq_true low
          have high : c.val ≤ 'z'.val := of_decide_eq_true high
          exact ⟨Nat.le_trans (by decide) low, Nat.le_trans high (by decide)⟩
      · obtain ⟨low, high⟩ := Bool.and_eq_true_iff.1 digit
        have low : '0'.val ≤ c.val := of_decide_eq_true low
        have high : c.val ≤ '9'.val := of_decide_eq_true high
        exact ⟨Nat.le_trans (by decide) low, Nat.le_trans high (by decide)⟩
    · rw [eq_of_beq line]
      decide
  · decide

/-- Neither a part of a name nor a dot is blank. -/
theorem isBlank_eq_false_of_part {c : Char} (part : isNamePart c = true ∨ c = '.') :
    Text.isBlank c = false := by
  have range := bounds_of_part part
  simp only [Char.reduceToNat] at range
  simp only [Text.isBlank, Bool.or_eq_false_iff, Bool.and_eq_false_iff, decide_eq_false_iff_not,
    beq_eq_false_iff_ne]
  omega

/-- The characters of a name: those of identifiers, and dots. -/
theorem IsDotted.mem {name : List Char} (dotted : IsDotted name) {c : Char} (member : c ∈ name) :
    isNamePart c = true ∨ c = '.' := by
  have inIdentifier {text : List Char} (identifier : IsIdentifier text) (inside : c ∈ text) :
      isNamePart c = true := by
    obtain ⟨first, rest, rfl, start, parts⟩ := identifier
    rcases List.mem_cons.1 inside with rfl | later
    · exact isNamePart_of_isNameStart start
    · exact parts c later
  induction dotted with
  | identifier first => exact .inl (inIdentifier first member)
  | dot first _ inductionHypothesis =>
    rcases List.mem_append.1 member with early | late
    · exact .inl (inIdentifier first early)
    · rcases List.mem_cons.1 late with rfl | later
      · exact .inr rfl
      · exact inductionHypothesis later

/-- A name starts with a character that may start one. -/
theorem IsDotted.exists_cons {name : List Char} (dotted : IsDotted name) :
    ∃ c rest, name = c :: rest ∧ isNameStart c = true := by
  cases dotted with
  | identifier first =>
    obtain ⟨c, rest, rfl, start, -⟩ := first
    exact ⟨c, rest, rfl, start⟩
  | dot first _ =>
    obtain ⟨c, rest, rfl, start, -⟩ := first
    exact ⟨c, _, rfl, start⟩

/-- A name goes on with every character that may go on with one. -/
theorem nameRest_append {parts : List Char} (all : ∀ c ∈ parts, isNamePart c = true)
    (rest : List Char) : nameRest (parts ++ rest) = parts ++ nameRest rest := by
  induction parts with
  | nil => rfl
  | cons c parts inductionHypothesis =>
    obtain ⟨part, others⟩ := List.forall_mem_cons.1 all
    have noDot : c ≠ '.' := by
      rintro rfl
      exact absurd part (by decide)
    rw [List.cons_append, nameRest, if_pos part, inductionHypothesis others, List.cons_append]
    rintro d more rfl
    exact absurd rfl noDot

theorem nameRest_dot {c : Char} (start : isNameStart c = true) (rest : List Char) :
    nameRest ('.' :: c :: rest) = '.' :: name (c :: rest) := by
  rw [nameRest, name, if_pos start, if_pos start]

theorem nameRest_mark (rest : List Char) : nameRest ('@' :: rest) = [] := by
  rw [nameRest, if_neg (by decide)]
  rintro c more ⟨⟩

/-- A name with an `@` behind it is read whole. -/
theorem IsDotted.name_append {text : List Char} (dotted : IsDotted text) (rest : List Char) :
    name (text ++ '@' :: rest) = text := by
  induction dotted with
  | identifier first =>
    obtain ⟨c, parts, rfl, start, all⟩ := first
    rw [List.cons_append, name, if_pos start, nameRest_append all, nameRest_mark,
      List.append_nil]
  | @dot text more first others inductionHypothesis =>
    obtain ⟨c, parts, rfl, start, all⟩ := first
    obtain ⟨d, further, rfl, next⟩ := others.exists_cons
    rw [List.cons_append] at inductionHypothesis
    rw [List.append_assoc, List.cons_append, List.cons_append, name, if_pos start,
      nameRest_append all, List.cons_append, nameRest_dot next, inductionHypothesis,
      List.cons_append]

/-- Before a name with an `@` behind it, an `@` stands for the expression of this name. -/
theorem IsDotted.ofMark_append {text : List Char} (dotted : IsDotted text) (rest : List Char) :
    ofMark (text ++ '@' :: rest) = ([.expression text], text.length) := by
  have whole := dotted.name_append rest
  obtain ⟨c, more, rfl, start⟩ := dotted.exists_cons
  rw [List.cons_append] at whole ⊢
  rw [ofMark, whole]
  · rintro other same
    obtain ⟨rfl, -⟩ := List.cons.inj same
    exact absurd start (by decide)
  · rintro other same
    obtain ⟨rfl, -⟩ := List.cons.inj same
    exact absurd start (by decide)

end TemplateTree.Atom
