import Mathlib.Data.List.Forall2
import TemplateTree.Proofs.Directive.Arguments

/-!
# What a directive file may contain

The lines of a directive file, told without the way in which they are read: `Holds` says of a line
that it is blank, a comment or a directive, and which directive it is. Main statements:
`ofLines_of_holds` reads lines of these kinds, and `exists_problem_of_ofLines` blames the first line
of no such kind.
-/

namespace TemplateTree.Directive

/-- What a line of a directive file holds: nothing if it is blank, or a comment whose marks do not
overlap; and a directive if it is a keyword and an argument, with blank between them, where
something is left of the argument of an import without the semicolons at its end. -/
inductive Holds : List Char → List Directive → Prop where
  | blank {line} (empty : Text.trim line = []) : Holds line []
  | comment {line} (opened : ['@', '*'] <+: Text.trim line)
      (closed : ['*', '@'] <:+ Text.trim line) (long : 4 ≤ (Text.trim line).length) : Holds line []
  | directive {line kind c rest}
      (content : Text.trim line = '@' :: (kind.keyword.toList ++ c :: rest))
      (apart : Text.isBlank c = true) (filled : Text.trim rest ≠ [])
      (uncut : kind = .namespaceImport → Text.trimEnd (· == ';') (Text.trim rest) ≠ []) :
      Holds line [⟨kind, String.ofList (kind.argument rest)⟩]

/-- A line that may stand in a directive file. -/
def Acceptable (line : List Char) : Prop :=
  ∃ held, Holds line held

variable {line rest : List Char} {lines : List (List Char)} {held : List Directive}

theorem Kind.argument_cons (kind : Kind) {c : Char} (blank : Text.isBlank c = true)
    (rest : List Char) : kind.argument (c :: rest) = kind.argument rest := by
  have trimmed : Text.trim (c :: rest) = Text.trim rest := by
    rw [← List.singleton_append, Text.trim, Text.trimStart_append (List.forall_mem_singleton.2 blank),
      Text.trim]
  simp only [Kind.argument, trimmed]

/-- Something is left of an argument when blank and semicolons have been dropped, exactly when
something is left without the blank at its ends, and of an import without the semicolons then. -/
theorem Kind.argument_ne_nil_iff (kind : Kind) (rest : List Char) :
    kind.argument rest ≠ [] ↔
      Text.trim rest ≠ [] ∧
        (kind = .namespaceImport → Text.trimEnd (· == ';') (Text.trim rest) ≠ []) := by
  cases kind with
  | baseType | modelType => simp [Kind.argument]
  | namespaceImport =>
    have trimmed := Text.isTrimmed_trim rest
    rw [Kind.argument]
    generalize Text.trim rest = written at trimmed
    constructor
    · intro filled
      refine ⟨?_, fun _ cut => filled (by rw [cut]; rfl)⟩
      rintro rfl
      exact filled rfl
    · rintro ⟨-, uncut⟩ none
      -- What is left without the semicolons still starts as the argument does, with no blank.
      obtain ⟨c, more, left⟩ := List.exists_cons_of_ne_nil (uncut rfl)
      obtain ⟨blanks, whole, blank⟩ :=
        Text.exists_trimEnd_append Text.isBlank (Text.trimEnd (· == ';') written)
      rw [none, List.nil_append] at whole
      have ink : Text.isBlank c = false := by
        refine trimmed.start c (Text.head?_of_isPrefix (Text.trimEnd_isPrefix (· == ';') written) ?_)
        rw [left, List.head?_cons]
      rw [blank c (by simp [whole, left])] at ink
      cases ink

/-- A line is read as blank when nothing but blank is on it. -/
theorem read_eq_blank_iff : Line.read line = .blank ↔ Text.trim line = [] := by
  rw [Line.read]
  constructor
  · intro read
    split at read
    · next empty => exact List.isEmpty_iff.1 empty
    · split at read
      · cases read
      · exact absurd read (readDirective_ne _ _).1
  · intro empty
    rw [empty]
    rfl

/-- What a line holds is what it is read as. -/
theorem holds_iff :
    Holds line held ↔
      match Line.read line with
      | .blank | .comment => held = []
      | .directive directive => held = [directive]
      | .incomplete _ | .text => False := by
  constructor
  · intro holds
    cases holds with
    | blank empty => rw [read_eq_blank_iff.2 empty]
    | comment opened closed long =>
      have comment : isComment (Text.trim line) = true := by
        simpa [isComment, long] using ⟨opened, closed⟩
      rw [read_eq_comment_iff.2 (isComment_iff.1 comment)]
    | @directive kind c rest content apart filled uncut =>
      have argument : kind.argument (c :: rest) =
          (String.ofList (kind.argument rest)).toList := by
        rw [kind.argument_cons apart, String.toList_ofList]
      have written : String.ofList (kind.argument rest) ≠ "" := by
        simpa using (kind.argument_ne_nil_iff rest).2 ⟨filled, uncut⟩
      have read : Line.read line = .directive ⟨kind, String.ofList (kind.argument rest)⟩ :=
        read_eq_directive_iff.2 ⟨c, rest, apart, content, argument, written⟩
      rw [read]
  · intro read
    split at read
    · next blank =>
      rw [read]
      exact .blank (read_eq_blank_iff.1 blank)
    · next comment =>
      have marks := isComment_iff.2 (read_eq_comment_iff.1 comment)
      simp only [isComment, Bool.and_eq_true, List.isPrefixOf_iff_prefix,
        List.isSuffixOf_iff_suffix, decide_eq_true_eq] at marks
      rw [read]
      exact .comment marks.1.1 marks.1.2 marks.2
    · next directive found =>
      obtain ⟨c, rest, apart, content, argument, filled⟩ := read_eq_directive_iff.1 found
      rw [directive.kind.argument_cons apart] at argument
      have some : directive.kind.argument rest ≠ [] := by
        rwa [argument, Ne, String.toList_eq_nil_iff]
      obtain ⟨written, uncut⟩ := (directive.kind.argument_ne_nil_iff rest).1 some
      have holds := Holds.directive content apart written uncut
      rwa [argument, String.ofList_toList, ← read] at holds
    · cases read
    · cases read

theorem acceptable_of_holds {all : List (List Directive)} (holds : List.Forall₂ Holds lines all) :
    ∀ line ∈ lines, Acceptable line := by
  induction holds with
  | nil => simp
  | cons here _ inductionHypothesis =>
    exact List.forall_mem_cons.2 ⟨⟨_, here⟩, inductionHypothesis⟩

/-- Lines that may stand in a directive file are read as the directives that they hold, in order. -/
theorem ofLines_of_holds {all : List (List Directive)} (holds : List.Forall₂ Holds lines all)
    (number : Nat) : ofLines number lines = .ok all.flatten := by
  induction holds generalizing number with
  | nil => rfl
  | @cons line held lines all here _ inductionHypothesis =>
    rw [holds_iff] at here
    cases read : Line.read line with
    | blank | comment =>
      simp only [read] at here
      simp only [ofLines, read, inductionHypothesis, here, List.flatten_cons, List.nil_append]
    | directive directive =>
      simp only [read] at here
      simp only [ofLines, read, inductionHypothesis, here, List.flatten_cons,
        List.singleton_append]
    | incomplete | text => simp only [read] at here

/-- A line that may not stand in a directive file is blamed if none before it is. -/
theorem exists_problem_of_ofLines {front : List (List Char)}
    (earlier : ∀ before ∈ front, Acceptable before) (refused : ¬Acceptable line)
    (below : List (List Char)) (number : Nat) :
    ∃ problem, ofLines number (front ++ line :: below) = .error ⟨number + front.length, problem⟩ := by
  induction front generalizing number with
  | nil =>
    have nothing (held : List Directive) : ¬Holds line held := fun holds => refused ⟨held, holds⟩
    simp only [holds_iff] at nothing
    rw [List.nil_append]
    cases read : Line.read line with
    | blank | comment => exact absurd (by simp only [read]) (nothing [])
    | directive directive => exact absurd (by simp only [read]) (nothing [directive])
    | incomplete kind => exact ⟨.missingArgument kind, by simp only [ofLines, read]; rfl⟩
    | text => exact ⟨.notADirective (excerpt line), by simp only [ofLines, read]; rfl⟩
  | cons before front inductionHypothesis =>
    obtain ⟨⟨held, holds⟩, others⟩ := List.forall_mem_cons.1 earlier
    obtain ⟨problem, found⟩ := inductionHypothesis others (number + 1)
    rw [Nat.add_assoc, Nat.add_comm 1] at found
    rw [holds_iff] at holds
    refine ⟨problem, ?_⟩
    cases read : Line.read before with
    | blank | comment | directive =>
      simp only [List.cons_append, ofLines, read, found, List.length_cons]
    | incomplete | text => simp only [read] at holds

/-- Of several lines all may stand in a directive file, or there is a first one that may not. -/
theorem holds_or_exists_first (lines : List (List Char)) :
    (∃ all, List.Forall₂ Holds lines all) ∨
      ∃ front line below, lines = front ++ line :: below ∧
        (∀ before ∈ front, Acceptable before) ∧ ¬Acceptable line := by
  induction lines with
  | nil => exact .inl ⟨[], .nil⟩
  | cons line rest inductionHypothesis =>
    by_cases acceptable : Acceptable line
    · rcases inductionHypothesis with ⟨all, holds⟩ | ⟨front, first, below, rfl, earlier, refused⟩
      · obtain ⟨held, here⟩ := acceptable
        exact .inl ⟨held :: all, .cons here holds⟩
      · exact .inr ⟨line :: front, first, below, rfl,
          List.forall_mem_cons.2 ⟨acceptable, earlier⟩, refused⟩
    · exact .inr ⟨[], line, rest, rfl, by simp, acceptable⟩

end TemplateTree.Directive
