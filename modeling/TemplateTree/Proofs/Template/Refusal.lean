import TemplateTree.Proofs.Directive.Grammar
import TemplateTree.Template.Parser

/-!
# Why a template is refused

A template is refused for one reason only: on one of its lines a directive lacks its argument.
`LacksArgument` tells such a line without the way in which it is read, and `FirstLacking` blames the
first of them. Main statement: `parse_eq_error_iff`.
-/

namespace TemplateTree

namespace Directive

/-- On a line a directive of this kind lacks its argument: beside the keyword there is nothing but
blank, or blank and then nothing but semicolons stand behind the keyword of an import. -/
inductive LacksArgument (line : List Char) : Kind → Prop where
  | bare {kind : Kind} (content : Text.trim line = '@' :: kind.keyword.toList) :
      LacksArgument line kind
  | semicolons {blanks marks : List Char}
      (content : Text.trim line =
        '@' :: (Kind.namespaceImport.keyword.toList ++ (blanks ++ marks)))
      (apart : blanks ≠ []) (blank : ∀ c ∈ blanks, Text.isBlank c = true)
      (only : ∀ c ∈ marks, c = ';') : LacksArgument line .namespaceImport

/-- The error that blames the first of these lines on which a directive lacks its argument. -/
inductive FirstLacking : List (List Char) → SyntaxError → Prop where
  | blame {front below : List (List Char)} {line : List Char} {kind : Kind}
      (earlier : ∀ before ∈ front, ∀ other, ¬LacksArgument before other)
      (here : LacksArgument line kind) :
      FirstLacking (front ++ line :: below) ⟨front.length + 1, .missingArgument kind⟩

variable {content rest line : List Char} {kind : Kind} {kinds : List Kind}

/-- Where a text starts with the keyword of one kind of directive only, and has no argument behind
it, the argument is missed. -/
theorem readDirective_of_argument_eq_nil (listed : kind ∈ kinds)
    (here : kind.rest? content = some rest)
    (elsewhere : ∀ other, other ≠ kind → other.rest? content = none)
    (missing : kind.argument rest = []) : readDirective content kinds = .incomplete kind := by
  induction kinds with
  | nil => cases listed
  | cons first kinds inductionHypothesis =>
    by_cases same : first = kind
    · subst same
      simp only [readDirective, here, missing]
    · have later : kind ∈ kinds := (List.mem_cons.1 listed).resolve_left (Ne.symm same)
      simp only [readDirective, elsewhere first same, inductionHypothesis later]

/-- Where an argument is missed, a keyword has none behind it. -/
theorem exists_of_readDirective_eq_incomplete
    (read : readDirective content kinds = .incomplete kind) :
    ∃ rest, kind.rest? content = some rest ∧ kind.argument rest = [] := by
  induction kinds with
  | nil => cases read
  | cons first kinds inductionHypothesis =>
    rw [readDirective] at read
    split at read
    · exact inductionHypothesis read
    · next rest found =>
      split at read
      · next missing =>
        cases read
        exact ⟨rest, found, missing⟩
      · cases read

theorem Kind.rest?_keyword (kind : Kind) :
    kind.rest? ('@' :: kind.keyword.toList) = some [] := by
  cases kind <;> decide

/-- A text behind whose keyword there is nothing is this keyword. -/
theorem Kind.eq_of_rest?_eq_nil (found : kind.rest? content = some []) :
    content = '@' :: kind.keyword.toList := by
  rw [Kind.rest?] at found
  split at found
  · next after =>
    have whole := Text.after?_eq_some_iff.1 after
    rwa [List.append_nil] at whole
  · split at found <;> cases found
  · cases found

/-- Semicolons are no argument of an import. -/
theorem argument_semicolons {blanks marks : List Char}
    (blank : ∀ c ∈ blanks, Text.isBlank c = true) (only : ∀ c ∈ marks, c = ';') :
    Kind.namespaceImport.argument (blanks ++ marks) = [] := by
  have trimmed : Text.IsTrimmed marks :=
    ⟨fun c first => only c (List.mem_of_head? first) ▸ rfl,
      fun c last => only c (List.mem_of_getLast? last) ▸ rfl⟩
  have cut : Text.trimEnd (· == ';') marks = [] := by
    have dropped : Text.trimEnd (· == ';') ([] ++ marks) = Text.trimEnd (· == ';') [] :=
      Text.trimEnd_append (by simpa using only) []
    rwa [List.nil_append] at dropped
  rw [Kind.argument, trimmed.trim_append blank, cut]
  rfl

/-- Where a keyword and blank end a text that has no blank at its end, semicolons stand behind the
blank, or some argument. -/
theorem lacksArgument_of_argument_eq_nil {c : Char} {more : List Char}
    (content : Text.trim line = '@' :: (kind.keyword.toList ++ c :: more))
    (apart : Text.isBlank c = true) (missing : kind.argument (c :: more) = []) :
    LacksArgument line kind := by
  have finish (last : Char) (ends : (c :: more).getLast? = some last) :
      Text.isBlank last = false := by
    refine (Text.isTrimmed_trim line).finish last ?_
    rw [content, ← List.cons_append, List.getLast?_append, ends, Option.some_or]
  obtain ⟨blanks, blank, whole⟩ := Text.exists_append_trim finish
  have filled : Text.trim (c :: more) ≠ [] := by
    intro nothing
    rw [nothing, List.append_nil] at whole
    obtain ⟨front, last, ends⟩ := (List.eq_nil_or_concat (c :: more)).resolve_left (by simp)
    rw [List.concat_eq_append] at ends
    have ink := finish last (by rw [ends, List.getLast?_concat])
    rw [blank last (by rw [← whole, ends]; simp)] at ink
    cases ink
  have unargued := mt (kind.argument_ne_nil_iff (c :: more)).2 (not_not.2 missing)
  obtain ⟨rfl, cut⟩ : kind = .namespaceImport ∧
      Text.trimEnd (· == ';') (Text.trim (c :: more)) = [] := by
    simpa [filled] using unargued
  obtain ⟨marks, split, only⟩ :=
    Text.exists_trimEnd_append (· == ';') (Text.trim (c :: more))
  rw [cut, List.nil_append] at split
  rw [whole] at content
  refine .semicolons content ?_ blank (by simpa [split] using only)
  rintro rfl
  have head : c ∈ marks := by
    rw [split, ← List.nil_append (Text.trim (c :: more)), ← whole]
    exact List.mem_cons_self
  have semicolon : c = ';' := by simpa using only c head
  rw [semicolon] at apart
  cases apart

/-- A line is read as a keyword without its argument when it lacks that. -/
theorem read_eq_incomplete_iff : Line.read line = .incomplete kind ↔ LacksArgument line kind := by
  constructor
  · intro read
    rw [Line.read] at read
    split at read
    · cases read
    · split at read
      · cases read
      · obtain ⟨rest, found, missing⟩ := exists_of_readDirective_eq_incomplete read
        by_cases empty : rest = []
        · subst empty
          exact .bare (Kind.eq_of_rest?_eq_nil found)
        · obtain ⟨c, more, rfl, apart, content⟩ := Kind.eq_of_rest? found empty
          exact lacksArgument_of_argument_eq_nil content apart missing
  · intro lacks
    obtain ⟨rest, content, found, missing⟩ : ∃ rest,
        Text.trim line = '@' :: (kind.keyword.toList ++ rest) ∧
          kind.rest? ('@' :: (kind.keyword.toList ++ rest)) = some rest ∧
          kind.argument rest = [] := by
      cases lacks with
      | bare content =>
        refine ⟨[], ?_, ?_, kind.argument_nil⟩
        · rwa [List.append_nil]
        · rw [List.append_nil, kind.rest?_keyword]
      | @semicolons blanks marks content apart blank only =>
        obtain ⟨c, more, rfl⟩ := List.exists_cons_of_ne_nil apart
        refine ⟨_, content, ?_, argument_semicolons blank only⟩
        exact Kind.rest?_append (blank c List.mem_cons_self) _ _
    have noComment : isComment ('@' :: (kind.keyword.toList ++ rest)) = false := by
      rw [← Bool.not_eq_true, isComment_iff]
      rintro ⟨inner, same⟩
      exact Kind.keyword_append_ne _ _ _ (List.cons.inj same).2
    simp only [Line.read, content, noComment, List.isEmpty_cons, Bool.false_eq_true, if_false]
    exact readDirective_of_argument_eq_nil (Kind.mem_all _) found
      (fun other different => Kind.rest?_append_of_ne different _) missing

end Directive

namespace Template

open Directive

variable {lines front : List (List Char)} {number : Nat} {error : SyntaxError}

/-- Lines are refused at the first one on which a directive lacks its argument. -/
theorem atomsOfLines_of_lacksArgument {line : List Char} {kind : Kind}
    (earlier : ∀ before ∈ front, ∀ other, ¬LacksArgument before other)
    (here : LacksArgument line kind) (below : List (List Char)) (number : Nat) :
    atomsOfLines number (front ++ line :: below) =
      .error ⟨number + front.length, .missingArgument kind⟩ := by
  induction front generalizing number with
  | nil =>
    rw [List.nil_append, atomsOfLines, read_eq_incomplete_iff.2 here]
    rfl
  | cons before front inductionHypothesis =>
    obtain ⟨complete, others⟩ := List.forall_mem_cons.1 earlier
    have found := inductionHypothesis others (number + 1)
    rw [Nat.add_assoc, Nat.add_comm 1] at found
    rw [List.cons_append, atomsOfLines, found]
    cases read : Line.read before with
    | incomplete other => exact absurd (read_eq_incomplete_iff.1 read) (complete other)
    | blank | comment | directive | text => rfl

/-- Lines are read if no directive on them lacks its argument. -/
theorem exists_atomsOfLines_of_complete
    (complete : ∀ line ∈ lines, ∀ kind, ¬LacksArgument line kind) (number : Nat) :
    ∃ atoms, atomsOfLines number lines = .ok atoms := by
  induction lines generalizing number with
  | nil => exact ⟨[], rfl⟩
  | cons line rest inductionHypothesis =>
    obtain ⟨here, others⟩ := List.forall_mem_cons.1 complete
    obtain ⟨atoms, found⟩ := inductionHypothesis others (number + 1)
    rw [atomsOfLines, found]
    cases read : Line.read line with
    | incomplete kind => exact absurd (read_eq_incomplete_iff.1 read) (here kind)
    | comment => exact ⟨atoms, rfl⟩
    | directive directive => exact ⟨_, rfl⟩
    | blank | text => exact ⟨_, rfl⟩

/-- On none of several lines a directive lacks its argument, or there is a first one on which it
does. -/
theorem complete_or_exists_firstLacking (lines : List (List Char)) :
    (∀ line ∈ lines, ∀ kind, ¬LacksArgument line kind) ∨ ∃ error, FirstLacking lines error := by
  induction lines with
  | nil => exact .inl (by simp)
  | cons line rest inductionHypothesis =>
    by_cases lacks : ∃ kind, LacksArgument line kind
    · obtain ⟨kind, here⟩ := lacks
      have blamed : FirstLacking ([] ++ line :: rest) _ := .blame (by simp) here
      exact .inr ⟨_, blamed⟩
    · have complete := not_exists.1 lacks
      rcases inductionHypothesis with others | ⟨error, found⟩
      · exact .inl (List.forall_mem_cons.2 ⟨complete, others⟩)
      · cases found with
        | @blame front below later kind earlier here =>
          have blamed : FirstLacking (line :: front ++ later :: below) _ :=
            .blame (List.forall_mem_cons.2 ⟨complete, earlier⟩) here
          exact .inr ⟨_, blamed⟩

/-- A template is refused when a directive lacks its argument on one of its lines, and the first
such line is blamed. -/
theorem parse_eq_error_iff {source : List Char} :
    parse source = .error error ↔
      FirstLacking (Text.lines (Text.withoutMark source)) error := by
  have blamed {found : SyntaxError}
      (first : FirstLacking (Text.lines (Text.withoutMark source)) found) :
      parse source = .error found := by
    rw [parse]
    generalize Text.lines (Text.withoutMark source) = lines at first
    cases first with
    | blame earlier here =>
      rw [atomsOfLines_of_lacksArgument earlier here, Nat.add_comm]
  refine ⟨fun refused => ?_, blamed⟩
  rcases complete_or_exists_firstLacking (Text.lines (Text.withoutMark source)) with
    complete | ⟨found, first⟩
  · obtain ⟨atoms, read⟩ := exists_atomsOfLines_of_complete complete 1
    rw [parse, read] at refused
    cases refused
  · obtain rfl := Except.error.inj ((blamed first).symm.trans refused)
    exact first

end Template

end TemplateTree
