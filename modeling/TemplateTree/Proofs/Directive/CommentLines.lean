import TemplateTree.Proofs.Template.Written

/-!
# Lines dropped as comments

A line that goes from `@*` to `*@` is dropped as a whole, also where the comment that it starts with
ends earlier and text stands behind it. `no_text_lost_iff` says that this is the only way in which
text is lost: templates keep all text outside comments, and directive files with such text on a line
that is no directive are refused, exactly when no line hides text in this way.
-/

namespace TemplateTree.Directive

/-- A line that goes from `@*` to `*@`, but with text outside its comments. -/
def HidesText (line : List Char) : Prop :=
  (∃ inner, Text.trim line = '@' :: '*' :: (inner ++ ['*', '@'])) ∧
    ∃ c ∈ Text.outsideComments line, Text.isBlank c = false

/-- A comment is what goes from an opening mark to a closing mark. -/
theorem isComment_iff {content : List Char} :
    isComment content = true ↔ ∃ inner, content = '@' :: '*' :: (inner ++ ['*', '@']) := by
  simp only [isComment, Bool.and_eq_true, List.isPrefixOf_iff_prefix, List.isSuffixOf_iff_suffix,
    decide_eq_true_eq]
  constructor
  · rintro ⟨⟨⟨rest, rfl⟩, closing⟩, long⟩
    have short : ['*', '@'].length ≤ rest.length := by simpa using long
    obtain ⟨inner, rfl⟩ := List.suffix_of_suffix_length_le closing (List.suffix_append _ _) short
    exact ⟨inner, rfl⟩
  · rintro ⟨inner, rfl⟩
    refine ⟨⟨⟨inner ++ ['*', '@'], rfl⟩, ⟨'@' :: '*' :: inner, rfl⟩⟩, ?_⟩
    simp

/-- Reading for a directive finds neither blank nor a comment. -/
theorem readDirective_ne (content : List Char) (kinds : List Kind) :
    readDirective content kinds ≠ .blank ∧ readDirective content kinds ≠ .comment := by
  induction kinds with
  | nil => exact ⟨nofun, nofun⟩
  | cons kind kinds inductionHypothesis =>
    rw [readDirective]
    split
    · exact inductionHypothesis
    · split <;> exact ⟨nofun, nofun⟩

/-- A line is read as a comment when it goes from an opening mark to a closing mark. -/
theorem read_eq_comment_iff {line : List Char} :
    Line.read line = .comment ↔
      ∃ inner, Text.trim line = '@' :: '*' :: (inner ++ ['*', '@']) := by
  rw [← isComment_iff, Line.read]
  split
  · next empty =>
    rw [List.isEmpty_iff.1 empty]
    simp [isComment]
  · split
    · next comment => simp [comment]
    · next other => simp [other, (readDirective_ne _ _).2]

/-- Only a line of nothing but blank is read as blank. -/
theorem onlyComments_of_read_eq_blank {line : List Char} (read : Line.read line = .blank) :
    Text.OnlyComments line := by
  have empty : Text.trim line = [] := by
    rw [Line.read] at read
    split at read
    · next empty => exact List.isEmpty_iff.1 empty
    · split at read
      · cases read
      · exact absurd read (readDirective_ne _ _).1
  exact Text.onlyComments_of_blank (Text.trim_eq_nil_iff.1 empty)

theorem onlyComments_iff_of_read_eq_comment {line : List Char} (read : Line.read line = .comment) :
    Text.OnlyComments line ↔ ¬HidesText line := by
  rw [Text.onlyComments_iff, HidesText]
  simp [read_eq_comment_iff.1 read]

end TemplateTree.Directive

namespace TemplateTree.Template

open Directive

/-- A line made of comments: there is one on it, and besides comments there is only blank. -/
abbrev IsMadeOfComments (line : List Char) : Prop :=
  Text.OnlyComments line ∧ Text.trim line ≠ []

/-- The text that the body of a template should keep of a line: all of it outside comments, unless
the line is a directive or made of comments. A blank line is kept. -/
def due (line : List Char) : List Char :=
  match Line.read line with
  | .directive _ => []
  | _ => if IsMadeOfComments line then [] else Text.outsideComments line

theorem isMadeOfComments_of_read_eq_comment {line : List Char} (read : Line.read line = .comment)
    (clear : ¬HidesText line) : IsMadeOfComments line := by
  refine ⟨(onlyComments_iff_of_read_eq_comment read).2 clear, fun empty => ?_⟩
  obtain ⟨inner, filled⟩ := read_eq_comment_iff.1 read
  cases empty.symm.trans filled

/-- The number of characters in a text that are not blank. -/
private def inked (text : List Char) : Nat :=
  text.countP fun c => !Text.isBlank c

/-- Of a line that hides no text, everything due is kept. -/
theorem due_sublist_kept {line : List Char} (clear : ¬HidesText line) :
    (due line).Sublist (kept line) := by
  rw [due, kept]
  split
  · next directive => rw [directive]
  · next other =>
    by_cases made : IsMadeOfComments line
    · rw [if_pos made]
      exact List.nil_sublist _
    · rw [if_neg made]
      split
      · next directive => exact absurd directive (other _)
      · next comment => exact absurd (isMadeOfComments_of_read_eq_comment comment clear) made
      · exact List.Sublist.refl _

/-- Blank apart, no more is kept of a line than is due. -/
private theorem inked_kept_le (line : List Char) : inked (kept line) ≤ inked (due line) := by
  rw [due, kept]
  split
  · exact Nat.zero_le _
  · exact Nat.zero_le _
  · next other _ =>
    split
    · next directive => exact absurd directive (other _)
    · by_cases made : IsMadeOfComments line
      · have blank : inked (Text.outsideComments line) = 0 := by
          simpa [inked, List.countP_eq_zero] using Text.onlyComments_iff.1 made.1
        rw [blank]
        exact Nat.zero_le _
      · rw [if_neg made]

/-- Of a line that hides text, less is kept than is due. -/
private theorem inked_kept_lt {line : List Char} (hides : HidesText line) :
    inked (kept line) < inked (due line) := by
  have comment : Line.read line = .comment := read_eq_comment_iff.2 hides.1
  have others : ¬IsMadeOfComments line := fun made =>
    (onlyComments_iff_of_read_eq_comment comment).1 made.1 hides
  obtain ⟨c, member, ink⟩ := hides.2
  rw [kept, due, comment]
  simp only [if_neg others]
  exact List.countP_pos_iff.2 ⟨c, member, by simp [ink]⟩

/-- What is due of lines is kept of them, in order, exactly when none of them hides text. -/
theorem due_sublist_kept_iff {lines : List (List Char)} :
    (lines.flatMap due).Sublist (lines.flatMap kept) ↔ ∀ line ∈ lines, ¬HidesText line := by
  constructor
  · intro all line member hides
    obtain ⟨before, after, rfl⟩ := List.append_of_mem member
    have total : ∀ others : List (List Char),
        inked (others.flatMap kept) ≤ inked (others.flatMap due) := by
      intro others
      induction others with
      | nil => exact Nat.le_refl _
      | cons other others inductionHypothesis =>
        have here := inked_kept_le other
        simp only [inked, List.flatMap_cons, List.countP_append] at here inductionHypothesis ⊢
        omega
    have less := inked_kept_lt hides
    have more : inked _ ≤ inked _ := all.countP_le
    have front := total before
    have back := total after
    simp only [inked, List.flatMap_append, List.flatMap_cons, List.countP_append] at *
    omega
  · intro clear
    induction lines with
    | nil => exact List.Sublist.refl _
    | cons line rest inductionHypothesis =>
      obtain ⟨here, others⟩ := List.forall_mem_cons.1 clear
      exact (due_sublist_kept here).append (inductionHypothesis others)

end TemplateTree.Template

namespace TemplateTree.Directive

/-- A directive file is accepted only if each of its lines is blank, a comment or a directive. -/
theorem read_of_ofLines {number : Nat} {lines : List (List Char)} {directives : List Directive}
    (accepted : ofLines number lines = .ok directives) :
    ∀ line ∈ lines, Line.read line = .blank ∨ Line.read line = .comment ∨
      ∃ directive, Line.read line = .directive directive := by
  induction lines generalizing number directives with
  | nil => simp
  | cons line rest inductionHypothesis =>
    rw [ofLines] at accepted
    refine List.forall_mem_cons.2 ?_
    split at accepted
    · next blank => exact ⟨.inl blank, inductionHypothesis accepted⟩
    · next comment => exact ⟨.inr (.inl comment), inductionHypothesis accepted⟩
    · next directive read =>
      split at accepted
      · next others => exact ⟨.inr (.inr ⟨directive, read⟩), inductionHypothesis others⟩
      · cases accepted
    · cases accepted
    · cases accepted

/-- An accepted directive file has nothing but comments on the lines that are no directives, exactly
when none of them hides text. -/
theorem onlyComments_of_parseFile_iff {source : List Char} {directives : List Directive}
    (accepted : parseFile source = .ok directives) :
    (∀ line ∈ Text.lines (Text.withoutMark source),
      (∃ directive, Line.read line = .directive directive) ∨ Text.OnlyComments line) ↔
    ∀ line ∈ Text.lines (Text.withoutMark source), ¬HidesText line := by
  refine forall₂_congr fun line member => ?_
  have read := read_of_ofLines accepted line member
  constructor
  · rintro either hides
    have comment : Line.read line = .comment := read_eq_comment_iff.2 hides.1
    rcases either with ⟨directive, other⟩ | only
    · rw [comment] at other
      cases other
    · exact (onlyComments_iff_of_read_eq_comment comment).1 only hides
  · intro clear
    rcases read with blank | comment | directive
    · exact .inr (onlyComments_of_read_eq_blank blank)
    · exact .inr ((onlyComments_iff_of_read_eq_comment comment).2 clear)
    · exact .inl directive

/-- Text is lost exactly by the lines that hide it. If there is none, whatever is dropped as a
comment is nothing but comments, a template keeps all that is due of its lines, and an accepted
directive file has nothing but comments beside its directives; if there is one, each of these fails.
-/
theorem no_text_lost_iff (source : List Char) :
    let lines := Text.lines (Text.withoutMark source)
    let clear := ∀ line ∈ lines, ¬HidesText line
    ((∀ line ∈ lines, Line.read line = .comment → Text.OnlyComments line) ↔ clear) ∧
      (∀ template, Template.parse source = .ok template →
        ((lines.flatMap Template.due).Sublist template.written ↔ clear)) ∧
      ∀ directives, parseFile source = .ok directives →
        ((∀ line ∈ lines,
          (∃ directive, Line.read line = .directive directive) ∨ Text.OnlyComments line) ↔ clear) := by
  intro lines clear
  refine ⟨forall₂_congr fun line _ => ?_, ?_, ?_⟩
  · constructor
    · intro dropped hides
      have comment : Line.read line = .comment := read_eq_comment_iff.2 hides.1
      exact (onlyComments_iff_of_read_eq_comment comment).1 (dropped comment) hides
    · intro clear comment
      exact (onlyComments_iff_of_read_eq_comment comment).2 clear
  · intro template parsed
    rw [Template.written_parse parsed]
    exact Template.due_sublist_kept_iff
  · intro directives accepted
    exact onlyComments_of_parseFile_iff accepted

/-- The `x` in `@**@x@**@` is neither kept by a template nor refused in a directive file. -/
theorem text_between_comments_lost :
    let source := ['@', '*', '*', '@', 'x', '@', '*', '*', '@']
    (Template.parse source = .ok ⟨[]⟩ ∧
      ¬((Text.lines source).flatMap Template.due).Sublist (Template.mk []).written) ∧
    (parseFile source = .ok [] ∧ ¬∀ line ∈ Text.lines source,
      (∃ directive, Line.read line = .directive directive) ∨ Text.OnlyComments line) := by
  intro source
  have parsed : Template.parse source = .ok ⟨[]⟩ := rfl
  have accepted : parseFile source = .ok [] := rfl
  have first : Text.afterClosing? ['*', '@', 'x', '@', '*', '*', '@'] =
      some ['x', '@', '*', '*', '@'] := rfl
  have second : Text.afterClosing? ['*', '@'] = some [] := rfl
  have outside : Text.outsideComments source = ['x'] := by
    rw [Text.outsideComments_comment first, Text.outsideComments_cons (by decide),
      Text.outsideComments_comment second, Text.outsideComments]
  have hides : HidesText source :=
    ⟨⟨['*', '@', 'x', '@', '*'], rfl⟩, 'x', by simp [outside], rfl⟩
  have hidden : ¬∀ line ∈ Text.lines (Text.withoutMark source), ¬HidesText line := fun clear =>
    clear source (by decide) hides
  obtain ⟨-, template, file⟩ := no_text_lost_iff source
  exact ⟨⟨parsed, fun all => hidden ((template _ parsed).1 all)⟩,
    accepted, fun only => hidden ((file _ accepted).1 only)⟩

end TemplateTree.Directive
