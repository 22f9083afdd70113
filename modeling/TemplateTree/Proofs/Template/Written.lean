import TemplateTree.Proofs.Text.Comments
import TemplateTree.Template.Parser

/-!
# The text of a template

What the body of a template keeps of its source: literals as they are, and expressions with the `@`
that introduces them. Main statements: a line taken apart into atoms keeps exactly its text outside
comments, and a template that has been read keeps, line by line, that text of every line that is
neither a directive nor a comment.
-/

namespace TemplateTree

/-- The text that an atom keeps. -/
def Atom.written : Atom → List Char
  | .character c => [c]
  | .expression name => '@' :: name
  | .directive _ => []

/-- The text that a chunk keeps. -/
def Chunk.written : Chunk → List Char
  | .literal text => text.toList
  | .expression name => '@' :: name.toList
  | .directive _ => []

/-- The text that the body of a template keeps. -/
def Template.written (template : Template) : List Char :=
  template.chunks.flatMap Chunk.written

namespace Atom

/-- A name goes on with characters of the text. -/
theorem nameRest_isPrefix (text : List Char) : nameRest text <+: text := by
  fun_induction nameRest text with
  | case1 => exact List.prefix_rfl
  | case2 c rest _ inductionHypothesis =>
    exact (List.prefix_cons_inj _).2 ((List.prefix_cons_inj _).2 inductionHypothesis)
  | case3 => exact List.nil_prefix
  | case4 c rest _ _ inductionHypothesis => exact (List.prefix_cons_inj _).2 inductionHypothesis
  | case5 => exact List.nil_prefix

theorem name_isPrefix (text : List Char) : name text <+: text := by
  fun_cases name text with
  | case1 => exact List.prefix_rfl
  | case2 c rest => exact (List.prefix_cons_inj _).2 (nameRest_isPrefix rest)
  | case3 => exact List.nil_prefix

/-- No name goes on with `@`. -/
theorem mark_not_mem_nameRest (text : List Char) : '@' ∉ nameRest text := by
  fun_induction nameRest text with
  | case1 => simp
  | case2 c rest start inductionHypothesis =>
    rintro (_ | ⟨_, _ | ⟨_, member⟩⟩)
    · exact absurd start (by decide)
    · exact inductionHypothesis member
  | case3 => simp
  | case4 c rest _ part inductionHypothesis =>
    rintro (_ | ⟨_, member⟩)
    · exact absurd part (by decide)
    · exact inductionHypothesis member
  | case5 => simp

/-- No name has an `@` in it. -/
theorem mark_not_mem_name (text : List Char) : '@' ∉ name text := by
  fun_cases name text with
  | case1 => simp
  | case2 c rest start =>
    rintro (_ | ⟨_, member⟩)
    · exact absurd start (by decide)
    · exact mark_not_mem_nameRest rest member
  | case3 => simp

/-- The characters up to the end of the first `*@` are those before what stands behind it. -/
theorem afterClosing?_eq_map_drop (text : List Char) :
    Text.afterClosing? text = (commentLength? text).map text.drop := by
  fun_induction commentLength? text with
  | case1 => rfl
  | case2 => rfl
  | case3 c rest other inductionHypothesis =>
    rw [Text.afterClosing?, inductionHypothesis, Option.map_map]
    · rfl
    · exact other

theorem ofLine_cons {c : Char} (other : c ≠ '@') (rest : List Char) :
    ofLine (c :: rest) = .character c :: ofLine rest := by
  rw [ofLine, ofLineAfter, if_neg other, ofLine]

theorem ofLine_mark (rest : List Char) :
    ofLine ('@' :: rest) = (ofMark rest).1 ++ ofLine (rest.drop (ofMark rest).2) := by
  rw [ofLine, ofLineAfter, if_pos rfl, ← ofLineAfter_eq_ofLine_drop]

private theorem head?_ne_some {c : Char} {text : List Char}
    (never : ∀ rest, text = c :: rest → False) : text.head? ≠ some c := by
  intro first
  obtain ⟨rest, split⟩ := List.head?_eq_some_iff.1 first
  exact never rest split

/-- The atoms of a line keep exactly its text outside comments. -/
theorem written_ofLine (line : List Char) :
    (ofLine line).flatMap written = Text.outsideComments line := by
  match line with
  | [] => simp [ofLine, ofLineAfter, Text.outsideComments]
  | c :: rest =>
    by_cases mark : c = '@'
    · subst mark
      rw [ofLine_mark, List.flatMap_append, written_ofLine (rest.drop (ofMark rest).2)]
      fun_cases ofMark rest with
      | case1 more => simp [written, Text.outsideComments]
      | case2 more length closing =>
        have closed : Text.afterClosing? more = some (more.drop length) := by
          rw [afterClosing?_eq_map_drop, closing, Option.map_some]
        simp [Text.outsideComments_comment closed]
      | case3 more unended =>
        have unclosed : Text.afterClosing? more = none := by
          rw [afterClosing?_eq_map_drop, unended, Option.map_none]
        rw [Text.outsideComments_unclosed unclosed]
        simp [written, Text.outsideComments_cons]
      | case4 nameless single plain =>
        rw [Text.outsideComments_mark (head?_ne_some single) (head?_ne_some plain)]
        simp [written]
      | case5 named single plain =>
        have split : Text.outsideComments rest =
            name rest ++ Text.outsideComments (rest.drop (name rest).length) := by
          rw [← Text.outsideComments_append (mark_not_mem_name rest),
            List.prefix_iff_eq_append.1 (name_isPrefix rest)]
        rw [Text.outsideComments_mark (head?_ne_some single) (head?_ne_some plain), split]
        simp [written]
    · rw [ofLine_cons mark, Text.outsideComments_cons mark, List.flatMap_cons, written_ofLine rest]
      rfl
termination_by line.length
decreasing_by
  all_goals simp only [List.length_cons, List.length_drop]
  all_goals omega

end Atom

namespace Chunk

theorem written_consText (text : List Char) (chunks : List Chunk) :
    (consText text chunks).flatMap written = text ++ chunks.flatMap written := by
  cases text with
  | nil => rfl
  | cons c text => simp [consText, written]

/-- Splitting off the characters in front loses no text. -/
theorem written_splitAtoms (atoms : List Atom) :
    (splitAtoms atoms).1 ++ (splitAtoms atoms).2.flatMap written = atoms.flatMap Atom.written := by
  induction atoms with
  | nil => rfl
  | cons atom rest inductionHypothesis =>
    rw [List.flatMap_cons, ← inductionHypothesis]
    cases atom with
    | character c => rfl
    | expression name =>
      simp only [splitAtoms, List.nil_append, List.flatMap_cons, written_consText]
      simp [written, Atom.written]
    | directive declared =>
      simp only [splitAtoms, List.nil_append, List.flatMap_cons, written_consText]
      simp [written, Atom.written]

theorem written_ofAtoms (atoms : List Atom) :
    (ofAtoms atoms).flatMap written = atoms.flatMap Atom.written := by
  rw [← written_splitAtoms]
  exact written_consText _ _

end Chunk

namespace Template

/-- The text of a line that reading a template keeps in the body. -/
def kept (line : List Char) : List Char :=
  match Directive.Line.read line with
  | .directive _ | .comment => []
  | _ => Text.outsideComments line

/-- The atoms of lines keep what is kept of each line. -/
theorem written_atomsOfLines {number : Nat} {lines : List (List Char)} {atoms : List Atom}
    (read : atomsOfLines number lines = .ok atoms) :
    atoms.flatMap Atom.written = lines.flatMap kept := by
  induction lines generalizing number atoms with
  | nil =>
    cases read
    rfl
  | cons line rest inductionHypothesis =>
    rw [List.flatMap_cons, kept]
    rw [atomsOfLines] at read
    split at read
    · cases read
    · next comment =>
      rw [comment, inductionHypothesis read]
      rfl
    · next declared directive =>
      split at read
      · next others more =>
        cases read
        rw [directive, List.flatMap_cons, inductionHypothesis more]
        rfl
      · cases read
    all_goals next other =>
      split at read
      · next others more =>
        cases read
        rw [other, List.flatMap_append, Atom.written_ofLine, inductionHypothesis more]
      · cases read

/-- A template that has been read keeps, line by line, the text outside comments of every line that
is neither a directive nor a comment. -/
theorem written_parse {source : List Char} {template : Template}
    (parsed : parse source = .ok template) :
    template.written = (Text.lines (Text.withoutMark source)).flatMap kept := by
  rw [parse] at parsed
  split at parsed
  · next atoms read =>
    cases parsed
    rw [written, Chunk.written_ofAtoms, written_atomsOfLines read]
  · cases parsed

end Template

end TemplateTree
