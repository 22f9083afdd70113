import TemplateTree.Proofs.Text.Lines
import TemplateTree.Template.Parser

/-!
# Templates cut between lines

Reading a template keeps nothing from one line for the next but the number of the line, and a
literal that may go on. Main statement: `parse_append` reads a text that is cut behind a line feed
from its two halves.
-/

namespace TemplateTree

namespace Chunk

/-- Chunks written one behind the other: if the first ones end and the others start with a literal,
the two are one. -/
def joined (first second : List Chunk) : List Chunk :=
  match first.getLast?, second with
  | some (.literal text), .literal more :: rest =>
    first.dropLast ++ .literal (text ++ more) :: rest
  | _, _ => first ++ second

@[simp] theorem joined_nil (second : List Chunk) : joined [] second = second := rfl

@[simp] theorem joined_nil_right (first : List Chunk) : joined first [] = first := by
  rw [joined]
  · exact List.append_nil first
  · rintro text more rest - ⟨⟩

theorem joined_cons_cons (chunk next : Chunk) (first second : List Chunk) :
    joined (chunk :: next :: first) second = chunk :: joined (next :: first) second := by
  simp only [joined, List.getLast?_cons_cons, List.dropLast_cons_cons]
  split <;> rfl

theorem joined_literal (text more : String) (rest : List Chunk) :
    joined [.literal text] (.literal more :: rest) = .literal (text ++ more) :: rest := rfl

theorem joined_singleton {chunk : Chunk} (other : ∀ text, chunk ≠ .literal text)
    (second : List Chunk) : joined [chunk] second = chunk :: second := by
  rw [joined]
  · rfl
  · rintro text more rest ⟨⟩ -
    exact other text rfl

theorem exists_joined_cons {next : Chunk} (other : ∀ text, next ≠ .literal text)
    (rest second : List Chunk) : ∃ others, joined (next :: rest) second = next :: others := by
  cases rest with
  | nil => exact ⟨second, joined_singleton other second⟩
  | cons third rest => exact ⟨_, joined_cons_cons next third rest second⟩

/-- Chunks that do not start with a literal are joined to one by standing behind it. -/
theorem joined_literal_of_head? {second : List Chunk}
    (other : ∀ text, second.head? ≠ some (.literal text)) (text : String) :
    joined [.literal text] second = .literal text :: second := by
  rw [joined]
  · rfl
  · rintro first more rest - rfl
    exact other more rfl

/-- A chunk that is put in front joins the first of the chunks behind it, whatever these are joined
to. -/
theorem joined_joined (chunk : Chunk) (first second : List Chunk) :
    joined (joined [chunk] first) second = joined [chunk] (joined first second) := by
  cases first with
  | nil => rw [joined_nil_right, joined_nil]
  | cons next rest =>
    cases chunk with
    | directive | expression =>
      rw [joined_singleton (by simp), joined_singleton (by simp), joined_cons_cons]
    | literal text =>
      have starts := @exists_joined_cons next
      cases next with
      | directive | expression =>
        obtain ⟨others, split⟩ := starts (by simp) rest second
        rw [joined_literal_of_head? (by simp), joined_cons_cons, split,
          joined_literal_of_head? (by simp)]
      | literal more =>
        rw [joined_literal]
        cases rest with
        | cons third rest => rw [joined_cons_cons, joined_cons_cons, joined_literal]
        | nil =>
          cases second with
          | nil => rw [joined_nil_right, joined_nil_right, joined_literal]
          | cons third others =>
            cases third with
            | directive | expression => rfl
            | literal last => simp only [joined_literal, String.append_assoc]

/-- The chunks behind the characters that atoms start with do not start with a literal. -/
theorem head?_splitAtoms (atoms : List Atom) (text : String) :
    (splitAtoms atoms).2.head? ≠ some (.literal text) := by
  induction atoms with
  | nil => simp [splitAtoms]
  | cons atom rest inductionHypothesis =>
    cases atom with
    | character c => exact inductionHypothesis
    | expression | directive => simp [splitAtoms]

/-- Atoms come to the chunks of the first one, joined to those of the others. -/
theorem ofAtoms_cons (atom : Atom) (rest : List Atom) :
    ofAtoms (atom :: rest) = joined (ofAtoms [atom]) (ofAtoms rest) := by
  cases atom with
  | expression | directive => rfl
  | character c =>
    have single : ofAtoms [.character c] = [.literal (String.ofList [c])] := rfl
    have behind := head?_splitAtoms rest
    rw [single, ofAtoms, ofAtoms, splitAtoms]
    generalize splitAtoms rest = split at behind
    obtain ⟨text, chunks⟩ := split
    cases text with
    | nil => exact (joined_literal_of_head? behind _).symm
    | cons d text =>
      have whole : String.ofList (c :: d :: text) =
          String.ofList [c] ++ String.ofList (d :: text) := by
        rw [← String.ofList_append, List.singleton_append]
      simp [consText, joined_literal, whole]

theorem ofAtoms_singleton (atom : Atom) : ∃ chunk, ofAtoms [atom] = [chunk] := by
  cases atom <;> exact ⟨_, rfl⟩

/-- Atoms written one behind the other come to the chunks of both, joined. -/
theorem ofAtoms_append (first second : List Atom) :
    ofAtoms (first ++ second) = joined (ofAtoms first) (ofAtoms second) := by
  induction first with
  | nil => rfl
  | cons atom rest inductionHypothesis =>
    obtain ⟨chunk, single⟩ := ofAtoms_singleton atom
    rw [List.cons_append, ofAtoms_cons, ofAtoms_cons atom rest, inductionHypothesis, single,
      joined_joined]

end Chunk

namespace Template

/-- Lines that follow others are read as if they stood alone, but for the numbers of the lines. -/
theorem atomsOfLines_add (number below : Nat) (lines : List (List Char)) :
    atomsOfLines (number + below) lines =
      (atomsOfLines number lines).mapError fun error => { error with line := error.line + below } := by
  induction lines generalizing number with
  | nil => rfl
  | cons line rest inductionHypothesis =>
    have others := inductionHypothesis (number + 1)
    rw [Nat.add_right_comm] at others
    rw [atomsOfLines, atomsOfLines, others]
    cases Directive.Line.read line with
    | incomplete kind => rfl
    | comment => rfl
    | blank | text | directive => cases atomsOfLines (number + 1) rest <;> rfl

/-- The lines of two texts are read one after the other, up to the first error. -/
theorem atomsOfLines_append (number : Nat) (first second : List (List Char)) :
    atomsOfLines number (first ++ second) =
      match atomsOfLines number first, atomsOfLines (number + first.length) second with
      | .error error, _ => .error error
      | .ok _, .error error => .error error
      | .ok front, .ok back => .ok (front ++ back) := by
  induction first generalizing number with
  | nil =>
    rw [List.nil_append, atomsOfLines, List.length_nil, Nat.add_zero]
    cases atomsOfLines number second <;> rfl
  | cons line rest inductionHypothesis =>
    have others := inductionHypothesis (number + 1)
    rw [Nat.add_assoc, Nat.add_comm 1] at others
    rw [List.cons_append, atomsOfLines, atomsOfLines, others, List.length_cons]
    cases Directive.Line.read line with
    | incomplete kind => rfl
    | comment => rfl
    | blank | text | directive =>
      cases atomsOfLines (number + 1) rest with
      | error error => rfl
      | ok front =>
        cases atomsOfLines (number + (rest.length + 1)) second with
        | error error => rfl
        | ok back => simp

/-- A text that is cut behind a line feed is read from its two halves. If both can be read, the
chunks of the one are followed by those of the other, with the literals at the cut in one. If the
first cannot, nor can the text, for the same reason at the same line; and if only the second cannot,
nor can the text, for the same reason as many lines further down as the first has line feeds. -/
theorem parse_append {first second : List Char} (ended : Text.EndsLine first)
    (unmarked : second.head? ≠ some '\uFEFF') :
    parse (first ++ second) =
      match parse first, parse second with
      | .error error, _ => .error error
      | .ok _, .error error => .error { error with line := error.line + first.count '\n' }
      | .ok front, .ok back => .ok ⟨Chunk.joined front.chunks back.chunks⟩ := by
  have behindMark := ended.withoutMark
  have alone : Text.withoutMark second = second := @Text.withoutMark_append [] second unmarked
  have lines : atomsOfLines 1 (Text.lines (Text.withoutMark (first ++ second))) =
      match atomsOfLines 1 (Text.lines (Text.withoutMark first)),
        atomsOfLines (1 + first.count '\n') (Text.lines second) with
      | .error error, _ => .error error
      | .ok _, .error error => .error error
      | .ok front, .ok back => .ok (front ++ back) := by
    rw [Text.withoutMark_append unmarked, Text.lines_append behindMark, atomsOfLines_append,
      behindMark.length_lines, Text.count_withoutMark]
  rw [atomsOfLines_add] at lines
  simp only [parse, lines, alone]
  cases atomsOfLines 1 (Text.lines (Text.withoutMark first)) with
  | error error => rfl
  | ok front =>
    cases atomsOfLines 1 (Text.lines second) with
    | error error => rfl
    | ok back =>
      change Except.ok (Template.mk (Chunk.ofAtoms (front ++ back))) = _
      rw [Chunk.ofAtoms_append]

/-- Literals made of an escape, a comment and blank are joined where a text is cut, and an error is
found as far down as it stands, be it in the second half or in the first. -/
theorem parse_append_around_cuts :
    let front := "\uFEFFa @@@* b *@\n".toList
    let back := " @c\n".toList
    let broken := "\r\n@inherits \n".toList
    (Text.EndsLine front ∧ Text.EndsLine broken) ∧
      (back.head? ≠ some '\uFEFF' ∧ broken.head? ≠ some '\uFEFF') ∧
      parse (front ++ back) = .ok ⟨[.literal "a @\n ", .expression "c", .literal "\n"]⟩ ∧
      parse (front ++ broken) = .error ⟨3, .missingArgument .baseType⟩ ∧
      parse (broken ++ back) = .error ⟨2, .missingArgument .baseType⟩ := by
  intro front back broken
  have frontEnds : Text.EndsLine front := .inr (by decide +kernel)
  have brokenEnds : Text.EndsLine broken := .inr (by decide +kernel)
  have backUnmarked : back.head? ≠ some '\uFEFF' := by decide +kernel
  have brokenUnmarked : broken.head? ≠ some '\uFEFF' := by decide +kernel
  refine ⟨⟨frontEnds, brokenEnds⟩, ⟨backUnmarked, brokenUnmarked⟩, ?_, ?_, ?_⟩
  · rw [parse_append frontEnds backUnmarked]
    rfl
  · rw [parse_append frontEnds brokenUnmarked]
    rfl
  · rw [parse_append brokenEnds backUnmarked]
    rfl

end Template

end TemplateTree
