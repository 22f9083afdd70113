import Mathlib.Algebra.Ring.Parity
import Mathlib.Data.List.Induction
import TemplateTree.Code

/-!
# Text between quotes

Literals of generated code can be read back: `readQuoted?_escape` says that the text of a literal
ends at its own closing quote, whatever text it was written for, and whatever stands behind it. What
stands between the quotes breaks no line, and every quote in it is escaped, as the backslashes in
front of it tell.
-/

namespace TemplateTree.Code

/-- The character that stands in a literal as a backslash and this one. -/
def unescapeChar : Char → Char
  | 'n' => '\n'
  | 'r' => '\r'
  | 't' => '\t'
  | c => c

/-- Reads a literal behind its opening quote: its text, and what stands behind its closing quote. -/
def readQuoted? : List Char → Option (List Char × List Char)
  | [] => none
  | '\x22' :: rest => some ([], rest)
  | '\x5c' :: c :: rest =>
    (readQuoted? rest).map fun (text, behind) => (unescapeChar c :: text, behind)
  | c :: rest => (readQuoted? rest).map fun (text, behind) => (c :: text, behind)

/-- The number of backslashes that a text ends in. -/
def backslashes (text : List Char) : Nat :=
  (text.reverse.takeWhile (· = '\x5c')).length

/-- How a character stands in a literal: as it is, or as a backslash and another one. -/
inductive Escapes (c : Char) : Prop where
  | plain (written : escapeChar c = [c]) (backslash : c ≠ '\x5c') (quote : c ≠ '\x22')
      (control : c ∉ ['\n', '\r', '\t'])
  | marked {d : Char} (written : escapeChar c = ['\x5c', d]) (read : unescapeChar d = c)
      (control : d ∉ ['\n', '\r', '\t'])

/-- Every character stands in a literal in one of these ways. -/
theorem escapes (c : Char) : Escapes c := by
  by_cases special : c ∈ ['\x5c', '\x22', '\n', '\r', '\t']
  · simp only [List.mem_cons, List.not_mem_nil, or_false] at special
    rcases special with rfl | rfl | rfl | rfl | rfl <;> exact .marked rfl rfl (by decide)
  · simp only [List.mem_cons, List.not_mem_nil, or_false, not_or] at special
    obtain ⟨backslash, quote, lineFeed, carriageReturn, tab⟩ := special
    have written : escapeChar c = [c] := by simp [escapeChar, *]
    exact .plain written backslash quote (by simp [*])

theorem escape_cons (c : Char) (text : List Char) :
    escape (c :: text) = escapeChar c ++ escape text := by
  rw [escape, List.flatMap_cons, escape]

theorem escape_concat (text : List Char) (c : Char) :
    escape (text ++ [c]) = escape text ++ escapeChar c := by
  rw [escape, List.flatMap_append, escape, List.flatMap_singleton]

/-- A literal is read back up to its own closing quote. -/
theorem readQuoted?_escape (text rest : List Char) :
    readQuoted? (escape text ++ '\x22' :: rest) = some (text, rest) := by
  induction text with
  | nil => rfl
  | cons c text inductionHypothesis =>
    rw [escape_cons, List.append_assoc]
    cases escapes c with
    | plain written backslash quote _ =>
      rw [written, List.singleton_append, readQuoted?, inductionHypothesis, Option.map_some]
      · exact quote
      · rintro d more rfl
        exact absurd rfl backslash
    | marked written read _ =>
      rw [written, List.cons_append, List.singleton_append, readQuoted?, inductionHypothesis,
        Option.map_some, read]

theorem escape_injective : Function.Injective escape := by
  intro first second same
  have back := readQuoted?_escape first []
  rw [same, readQuoted?_escape] at back
  exact (Prod.mk.inj (Option.some.inj back)).1.symm

/-- Nothing between quotes breaks the line. -/
theorem not_mem_escape {c : Char} (control : c ∈ ['\n', '\r', '\t']) (text : List Char) :
    c ∉ escape text := by
  rw [escape, List.mem_flatMap]
  rintro ⟨d, -, member⟩
  cases escapes d with
  | plain written _ _ other =>
    rw [written, List.mem_singleton] at member
    exact other (member ▸ control)
  | marked written _ other =>
    rw [written, List.mem_cons, List.mem_singleton] at member
    rcases member with rfl | rfl
    · exact absurd control (by decide)
    · exact other control

theorem backslashes_concat_backslash (text : List Char) :
    backslashes (text ++ ['\x5c']) = backslashes text + 1 := by
  simp [backslashes]

theorem backslashes_concat {c : Char} (other : c ≠ '\x5c') (text : List Char) :
    backslashes (text ++ [c]) = 0 := by
  simp [backslashes, other]

/-- The backslashes in front of a closing quote stand for one another, so that they do not escape
it. -/
theorem even_backslashes_escape (text : List Char) : Even (backslashes (escape text)) := by
  induction text using List.reverseRecOn with
  | nil => exact ⟨0, rfl⟩
  | append_singleton text c inductionHypothesis =>
    rw [escape_concat]
    cases escapes c with
    | plain written backslash _ _ =>
      rw [written, backslashes_concat backslash]
      exact ⟨0, rfl⟩
    | @marked d written _ _ =>
      rw [written, ← List.singleton_append, ← List.append_assoc]
      by_cases twice : d = '\x5c'
      · rw [twice, backslashes_concat_backslash, backslashes_concat_backslash]
        exact inductionHypothesis.add even_two
      · rw [backslashes_concat twice]
        exact ⟨0, rfl⟩

/-- A quote that a character is escaped to stands behind a backslash. -/
theorem eq_backslash_of_escapeChar_eq {c : Char} {before behind : List Char}
    (split : escapeChar c = before ++ '\x22' :: behind) : before = ['\x5c'] := by
  cases escapes c with
  | plain written _ quote _ =>
    rw [written] at split
    rcases List.singleton_eq_append_iff.1 split with ⟨-, same⟩ | ⟨-, same⟩
    · exact absurd (List.cons.inj same).1.symm quote
    · cases same
  | marked written _ _ =>
    rw [written] at split
    cases before with
    | nil => cases split
    | cons first more =>
      obtain ⟨rfl, last⟩ := List.cons.inj split
      rcases List.singleton_eq_append_iff.1 last with ⟨rfl, -⟩ | ⟨-, same⟩
      · rfl
      · cases same

/-- Every quote between quotes has an odd number of backslashes in front of it. -/
theorem odd_backslashes_of_escape_eq {text before behind : List Char}
    (split : escape text = before ++ '\x22' :: behind) : Odd (backslashes before) := by
  induction text using List.reverseRecOn generalizing behind with
  | nil =>
    rw [show escape [] = [] from rfl] at split
    simp at split
  | append_singleton text c inductionHypothesis =>
    rw [escape_concat] at split
    rcases List.append_eq_append_iff.1 split with ⟨more, rfl, last⟩ | ⟨more, early, last⟩
    · rw [eq_backslash_of_escapeChar_eq last, backslashes_concat_backslash]
      exact (even_backslashes_escape text).add_one
    · cases more with
      | nil =>
        have nothing : [] = ['\x5c'] := @eq_backslash_of_escapeChar_eq c [] behind last.symm
        cases nothing
      | cons first more =>
        obtain ⟨rfl, -⟩ := List.cons.inj last
        exact inductionHypothesis early

end TemplateTree.Code
