import Mathlib.Data.List.DropRight
import TemplateTree.Text.Blank

/-!
# Text cut at its ends

What `trimStart`, `trimEnd` and `trim` leave of a text that is put together: blank in front and
behind goes, and whatever stands before a character that stays is left alone.
-/

namespace TemplateTree.Text

variable {drop : Char → Bool}

theorem trimStart_append {first : List Char} (all : ∀ c ∈ first, drop c = true)
    (rest : List Char) : trimStart drop (first ++ rest) = trimStart drop rest := by
  rw [trimStart, List.dropWhile_append_of_pos all, trimStart]

theorem trimStart_cons {c : Char} (stays : drop c = false) (rest : List Char) :
    trimStart drop (c :: rest) = c :: rest := by
  rw [trimStart, List.dropWhile_cons_of_neg (by simp [stays])]

theorem trimEnd_append {last : List Char} (all : ∀ c ∈ last, drop c = true) (text : List Char) :
    trimEnd drop (text ++ last) = trimEnd drop text := by
  have behind : ∀ c ∈ last.reverse, drop c = true := fun c member =>
    all c (List.mem_reverse.1 member)
  rw [trimEnd, List.reverse_append, List.dropWhile_append_of_pos behind, trimEnd]

theorem trimEnd_concat {c : Char} (stays : drop c = false) (text : List Char) :
    trimEnd drop (text ++ [c]) = text ++ [c] :=
  List.rdropWhile_concat_neg drop text c (by simp [stays])

/-- Whatever stands before a character that stays is kept. -/
theorem trimEnd_append_cons {c : Char} (stays : drop c = false) (text rest : List Char) :
    trimEnd drop (text ++ c :: rest) = text ++ c :: trimEnd drop rest := by
  induction rest using List.reverseRecOn with
  | nil => exact trimEnd_concat stays text
  | append_singleton rest last inductionHypothesis =>
    rw [← List.cons_append, ← List.append_assoc]
    by_cases dropped : drop last = true
    · have only : ∀ c ∈ [last], drop c = true := by simpa using dropped
      rw [trimEnd_append only, trimEnd_append only, inductionHypothesis]
    · rw [Bool.not_eq_true] at dropped
      rw [trimEnd_concat dropped, trimEnd_concat dropped, List.append_assoc, List.cons_append]

theorem stays_of_head?_trimStart {text : List Char} {c : Char}
    (first : (trimStart drop text).head? = some c) : drop c = false := by
  have stops := List.head?_dropWhile_not drop text
  rw [trimStart] at first
  rwa [first] at stops

theorem stays_of_getLast?_trimEnd {text : List Char} {c : Char}
    (last : (trimEnd drop text).getLast? = some c) : drop c = false := by
  rw [trimEnd, List.getLast?_reverse] at last
  exact stays_of_head?_trimStart last

theorem exists_trimEnd_append (drop : Char → Bool) (text : List Char) :
    ∃ last, trimEnd drop text ++ last = text ∧ ∀ c ∈ last, drop c = true :=
  ⟨_, trimEnd_append_takeWhile drop text,
    fun _ member => List.mem_takeWhile_imp (List.mem_reverse.1 member)⟩

theorem trimEnd_isPrefix (drop : Char → Bool) (text : List Char) : trimEnd drop text <+: text :=
  ⟨_, trimEnd_append_takeWhile drop text⟩

theorem trimEnd_eq_self {text : List Char}
    (stays : ∀ c, text.getLast? = some c → drop c = false) : trimEnd drop text = text := by
  rcases List.eq_nil_or_concat text with rfl | ⟨front, last, rfl⟩
  · rfl
  · rw [List.concat_eq_append] at stays ⊢
    exact trimEnd_concat (stays last List.getLast?_concat) front

theorem head?_of_isPrefix {front text : List Char} {c : Char} (beginning : front <+: text)
    (first : front.head? = some c) : text.head? = some c := by
  obtain ⟨rest, rfl⟩ := beginning
  rw [List.head?_append, first, Option.some_or]

/-- A text with nothing blank at its ends. -/
structure IsTrimmed (text : List Char) : Prop where
  start : ∀ c, text.head? = some c → isBlank c = false
  finish : ∀ c, text.getLast? = some c → isBlank c = false

theorem isTrimmed_trim (text : List Char) : IsTrimmed (trim text) where
  start _ first := stays_of_head?_trimStart (head?_of_isPrefix (trimEnd_isPrefix _ _) first)
  finish _ last := stays_of_getLast?_trimEnd last

theorem IsTrimmed.exists_concat {text : List Char} (trimmed : IsTrimmed text) (filled : text ≠ []) :
    ∃ front last, text = front ++ [last] ∧ isBlank last = false := by
  obtain ⟨front, last, rfl⟩ := (List.eq_nil_or_concat text).resolve_left filled
  rw [List.concat_eq_append] at trimmed ⊢
  exact ⟨front, last, rfl, trimmed.finish last List.getLast?_concat⟩

/-- What blank stands in front of is left when it is trimmed. -/
theorem IsTrimmed.trim_append {first text : List Char} (trimmed : IsTrimmed text)
    (blank : ∀ c ∈ first, isBlank c = true) : trim (first ++ text) = text := by
  have started : trimStart isBlank text = text := by
    cases text with
    | nil => rfl
    | cons c rest => exact trimStart_cons (trimmed.start c rfl) rest
  rw [trim, trimStart_append blank, started, trimEnd_eq_self trimmed.finish]

/-- A text that does not end with blank is blank in front of what is left of it. -/
theorem exists_append_trim {text : List Char}
    (finish : ∀ c, text.getLast? = some c → isBlank c = false) :
    ∃ first, (∀ c ∈ first, isBlank c = true) ∧ text = first ++ trim text := by
  have split : text.takeWhile isBlank ++ trimStart isBlank text = text :=
    List.takeWhile_append_dropWhile
  have ends : trimEnd isBlank (trimStart isBlank text) = trimStart isBlank text := by
    refine trimEnd_eq_self fun c last => finish c ?_
    rw [← split, List.getLast?_append, last, Option.some_or]
  refine ⟨text.takeWhile isBlank, fun c member => List.mem_takeWhile_imp member, ?_⟩
  rw [trim, ends, split]

end TemplateTree.Text
