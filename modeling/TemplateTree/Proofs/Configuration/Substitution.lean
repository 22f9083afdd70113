import Mathlib.Logic.ExistsUnique
import TemplateTree.Configuration

/-!
# Base types with the model type put in

A base type is read once from left to right for its placeholder, and what is put in is not read
again. `Divided` describes the texts that lie between the occurrences so found, without a word of
what is put there. Main statement: `substitute_eq_intercalate`.
-/

namespace TemplateTree

namespace Text

/-- A pattern occurs in a text behind this many characters, and behind no fewer. -/
structure FirstAt (pattern text : List Char) (position : Nat) : Prop where
  here : pattern <+: text.drop position
  noEarlier : ∀ earlier, earlier < position → ¬pattern <+: text.drop earlier

/-- The pieces of a text with a mark between any two: every piece but the last reaches to the first
occurrence of the mark in the text that begins with this piece, and the last holds no mark. -/
inductive Divided (mark : List Char) : List Char → List (List Char) → Prop where
  | last {text} (absent : ¬mark <:+: text) : Divided mark text [text]
  | cut {piece rest pieces} (first : FirstAt mark (piece ++ mark ++ rest) piece.length)
      (others : Divided mark rest pieces) : Divided mark (piece ++ mark ++ rest) (piece :: pieces)

variable {mark replacement text rest piece : List Char} {pieces others : List (List Char)}
variable {position other : Nat} {c : Char}

theorem firstAt_zero_iff : FirstAt mark text 0 ↔ mark <+: text :=
  ⟨fun first => first.here, fun here => ⟨here, fun _ below => absurd below (Nat.not_lt_zero _)⟩⟩

/-- Behind a character a pattern occurs first where it does without it, unless it begins with the
character. -/
theorem firstAt_succ_iff :
    FirstAt mark (c :: text) (position + 1) ↔ ¬mark <+: c :: text ∧ FirstAt mark text position := by
  constructor
  · rintro ⟨here, noEarlier⟩
    exact ⟨noEarlier 0 (Nat.succ_pos _), here,
      fun earlier below => noEarlier (earlier + 1) (Nat.succ_lt_succ below)⟩
  · rintro ⟨start, here, noEarlier⟩
    refine ⟨here, fun earlier below => ?_⟩
    cases earlier with
    | zero => exact start
    | succ earlier => exact noEarlier earlier (Nat.lt_of_succ_lt_succ below)

theorem FirstAt.unique (first : FirstAt mark text position) (second : FirstAt mark text other) :
    position = other :=
  Nat.le_antisymm (Nat.le_of_not_lt fun below => first.noEarlier _ below second.here)
    (Nat.le_of_not_lt fun below => second.noEarlier _ below first.here)

/-- A pattern that occurs in a text occurs first somewhere. -/
theorem exists_firstAt (inside : mark <:+: text) :
    ∃ piece rest, text = piece ++ mark ++ rest ∧ FirstAt mark text piece.length := by
  induction text with
  | nil =>
    rw [List.infix_nil.1 inside]
    exact ⟨[], [], rfl, firstAt_zero_iff.2 List.prefix_rfl⟩
  | cons c text inductionHypothesis =>
    by_cases start : mark <+: c :: text
    · obtain ⟨rest, whole⟩ := start
      exact ⟨[], rest, whole.symm, firstAt_zero_iff.2 ⟨rest, whole⟩⟩
    · obtain ⟨piece, rest, rfl, first⟩ :=
        inductionHypothesis ((List.infix_cons_iff.1 inside).resolve_left start)
      exact ⟨c :: piece, rest, rfl, firstAt_succ_iff.2 ⟨start, first⟩⟩

/-- Every text can be divided at a mark. -/
theorem exists_divided (filled : mark ≠ []) (text : List Char) :
    ∃ pieces, Divided mark text pieces := by
  by_cases inside : mark <:+: text
  · obtain ⟨piece, rest, whole, first⟩ := exists_firstAt inside
    have shorter : rest.length < text.length := by
      have some := List.length_pos_iff.2 filled
      rw [whole, List.length_append, List.length_append]
      omega
    obtain ⟨pieces, others⟩ := exists_divided filled rest
    subst whole
    exact ⟨piece :: pieces, .cut first others⟩
  · exact ⟨[text], .last inside⟩
termination_by text.length

/-- There is one way only to divide a text at a mark. -/
theorem Divided.unique (first : Divided mark text pieces) (second : Divided mark text others) :
    pieces = others := by
  induction first generalizing others with
  | last absent =>
    cases second with
    | last => rfl
    | cut => exact absurd (List.infix_append ..) absent
  | @cut piece rest pieces start _ inductionHypothesis =>
    generalize whole : piece ++ mark ++ rest = text at second start
    cases second with
    | last absent => exact absurd (whole ▸ List.infix_append ..) absent
    | @cut piece' rest' pieces' start' others' =>
      obtain ⟨front, tail⟩ := List.append_inj (by simpa using whole) (start.unique start')
      rw [front, inductionHypothesis (List.append_cancel_left tail ▸ others')]

theorem Divided.ne_nil (divided : Divided mark text pieces) : pieces ≠ [] := by
  cases divided <;> exact List.cons_ne_nil _ _

theorem Divided.eq_intercalate (divided : Divided mark text pieces) :
    text = mark.intercalate pieces := by
  induction divided with
  | last => exact List.intercalate_singleton.symm
  | cut _ others inductionHypothesis =>
    rw [List.intercalate_cons_of_ne_nil others.ne_nil, ← inductionHypothesis]

theorem isSome_after?_iff : (after? mark text).isSome ↔ mark <+: text := by
  rw [Option.isSome_iff_exists]
  exact exists_congr fun rest => after?_eq_some_iff.trans eq_comm

/-- Nothing is replaced in a text without the pattern. -/
theorem replace_of_absent (absent : ¬mark <:+: text) : replace mark replacement text = text := by
  induction text with
  | nil => rfl
  | cons c text inductionHypothesis =>
    rw [List.infix_cons_iff, not_or] at absent
    rw [replace, replaceAfter, if_neg (mt isSome_after?_iff.1 absent.1)]
    exact congrArg (c :: ·) (inductionHypothesis absent.2)

/-- The first occurrence of a pattern is replaced, and the text is read on behind it. -/
theorem replace_append_of_firstAt (filled : mark ≠ [])
    (first : FirstAt mark (piece ++ mark ++ rest) piece.length) :
    replace mark replacement (piece ++ mark ++ rest) =
      piece ++ replacement ++ replace mark replacement rest := by
  induction piece with
  | nil =>
    obtain ⟨c, more, rfl⟩ := List.exists_cons_of_ne_nil filled
    have start : c :: more <+: c :: (more ++ rest) := List.prefix_append (c :: more) rest
    simp only [List.nil_append, List.cons_append]
    rw [replace, replaceAfter, if_pos (isSome_after?_iff.2 start), replaceAfter_eq_drop]
    simp [replace]
  | cons c piece inductionHypothesis =>
    simp only [List.cons_append, List.length_cons] at first ⊢
    obtain ⟨start, later⟩ := firstAt_succ_iff.1 first
    rw [replace, replaceAfter, if_neg (mt isSome_after?_iff.1 start)]
    exact congrArg (c :: ·) (inductionHypothesis later)

/-- Replacing a pattern puts the replacement between the pieces. -/
theorem Divided.replace_eq (filled : mark ≠ []) (divided : Divided mark text pieces)
    (replacement : List Char) :
    replace mark replacement text = replacement.intercalate pieces := by
  induction divided with
  | last absent => rw [replace_of_absent absent, List.intercalate_singleton]
  | cut first others inductionHypothesis =>
    rw [replace_append_of_firstAt filled first, inductionHypothesis,
      List.intercalate_cons_of_ne_nil others.ne_nil]

end Text

namespace BaseTypeTemplate

/-- A base type with a placeholder that is not empty falls in one way into pieces with the
placeholder between them, each of which reaches to the first occurrence of the placeholder from
where the piece begins. Whatever the model type is, it stands between the same pieces in the place
of the placeholder; in particular, nothing is changed in a base type without the placeholder, nor by
the placeholder itself. -/
theorem substitute_eq_intercalate (base : BaseTypeTemplate) (filled : base.placeholder ≠ "") :
    let mark := base.placeholder.toList
    let text := base.template.toList
    (∃! pieces, Text.Divided mark text pieces) ∧
      (∀ pieces, Text.Divided mark text pieces → text = mark.intercalate pieces ∧
        ∀ modelType, (base.substitute modelType).toList = modelType.toList.intercalate pieces) ∧
      (¬mark <:+: text → ∀ modelType, base.substitute modelType = base.template) ∧
      base.substitute base.placeholder = base.template := by
  intro mark text
  have marked : mark ≠ [] := mt String.toList_eq_nil_iff.1 filled
  have replaced (modelType : String) :
      (base.substitute modelType).toList = Text.replace mark modelType.toList text := by
    rw [substitute, if_neg (by simpa using filled), String.toList_ofList]
  obtain ⟨pieces, divided⟩ := Text.exists_divided marked text
  refine ⟨⟨pieces, divided, fun others again => again.unique divided⟩, fun others again => ?_,
    fun absent modelType => ?_, ?_⟩
  · exact ⟨again.eq_intercalate, fun modelType =>
      (replaced modelType).trans (again.replace_eq marked modelType.toList)⟩
  · rw [← String.toList_inj, replaced, Text.replace_of_absent absent]
  · rw [← String.toList_inj, replaced, divided.replace_eq marked, ← divided.eq_intercalate]

/-- Of two occurrences that overlap the one further to the left counts, and a model type in which
the placeholder occurs, and with which it occurs where they meet, is put in as it is. -/
theorem substitute_eq_intercalate_of_overlapping :
    let base : BaseTypeTemplate := ⟨"Baaa<aa>", "aa"⟩
    let pieces := ["B".toList, "a<".toList, ">".toList]
    base.placeholder ≠ "" ∧
      Text.Divided base.placeholder.toList base.template.toList pieces ∧
      base.template.toList = base.placeholder.toList.intercalate pieces ∧
      (base.substitute "aaXa").toList = "aaXa".toList.intercalate pieces ∧
      "aaXa".toList.intercalate pieces = "BaaXaa<aaXa>".toList := by
  intro base pieces
  have filled : base.placeholder ≠ "" := by decide
  have divided : Text.Divided base.placeholder.toList base.template.toList pieces := by
    have whole : base.template.toList = "B".toList ++ base.placeholder.toList ++
        ("a<".toList ++ base.placeholder.toList ++ ">".toList) := by decide
    rw [whole]
    exact .cut ⟨by decide, by decide⟩ (.cut ⟨by decide, by decide⟩ (.last (by decide)))
  obtain ⟨-, joined, -⟩ := substitute_eq_intercalate base filled
  obtain ⟨whole, put⟩ := joined pieces divided
  exact ⟨filled, divided, whole, put "aaXa", by decide⟩

end BaseTypeTemplate

end TemplateTree
