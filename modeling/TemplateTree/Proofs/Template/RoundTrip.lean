import TemplateTree.Proofs.Template.Rendering
import TemplateTree.Proofs.Template.Written

/-!
# Templates read back

A well-formed template that is written down is read back as it was. Reading goes line by line, so
the text is cut where its atoms end a line: `atomsOfLines_render` carries the part of a line that is
already passed, and `Template.parse_render` is the case of a whole template.
-/

namespace TemplateTree

namespace Atom

/-- An atom of the body that can be read back. -/
def IsBody : Atom → Prop
  | .character _ => True
  | .expression name => IsDotted name
  | .directive _ => False

/-- Something is written for every atom. -/
theorem render_ne_nil (atom : Atom) : atom.render ≠ [] := by
  cases atom with
  | character c =>
    rw [render]
    split <;> simp
  | expression name => simp [render]
  | directive declared => simp [render, Directive.render]

theorem lineFeed_not_mem_render {name : List Char} (dotted : IsDotted name) :
    '\n' ∉ (expression name).render := by
  intro member
  have inside : '\n' ∈ name := by simpa [render] using member
  have ink := isBlank_eq_false_of_part (dotted.mem inside)
  exact absurd ink (by decide)

/-- A line of the body is taken apart into the atoms it was written for. -/
theorem ofLine_render {atoms : List Atom} (body : ∀ atom ∈ atoms, atom.IsBody) :
    ofLine (atoms.flatMap render) = atoms := by
  induction atoms with
  | nil => rfl
  | cons atom rest inductionHypothesis =>
    obtain ⟨here, later⟩ := List.forall_mem_cons.1 body
    have others := inductionHypothesis later
    rw [List.flatMap_cons]
    cases atom with
    | character c =>
      by_cases mark : c = '@'
      · subst mark
        have doubled : (character '@').render = ['@', '@'] := rfl
        rw [doubled, List.cons_append, List.cons_append, List.nil_append, ofLine_mark]
        simpa [ofMark] using others
      · have single : (character c).render = [c] := if_neg mark
        rw [single, List.singleton_append, ofLine_cons mark, others]
    | expression name =>
      have read := IsDotted.ofMark_append here ('*' :: '*' :: '@' :: rest.flatMap render)
      have closing : ofMark ('*' :: '*' :: '@' :: rest.flatMap render) = ([], 3) := rfl
      simp only [render, List.cons_append, List.append_assoc, List.nil_append]
      rw [ofLine_mark, read, List.drop_left, ofLine_mark, closing]
      simpa using others
    | directive declared => exact here.elim

/-- No line of the body is written as a directive or as a comment. -/
theorem isGuarded_trim_render {atoms : List Atom} (body : ∀ atom ∈ atoms, atom.IsBody) :
    Directive.IsGuarded (Text.trim (atoms.flatMap render)) := by
  induction atoms with
  | nil => exact .empty
  | cons atom rest inductionHypothesis =>
    obtain ⟨here, later⟩ := List.forall_mem_cons.1 body
    have mark : Text.isBlank '@' = false := by decide
    rw [List.flatMap_cons, Text.trim]
    cases atom with
    | character c =>
      by_cases doubled : c = '@'
      · subst doubled
        rw [show (character '@').render = ['@', '@'] from rfl, List.cons_append,
          Text.trimStart_cons mark]
        have kept := Text.trimEnd_append_cons mark ['@'] (rest.flatMap render)
        rw [List.singleton_append] at kept
        rw [List.singleton_append, kept]
        exact @Directive.IsGuarded.marked [] _ (by simp)
      · have single : (character c).render = [c] := if_neg doubled
        rw [single]
        by_cases blank : Text.isBlank c = true
        · rw [Text.trimStart_append (by simpa using blank)]
          exact inductionHypothesis later
        · rw [Bool.not_eq_true] at blank
          rw [List.singleton_append, Text.trimStart_cons blank]
          have kept := Text.trimEnd_append_cons blank [] (rest.flatMap render)
          rw [List.nil_append, List.nil_append] at kept
          rw [kept]
          exact .plain doubled
    | expression name =>
      have kept := Text.trimEnd_append_cons mark ('@' :: name)
        ('*' :: '*' :: '@' :: rest.flatMap render)
      simp only [render, List.cons_append, List.append_assoc, List.nil_append] at kept ⊢
      rw [Text.trimStart_cons mark, kept]
      exact .marked fun c member => IsDotted.mem here member
    | directive declared => exact here.elim

end Atom

namespace Template

/-- A line of the body is read back, and then the lines behind it. -/
theorem atomsOfLines_cons_body {line : List Atom} (body : ∀ atom ∈ line, atom.IsBody)
    {number : Nat} {others : List (List Char)} {atoms : List Atom}
    (read : atomsOfLines (number + 1) others = .ok atoms) :
    atomsOfLines number (line.flatMap Atom.render :: others) = .ok (line ++ atoms) := by
  rcases Directive.read_of_isGuarded (Atom.isGuarded_trim_render body) with blank | text
  · rw [atomsOfLines, blank, read, Atom.ofLine_render body]
  · rw [atomsOfLines, text, read, Atom.ofLine_render body]

/-- Atoms are read back, together with the part of their line that stands in front of them. -/
theorem atomsOfLines_render {line atoms : List Atom} (body : ∀ atom ∈ line, atom.IsBody)
    (unbroken : '\n' ∉ line.flatMap Atom.render) (placed : Atom.Placed line.isEmpty atoms)
    (number : Nat) :
    atomsOfLines number (Text.lines ((line ++ atoms).flatMap Atom.render)) =
      .ok (line ++ atoms) := by
  induction atoms generalizing line number with
  | nil =>
    rw [List.append_nil]
    cases line with
    | nil => rfl
    | cons atom more =>
      have filled : (atom :: more).flatMap Atom.render ≠ [] := by
        simp [Atom.render_ne_nil]
      have last : atomsOfLines number [(atom :: more).flatMap Atom.render] =
          .ok ((atom :: more) ++ []) := atomsOfLines_cons_body body rfl
      rw [Text.lines_of_unbroken filled unbroken, last, List.append_nil]
  | cons atom rest inductionHypothesis =>
    -- An atom that does not end the line joins the part in front.
    have further (here : atom.IsBody) (whole : '\n' ∉ atom.render)
        (others : Atom.Placed false rest) :
        atomsOfLines number (Text.lines ((line ++ atom :: rest).flatMap Atom.render)) =
          .ok (line ++ atom :: rest) := by
      have longer : ∀ other ∈ line ++ [atom], other.IsBody := by
        simpa [or_imp, forall_and] using ⟨body, here⟩
      have still : '\n' ∉ (line ++ [atom]).flatMap Atom.render := by
        simpa [not_or] using ⟨by simpa using unbroken, whole⟩
      have started : (line ++ [atom]).isEmpty = false := by simp
      have read := inductionHypothesis longer still (started ▸ others) number
      rwa [List.append_assoc, List.singleton_append] at read
    have fresh (number : Nat) (others : Atom.Placed true rest) :
        atomsOfLines number (Text.lines (rest.flatMap Atom.render)) = .ok rest :=
      @inductionHypothesis [] (by simp) (by simp) others number
    cases atom with
    | character c =>
      by_cases feed : c = '\n'
      · subst feed
        have ended : ∀ other ∈ line ++ [.character '\n'], other.IsBody := by
          simpa [or_imp, forall_and] using ⟨body, trivial⟩
        have read := atomsOfLines_cons_body ended (fresh (number + 1) placed)
        have cut := Text.lines_append_lineFeed unbroken (rest.flatMap Atom.render)
        simpa [Atom.render, cut] using read
      · have placedRest : Atom.Placed false rest := by
          have placed : Atom.Placed (c == '\n') rest := placed
          rwa [beq_false_of_ne feed] at placed
        refine further trivial ?_ placedRest
        rw [Atom.render]
        split <;> simp [Ne.symm feed]
    | expression name =>
      obtain ⟨dotted, others⟩ := placed
      exact further dotted (Atom.lineFeed_not_mem_render dotted) others
    | directive declared =>
      obtain ⟨empty, clean, others⟩ := placed
      obtain rfl : line = [] := List.isEmpty_iff.1 empty
      have cut : Text.lines (declared.render ++ rest.flatMap Atom.render) =
          declared.render :: Text.lines (rest.flatMap Atom.render) := by
        have split := Text.lines_append_lineFeed clean.lineFeed_not_mem (rest.flatMap Atom.render)
        simpa [Directive.render] using split
      rw [List.nil_append, List.flatMap_cons, Atom.render, cut, atomsOfLines,
        Directive.read_render clean, fresh _ others]

/-- Every well-formed template that is written down is read back. -/
theorem parse_render {template : Template} (wellFormed : template.WellFormed) :
    parse template.render = .ok template := by
  have placed : Atom.Placed true (template.chunks.flatMap Chunk.atoms) :=
    Chunk.placed_flatMap_atoms wellFormed.named wellFormed.clean wellFormed.placed fun _ _ => rfl
  have read := @atomsOfLines_render [] _ (by simp) (by simp) placed 1
  have written : template.chunks.flatMap Chunk.render =
      (template.chunks.flatMap Chunk.atoms).flatMap Atom.render := by
    rw [List.flatMap_assoc]
    exact List.flatMap_congr fun chunk _ => chunk.render_eq_flatMap_atoms
  rw [List.nil_append, ← written] at read
  rw [parse, render, show Text.withoutMark ('\uFEFF' :: template.chunks.flatMap Chunk.render) =
    template.chunks.flatMap Chunk.render from rfl, read]
  simp only [Chunk.ofAtoms_flatMap_atoms wellFormed.filled wellFormed.joined]

/-- Text that looks like a mark, a comment, directives and the rest of a name comes back as text. -/
theorem parse_render_lookalike :
    let template : Template :=
      ⟨[.directive ⟨.modelType, "Page;"⟩,
        .literal "\uFEFF@* no comment *@\r\n@model text\n@@ \n",
        .directive ⟨.namespaceImport, "a; b"⟩, .expression "model.name", .literal ".more @"]⟩
    template.WellFormed ∧ parse template.render = .ok template := by
  intro template
  suffices wellFormed : template.WellFormed from ⟨wellFormed, parse_render wellFormed⟩
  refine ⟨by simp [template], by simp [template, Chunk.isLiteral], ?_, ?_, ?_⟩
  · have model : Atom.IsIdentifier "model".toList :=
      ⟨'m', "odel".toList, rfl, rfl, List.all_eq_true.1 rfl⟩
    have name : Atom.IsIdentifier "name".toList :=
      ⟨'n', "ame".toList, rfl, rfl, List.all_eq_true.1 rfl⟩
    have dotted : Atom.IsDotted "model.name".toList := .dot model (.identifier name)
    simpa [template] using dotted
  · simp [template, Chunk.EndsLine]
  · have page : Directive.IsClean ⟨.modelType, "Page;"⟩ :=
      ⟨by simp, by rintro c ⟨⟩; rfl, by rintro c ⟨⟩; rfl, by decide, by simp⟩
    have imported : Directive.IsClean ⟨.namespaceImport, "a; b"⟩ :=
      ⟨by simp, by rintro c ⟨⟩; rfl, by rintro c ⟨⟩; rfl, by decide, by simp⟩
    simpa [template] using ⟨page, imported⟩

end Template
end TemplateTree
