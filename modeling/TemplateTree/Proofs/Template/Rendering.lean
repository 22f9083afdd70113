import Mathlib.Data.List.Chain
import TemplateTree.Proofs.Directive.WrittenLines

/-!
# Templates as they are written

How a well-formed template is written down: a byte order mark, directives on lines of their own,
literals with each `@` doubled, and expressions with an empty comment behind them, which ends their
name. Main statements: a chunk is written like its atoms, `ofAtoms_flatMap_atoms` joins the atoms of
chunks to the same chunks again, and `placed_flatMap_atoms` says of these atoms what reading needs.
-/

namespace TemplateTree

/-- An atom as it is written. -/
def Atom.render : Atom → List Char
  | .character c => if c = '@' then ['@', '@'] else [c]
  | .expression name => '@' :: (name ++ ['@', '*', '*', '@'])
  | .directive declared => declared.render

/-- A chunk as it is written: a directive on a line of its own, a literal with each `@` doubled, an
expression with an empty comment behind it. -/
def Chunk.render : Chunk → List Char
  | .directive declared => declared.render
  | .literal text => text.toList.flatMap fun c => if c = '@' then ['@', '@'] else [c]
  | .expression name => '@' :: (name.toList ++ ['@', '*', '*', '@'])

/-- Atoms that can be read back, behind text that ends its last line if `fresh`: names are dotted,
and clean directives start lines. -/
def Atom.Placed : Bool → List Atom → Prop
  | _, [] => True
  | _, .character c :: rest => Placed (c == '\n') rest
  | _, .expression name :: rest => IsDotted name ∧ Placed false rest
  | fresh, .directive declared :: rest => fresh = true ∧ declared.IsClean ∧ Placed true rest

/-- Whether a chunk is literal text. -/
def Chunk.isLiteral : Chunk → Bool
  | .literal _ => true
  | _ => false

/-- Whether what is written behind a chunk starts a line. -/
def Chunk.EndsLine : Chunk → Prop
  | .directive _ => True
  | .literal text => text.toList.getLast? = some '\n'
  | .expression _ => False

/-- The atoms of a chunk. -/
def Chunk.atoms : Chunk → List Atom
  | .directive declared => [.directive declared]
  | .literal text => text.toList.map .character
  | .expression name => [.expression name.toList]

namespace Template

/-- A template as it is written, behind a byte order mark. -/
def render (template : Template) : List Char :=
  '\uFEFF' :: template.chunks.flatMap Chunk.render

/-- A template that can be written down. -/
structure WellFormed (template : Template) : Prop where
  filled : ∀ text, .literal text ∈ template.chunks → text ≠ ""
  joined : template.chunks.IsChain fun first second =>
    ¬(first.isLiteral = true ∧ second.isLiteral = true)
  named : ∀ name, .expression name ∈ template.chunks → Atom.IsDotted name.toList
  placed : template.chunks.IsChain fun before chunk =>
    ∀ declared, chunk = .directive declared → before.EndsLine
  clean : ∀ declared, .directive declared ∈ template.chunks → declared.IsClean

end Template

namespace Chunk

theorem render_eq_flatMap_atoms (chunk : Chunk) :
    chunk.render = chunk.atoms.flatMap Atom.render := by
  cases chunk <;> simp [render, atoms, Atom.render, List.flatMap_map]

/-- Characters in front of atoms are characters in front of the text they start with. -/
theorem splitAtoms_characters (text : List Char) (rest : List Atom) :
    splitAtoms (text.map .character ++ rest) =
      (text ++ (splitAtoms rest).1, (splitAtoms rest).2) := by
  induction text with
  | nil => rfl
  | cons c text inductionHypothesis =>
    simp only [List.map_cons, List.cons_append, splitAtoms, inductionHypothesis]

/-- Atoms that do not start with a character start with no text. -/
theorem splitAtoms_eq_nil_ofAtoms {atoms : List Atom}
    (other : ∀ c, atoms.head? ≠ some (.character c)) :
    splitAtoms atoms = ([], ofAtoms atoms) := by
  cases atoms with
  | nil => rfl
  | cons atom rest =>
    cases atom with
    | character c => exact absurd rfl (other c)
    | expression name => rfl
    | directive directive => rfl

/-- The atoms of chunks come to these chunks, unless a literal is empty or stands behind another. -/
theorem ofAtoms_flatMap_atoms {chunks : List Chunk}
    (filled : ∀ text, .literal text ∈ chunks → text ≠ "")
    (joined : chunks.IsChain fun first second =>
      ¬(first.isLiteral = true ∧ second.isLiteral = true)) :
    ofAtoms (chunks.flatMap atoms) = chunks := by
  induction chunks with
  | nil => rfl
  | cons chunk rest inductionHypothesis =>
    obtain ⟨apart, others⟩ := List.isChain_cons.1 joined
    have read := inductionHypothesis
      (fun text member => filled text (List.mem_cons_of_mem _ member)) others
    cases chunk with
    | directive directive =>
      have step : ofAtoms ((Chunk.directive directive :: rest).flatMap atoms) =
          .directive directive :: ofAtoms (rest.flatMap atoms) := rfl
      rw [step, read]
    | expression name =>
      have step : ofAtoms ((Chunk.expression name :: rest).flatMap atoms) =
          .expression (String.ofList name.toList) :: ofAtoms (rest.flatMap atoms) := rfl
      rw [step, read, String.ofList_toList]
    | literal text =>
      have front : ∀ c, (rest.flatMap atoms).head? ≠ some (.character c) := by
        intro c first
        cases rest with
        | nil => cases first
        | cons next rest =>
          cases next with
          | directive directive => cases first
          | expression name => cases first
          | literal more => exact apart _ rfl ⟨rfl, rfl⟩
      have some : text.toList ≠ [] := fun empty =>
        filled text List.mem_cons_self (String.toList_eq_nil_iff.1 empty)
      rw [List.flatMap_cons, ofAtoms, atoms, splitAtoms_characters, splitAtoms_eq_nil_ofAtoms front,
        read]
      simp [consText, some, String.ofList_toList]

/-- Behind characters, a line starts if the last of them is a line feed. -/
theorem placed_characters (text : List Char) (rest : List Atom) (fresh : Bool) :
    Atom.Placed fresh (text.map .character ++ rest) ↔
      Atom.Placed (text.getLast?.elim fresh (· == '\n')) rest := by
  induction text generalizing fresh with
  | nil => rfl
  | cons c text inductionHypothesis =>
    rw [List.map_cons, List.cons_append, Atom.Placed, inductionHypothesis]
    cases text with
    | nil => rfl
    | cons d more => rw [List.getLast?_cons_cons]; rfl

/-- The atoms of the chunks of a well-formed template can be read back. -/
theorem placed_flatMap_atoms {chunks : List Chunk} {fresh : Bool}
    (named : ∀ name, .expression name ∈ chunks → Atom.IsDotted name.toList)
    (clean : ∀ declared, .directive declared ∈ chunks → declared.IsClean)
    (placed : chunks.IsChain fun before chunk =>
      ∀ declared, chunk = .directive declared → before.EndsLine)
    (first : ∀ declared, chunks.head? = some (.directive declared) → fresh = true) :
    Atom.Placed fresh (chunks.flatMap atoms) := by
  induction chunks generalizing fresh with
  | nil => trivial
  | cons chunk rest inductionHypothesis =>
    obtain ⟨next, others⟩ := List.isChain_cons.1 placed
    have behind {fresh : Bool} (ended : chunk.EndsLine → fresh = true) :
        Atom.Placed fresh (rest.flatMap atoms) :=
      inductionHypothesis (fun name member => named name (List.mem_cons_of_mem _ member))
        (fun declared member => clean declared (List.mem_cons_of_mem _ member)) others
        (fun declared head => ended (next _ head declared rfl))
    rw [List.flatMap_cons]
    cases chunk with
    | directive declared =>
      exact ⟨first declared rfl, clean declared List.mem_cons_self, behind fun _ => rfl⟩
    | literal text =>
      rw [atoms, placed_characters]
      refine behind fun ended => ?_
      rw [show text.toList.getLast? = some '\n' from ended]
      rfl
    | expression name =>
      exact ⟨named name List.mem_cons_self, behind False.elim⟩

end Chunk
end TemplateTree
