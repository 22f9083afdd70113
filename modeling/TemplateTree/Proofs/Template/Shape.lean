import TemplateTree.Proofs.Template.Parsed
import TemplateTree.Proofs.Template.Seam

/-!
# The shape of templates that have been read

What the chunks of a template look like that has been read, whatever its text. Lines say of their
atoms that directives stand behind line feeds, and chunks hold the same atoms in the same order.
Main statements: `shaped_of_parse`, and `wellFormed_iff_of_parse`, by which only an argument of a
directive can keep a template that has been read from being written down.
-/

namespace TemplateTree

namespace Text

variable {text front behind : List Char}

theorem getLast?_of_append {c : Char} (ended : (front ++ behind).getLast? = some c)
    (other : front.getLast? ≠ some c) : behind.getLast? = some c := by
  rw [List.getLast?_append, Option.or_eq_some_iff] at ended
  exact ended.resolve_right fun first => other first.2

/-- Every line but the last ends in a line feed. -/
theorem isChain_lines (text : List Char) :
    (lines text).IsChain fun line _ => line.getLast? = some '\n' := by
  induction text with
  | nil => exact .nil
  | cons c rest inductionHypothesis =>
    rw [lines]
    split
    · next feed => exact List.isChain_cons.2 ⟨fun _ _ => by rw [feed]; rfl, inductionHypothesis⟩
    · split
      · exact .singleton _
      · next line more cut =>
        rw [cut] at inductionHypothesis
        obtain ⟨ended, others⟩ := List.isChain_cons.1 inductionHypothesis
        refine List.isChain_cons.2 ⟨fun next head => ?_, others⟩
        rw [List.getLast?_cons, ended next head]
        rfl

end Text

namespace Atom

theorem IsDotted.ne_empty {name : String} (dotted : IsDotted name.toList) : name ≠ "" := by
  rintro rfl
  obtain ⟨c, rest, empty, -⟩ := dotted.exists_cons
  cases empty

/-- Whether what is written behind an atom starts a line. -/
def EndsLine : Atom → Prop
  | .character c => c = '\n'
  | .expression _ => False
  | .directive _ => True

/-- Atoms among which every directive is the first or starts a line. -/
def StartLines (atoms : List Atom) : Prop :=
  atoms.IsChain fun before atom => ∀ declared, atom = .directive declared → before.EndsLine

/-- What an `@` takes up leaves the line feed at the end of a line. -/
theorem getLast?_drop_ofMark {text : List Char} (ended : text.getLast? = some '\n') :
    (text.drop (ofMark text).2).getLast? = some '\n' := by
  fun_cases ofMark text with
  | case1 rest =>
    exact Text.getLast?_of_append (show (['@'] ++ rest).getLast? = _ from ended) (by simp)
  | case2 rest length closing =>
    have closed : Text.afterClosing? rest = some (rest.drop length) := by
      rw [afterClosing?_eq_map_drop, closing, Option.map_some]
    obtain ⟨body, spelled, -⟩ := Text.exists_of_afterClosing? closed
    have whole : '*' :: rest = ('*' :: body ++ ['*', '@']) ++ rest.drop length := by
      rw [List.append_assoc, List.cons_append]
      exact congrArg ('*' :: ·) spelled
    refine Text.getLast?_of_append (whole ▸ ended) ?_
    rw [List.getLast?_append]
    simp
  | case3 | case4 => exact ended
  | case5 _ _ _ named =>
    have whole := List.prefix_iff_eq_append.1 (name_isPrefix text)
    refine Text.getLast?_of_append (whole ▸ ended) fun last => ?_
    have inside := List.mem_of_getLast? last
    have ink := isBlank_eq_false_of_part ((isDotted_name named).mem inside)
    exact absurd ink (by decide)

/-- A line that ends in a line feed ends in this character when it is taken apart. -/
theorem getLast?_ofLine {line : List Char} (ended : line.getLast? = some '\n') :
    (ofLine line).getLast? = some (.character '\n') := by
  match line with
  | [] => cases ended
  | c :: rest =>
    by_cases mark : c = '@'
    · subst mark
      have behind : rest.getLast? = some '\n' :=
        Text.getLast?_of_append (show (['@'] ++ rest).getLast? = _ from ended) (by simp)
      rw [ofLine_mark, List.getLast?_append, getLast?_ofLine (getLast?_drop_ofMark behind)]
      rfl
    · have further (behind : rest.getLast? = some '\n') := getLast?_ofLine behind
      rw [ofLine_cons mark]
      cases rest with
      | nil =>
        obtain rfl : c = '\n' := by simpa using ended
        rfl
      | cons d more =>
        rw [List.getLast?_cons_cons] at ended
        rw [List.getLast?_cons, further ended]
        rfl
termination_by line.length
decreasing_by
  all_goals simp only [List.length_cons, List.length_drop]
  all_goals omega

theorem startLines_ofLine (line : List Char) : StartLines (ofLine line) := by
  refine (List.pairwise_of_forall_mem_list fun before _ atom member declared same => ?_).isChain
  subst same
  exact (isBody_of_mem_ofLine member).elim

end Atom

namespace Template

/-- The directives among the atoms of lines start lines. -/
theorem startLines_atomsOfLines {number : Nat} {lines : List (List Char)} {atoms : List Atom}
    (ended : lines.IsChain fun line _ => line.getLast? = some '\n')
    (read : atomsOfLines number lines = .ok atoms) : Atom.StartLines atoms := by
  induction lines generalizing number atoms with
  | nil =>
    cases read
    exact .nil
  | cons line rest inductionHypothesis =>
    obtain ⟨feed, others⟩ := List.isChain_cons.1 ended
    rw [atomsOfLines] at read
    split at read
    · cases read
    · exact inductionHypothesis others read
    · next declared _ =>
      split at read
      · next behind more =>
        cases read
        exact List.isChain_cons.2 ⟨fun _ _ _ _ => trivial, inductionHypothesis others more⟩
      · cases read
    all_goals
      split at read
      · next behind more =>
        cases read
        refine List.isChain_append.2 ⟨Atom.startLines_ofLine line, inductionHypothesis others more,
          fun last ends atom starts declared same => ?_⟩
        -- Only a line that ends has another behind it.
        cases rest with
        | nil =>
          cases more
          cases starts
        | cons next rest =>
          rw [Atom.getLast?_ofLine (feed next rfl)] at ends
          cases ends
          exact rfl
      · cases read

end Template

namespace Chunk

/-- Whether two chunks may be neighbours: two literals would be one. -/
def Apart (first second : Chunk) : Prop :=
  ¬(first.isLiteral = true ∧ second.isLiteral = true)

theorem flatMap_atoms_consText (text : List Char) (chunks : List Chunk) :
    (consText text chunks).flatMap atoms = text.map .character ++ chunks.flatMap atoms := by
  cases text with
  | nil => rfl
  | cons c text => simp [consText, atoms]

/-- Chunks hold the atoms that they come from, in the same order. -/
theorem flatMap_atoms_ofAtoms (all : List Atom) : (ofAtoms all).flatMap atoms = all := by
  have split : (splitAtoms all).1.map .character ++ (splitAtoms all).2.flatMap atoms = all := by
    induction all with
    | nil => rfl
    | cons atom rest inductionHypothesis =>
      cases atom with
      | character c =>
        rw [splitAtoms, List.map_cons, List.cons_append, inductionHypothesis]
      | expression name =>
        rw [splitAtoms, List.map_nil, List.nil_append, List.flatMap_cons, flatMap_atoms_consText,
          inductionHypothesis]
        simp [atoms]
      | directive declared =>
        rw [splitAtoms, List.map_nil, List.nil_append, List.flatMap_cons, flatMap_atoms_consText,
          inductionHypothesis]
        simp [atoms]
  rw [ofAtoms, flatMap_atoms_consText, split]

/-- Text is put in front of chunks as a literal only if there is some. -/
theorem filled_consText {front : List Char} {chunks : List Chunk}
    (filled : ∀ text, .literal text ∈ chunks → text ≠ "") {text : String}
    (member : .literal text ∈ consText front chunks) : text ≠ "" := by
  rw [consText] at member
  split at member
  · exact filled text member
  · next some =>
    rcases List.mem_cons.1 member with here | later
    · obtain rfl := Chunk.literal.inj here
      simpa using some
    · exact filled text later

/-- Text put in front of chunks that do not start with a literal stands apart from them. -/
theorem apart_consText (front : List Char) {chunks : List Chunk} (apart : chunks.IsChain Apart)
    (other : ∀ text, chunks.head? ≠ some (.literal text)) :
    (consText front chunks).IsChain Apart := by
  rw [consText]
  split
  · exact apart
  · refine List.isChain_cons.2 ⟨fun next head both => ?_, apart⟩
    cases next with
    | literal text => exact other text head
    | directive | expression => cases both.2

/-- No literal that atoms come to is empty. -/
theorem filled_ofAtoms (all : List Atom) :
    ∀ text, .literal text ∈ ofAtoms all → text ≠ "" := by
  refine fun _ => filled_consText ?_
  induction all with
  | nil => exact fun _ => nofun
  | cons atom rest inductionHypothesis =>
    intro text member
    cases atom with
    | character c => exact inductionHypothesis text member
    | expression | directive =>
      rcases List.mem_cons.1 member with here | later
      · cases here
      · exact filled_consText inductionHypothesis later

/-- The literals that atoms come to stand apart. -/
theorem apart_ofAtoms (all : List Atom) : (ofAtoms all).IsChain Apart := by
  refine apart_consText _ ?_ (head?_splitAtoms all)
  induction all with
  | nil => exact .nil
  | cons atom rest inductionHypothesis =>
    have others := apart_consText (splitAtoms rest).1 inductionHypothesis (head?_splitAtoms rest)
    cases atom with
    | character c => exact inductionHypothesis
    | expression | directive => exact List.isChain_cons.2 ⟨fun _ _ both => (nomatch both.1), others⟩

/-- Directives stand behind chunks that end lines if they do so among the atoms. -/
theorem placed_of_startLines {chunks : List Chunk}
    (filled : ∀ text, .literal text ∈ chunks → text ≠ "")
    (start : Atom.StartLines (chunks.flatMap atoms)) :
    chunks.IsChain fun before chunk =>
      ∀ declared, chunk = .directive declared → before.EndsLine := by
  refine List.isChain_iff_forall_rel_of_append_cons_cons.2 ?_
  rintro before _ above below rfl declared rfl
  rw [List.flatMap_append, List.flatMap_cons, List.flatMap_cons] at start
  obtain ⟨-, start, -⟩ := List.isChain_append.1 start
  obtain ⟨-, -, seam⟩ := List.isChain_append.1 start
  cases before with
  | directive => trivial
  | expression name => exact seam (.expression name.toList) rfl _ rfl declared rfl
  | literal text =>
    have some : text.toList ≠ [] := fun empty =>
      filled text (by simp) (String.toList_eq_nil_iff.1 empty)
    obtain ⟨front, c, ends⟩ := (List.eq_nil_or_concat _).resolve_left some
    rw [List.concat_eq_append] at ends
    have feed : c = '\n' := seam (.character c) (by simp [atoms, ends]) _ rfl declared rfl
    rw [EndsLine, ends, feed]
    exact List.getLast?_concat

end Chunk

namespace Template

/-- The shape of a template, whatever its directives declare. -/
structure Shaped (template : Template) : Prop where
  filled : ∀ text, .literal text ∈ template.chunks → text ≠ ""
  joined : template.chunks.IsChain Chunk.Apart
  named : ∀ name, .expression name ∈ template.chunks → name ≠ "" ∧ Atom.IsDotted name.toList
  placed : template.chunks.IsChain fun before chunk =>
    ∀ declared, chunk = .directive declared → before.EndsLine

/-- Templates that can be written down are those of this shape whose directives are clean. -/
theorem wellFormed_iff {template : Template} :
    template.WellFormed ↔
      template.Shaped ∧ ∀ declared, .directive declared ∈ template.chunks → declared.IsClean := by
  constructor
  · rintro ⟨filled, joined, named, placed, clean⟩
    exact ⟨⟨filled, joined, fun name member => ⟨(named name member).ne_empty, named name member⟩,
      placed⟩, clean⟩
  · rintro ⟨⟨filled, joined, named, placed⟩, clean⟩
    exact ⟨filled, joined, fun name member => (named name member).2, placed, clean⟩

/-- Atoms with dotted names, among which directives start lines, come to a template of this
shape. -/
theorem shaped_ofAtoms {all : List Atom}
    (dotted : ∀ name, .expression name ∈ all → Atom.IsDotted name)
    (start : Atom.StartLines all) : Shaped ⟨Chunk.ofAtoms all⟩ where
  filled := Chunk.filled_ofAtoms all
  joined := Chunk.apart_ofAtoms all
  named := by
    intro name member
    obtain ⟨written, inside, rfl⟩ := Chunk.exists_of_expression_mem_splitAtoms
      (Chunk.mem_of_expression_mem_consText member)
    have named : Atom.IsDotted (String.ofList written).toList := by
      rw [String.toList_ofList]
      exact dotted written inside
    exact ⟨named.ne_empty, named⟩
  placed := by
    refine Chunk.placed_of_startLines (Chunk.filled_ofAtoms all) ?_
    rwa [Chunk.flatMap_atoms_ofAtoms]

/-- A template that has been read comes from such atoms. -/
theorem exists_atoms_of_parse {source : List Char} {template : Template}
    (parsed : parse source = .ok template) :
    ∃ all, template = ⟨Chunk.ofAtoms all⟩ ∧
      (∀ name, .expression name ∈ all → Atom.IsDotted name) ∧ Atom.StartLines all := by
  rw [parse] at parsed
  split at parsed
  · next all read =>
    cases parsed
    exact ⟨all, rfl, fun name member => isBody_of_mem_atomsOfLines read member (by simp),
      startLines_atomsOfLines (Text.isChain_lines _) read⟩
  · cases parsed

/-- Every template that has been read has this shape. -/
theorem shaped_of_parse {source : List Char} {template : Template}
    (parsed : parse source = .ok template) : template.Shaped := by
  obtain ⟨all, rfl, dotted, start⟩ := exists_atoms_of_parse parsed
  exact shaped_ofAtoms dotted start

/-- Comments between texts, an escape, a line of a comment only, an unclosed comment and a name that
ends in a dot leave one literal each, and the directives stand behind line feeds. -/
theorem shaped_of_parse_among_comments :
    let source :=
      "@* a *@ b@* c *@@@\r\n@* d *@\r\n@model e\r\n @using f;\n@*@g.h.\n@inherits i".toList
    let template : Template :=
      ⟨[.literal " b@\r\n", .directive ⟨.modelType, "e"⟩, .directive ⟨.namespaceImport, "f"⟩,
        .literal "@*", .expression "g.h", .literal ".\n", .directive ⟨.baseType, "i"⟩]⟩
    parse source = .ok template ∧ template.Shaped := by
  intro source template
  have parsed : parse source = .ok template := by rfl
  exact ⟨parsed, shaped_of_parse parsed⟩

/-- A template that has been read is one that can be written down if its directives are clean, and
only then. -/
theorem wellFormed_iff_of_parse {source : List Char} {template : Template}
    (parsed : parse source = .ok template) :
    template.WellFormed ↔ ∀ declared, .directive declared ∈ template.chunks → declared.IsClean := by
  obtain ⟨all, rfl, dotted, start⟩ := exists_atoms_of_parse parsed
  exact wellFormed_iff.trans (and_iff_right (shaped_ofAtoms dotted start))

end Template

end TemplateTree
