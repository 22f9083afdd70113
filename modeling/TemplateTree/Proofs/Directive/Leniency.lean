import TemplateTree.DirectiveFile
import TemplateTree.Proofs.Directive.CommentLines
import TemplateTree.Proofs.Template.Parsed

/-!
# Directive files read as templates

A directive file and a template share their reading of lines, and differ in what they do with a line
of other text. `parse_of_parseFile` says that a template is the more lenient of the two: whatever is
accepted as a directive file is a template with the same directives and nothing but blank beside
them, and where a template is refused a directive file is refused no later.
-/

namespace TemplateTree

namespace Text

/-- A line without the line feed that ends it, and without the carriage return right before that. -/
def withoutFeed (line : List Char) : List Char :=
  match line.reverse with
  | '\n' :: '\r' :: front => front.reverse
  | '\n' :: front => front.reverse
  | _ => line

/-- A line without any line feeds and carriage returns at its end. -/
def withoutEnds (line : List Char) : List Char :=
  trimEnd (fun c => c == '\r' || c == '\n') line

/-- Blank behind a text does not matter when its ends are trimmed. -/
theorem trim_append {last : List Char} (blank : ∀ c ∈ last, isBlank c = true) (text : List Char) :
    trim (text ++ last) = trim text := by
  simp only [trim, trimStart, List.dropWhile_append]
  split
  · next nothing =>
    rw [List.isEmpty_iff.1 nothing, List.dropWhile_eq_nil_iff.2 blank]
  · exact trimEnd_append blank _

private theorem isBlank_of_mem_feed : ∀ c ∈ ['\r', '\n'], isBlank c = true :=
  List.forall_mem_cons.2 ⟨by decide, List.forall_mem_singleton.2 isBlank_lineFeed⟩

/-- A line is its content and what ends it, all of it blank. -/
theorem exists_withoutFeed_append (line : List Char) :
    ∃ last, withoutFeed line ++ last = line ∧ ∀ c ∈ last, isBlank c = true := by
  rw [withoutFeed]
  split
  · next front written =>
    refine ⟨['\r', '\n'], ?_, isBlank_of_mem_feed⟩
    simpa using (congrArg List.reverse written).symm
  · next front _ written =>
    refine ⟨['\n'], ?_, List.forall_mem_singleton.2 isBlank_lineFeed⟩
    simpa using (congrArg List.reverse written).symm
  · exact ⟨[], List.append_nil line, by simp⟩

theorem exists_withoutEnds_append (line : List Char) :
    ∃ last, withoutEnds line ++ last = line ∧ ∀ c ∈ last, isBlank c = true := by
  refine ⟨_, trimEnd_append_takeWhile _ line, fun c member => ?_⟩
  have ends := List.mem_takeWhile_imp (List.mem_reverse.1 member)
  exact isBlank_of_mem_feed c (by simpa using ends)

end Text

namespace Atom

/-- The directive in an atom. -/
def directive? : Atom → Option Directive
  | .directive declared => some declared
  | _ => none

/-- No directive stands within a line. -/
theorem directives_ofLine (line : List Char) : (ofLine line).filterMap directive? = [] := by
  rw [List.filterMap_eq_nil_iff]
  intro atom member
  have body := isBody_of_mem_ofLine member
  cases atom with
  | character c => rfl
  | expression name => rfl
  | directive declared => exact body.elim

end Atom

namespace Chunk

theorem directives_consText (text : List Char) (chunks : List Chunk) :
    (consText text chunks).filterMap Template.directive? =
      chunks.filterMap Template.directive? := by
  cases text <;> rfl

/-- The characters in front of atoms are split off without their directives. -/
theorem directives_splitAtoms (atoms : List Atom) :
    (splitAtoms atoms).2.filterMap Template.directive? = atoms.filterMap Atom.directive? := by
  induction atoms with
  | nil => rfl
  | cons atom rest inductionHypothesis =>
    cases atom with
    | character c => exact inductionHypothesis
    | expression name => exact (directives_consText _ _).trans inductionHypothesis
    | directive declared =>
      exact congrArg (declared :: ·) ((directives_consText _ _).trans inductionHypothesis)

theorem directives_ofAtoms (atoms : List Atom) :
    (Template.mk (ofAtoms atoms)).directives = atoms.filterMap Atom.directive? :=
  (directives_consText _ _).trans (directives_splitAtoms atoms)

end Chunk

namespace Directive

variable {source : List Char} {number : Nat} {lines : List (List Char)}
  {directives : List Directive} {error : SyntaxError}

theorem Line.read_append {last : List Char} (blank : ∀ c ∈ last, Text.isBlank c = true)
    (line : List Char) : Line.read (line ++ last) = Line.read line := by
  rw [Line.read, Line.read, Text.trim_append blank]

theorem excerpt_append {last : List Char} (blank : ∀ c ∈ last, Text.isBlank c = true)
    (line : List Char) : excerpt (line ++ last) = excerpt line := by
  rw [excerpt, excerpt, Text.trim_append blank]

/-- A directive file can be read without the ends of its lines. -/
theorem ofLines_map_withoutFeed (number : Nat) (lines : List (List Char)) :
    ofLines number (lines.map Text.withoutFeed) = ofLines number lines := by
  induction lines generalizing number with
  | nil => rfl
  | cons line rest inductionHypothesis =>
    obtain ⟨last, whole, blank⟩ := Text.exists_withoutFeed_append line
    have read := Line.read_append blank (Text.withoutFeed line)
    have quoted := excerpt_append blank (Text.withoutFeed line)
    rw [whole] at read quoted
    rw [List.map_cons, ofLines, ofLines, inductionHypothesis, read, quoted]

theorem Line.read_withoutEnds (line : List Char) :
    Line.read (Text.withoutEnds line) = Line.read line := by
  obtain ⟨last, whole, blank⟩ := Text.exists_withoutEnds_append line
  have read := Line.read_append blank (Text.withoutEnds line)
  rwa [whole, eq_comm] at read

/-- Lines that are accepted in a directive file are read in a template, with their directives. -/
theorem exists_atomsOfLines (accepted : ofLines number lines = .ok directives) :
    ∃ atoms, Template.atomsOfLines number lines = .ok atoms ∧
      atoms.filterMap Atom.directive? = directives := by
  induction lines generalizing number directives with
  | nil =>
    cases accepted
    exact ⟨[], rfl, rfl⟩
  | cons line rest inductionHypothesis =>
    rw [ofLines] at accepted
    rw [Template.atomsOfLines]
    split at accepted
    · next blank =>
      obtain ⟨atoms, read, declared⟩ := inductionHypothesis accepted
      refine ⟨Atom.ofLine line ++ atoms, by simp only [blank, read], ?_⟩
      rw [List.filterMap_append, Atom.directives_ofLine, declared, List.nil_append]
    · next comment =>
      obtain ⟨atoms, read, declared⟩ := inductionHypothesis accepted
      exact ⟨atoms, by simp only [comment, read], declared⟩
    · next directive found =>
      split at accepted
      · next others remaining =>
        obtain ⟨atoms, read, declared⟩ := inductionHypothesis remaining
        cases accepted
        exact ⟨.directive directive :: atoms, by simp only [found, read],
          congrArg (directive :: ·) declared⟩
      · cases accepted
    · cases accepted
    · cases accepted

/-- An error in lines of a template stands on one of them. -/
theorem le_line_of_atomsOfLines (refused : Template.atomsOfLines number lines = .error error) :
    number ≤ error.line := by
  induction lines generalizing number with
  | nil => cases refused
  | cons line rest inductionHypothesis =>
    have later (remaining : Template.atomsOfLines (number + 1) rest = .error error) :
        number ≤ error.line :=
      Nat.le_of_succ_le (inductionHypothesis remaining)
    rw [Template.atomsOfLines] at refused
    split at refused
    · cases refused
      exact Nat.le_refl _
    · exact later refused
    all_goals
      split at refused
      · cases refused
      · next remaining =>
        cases refused
        exact later remaining

/-- Lines that are refused in a template are refused in a directive file, at the same line or an
earlier one. -/
theorem exists_error_ofLines (refused : Template.atomsOfLines number lines = .error error) :
    ∃ earlier, ofLines number lines = .error earlier ∧ earlier.line ≤ error.line := by
  induction lines generalizing number with
  | nil => cases refused
  | cons line rest inductionHypothesis =>
    have inside := le_line_of_atomsOfLines refused
    rw [Template.atomsOfLines] at refused
    rw [ofLines]
    cases read : Line.read line with
    | incomplete kind =>
      simp only [read] at refused
      cases refused
      exact ⟨_, rfl, Nat.le_refl _⟩
    | comment =>
      simp only [read] at refused
      exact inductionHypothesis refused
    | text => exact ⟨_, rfl, inside⟩
    | blank | directive declared =>
      cases others : Template.atomsOfLines (number + 1) rest with
      | ok atoms =>
        simp only [read, others] at refused
        cases refused
      | error later =>
        simp only [read, others] at refused
        cases refused
        obtain ⟨earlier, found, before⟩ := inductionHypothesis others
        exact ⟨earlier, by simp only [found], before⟩

/-- Of the lines of an accepted directive file a template keeps nothing but blank. -/
theorem isBlank_of_mem_kept (accepted : ofLines number lines = .ok directives) {line : List Char}
    (member : line ∈ lines) : ∀ c ∈ Template.kept line, Text.isBlank c = true := by
  rw [Template.kept]
  rcases read_of_ofLines accepted line member with blank | comment | ⟨directive, found⟩
  · rw [blank]
    exact Text.onlyComments_iff.1 (onlyComments_of_read_eq_blank blank)
  · simp [comment]
  · simp [found]

/-- The body of a template is blank literals if all that it keeps is blank. -/
theorem exists_blank_literal {template : Template}
    (blank : ∀ c ∈ template.written, Text.isBlank c = true) {chunk : Chunk}
    (member : chunk ∈ template.body) :
    ∃ text, chunk = .literal text ∧ ∀ c ∈ text.toList, Text.isBlank c = true := by
  obtain ⟨inside, body⟩ := List.mem_filter.1 member
  have own : ∀ c ∈ chunk.written, Text.isBlank c = true := fun c written =>
    blank c (List.mem_flatMap.2 ⟨chunk, inside, written⟩)
  cases chunk with
  | literal text => exact ⟨text, rfl, own⟩
  | expression name => exact absurd (own '@' List.mem_cons_self) (by decide)
  | directive directive => cases body

theorem exists_parse (accepted : parseFile source = .ok directives) :
    ∃ template, Template.parse source = .ok template ∧ template.directives = directives := by
  obtain ⟨atoms, read, declared⟩ := exists_atomsOfLines accepted
  exact ⟨⟨Chunk.ofAtoms atoms⟩, by rw [Template.parse, read],
    (Chunk.directives_ofAtoms atoms).trans declared⟩

/-- An accepted directive file is a template with the same directives in the same order, and with
nothing but blank literals in its body. A text that is refused as a template is refused as a
directive file, at the same line or an earlier one. So a directive file that is compiled declares
what it declares for the templates below it. It does not matter that the lines of a directive file
are cut before their line feeds and those of a template before any run of line feeds and carriage
returns. -/
theorem parse_of_parseFile (source : List Char) :
    (∀ directives, parseFile source = .ok directives →
      ∃ template, Template.parse source = .ok template ∧ template.directives = directives ∧
        ∀ chunk ∈ template.body,
          ∃ text, chunk = .literal text ∧ ∀ c ∈ text.toList, Text.isBlank c = true) ∧
    (∀ error, Template.parse source = .error error →
      ∃ earlier, parseFile source = .error earlier ∧ earlier.line ≤ error.line) ∧
    (∀ path content file, Text.Utf8.decode? content = some source →
      DirectiveFile.ofContent path content = .ok file →
      ∃ template, Template.parse source = .ok template ∧
        Declarations.ofDirectives template.directives = file.declarations) ∧
    parseFile source = ofLines 1 ((Text.lines (Text.withoutMark source)).map Text.withoutFeed) ∧
    ∀ line, Line.read (Text.withoutEnds line) = Line.read line := by
  refine ⟨fun directives accepted => ?_, fun error refused => ?_,
    fun path content file decoded read => ?_, (ofLines_map_withoutFeed 1 _).symm,
    Line.read_withoutEnds⟩
  · obtain ⟨template, parsed, declared⟩ := exists_parse accepted
    have blank : ∀ c ∈ template.written, Text.isBlank c = true := by
      rw [Template.written_parse parsed]
      intro c written
      obtain ⟨line, member, kept⟩ := List.mem_flatMap.1 written
      exact isBlank_of_mem_kept accepted member c kept
    exact ⟨template, parsed, declared, fun chunk member => exists_blank_literal blank member⟩
  · rw [Template.parse] at refused
    split at refused
    · cases refused
    · next found =>
      cases refused
      exact exists_error_ofLines found
  · rw [DirectiveFile.ofContent, DirectiveFile.directivesIn, decoded] at read
    cases accepted : parseFile source with
    | error error =>
      simp only [accepted] at read
      cases read
    | ok directives =>
      simp only [accepted] at read
      cases read
      obtain ⟨template, parsed, declared⟩ := exists_parse accepted
      exact ⟨template, parsed, congrArg Declarations.ofDirectives declared⟩

/-- A file with a byte order mark, a comment, blank, both kinds of line ends and an unended last
line is a template that declares the same. In another text a line of other text is refused in a file
before the incomplete directive behind it is refused in a template as well. -/
theorem parse_of_marked_file_and_refused_text :
    let source := "\uFEFF@* all *@\r\n\u00A0\r\n@using A;\r\r\n@model M".toList
    let content := "\uFEFF@* all *@\r\n\u00A0\r\n@using A;\r\r\n@model M".toUTF8.toList
    let refused := "@using A\nother\r\n@model".toList
    let directives : List Directive := [⟨.namespaceImport, "A"⟩, ⟨.modelType, "M"⟩]
    (parseFile source = .ok directives ∧
      ∃ template, Template.parse source = .ok template ∧ template.directives = directives ∧
        ∀ chunk ∈ template.body,
          ∃ text, chunk = .literal text ∧ ∀ c ∈ text.toList, Text.isBlank c = true) ∧
    (Template.parse refused = .error ⟨3, .missingArgument .modelType⟩ ∧
      ∃ earlier, parseFile refused = .error earlier ∧ earlier.line ≤ 3) ∧
    Text.Utf8.decode? content = some source ∧
    ∃ file, DirectiveFile.ofContent ⟨"_Views"⟩ content = .ok file ∧
      ∃ template, Template.parse source = .ok template ∧
        Declarations.ofDirectives template.directives = file.declarations := by
  intro source content refused directives
  have accepted : parseFile source = .ok directives := by decide +kernel
  have incomplete : Template.parse refused = .error ⟨3, .missingArgument .modelType⟩ := by
    decide +kernel
  have decoded : Text.Utf8.decode? content = some source := by decide +kernel
  obtain ⟨template, -, declarations, -⟩ := parse_of_parseFile source
  have read : DirectiveFile.ofContent ⟨"_Views"⟩ content =
      .ok (DirectiveFile.ofDirectives ⟨"_Views"⟩ (Digest.fingerprint content) directives) := by
    rw [DirectiveFile.ofContent, DirectiveFile.directivesIn, decoded]
    simp only [accepted]
  exact ⟨⟨accepted, template _ accepted⟩,
    ⟨incomplete, (parse_of_parseFile refused).2.1 _ incomplete⟩,
    decoded, _, read, declarations _ _ _ decoded read⟩

end Directive

end TemplateTree
