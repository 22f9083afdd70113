import TemplateTree.Proofs.Directive.Grammar
import TemplateTree.Proofs.Storage.Answers
import TemplateTree.Proofs.Text.WellFormed

/-!
# Directive files read for the first time

What a lookup answers of a file of which nothing is kept. Main statement: `lookUp_cold` says, of any
bytes, when they are accepted as a directive file and with which directives, and otherwise which of
their lines is blamed.
-/

namespace TemplateTree

namespace DirectiveFile

open Directive Text.Utf8

variable {path : Path} {text : List Char}

theorem ofContent_of_holds {all : List (List Directive)} (path : Path)
    (holds : List.Forall₂ Holds (Text.lines (Text.withoutMark text)) all) :
    ofContent path (encode text) =
      .ok (.ofDirectives path (Digest.fingerprint (encode text)) all.flatten) := by
  simp only [ofContent, directivesIn, decode?_eq_some_iff.2 rfl, parseFile,
    ofLines_of_holds holds]

/-- A text is refused as a directive file for the first line that may not stand in one. -/
theorem exists_problem_of_ofContent {front below : List (List Char)} {line : List Char} (path : Path)
    (cut : Text.lines (Text.withoutMark text) = front ++ line :: below)
    (earlier : ∀ before ∈ front, Acceptable before) (refused : ¬Acceptable line) :
    ∃ problem, ofContent path (encode text) = .error (.malformed path ⟨front.length + 1, problem⟩) := by
  obtain ⟨problem, found⟩ := exists_problem_of_ofLines earlier refused below 1
  refine ⟨problem, ?_⟩
  simp only [ofContent, directivesIn, decode?_eq_some_iff.2 rfl, parseFile, cut, found,
    Nat.add_comm]

/-- A text is accepted as a directive file exactly when each of its lines may stand in one. -/
theorem exists_ofContent_iff (path : Path) (text : List Char) :
    (∃ file, ofContent path (encode text) = .ok file) ↔
      ∀ line ∈ Text.lines (Text.withoutMark text), Acceptable line := by
  rcases holds_or_exists_first (Text.lines (Text.withoutMark text)) with
    ⟨all, holds⟩ | ⟨front, line, below, cut, earlier, refused⟩
  · exact ⟨fun _ => acceptable_of_holds holds, fun _ => ⟨_, ofContent_of_holds path holds⟩⟩
  · obtain ⟨problem, found⟩ := exists_problem_of_ofContent path cut earlier refused
    rw [found, cut]
    constructor
    · rintro ⟨file, ⟨⟩⟩
    · intro acceptable
      exact absurd (acceptable line (by simp)) refused

/-- Bytes that are no text are refused for the line on which no character stands. -/
theorem exists_ofContent_of_ill_formed {bytes : List UInt8} (path : Path)
    (ill : ∀ text, bytes ≠ encode text) :
    ∃ text left, bytes = encode text ++ left ∧ left ≠ [] ∧
      (∀ c, ¬String.utf8EncodeChar c <+: left) ∧
      ofContent path bytes =
        .error (.malformed path ⟨(encode text).count 0x0A + 1, .notUtf8⟩) := by
  have none : decode? bytes = none := by
    rw [Option.eq_none_iff_forall_ne_some]
    exact fun text some => ill text (decode?_eq_some_iff.1 some)
  obtain ⟨text, left, whole, filled, unread⟩ := exists_of_decode?_eq_none none
  have read := decode_eq_iff.2 ⟨whole, unread⟩
  refine ⟨text, left, whole, filled, unread, ?_⟩
  simp only [ofContent, directivesIn, none, lineOfFirstError, read, count_encode]

/-- The line for which a file is refused is one of its lines. -/
theorem exists_line_of_ofContent {bytes : List UInt8} {error : CompileError}
    (refused : ofContent path bytes = .error error) :
    ∃ line problem, error = .malformed path ⟨line, problem⟩ ∧ 1 ≤ line ∧ line ≤ lineCount bytes := by
  by_cases encoded : ∃ text, bytes = encode text
  · obtain ⟨text, rfl⟩ := encoded
    rcases holds_or_exists_first (Text.lines (Text.withoutMark text)) with
      ⟨all, holds⟩ | ⟨front, line, below, cut, earlier, unacceptable⟩
    · rw [ofContent_of_holds path holds] at refused
      cases refused
    · obtain ⟨problem, found⟩ := exists_problem_of_ofContent path cut earlier unacceptable
      rw [found] at refused
      cases refused
      have fewer := Text.length_lines_withoutMark_le text
      rw [cut, List.length_append, List.length_cons] at fewer
      refine ⟨_, problem, rfl, Nat.le_add_left 1 _, ?_⟩
      rw [lineCount_encode]
      omega
  · obtain ⟨text, left, rfl, filled, -, found⟩ :=
      exists_ofContent_of_ill_formed path fun text same => encoded ⟨text, same⟩
    rw [found] at refused
    cases refused
    exact ⟨_, _, rfl, Nat.le_add_left 1 _, count_lt_lineCount _ filled⟩

end DirectiveFile

namespace Workspace

variable {Store Agenda : Type} [Storage Store] (interrupt : Interrupt Store Agenda) {number : Nat}
  {path : Path} {workspace : Workspace Store Agenda} {stamp : Stamp} {bytes : List UInt8}

/-- While nothing is kept of a file, a lookup answers with what its content comes to. -/
theorem lookUp_eq_ofContent (stamped : Storage.stamp workspace.storage path = .ok (some stamp))
    (cold : (workspace.cache number).find? path = none)
    (content : Storage.content (interrupt path workspace).storage path = .ok bytes)
    (still : ((interrupt path workspace).cache number).find? path = none) :
    (lookUp interrupt number path workspace).1 = (DirectiveFile.ofContent path bytes).map some := by
  have courses := lookUp_courses interrupt number path workspace
  generalize (lookUp interrupt number path workspace).1 = result at courses
  generalize (lookUp interrupt number path workspace).2 = after at courses
  cases courses with
  | unanswered other | absent other =>
    rw [stamped] at other
    cases other
  | hit _ held =>
    rw [cold] at held
    cases held
  | vanished _ read _ | unreadable _ read _ =>
    rw [content] at read
    cases read
  | read _ _ read taken =>
    rw [content] at read
    cases read
    cases taken with
    | revalidated held _ =>
      rw [cold] at held
      cases held
    | malformed _ read => rw [DirectiveFile.ofContent, read]
    | parsed _ read made =>
      rw [DirectiveFile.ofContent, read, Cache.kept, still, made]

open Text.Utf8 in
/-- While nothing is kept of a file and its content can be read, a lookup accepts it exactly when it
is a text each of whose lines, behind a byte order mark, is blank, a comment or a directive; it
answers then with the directives on them, in order. Otherwise it blames, in an error that names the
path, the first line that is none of these; or if the content is no text, whatever its lines are,
the line on which the first bytes stand that are no character. This is always a line of the file. -/
theorem lookUp_cold (stamped : Storage.stamp workspace.storage path = .ok (some stamp))
    (cold : (workspace.cache number).find? path = none)
    (content : Storage.content (interrupt path workspace).storage path = .ok bytes)
    (still : ((interrupt path workspace).cache number).find? path = none) :
    let answer := (lookUp interrupt number path workspace).1
    (∀ text, bytes = encode text →
      let lines := Text.lines (Text.withoutMark text)
      ((∃ file, answer = .ok (some file)) ↔ ∀ line ∈ lines, Directive.Acceptable line) ∧
      (∀ all, List.Forall₂ Directive.Holds lines all →
        answer = .ok (some (.ofDirectives path (Digest.fingerprint bytes) all.flatten))) ∧
      ∀ front line below, lines = front ++ line :: below →
        (∀ before ∈ front, Directive.Acceptable before) → ¬Directive.Acceptable line →
        ∃ problem, answer = .error (.malformed path ⟨front.length + 1, problem⟩)) ∧
    ((∀ text, bytes ≠ encode text) →
      ∃ text left, bytes = encode text ++ left ∧ left ≠ [] ∧
        (∀ c, ¬String.utf8EncodeChar c <+: left) ∧
        answer = .error (.malformed path ⟨(encode text).count 0x0A + 1, .notUtf8⟩)) ∧
    ∀ error, answer = .error error →
      ∃ line problem, error = .malformed path ⟨line, problem⟩ ∧
        1 ≤ line ∧ line ≤ lineCount bytes := by
  intro answer
  have same : answer = (DirectiveFile.ofContent path bytes).map some :=
    lookUp_eq_ofContent interrupt stamped cold content still
  refine ⟨?_, fun ill => ?_, fun error refused => ?_⟩
  · rintro text rfl lines
    refine ⟨?_, fun all holds => ?_, fun front line below cut earlier refused => ?_⟩
    · rw [same, ← DirectiveFile.exists_ofContent_iff path text]
      cases DirectiveFile.ofContent path (encode text) <;> simp [Except.map]
    · rw [same, DirectiveFile.ofContent_of_holds path holds]
      rfl
    · obtain ⟨problem, found⟩ :=
        DirectiveFile.exists_problem_of_ofContent path cut earlier refused
      exact ⟨problem, by rw [same, found]; rfl⟩
  · obtain ⟨text, left, whole, filled, unread, found⟩ :=
      DirectiveFile.exists_ofContent_of_ill_formed path ill
    exact ⟨text, left, whole, filled, unread, by rw [same, found]; rfl⟩
  · rw [same] at refused
    cases found : DirectiveFile.ofContent path bytes with
    | ok file =>
      rw [found] at refused
      cases refused
    | error other =>
      rw [found] at refused
      cases refused
      exact DirectiveFile.exists_line_of_ofContent found

open Text.Utf8 in
/-- A file with a byte order mark, a comment and a namespace that ends in semicolons is accepted; a
namespace of nothing but semicolons is blamed on its line, behind a blank one; and a byte that is no
character is blamed on its line, although the line before is no directive. -/
theorem lookUp_cold_of_three_files :
    let path : Path := ⟨"f"⟩
    let workspace (bytes : List UInt8) : Workspace Memory Unit :=
      ⟨Memory.insert {} path bytes, [.empty], none, none, 0, [], ()⟩
    let answer (bytes : List UInt8) := (lookUp .none 0 path (workspace bytes)).1
    let accepted := encode "\uFEFF@**@\r\n@using A;;".toList
    let incomplete := encode "\n@using ;\n".toList
    let broken := encode "x\n@model ".toList ++ [0xFF, 0x0A]
    answer accepted = .ok (some (.ofDirectives path (Digest.fingerprint accepted)
        [⟨.namespaceImport, "A"⟩])) ∧
      (∃ problem, answer incomplete = .error (.malformed path ⟨2, problem⟩)) ∧
      answer broken = .error (.malformed path ⟨2, .notUtf8⟩) := by
  intro path workspace answer accepted incomplete broken
  have file (bytes : List UInt8) : (workspace bytes).storage.file? path = some ⟨bytes, 1⟩ := by
    rw [Memory.file?_insert, if_pos rfl]
  have stamped (bytes : List UInt8) :
      Storage.stamp (workspace bytes).storage path = .ok (some ⟨1, bytes.length⟩) := by
    change Memory.stamp _ path = _
    rw [Memory.stamp, file]
    rfl
  have content (bytes : List UInt8) :
      Storage.content (workspace bytes).storage path = .ok bytes := by
    rw [Memory.content_eq, file]
    rfl
  have cold (bytes : List UInt8) : ((workspace bytes).cache 0).find? path = none := rfl
  refine ⟨?_, ?_, ?_⟩
  · obtain ⟨read, -, -⟩ := lookUp_cold .none (stamped accepted) (cold _) (content accepted) (cold _)
    have comment : Directive.Holds "@**@\r\n".toList [] :=
      .comment (by decide +kernel) (by decide +kernel) (by decide +kernel)
    have holds : Directive.Holds "@using A;;".toList [⟨.namespaceImport, "A"⟩] :=
      @Directive.Holds.directive _ .namespaceImport ' ' "A;;".toList (by decide +kernel) rfl
        (by decide +kernel) (by decide +kernel)
    exact (read _ rfl).2.1 _ (.cons comment (.cons holds .nil))
  · obtain ⟨read, -, -⟩ := lookUp_cold .none (stamped incomplete) (cold _) (content incomplete) (cold _)
    have blank : Directive.Acceptable ['\n'] := ⟨[], .blank (by decide +kernel)⟩
    have refused : ¬Directive.Acceptable "@using ;\n".toList := by
      rintro ⟨held, holds⟩
      rw [Directive.holds_iff] at holds
      exact holds
    exact (read _ rfl).2.2 [['\n']] _ [] rfl (List.forall_mem_singleton.2 blank) refused
  · obtain ⟨-, unread, -⟩ := lookUp_cold .none (stamped broken) (cold _) (content broken) (cold _)
    have decoded : decode broken = ("x\n@model ".toList, [0xFF, 0x0A]) := by decide +kernel
    have ill (text : List Char) : broken ≠ encode text := by
      intro whole
      have some := decode?_eq_some_iff.2 whole
      rw [decode?, decoded] at some
      cases some
    obtain ⟨text, left, whole, -, none, found⟩ := unread ill
    rw [decode_eq_iff.2 ⟨whole, none⟩] at decoded
    cases decoded
    exact found

end Workspace

end TemplateTree
