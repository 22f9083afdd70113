import TemplateTree.Proofs.Template.RoundTrip

/-!
# Expressions of templates that have been read

Where the atoms and the chunks of a template come from that has been read. Main statement:
`isDotted_of_parse` says that every expression in it has identifiers with dots between them for its
name.
-/

namespace TemplateTree

namespace Atom

/-- However a name goes on behind an identifier, it is dotted. -/
theorem IsIdentifier.isDotted_append {text : List Char} (identifier : IsIdentifier text)
    (rest : List Char) : IsDotted (text ++ nameRest rest) := by
  fun_induction nameRest rest generalizing text with
  | case1 =>
    rw [List.append_nil]
    exact .identifier identifier
  | case2 c rest start inductionHypothesis =>
    have single : IsIdentifier [c] := ⟨c, [], rfl, start, by simp⟩
    exact .dot identifier (inductionHypothesis single)
  | case3 =>
    rw [List.append_nil]
    exact .identifier identifier
  | case4 c rest _ part inductionHypothesis =>
    obtain ⟨first, parts, rfl, start, all⟩ := identifier
    have longer : IsIdentifier (first :: (parts ++ [c])) :=
      ⟨first, parts ++ [c], rfl, start, by simpa [or_imp, forall_and] using ⟨all, part⟩⟩
    have dotted := inductionHypothesis longer
    rwa [← List.cons_append, List.append_assoc, List.singleton_append] at dotted
  | case5 =>
    rw [List.append_nil]
    exact .identifier identifier

/-- A name that a text starts with is dotted. -/
theorem isDotted_name {text : List Char} (found : name text ≠ []) : IsDotted (name text) := by
  fun_cases name text with
  | case1 => exact absurd rfl found
  | case2 c rest start =>
    have single : IsIdentifier [c] := ⟨c, [], rfl, start, by simp⟩
    exact single.isDotted_append rest
  | case3 c rest other => exact absurd (by rw [name, if_neg other]) found

/-- What an `@` stands for belongs to the body. -/
theorem isBody_of_mem_ofMark {text : List Char} {atom : Atom} (member : atom ∈ (ofMark text).1) :
    atom.IsBody := by
  revert member
  fun_cases ofMark text with
  | case1 | case3 | case4 =>
    rw [List.mem_singleton]
    rintro rfl
    trivial
  | case2 => rintro ⟨⟩
  | case5 _ _ _ named =>
    rw [List.mem_singleton]
    rintro rfl
    exact isDotted_name named

/-- The atoms of a line belong to the body. -/
theorem isBody_of_mem_ofLine {line : List Char} {atom : Atom} (member : atom ∈ ofLine line) :
    atom.IsBody := by
  match line with
  | [] => cases member
  | c :: rest =>
    by_cases mark : c = '@'
    · rw [mark, ofLine_mark] at member
      rcases List.mem_append.1 member with here | later
      · exact isBody_of_mem_ofMark here
      · exact isBody_of_mem_ofLine later
    · rw [ofLine_cons mark] at member
      rcases List.mem_cons.1 member with rfl | later
      · trivial
      · exact isBody_of_mem_ofLine later
termination_by line.length
decreasing_by
  all_goals simp only [List.length_cons, List.length_drop]
  all_goals omega

end Atom

namespace Template

/-- An atom of lines belongs to the body, unless it is a directive. -/
theorem isBody_of_mem_atomsOfLines {number : Nat} {lines : List (List Char)} {atoms : List Atom}
    (read : atomsOfLines number lines = .ok atoms) {atom : Atom} (member : atom ∈ atoms)
    (other : ∀ declared, atom ≠ .directive declared) : atom.IsBody := by
  induction lines generalizing number atoms with
  | nil =>
    cases read
    cases member
  | cons line rest inductionHypothesis =>
    rw [atomsOfLines] at read
    split at read
    · cases read
    · exact inductionHypothesis read member
    · next declared _ =>
      split at read
      · next others more =>
        cases read
        exact inductionHypothesis more ((List.mem_cons.1 member).resolve_left (other declared))
      · cases read
    all_goals
      split at read
      · next others more =>
        cases read
        rcases List.mem_append.1 member with here | later
        · exact Atom.isBody_of_mem_ofLine here
        · exact inductionHypothesis more later
      · cases read

end Template

namespace Chunk

theorem mem_of_expression_mem_consText {text : List Char} {chunks : List Chunk} {name : String}
    (member : .expression name ∈ consText text chunks) : .expression name ∈ chunks := by
  rw [consText] at member
  split at member
  · exact member
  · exact (List.mem_cons.1 member).resolve_left (by simp)

/-- The expressions that are split off stand among the atoms. -/
theorem exists_of_expression_mem_splitAtoms {atoms : List Atom} {name : String}
    (member : .expression name ∈ (splitAtoms atoms).2) :
    ∃ written, .expression written ∈ atoms ∧ name = String.ofList written := by
  induction atoms with
  | nil => cases member
  | cons atom rest inductionHypothesis =>
    have further (later : .expression name ∈ (splitAtoms rest).2) :
        ∃ written, .expression written ∈ atom :: rest ∧ name = String.ofList written := by
      obtain ⟨written, inside, same⟩ := inductionHypothesis later
      exact ⟨written, List.mem_cons_of_mem _ inside, same⟩
    cases atom with
    | character c => exact further member
    | expression written =>
      rcases List.mem_cons.1 member with here | later
      · exact ⟨written, List.mem_cons_self, Chunk.expression.inj here⟩
      · exact further (mem_of_expression_mem_consText later)
    | directive declared =>
      rcases List.mem_cons.1 member with here | later
      · cases here
      · exact further (mem_of_expression_mem_consText later)

end Chunk

namespace Template

/-- The expressions of a template that has been read are identifiers with dots between them. -/
theorem isDotted_of_parse {source : List Char} {template : Template}
    (parsed : parse source = .ok template) {name : String}
    (member : .expression name ∈ template.chunks) : Atom.IsDotted name.toList := by
  rw [parse] at parsed
  split at parsed
  · next atoms read =>
    cases parsed
    obtain ⟨written, inside, rfl⟩ := Chunk.exists_of_expression_mem_splitAtoms
      (Chunk.mem_of_expression_mem_consText member)
    rw [String.toList_ofList]
    exact isBody_of_mem_atomsOfLines read inside (by simp)
  · cases parsed

end Template

/-- A chunk of the body, with a dotted name if it is an expression. -/
def Chunk.IsBody : Chunk → Prop
  | .literal _ => True
  | .expression name => Atom.IsDotted name.toList
  | .directive _ => False

/-- The body of a template that has been read consists of such chunks. -/
theorem Template.isBody_of_mem_body {source : List Char} {template : Template}
    (parsed : parse source = .ok template) {chunk : Chunk} (member : chunk ∈ template.body) :
    chunk.IsBody := by
  obtain ⟨inside, body⟩ := List.mem_filter.1 member
  cases chunk with
  | literal text => trivial
  | expression name => exact isDotted_of_parse parsed inside
  | directive declared => cases body

end TemplateTree
