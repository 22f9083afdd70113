import TemplateTree.Proofs.Code.Literals
import TemplateTree.Proofs.Template.Parsed

/-!
# The body in generated code

Generated code has one line for each chunk of the body, between lines that depend on the
configuration only. Main statement: `body_eq_of_source_eq`, that the body can be told from the code,
under whatever names the class writes it.
-/

namespace TemplateTree

/-- Texts that end in their only line feed are the lines of what they come to one after the other.
-/
theorem Text.lines_flatMap_append {Item : Type} {items : List Item} {write : Item → List Char}
    (single : ∀ item ∈ items, ∃ line, '\n' ∉ line ∧ write item = line ++ ['\n'])
    (rest : List Char) : lines (items.flatMap write ++ rest) = items.map write ++ lines rest := by
  induction items with
  | nil => rfl
  | cons item others inductionHypothesis =>
    obtain ⟨⟨line, unbroken, written⟩, later⟩ := List.forall_mem_cons.1 single
    rw [List.flatMap_cons, List.map_cons, List.append_assoc, written, List.append_assoc,
      List.singleton_append, lines_append_lineFeed unbroken, inductionHypothesis later,
      List.cons_append]

namespace Configuration

variable (configuration : Configuration) (template : Template)

/-- The directives of a configuration stand in the place of those of the template. -/
@[simp] theorem directives_apply :
    (configuration.apply template).directives = configuration.directives := by
  have found : Template.directive? ∘ Chunk.directive = some := rfl
  have none : template.body.filterMap Template.directive? = [] := by
    rw [List.filterMap_eq_nil_iff]
    intro chunk member
    have body := (List.mem_filter.1 member).2
    cases chunk <;> first | rfl | cases body
  rw [apply, Template.directives, List.filterMap_append, List.filterMap_map, found,
    List.filterMap_some, none, List.append_nil]

@[simp] theorem body_apply : (configuration.apply template).body = template.body := by
  have none : (configuration.directives.map Chunk.directive).filter Template.isBody = [] := by
    simp [List.filter_eq_nil_iff, Template.isBody]
  simp [apply, Template.body, none]

end Configuration

namespace Code

variable {methods : MethodNames}

theorem toList_statement_literal (text : String) :
    (statement methods (.literal text)).toList =
      ("        " ++ methods.writeLiteral ++ "(").toList ++
        '\x22' :: (escape text.toList ++ ['\x22']) ++ [')', ';', '\n'] := by
  simp [statement, quote]

theorem toList_statement_expression (name : String) :
    (statement methods (.expression name)).toList =
      ("        " ++ methods.write ++ "(").toList ++ name.toList ++ [')', ';', '\n'] := by
  simp [statement]

/-- The statement for a chunk of a body is one line, if the names in it are on one line. -/
theorem exists_line_statement (write : '\n' ∉ methods.write.toList)
    (writeLiteral : '\n' ∉ methods.writeLiteral.toList) {chunk : Chunk}
    (body : Template.isBody chunk = true)
    (named : ∀ name, chunk = .expression name → '\n' ∉ name.toList) :
    ∃ line, '\n' ∉ line ∧ (statement methods chunk).toList = line ++ ['\n'] := by
  cases chunk with
  | literal text =>
    have unbroken := @not_mem_escape '\n' (by decide) text.toList
    refine ⟨("        " ++ methods.writeLiteral ++ "(").toList ++
      '\x22' :: (escape text.toList ++ ['\x22']) ++ [')', ';'], ?_, ?_⟩
    · simp [writeLiteral, unbroken]
    · simp [toList_statement_literal]
  | expression name =>
    have unbroken := named name rfl
    refine ⟨("        " ++ methods.write ++ "(").toList ++ name.toList ++ [')', ';'], ?_, ?_⟩
    · simp [write, unbroken]
    · simp [toList_statement_expression]
  | directive declared => cases body

/-- The statement for a chunk of a template that was read is one line, if the names it calls are on
one line. -/
theorem exists_line_of_isBody (write : '\n' ∉ methods.write.toList)
    (writeLiteral : '\n' ∉ methods.writeLiteral.toList) {chunk : Chunk} (body : chunk.IsBody) :
    ∃ line, '\n' ∉ line ∧ (statement methods chunk).toList = line ++ ['\n'] := by
  have written : Template.isBody chunk = true := by
    cases chunk with
    | literal | expression => rfl
    | directive declared => exact body.elim
  refine exists_line_statement write writeLiteral written fun name is member => ?_
  subst is
  have ink := Atom.isBlank_eq_false_of_part (Atom.IsDotted.mem body member)
  exact absurd ink (by decide)

/-- No literal is written like an expression, even if one method writes both: the argument of the
one ends in a quote, and that of the other in a part of a name. -/
theorem statement_literal_ne {text name : String} (dotted : Atom.IsDotted name.toList) :
    (statement methods (.literal text)).toList ≠ (statement methods (.expression name)).toList := by
  intro same
  have filled : name.toList ≠ [] := by
    obtain ⟨c, rest, written, -⟩ := dotted.exists_cons
    exact written ▸ List.cons_ne_nil c rest
  obtain ⟨front, last, ends⟩ := (List.eq_nil_or_concat name.toList).resolve_left filled
  rw [List.concat_eq_append] at ends
  rw [toList_statement_literal, toList_statement_expression, ends] at same
  have final := congrArg List.getLast? (List.append_cancel_right same)
  rw [← List.cons_append, ← List.append_assoc, ← List.append_assoc, List.getLast?_concat,
    List.getLast?_concat] at final
  have part := dotted.mem (ends ▸ List.mem_concat_self)
  rw [← Option.some.inj final] at part
  exact absurd part (by decide)

/-- A chunk of the body can be told from its statement. -/
theorem eq_of_statement_eq {first second : Chunk} (body : first.IsBody) (other : second.IsBody)
    (same : (statement methods first).toList = (statement methods second).toList) :
    first = second := by
  cases first with
  | literal text =>
    cases second with
    | literal more =>
      rw [toList_statement_literal, toList_statement_literal] at same
      have quoted := List.append_cancel_left (List.append_cancel_right same)
      have escaped := List.append_cancel_right (List.cons.inj quoted).2
      rw [String.toList_inj.1 (escape_injective escaped)]
    | expression name => exact absurd same (statement_literal_ne other)
    | directive declared => exact other.elim
  | expression name =>
    cases second with
    | literal text => exact absurd same.symm (statement_literal_ne body)
    | expression more =>
      rw [toList_statement_expression, toList_statement_expression] at same
      have named := List.append_cancel_left (List.append_cancel_right same)
      rw [String.toList_inj.1 named]
    | directive declared => exact other.elim
  | directive declared => exact body.elim

/-- Chunks of bodies can be told from their statements, one by one. -/
theorem eq_of_map_statement_eq {first second : List Chunk} (body : ∀ chunk ∈ first, chunk.IsBody)
    (other : ∀ chunk ∈ second, chunk.IsBody)
    (same : first.map (fun chunk => (statement methods chunk).toList) =
      second.map fun chunk => (statement methods chunk).toList) : first = second := by
  induction first generalizing second with
  | nil => exact (List.map_eq_nil_iff.1 same.symm).symm
  | cons chunk rest inductionHypothesis =>
    cases second with
    | nil => cases same
    | cons twin more =>
      obtain ⟨here, later⟩ := List.forall_mem_cons.1 body
      obtain ⟨there, behind⟩ := List.forall_mem_cons.1 other
      obtain ⟨head, tail⟩ := List.cons.inj same
      rw [eq_of_statement_eq here there head, inductionHypothesis later behind tail]

/-- Around the statements of the body stands what depends on the configuration only: above them text
that ends its last line, and below them two closing lines. -/
theorem exists_toList_source_eq (configuration : Configuration) (methods : MethodNames)
    (className : String) :
    ∃ above, Text.EndsLine above ∧ ∀ template,
      (generate configuration methods className (configuration.apply template)).source.toList =
        above ++ (template.body.flatMap (fun chunk => (statement methods chunk).toList) ++
          "    \x7d\n\x7d\n".toList) := by
  let bare := configuration.apply {}
  refine ⟨(importLines bare ++ classLine className (baseClass configuration bare) ++ "\x7b\n" ++
    s!"    public {configuration.modelType} Model \x7b get; set; \x7d\n\n" ++
    s!"    public override async Task {methods.execute}()\n" ++ "    \x7b\n").toList, .inr ?_, ?_⟩
  · rw [String.toList_append, List.getLast?_append]
    rfl
  · intro template
    have declared : (configuration.apply template).directives = bare.directives := by simp [bare]
    simp [generate, importLines, baseClass, declared, List.flatMap_map]

/-- The lines of generated code: one for each chunk of the body, in order, between lines that depend
on the configuration only. -/
theorem exists_lines_source_eq (configuration : Configuration) {methods : MethodNames}
    (write : '\n' ∉ methods.write.toList) (writeLiteral : '\n' ∉ methods.writeLiteral.toList)
    (className : String) :
    ∃ above below, ∀ template : Template, (∀ chunk ∈ template.body, chunk.IsBody) →
      Text.lines
          (generate configuration methods className (configuration.apply template)).source.toList =
        above ++ template.body.map (fun chunk => (statement methods chunk).toList) ++ below := by
  obtain ⟨above, ended, written⟩ := exists_toList_source_eq configuration methods className
  refine ⟨Text.lines above, Text.lines "    \x7d\n\x7d\n".toList, fun template body => ?_⟩
  have single (chunk : Chunk) (member : chunk ∈ template.body) :=
    exists_line_of_isBody write writeLiteral (body chunk member)
  rw [written, Text.lines_append ended, Text.lines_flatMap_append single, List.append_assoc]

/-- Nothing of the body is lost in generated code. Two templates with the same code under one
configuration have the same body, whatever names the class calls. For each chunk there is one line,
in order, between lines that depend on the configuration only. Between the quotes of a literal
different texts stand differently, nothing breaks the line, and every quote is escaped; so the
literal ends at its own closing quote. -/
theorem body_eq_of_source_eq (configuration : Configuration) {methods : MethodNames}
    (write : '\n' ∉ methods.write.toList) (writeLiteral : '\n' ∉ methods.writeLiteral.toList)
    (className : String) :
    let source (template : Template) :=
      (generate configuration methods className (configuration.apply template)).source
    (∀ first second template other, Template.parse first = .ok template →
        Template.parse second = .ok other → source template = source other →
          template.body = other.body) ∧
      (∃ above below, ∀ text template, Template.parse text = .ok template →
        Text.lines (source template).toList =
          above ++ template.body.map (fun chunk => (statement methods chunk).toList) ++ below) ∧
      Function.Injective escape ∧
      ∀ text, '\n' ∉ escape text ∧ '\r' ∉ escape text ∧ '\t' ∉ escape text ∧
        (∀ before behind, escape text = before ++ '\x22' :: behind → Odd (backslashes before)) ∧
        ∀ rest, readQuoted? (escape text ++ '\x22' :: rest) = some (text, rest) := by
  intro source
  obtain ⟨above, below, lines⟩ :=
    exists_lines_source_eq configuration write writeLiteral className
  refine ⟨?_, ⟨above, below, ?_⟩, escape_injective, fun text => ⟨?_, ?_, ?_, ?_, ?_⟩⟩
  · intro first second template other parsed read same
    have body (chunk : Chunk) := @Template.isBody_of_mem_body first template parsed chunk
    have twin (chunk : Chunk) := @Template.isBody_of_mem_body second other read chunk
    have cut : Text.lines (source template).toList = Text.lines (source other).toList := by
      rw [same]
    rw [lines template body, lines other twin] at cut
    exact eq_of_map_statement_eq body twin
      (List.append_cancel_left (List.append_cancel_right cut))
  · intro text template parsed
    exact lines template fun chunk => Template.isBody_of_mem_body parsed
  · exact not_mem_escape (by decide) text
  · exact not_mem_escape (by decide) text
  · exact not_mem_escape (by decide) text
  · exact fun before behind => odd_backslashes_of_escape_eq
  · exact readQuoted?_escape text

/-- A template with a directive of its own and one with a comment have the same code where one
method writes everything, and then the same body. -/
theorem body_eq_of_source_eq_by_one_method :
    let methods : MethodNames := { write := "Emit", writeLiteral := "Emit" }
    let configuration := Configuration.ofDefaults {}
    let source (template : Template) := (generate configuration methods "Page"
      (configuration.apply template)).source
    let body : List Chunk := [.literal "say \x22", .expression "name", .literal "\x22\x5c"]
    let template : Template := ⟨.directive ⟨.namespaceImport, "A"⟩ :: body⟩
    let other : Template := ⟨body⟩
    '\n' ∉ methods.write.toList ∧ '\n' ∉ methods.writeLiteral.toList ∧
      Template.parse "@using A\nsay \x22@name\x22\x5c".toList = .ok template ∧
      Template.parse "say \x22@name@* of all *@\x22\x5c".toList = .ok other ∧
      source template = source other ∧ template.body = other.body := by
  intro methods configuration source body template other
  have write : '\n' ∉ methods.write.toList := by decide
  have parsed : Template.parse "@using A\nsay \x22@name\x22\x5c".toList = .ok template := by
    decide +kernel
  have read : Template.parse "say \x22@name@* of all *@\x22\x5c".toList = .ok other := by
    decide +kernel
  have same : source template = source other := by decide +kernel
  obtain ⟨told, -⟩ := body_eq_of_source_eq configuration write write "Page"
  exact ⟨write, write, parsed, read, same, told _ _ template other parsed read same⟩

end Code
end TemplateTree
