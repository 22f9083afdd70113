import TemplateTree.Proofs.Directive.CommentLines
import TemplateTree.Proofs.Template.Names
import TemplateTree.Proofs.Text.Trimming

/-!
# Lines as they are written

How a directive is written on a line of its own, and how the lines of a body must begin that no
directive and no comment is read in them. Main statements: `read_render` gives a written directive
back, and `read_of_isGuarded` says that a guarded line is part of the body.
-/

namespace TemplateTree.Directive

/-- An argument that is read as it was written behind its keyword. -/
structure IsClean (directive : Directive) : Prop where
  nonempty : directive.argument ≠ ""
  start : ∀ c, directive.argument.toList.head? = some c → Text.isBlank c = false
  finish : ∀ c, directive.argument.toList.getLast? = some c → Text.isBlank c = false
  oneLine : '\n' ∉ directive.argument.toList
  unended : directive.kind = .namespaceImport →
    directive.argument.toList.getLast? ≠ some ';'

/-- A directive as it is written, on a line of its own. -/
def render (directive : Directive) : List Char :=
  '@' :: (directive.kind.keyword.toList ++ ' ' :: (directive.argument.toList ++ ['\n']))

/-- A directive as it is written, with this text behind its argument. -/
def renderWith (directive : Directive) (tail : List Char) : List Char :=
  '@' :: (directive.kind.keyword.toList ++ ' ' :: (directive.argument.toList ++ tail))

/-- What follows a keyword is found behind it when a blank sets it off. -/
theorem Kind.rest?_append {c : Char} (blank : Text.isBlank c = true) (kind : Kind)
    (rest : List Char) :
    kind.rest? ('@' :: (kind.keyword.toList ++ c :: rest)) = some (c :: rest) := by
  have after : Text.after? ('@' :: kind.keyword.toList)
      ('@' :: (kind.keyword.toList ++ c :: rest)) = some (c :: rest) :=
    Text.after?_eq_some_iff.2 rfl
  rw [Kind.rest?, after]
  exact if_pos blank

theorem Kind.rest?_append_of_ne {kind other : Kind} (different : other ≠ kind)
    (rest : List Char) : other.rest? ('@' :: (kind.keyword.toList ++ rest)) = none := by
  cases kind <;> cases other <;>
    first
      | exact absurd rfl different
      | simp [Kind.rest?, Kind.keyword, Text.after?]

theorem Kind.mark_not_mem_keyword (kind : Kind) : '@' ∉ kind.keyword.toList := by
  cases kind <;> simp [Kind.keyword]

theorem Kind.keyword_append_ne (kind : Kind) (rest more : List Char) :
    kind.keyword.toList ++ rest ≠ '*' :: more := by
  cases kind <;> simp [Kind.keyword]

theorem Kind.lineFeed_not_mem_keyword (kind : Kind) : '\n' ∉ kind.keyword.toList := by
  cases kind <;> simp [Kind.keyword]

theorem lineFeed_not_mem_renderWith {directive : Directive} {tail : List Char}
    (oneLine : '\n' ∉ directive.argument.toList) (unbroken : '\n' ∉ tail) :
    '\n' ∉ directive.renderWith tail := by
  simpa [renderWith, directive.kind.lineFeed_not_mem_keyword, oneLine] using unbroken

theorem IsClean.lineFeed_not_mem {directive : Directive} (clean : directive.IsClean) :
    '\n' ∉ '@' :: (directive.kind.keyword.toList ++ ' ' :: directive.argument.toList) := by
  simpa [directive.kind.lineFeed_not_mem_keyword] using clean.oneLine

/-- A text is read for the only kind of directive whose keyword it starts with. -/
theorem readDirective_of_rest? {content rest : List Char} {kind : Kind} {kinds : List Kind}
    (listed : kind ∈ kinds) (here : kind.rest? content = some rest)
    (elsewhere : ∀ other, other ≠ kind → other.rest? content = none)
    (filled : kind.argument rest ≠ []) :
    readDirective content kinds = .directive ⟨kind, String.ofList (kind.argument rest)⟩ := by
  induction kinds with
  | nil => cases listed
  | cons first kinds inductionHypothesis =>
    by_cases same : first = kind
    · subst same
      cases argument : first.argument rest with
      | nil => exact absurd argument filled
      | cons c more => simp only [readDirective, here, argument]
    · have later : kind ∈ kinds := (List.mem_cons.1 listed).resolve_left (Ne.symm same)
      simp only [readDirective, elsewhere first same, inductionHypothesis later]

/-- A text that starts with no keyword is no directive. -/
theorem readDirective_of_rest?_eq_none {content : List Char}
    (nowhere : ∀ kind : Kind, kind.rest? content = none) (kinds : List Kind) :
    readDirective content kinds = .text := by
  induction kinds with
  | nil => rfl
  | cons first kinds inductionHypothesis =>
    simp only [readDirective, nowhere first, inductionHypothesis]

/-- What is read as a directive starts with the keyword of one of these kinds, and has an argument
behind it. -/
theorem exists_of_readDirective {content : List Char} {kinds : List Kind} {directive : Directive}
    (read : readDirective content kinds = .directive directive) :
    ∃ rest, directive.kind.rest? content = some rest ∧
      directive.kind.argument rest = directive.argument.toList ∧ directive.argument ≠ "" := by
  induction kinds with
  | nil => cases read
  | cons kind kinds inductionHypothesis =>
    rw [readDirective] at read
    split at read
    · exact inductionHypothesis read
    · next rest found =>
      split at read
      · cases read
      · next filled =>
        cases read
        exact ⟨rest, found, String.toList_ofList.symm, by simpa using filled⟩

theorem Kind.argument_nil (kind : Kind) : kind.argument [] = [] := by
  cases kind <;> rfl

/-- What follows a keyword and is not empty follows it behind a blank. -/
theorem Kind.eq_of_rest? {kind : Kind} {content rest : List Char}
    (found : kind.rest? content = some rest) (filled : rest ≠ []) :
    ∃ c more, rest = c :: more ∧ Text.isBlank c = true ∧
      content = '@' :: (kind.keyword.toList ++ c :: more) := by
  rw [Kind.rest?] at found
  split at found
  · cases found
    exact absurd rfl filled
  · next c more after =>
    split at found
    · next blank =>
      cases found
      exact ⟨c, more, rfl, blank, Text.after?_eq_some_iff.1 after⟩
    · cases found
  · cases found

/-- A line is read as a directive when it is its keyword, a blank and something that has its
argument in it, and that argument is not empty. -/
theorem read_eq_directive_iff {line : List Char} {directive : Directive} :
    Line.read line = .directive directive ↔
      ∃ c rest, Text.isBlank c = true ∧
        Text.trim line = '@' :: (directive.kind.keyword.toList ++ c :: rest) ∧
        directive.kind.argument (c :: rest) = directive.argument.toList ∧
        directive.argument ≠ "" := by
  constructor
  · intro read
    rw [Line.read] at read
    split at read
    · cases read
    · split at read
      · cases read
      · obtain ⟨rest, found, argument, filled⟩ := exists_of_readDirective read
        have present : rest ≠ [] := by
          rintro rfl
          rw [Kind.argument_nil, eq_comm, String.toList_eq_nil_iff] at argument
          exact filled argument
        obtain ⟨c, more, rfl, blank, content⟩ := Kind.eq_of_rest? found present
        exact ⟨c, more, blank, content, argument, filled⟩
  · rintro ⟨c, rest, blank, content, argument, filled⟩
    have noComment : isComment ('@' :: (directive.kind.keyword.toList ++ c :: rest)) = false := by
      rw [← Bool.not_eq_true, isComment_iff]
      rintro ⟨inner, same⟩
      exact Kind.keyword_append_ne _ _ _ (List.cons.inj same).2
    have written : directive.kind.argument (c :: rest) ≠ [] := by
      rwa [argument, Ne, String.toList_eq_nil_iff]
    simp only [Line.read, content, noComment, List.isEmpty_cons, Bool.false_eq_true, if_false]
    rw [readDirective_of_rest? (Kind.mem_all _) (Kind.rest?_append blank _ _)
      (fun other different => Kind.rest?_append_of_ne different _) written, argument,
      String.ofList_toList]

theorem IsClean.isTrimmed {directive : Directive} (clean : directive.IsClean) :
    Text.IsTrimmed directive.argument.toList :=
  ⟨clean.start, clean.finish⟩

theorem IsClean.exists_concat {directive : Directive} (clean : directive.IsClean) :
    ∃ front last, directive.argument.toList = front ++ [last] ∧ Text.isBlank last = false :=
  clean.isTrimmed.exists_concat fun empty => clean.nonempty (String.toList_eq_nil_iff.1 empty)

/-- A clean argument keeps its end, and its start behind a space. -/
theorem IsClean.argument_eq {directive : Directive} (clean : directive.IsClean) :
    directive.kind.argument (' ' :: directive.argument.toList) = directive.argument.toList := by
  have trimmed : Text.trim (' ' :: directive.argument.toList) = directive.argument.toList :=
    clean.isTrimmed.trim_append (List.forall_mem_singleton.2 rfl)
  cases kind : directive.kind with
  | baseType | modelType => rw [Kind.argument, trimmed]
  | namespaceImport =>
    have stays : ∀ c, directive.argument.toList.getLast? = some c → (c == ';') = false := by
      intro c last
      have unended := clean.unended kind
      simpa [last] using unended
    simp only [Kind.argument, trimmed, Text.trimEnd_eq_self stays,
      Text.trimEnd_eq_self clean.finish]

/-- A written directive is trimmed behind its argument. -/
theorem trim_renderWith {directive : Directive} (filled : directive.argument ≠ "")
    (trimmed : Text.IsTrimmed directive.argument.toList) (tail : List Char) :
    Text.trim (directive.renderWith tail) =
      directive.renderWith (Text.trimEnd Text.isBlank tail) := by
  obtain ⟨front, last, ends, ink⟩ :=
    trimmed.exists_concat fun empty => filled (String.toList_eq_nil_iff.1 empty)
  have split (tail : List Char) : directive.renderWith tail =
      '@' :: (directive.kind.keyword.toList ++ ' ' :: front) ++ last :: tail := by
    simp [renderWith, ends]
  rw [split, split, Text.trim, List.cons_append, Text.trimStart_cons (by decide),
    ← List.cons_append, Text.trimEnd_append_cons ink]

/-- A directive that is written alone on its line is trimmed to what stands before the line feed. -/
theorem trim_render {directive : Directive} (filled : directive.argument ≠ "")
    (trimmed : Text.IsTrimmed directive.argument.toList) :
    Text.trim directive.render =
      '@' :: (directive.kind.keyword.toList ++ ' ' :: directive.argument.toList) := by
  have written : directive.render = directive.renderWith ['\n'] := rfl
  have nothing : Text.trimEnd Text.isBlank ['\n'] = [] := rfl
  rw [written, trim_renderWith filled trimmed, nothing, renderWith, List.append_nil]

/-- A clean directive is read from the line on which it is written. -/
theorem read_render {directive : Directive} (clean : directive.IsClean) :
    Line.read directive.render = .directive directive :=
  read_eq_directive_iff.2
    ⟨' ', _, rfl, trim_render clean.nonempty clean.isTrimmed, clean.argument_eq, clean.nonempty⟩

/-- Text in which no directive and no comment is read: an `@` at its start is followed by a second
one, or by a name and a second one. -/
inductive IsGuarded : List Char → Prop where
  | empty : IsGuarded []
  | plain {c rest} (other : c ≠ '@') : IsGuarded (c :: rest)
  | marked {name rest} (parts : ∀ c ∈ name, Atom.isNamePart c = true ∨ c = '.') :
      IsGuarded ('@' :: (name ++ '@' :: rest))

/-- No keyword is found in guarded text. -/
theorem IsGuarded.rest?_eq_none {content : List Char} (guarded : IsGuarded content) (kind : Kind) :
    kind.rest? content = none := by
  rw [Kind.rest?]
  cases guarded with
  | empty => rfl
  | plain other =>
    rw [Text.after?_eq_none_iff.2]
    intro rest found
    exact other (List.cons.inj found).1
  | @marked name more parts =>
    cases found : Text.after? ('@' :: kind.keyword.toList) ('@' :: (name ++ '@' :: more)) with
    | none => rfl
    | some rest =>
      have same := (List.cons.inj (Text.after?_eq_some_iff.1 found)).2
      -- The second mark is no part of the keyword, and neither it nor a name is blank.
      rcases List.append_eq_append_iff.1 same with ⟨middle, longer, ends⟩ | ⟨middle, rfl, rfl⟩
      · cases middle with
        | nil =>
          obtain rfl : '@' :: more = rest := ends
          rfl
        | cons c middle =>
          obtain ⟨rfl, -⟩ := List.cons.inj ends
          exact absurd (by simp [longer]) kind.mark_not_mem_keyword
      · cases middle with
        | nil => rfl
        | cons c middle =>
          have ink := Atom.isBlank_eq_false_of_part (parts c (by simp))
          simp [ink]

/-- A line that is guarded, apart from blank at its ends, belongs to the body. -/
theorem read_of_isGuarded {line : List Char} (guarded : IsGuarded (Text.trim line)) :
    Line.read line = .blank ∨ Line.read line = .text := by
  have noComment : isComment (Text.trim line) = false := by
    rw [← Bool.not_eq_true, isComment_iff]
    rintro ⟨inner, same⟩
    generalize Text.trim line = content at guarded same
    cases guarded with
    | empty => cases same
    | plain other => exact other (List.cons.inj same).1
    | @marked name rest parts =>
      have second := (List.cons.inj same).2
      cases name with
      | nil => exact absurd (List.cons.inj second).1 (by decide)
      | cons c name =>
        obtain ⟨rfl, -⟩ := List.cons.inj second
        exact absurd (parts '*' List.mem_cons_self) (by decide)
  rw [Line.read]
  split
  · exact .inl rfl
  · rw [if_neg (by simp [noComment])]
    exact .inr (readDirective_of_rest?_eq_none guarded.rest?_eq_none _)

end TemplateTree.Directive
