import TemplateTree.Proofs.Directive.Leniency
import TemplateTree.Proofs.Directive.WrittenLines
import TemplateTree.Proofs.Text.Lines

/-!
# Arguments of directives that have been read

What is left of an argument when blank and semicolons have been dropped from it. An import keeps a
semicolon at its end where blank stands between that semicolon and those behind it, since semicolons
are dropped only once. Main statement: `isClean_iff_of_isDeclared` says that this is the only way in
which an argument that has been read is not clean, and the only one in which a directive that is
written again is read differently.
-/

namespace TemplateTree

namespace Text

/-- Whether a text ends in semicolons and blank stands between them. -/
def EndsDivided (text : List Char) : Prop :=
  ∃ front blanks semicolons, text = front ++ ';' :: (blanks ++ semicolons) ∧
    (blanks ≠ [] ∧ ∀ c ∈ blanks, isBlank c = true) ∧ semicolons ≠ [] ∧ ∀ c ∈ semicolons, c = ';'

/-- Text without a semicolon in front does not matter for how a text ends. -/
theorem endsDivided_append {first : List Char} (free : ';' ∉ first) (rest : List Char) :
    EndsDivided (first ++ rest) ↔ EndsDivided rest := by
  constructor
  · rintro ⟨front, blanks, semicolons, whole, others⟩
    rcases List.append_eq_append_iff.1 whole with ⟨more, rfl, ends⟩ | ⟨more, rfl, ends⟩
    · exact ⟨more, blanks, semicolons, ends, others⟩
    · cases more with
      | nil => exact ⟨[], blanks, semicolons, ends.symm, others⟩
      | cons c more =>
        obtain ⟨rfl, -⟩ := List.cons.inj ends
        exact absurd (by simp) free
  · rintro ⟨front, blanks, semicolons, rfl, others⟩
    exact ⟨first ++ front, blanks, semicolons, (List.append_assoc ..).symm, others⟩

theorem ne_semicolon_of_isBlank {c : Char} (blank : isBlank c = true) : c ≠ ';' := by
  rintro rfl
  exact absurd blank (by decide)

theorem mem_of_mem_trim {text : List Char} {c : Char} (member : c ∈ trim text) : c ∈ text :=
  (List.dropWhile_sublist _).mem ((trimEnd_isPrefix _ _).sublist.mem member)

/-- A trimmed line has no line feed. -/
theorem lineFeed_not_mem_trim {text line : List Char} (member : line ∈ lines text) :
    '\n' ∉ trim line := by
  obtain ⟨front, last, rfl, unbroken, ends⟩ := exists_unbroken_append member
  have blank : ∀ c ∈ last, isBlank c = true := by
    rcases ends with rfl | rfl
    · simp
    · exact List.forall_mem_singleton.2 isBlank_lineFeed
  rw [trim_append blank]
  exact fun inside => unbroken (mem_of_mem_trim inside)

end Text

namespace Directive

variable {line rest : List Char} {directive : Directive}

/-- An argument has nothing blank at its ends. -/
theorem Kind.isTrimmed_argument (kind : Kind) (rest : List Char) :
    Text.IsTrimmed (kind.argument rest) := by
  have written := Text.isTrimmed_trim rest
  cases kind with
  | baseType | modelType => exact written
  | namespaceImport =>
    have beginning : Kind.namespaceImport.argument rest <+: Text.trim rest :=
      (Text.trimEnd_isPrefix _ _).trans (Text.trimEnd_isPrefix _ _)
    exact ⟨fun c first => written.start c (Text.head?_of_isPrefix beginning first),
      fun c last => Text.stays_of_getLast?_trimEnd last⟩

/-- An argument is part of what follows its keyword. -/
theorem Kind.mem_of_mem_argument {kind : Kind} {c : Char} (member : c ∈ kind.argument rest) :
    c ∈ rest := by
  cases kind with
  | baseType | modelType => exact Text.mem_of_mem_trim member
  | namespaceImport =>
    exact Text.mem_of_mem_trim
      ((Text.trimEnd_isPrefix _ _).sublist.mem ((Text.trimEnd_isPrefix _ _).sublist.mem member))

/-- A namespace keeps a semicolon at its end exactly when what is written ends in semicolons between
which blank stands. -/
theorem getLast?_argument_iff :
    (Kind.namespaceImport.argument rest).getLast? = some ';' ↔
      Text.EndsDivided (Text.trim rest) := by
  have trimmed := Text.isTrimmed_trim rest
  rw [Kind.argument]
  generalize Text.trim rest = written at trimmed
  constructor
  · intro ends
    obtain ⟨semicolons, whole, only⟩ := Text.exists_trimEnd_append (· == ';') written
    obtain ⟨blanks, cut, blank⟩ :=
      Text.exists_trimEnd_append Text.isBlank (Text.trimEnd (· == ';') written)
    obtain ⟨front, argument⟩ := List.getLast?_eq_some_iff.1 ends
    rw [argument] at cut
    -- The last semicolon would have been dropped if nothing stood behind it, and blank in its place
    -- if no semicolon did.
    have someBlanks : blanks ≠ [] := by
      rintro rfl
      have last : (Text.trimEnd (· == ';') written).getLast? = some ';' := by simp [← cut]
      exact absurd (Text.stays_of_getLast?_trimEnd last) (by decide)
    have someSemicolons : semicolons ≠ [] := by
      rintro rfl
      obtain ⟨more, last, rfl⟩ := (List.eq_nil_or_concat blanks).resolve_left someBlanks
      have ends : written.getLast? = some last := by
        rw [← whole, ← cut, List.append_nil, List.concat_eq_append, ← List.append_assoc,
          List.getLast?_concat]
      have ink := trimmed.finish last ends
      rw [blank last (by simp)] at ink
      cases ink
    refine ⟨front, blanks, semicolons, ?_, ⟨someBlanks, blank⟩, someSemicolons, ?_⟩
    · rw [← whole, ← cut]
      simp
    · simpa using only
  · rintro ⟨front, blanks, semicolons, rfl, ⟨someBlanks, blank⟩, -, only⟩
    have cut : Text.trimEnd (· == ';') (front ++ ';' :: (blanks ++ semicolons)) =
        front ++ [';'] ++ blanks := by
      have dropped : ∀ c ∈ semicolons, (c == ';') = true := by simpa using only
      have kept : ∀ c, (front ++ [';'] ++ blanks).getLast? = some c → (c == ';') = false := by
        intro c last
        rw [List.getLast?_append_of_ne_nil _ someBlanks] at last
        simpa using Text.ne_semicolon_of_isBlank (blank c (List.mem_of_getLast? last))
      have split : front ++ ';' :: (blanks ++ semicolons) =
          front ++ [';'] ++ blanks ++ semicolons := by simp
      rw [split, Text.trimEnd_append dropped, Text.trimEnd_eq_self kept]
    have ink : Text.isBlank ';' = false := rfl
    simp only [cut, Text.trimEnd_append blank, Text.trimEnd_concat ink, List.getLast?_concat]

theorem Kind.semicolon_not_mem_keyword (kind : Kind) : ';' ∉ kind.keyword.toList := by
  cases kind <;> simp [Kind.keyword]

/-- The semicolons at the end of a line with a keyword are those behind the keyword. -/
theorem endsDivided_trim_iff {kind : Kind}
    (content : Text.trim line = '@' :: (kind.keyword.toList ++ rest)) (filled : rest ≠ []) :
    Text.EndsDivided (Text.trim line) ↔ Text.EndsDivided (Text.trim rest) := by
  have finish : ∀ c, rest.getLast? = some c → Text.isBlank c = false := by
    intro c last
    refine (Text.isTrimmed_trim line).finish c ?_
    rw [content, ← List.cons_append, List.getLast?_append_of_ne_nil _ filled, last]
  obtain ⟨first, blank, split⟩ := Text.exists_append_trim finish
  have free : ';' ∉ '@' :: (kind.keyword.toList ++ first) := by
    have unmarked : ';' ∉ first := fun member => Text.ne_semicolon_of_isBlank (blank _ member) rfl
    simp [kind.semicolon_not_mem_keyword, unmarked]
  have whole : Text.trim line = '@' :: (kind.keyword.toList ++ first) ++ Text.trim rest := by
    rw [List.cons_append, List.append_assoc, ← split, content]
  rw [whole, Text.endsDivided_append free]

/-- A directive that is read, on one line, is clean unless it is an import and the line ends in
semicolons with blank between them. -/
theorem isClean_iff_of_read (read : Line.read line = .directive directive)
    (oneLine : '\n' ∉ directive.argument.toList) :
    directive.IsClean ↔
      ¬(directive.kind = .namespaceImport ∧ Text.EndsDivided (Text.trim line)) := by
  obtain ⟨c, rest, -, content, argument, filled⟩ := read_eq_directive_iff.1 read
  have trimmed := directive.kind.isTrimmed_argument (c :: rest)
  rw [argument] at trimmed
  have divided (kind : directive.kind = .namespaceImport) :
      directive.argument.toList.getLast? = some ';' ↔ Text.EndsDivided (Text.trim line) := by
    rw [endsDivided_trim_iff content (List.cons_ne_nil c rest), ← argument, kind,
      getLast?_argument_iff]
  constructor
  · rintro clean ⟨kind, ends⟩
    exact clean.unended kind ((divided kind).2 ends)
  · intro other
    exact ⟨filled, trimmed.start, trimmed.finish, oneLine,
      fun kind ends => other ⟨kind, (divided kind).1 ends⟩⟩

/-- Whether a text declares a directive, read as a directive file or as a template. -/
def IsDeclared (source : List Char) (directive : Directive) : Prop :=
  (∃ directives, parseFile source = .ok directives ∧ directive ∈ directives) ∨
    ∃ template, Template.parse source = .ok template ∧ directive ∈ template.directives

/-- A directive among the atoms of lines is read from one of them. -/
theorem exists_read_of_atomsOfLines {number : Nat} {lines : List (List Char)} {atoms : List Atom}
    (read : Template.atomsOfLines number lines = .ok atoms)
    (member : directive ∈ atoms.filterMap Atom.directive?) :
    ∃ line ∈ lines, Line.read line = .directive directive := by
  induction lines generalizing number atoms with
  | nil =>
    cases read
    cases member
  | cons line rest inductionHypothesis =>
    have later {others : List Atom} (remaining : Template.atomsOfLines (number + 1) rest = .ok others)
        (inside : directive ∈ others.filterMap Atom.directive?) :
        ∃ other ∈ line :: rest, Line.read other = .directive directive := by
      obtain ⟨other, below, found⟩ := inductionHypothesis remaining inside
      exact ⟨other, List.mem_cons_of_mem _ below, found⟩
    rw [Template.atomsOfLines] at read
    split at read
    · cases read
    · exact later read member
    · next declared found =>
      split at read
      · next others remaining =>
        cases read
        rcases List.mem_cons.1 member with rfl | below
        · exact ⟨line, List.mem_cons_self, found⟩
        · exact later remaining below
      · cases read
    all_goals
      split at read
      · next others remaining =>
        cases read
        rw [List.filterMap_append, Atom.directives_ofLine] at member
        exact later remaining member
      · cases read

/-- What a text declares is read from one of its lines. -/
theorem IsDeclared.exists_read {source : List Char} (declared : IsDeclared source directive) :
    ∃ line ∈ Text.lines (Text.withoutMark source), Line.read line = .directive directive := by
  -- A directive file is a template with the same directives.
  have parsed : ∃ template, Template.parse source = .ok template ∧
      directive ∈ template.directives := by
    rcases declared with ⟨directives, accepted, member⟩ | template
    · obtain ⟨template, parsed, rfl⟩ := exists_parse accepted
      exact ⟨template, parsed, member⟩
    · exact template
  obtain ⟨template, parsed, member⟩ := parsed
  rw [Template.parse] at parsed
  split at parsed
  · next atoms read =>
    cases parsed
    rw [Chunk.directives_ofAtoms] at member
    exact exists_read_of_atomsOfLines read member
  · cases parsed

theorem mem_trim_of_mem_argument (read : Line.read line = .directive directive) {c : Char}
    (member : c ∈ directive.argument.toList) : c ∈ Text.trim line := by
  obtain ⟨d, rest, -, content, argument, -⟩ := read_eq_directive_iff.1 read
  rw [← argument] at member
  rw [content]
  exact List.mem_cons_of_mem _ (List.mem_append_right _ (Kind.mem_of_mem_argument member))

theorem IsDeclared.oneLine {source : List Char} (declared : IsDeclared source directive) :
    '\n' ∉ directive.argument.toList := by
  obtain ⟨line, member, read⟩ := declared.exists_read
  exact fun inside => Text.lineFeed_not_mem_trim member (mem_trim_of_mem_argument read inside)

/-- A text that is one line, without a byte order mark, declares exactly one directive, and nothing
else, when that line is read as this directive. -/
theorem parse_line_iff (single : Text.lines line = [line]) (unmarked : line.head? ≠ some '\uFEFF') :
    (parseFile line = .ok [directive] ↔ Line.read line = .directive directive) ∧
      (Template.parse line = .ok ⟨[.directive directive]⟩ ↔
        Line.read line = .directive directive) := by
  have alone : Text.withoutMark line = line := @Text.withoutMark_append [] line unmarked
  rw [parseFile, Template.parse, alone, single, ofLines, Template.atomsOfLines]
  have noDirective : Chunk.ofAtoms (Atom.ofLine line) ≠ [.directive directive] := by
    intro same
    have none := Chunk.directives_ofAtoms (Atom.ofLine line)
    rw [same, Atom.directives_ofLine] at none
    cases none
  cases Line.read line with
  | incomplete kind => simp
  | comment => simp [ofLines, Template.atomsOfLines, Chunk.ofAtoms, Chunk.splitAtoms, Chunk.consText]
  | directive declared =>
    simp [ofLines, Template.atomsOfLines, Chunk.ofAtoms, Chunk.splitAtoms, Chunk.consText]
  | blank | text => simp [ofLines, Template.atomsOfLines, noDirective]

/-- A directive that is written alone on its line is read back exactly when it is clean. -/
theorem read_render_iff (filled : directive.argument ≠ "")
    (trimmed : Text.IsTrimmed directive.argument.toList)
    (oneLine : '\n' ∉ directive.argument.toList) :
    Line.read directive.render = .directive directive ↔ directive.IsClean := by
  refine ⟨fun read => ⟨filled, trimmed.start, trimmed.finish, oneLine, fun kind ends => ?_⟩,
    read_render⟩
  obtain ⟨c, rest, -, content, argument, -⟩ := read_eq_directive_iff.1 read
  have content : '@' :: (directive.kind.keyword.toList ++ ' ' :: directive.argument.toList) =
      '@' :: (directive.kind.keyword.toList ++ c :: rest) := by
    rw [← content, trim_render filled trimmed]
  rw [← List.append_cancel_left (List.cons.inj content).2, kind] at argument
  -- Nothing is dropped from the argument, so no semicolon is.
  have kept : Text.trimEnd (· == ';') directive.argument.toList = directive.argument.toList := by
    have space : Text.trim (' ' :: directive.argument.toList) = directive.argument.toList :=
      trimmed.trim_append (List.forall_mem_singleton.2 rfl)
    have dropped := (Text.trimEnd_isPrefix Text.isBlank
      (Text.trimEnd (· == ';') directive.argument.toList)).length_le
    simp only [Kind.argument, space] at argument
    rw [argument] at dropped
    exact (Text.trimEnd_isPrefix _ _).eq_of_length_le dropped
  rw [← kept] at ends
  exact absurd (Text.stays_of_getLast?_trimEnd ends) (by decide)

/-- Of blank and semicolons behind a clean namespace only such are kept that end in a semicolon. -/
theorem IsClean.exists_argument_append (clean : directive.IsClean)
    (kind : directive.kind = .namespaceImport) {tail : List Char}
    (ends : ∀ c ∈ tail, c = ';' ∨ Text.isBlank c = true) :
    ∃ more, directive.kind.argument (' ' :: (directive.argument.toList ++ tail)) =
        directive.argument.toList ++ more ∧
      ∀ c, more.getLast? = some c → c = ';' := by
  obtain ⟨front, last, split, ink⟩ := clean.exists_concat
  have other : (last == ';') = false := by
    have unended := clean.unended kind
    simpa [split] using unended
  have started : Text.trimStart Text.isBlank (' ' :: (front ++ last :: tail)) =
      front ++ last :: tail := by
    cases front with
    | nil => exact Text.trimStart_cons ink tail
    | cons c front => exact Text.trimStart_cons (clean.start c (by simp [split])) _
  have argument : directive.kind.argument (' ' :: (directive.argument.toList ++ tail)) =
      front ++ last :: Text.trimEnd Text.isBlank
        (Text.trimEnd (· == ';') (Text.trimEnd Text.isBlank tail)) := by
    have behind : directive.argument.toList ++ tail = front ++ last :: tail := by simp [split]
    have stays := @Text.trimEnd_append_cons (· == ';') last other
    simp only [kind, Kind.argument, behind, Text.trim, started, Text.trimEnd_append_cons ink, stays]
  refine ⟨_, argument.trans (by rw [split, List.append_assoc]; rfl), fun c final => ?_⟩
  have stays := Text.stays_of_getLast?_trimEnd final
  have inside : c ∈ tail :=
    ((Text.trimEnd_isPrefix _ _).trans ((Text.trimEnd_isPrefix _ _).trans
      (Text.trimEnd_isPrefix _ _))).sublist.mem (List.mem_of_getLast? final)
  exact (ends c inside).resolve_right (by simp [stays])

/-- A clean import is read from a line that goes on with blank and semicolons, exactly when these do
not end in semicolons with blank between them. -/
theorem IsClean.read_renderWith_iff (clean : directive.IsClean)
    (kind : directive.kind = .namespaceImport) {tail : List Char}
    (ends : ∀ c ∈ tail, c = ';' ∨ Text.isBlank c = true) :
    Line.read (directive.renderWith tail) = .directive directive ↔
      ¬Text.EndsDivided (Text.trim (directive.renderWith tail)) := by
  constructor
  · intro read divided
    exact (isClean_iff_of_read read clean.oneLine).1 clean ⟨kind, divided⟩
  · intro undivided
    have content := trim_renderWith clean.nonempty clean.isTrimmed tail
    have fewer : ∀ c ∈ Text.trimEnd Text.isBlank tail, c = ';' ∨ Text.isBlank c = true :=
      fun c member => ends c ((Text.trimEnd_isPrefix _ _).sublist.mem member)
    obtain ⟨more, argument, final⟩ := clean.exists_argument_append kind fewer
    -- Whatever is kept behind the namespace would end in a semicolon.
    have nothing : more = [] := by
      rcases List.eq_nil_or_concat more with none | ⟨front, last, rfl⟩
      · exact none
      · rw [List.concat_eq_append] at argument final
        obtain rfl := final last List.getLast?_concat
        rw [endsDivided_trim_iff content (List.cons_ne_nil _ _), ← getLast?_argument_iff, ← kind,
          argument, ← List.append_assoc, List.getLast?_concat] at undivided
        exact absurd rfl undivided
    rw [nothing, List.append_nil] at argument
    exact read_eq_directive_iff.2 ⟨' ', _, rfl, content, argument, clean.nonempty⟩

/-- Every directive that is read has an argument that is not empty, with nothing blank at its ends
and no line feed. It is clean, so that no semicolon ends a namespace, unless it is an import on a
line that ends in semicolons with blank between them. Exactly when it is clean is it read back from
the line on which it is written again; and a clean import is read from every line on which it stands
with blank and semicolons behind it, exactly when these do not end in semicolons with blank between
them. -/
theorem isClean_iff_of_isDeclared {source : List Char} {directive : Directive}
    (declared : IsDeclared source directive) :
    (directive.argument ≠ "" ∧ Text.IsTrimmed directive.argument.toList ∧
      '\n' ∉ directive.argument.toList) ∧
    (∃ line ∈ Text.lines (Text.withoutMark source), Line.read line = .directive directive) ∧
    (∀ line, Line.read line = .directive directive →
      (directive.IsClean ↔
        ¬(directive.kind = .namespaceImport ∧ Text.EndsDivided (Text.trim line)))) ∧
    (directive.IsClean ↔ parseFile directive.render = .ok [directive]) ∧
    (directive.IsClean ↔ Template.parse directive.render = .ok ⟨[.directive directive]⟩) ∧
    (directive.IsClean → directive.kind = .namespaceImport → ∀ tail : List Char,
      (∀ c ∈ tail, c = ';' ∨ Text.isBlank c = true) → '\n' ∉ tail →
      let line := directive.renderWith tail
      (parseFile line = .ok [directive] ↔ ¬Text.EndsDivided (Text.trim line)) ∧
        (Template.parse line = .ok ⟨[.directive directive]⟩ ↔
          ¬Text.EndsDivided (Text.trim line))) := by
  obtain ⟨line, member, read⟩ := declared.exists_read
  have oneLine := declared.oneLine
  obtain ⟨c, rest, -, content, argument, filled⟩ := read_eq_directive_iff.1 read
  have trimmed := directive.kind.isTrimmed_argument (c :: rest)
  rw [argument] at trimmed
  have single : Text.lines directive.render = [directive.render] := by
    have unbroken : '\n' ∉ directive.renderWith [] :=
      lineFeed_not_mem_renderWith oneLine List.not_mem_nil
    have cut := Text.lines_append_lineFeed unbroken []
    simpa [render, renderWith, Text.lines] using cut
  obtain ⟨file, template⟩ := @parse_line_iff directive.render directive single (by simp [render])
  have back := read_render_iff filled trimmed oneLine
  refine ⟨⟨filled, trimmed, oneLine⟩, ⟨line, member, read⟩,
    fun line read => isClean_iff_of_read read oneLine, back.symm.trans file.symm,
    back.symm.trans template.symm, fun clean kind tail ends unbroken => ?_⟩
  have whole : Text.lines (directive.renderWith tail) = [directive.renderWith tail] :=
    Text.lines_of_unbroken (List.cons_ne_nil _ _) (lineFeed_not_mem_renderWith oneLine unbroken)
  obtain ⟨file, template⟩ := @parse_line_iff _ directive whole (by simp [renderWith])
  have same := clean.read_renderWith_iff kind ends
  exact ⟨file.trans same, template.trans same⟩

/-- The import of `A; ;` keeps its first semicolon, and is read differently when it is written
again. The import of `B` is clean, and is read in front of two semicolons and blank, but not when
blank stands between the semicolons. -/
theorem import_keeps_divided_semicolon :
    let source := "@using A; ;\n@using B ;;\n".toList
    let unclean : Directive := ⟨.namespaceImport, "A;"⟩
    let clean : Directive := ⟨.namespaceImport, "B"⟩
    parseFile source = .ok [unclean, clean] ∧
      (IsDeclared source unclean ∧ ¬unclean.IsClean ∧ parseFile unclean.render ≠ .ok [unclean]) ∧
      (IsDeclared source clean ∧ clean.IsClean) ∧
      parseFile (clean.renderWith [';', ';', ' ']) = .ok [clean] ∧
      parseFile (clean.renderWith [';', ' ', ';']) ≠ .ok [clean] := by
  intro source unclean clean
  have accepted : parseFile source = .ok [unclean, clean] := by decide +kernel
  have first : IsDeclared source unclean := .inl ⟨_, accepted, List.mem_cons_self⟩
  have second : IsDeclared source clean := .inl ⟨_, accepted, by simp⟩
  have keptLine : Text.EndsDivided (Text.trim "@using A; ;\n".toList) :=
    ⟨"@using A".toList, [' '], [';'], by decide +kernel,
      ⟨List.cons_ne_nil _ _, List.forall_mem_singleton.2 rfl⟩,
      List.cons_ne_nil _ _, List.forall_mem_singleton.2 rfl⟩
  have tailLine : Text.EndsDivided (Text.trim (clean.renderWith [';', ' ', ';'])) :=
    ⟨"@using B".toList, [' '], [';'], by decide +kernel,
      ⟨List.cons_ne_nil _ _, List.forall_mem_singleton.2 rfl⟩,
      List.cons_ne_nil _ _, List.forall_mem_singleton.2 rfl⟩
  obtain ⟨-, -, lines, again, -⟩ := isClean_iff_of_isDeclared first
  have read : Line.read "@using A; ;\n".toList = .directive unclean := by decide +kernel
  have kept : ¬unclean.IsClean := fun clean => (lines _ read).1 clean ⟨rfl, keptLine⟩
  obtain ⟨-, -, -, back, -, tails⟩ := isClean_iff_of_isDeclared second
  have whole : clean.IsClean := back.2 (by decide +kernel)
  have ends : ∀ c ∈ [';', ' ', ';'], c = ';' ∨ Text.isBlank c = true := by
    simp [show Text.isBlank ' ' = true from rfl]
  have behind := (tails whole rfl [';', ' ', ';'] ends (by decide)).1
  exact ⟨accepted, ⟨first, kept, fun same => kept (again.2 same)⟩, ⟨second, whole⟩,
    by decide +kernel, fun same => behind.1 same tailLine⟩

end Directive

end TemplateTree
