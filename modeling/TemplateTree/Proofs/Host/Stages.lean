import TemplateTree.Proofs.Host.Alone
import TemplateTree.Proofs.Host.Work
import TemplateTree.Proofs.Session.EntryPoints
import TemplateTree.Proofs.Template.Refusal
import TemplateTree.Proofs.Text.WellFormed

/-!
# Why a compilation fails

A compilation passes six stages. `Hinders` says what hinders it at each of them, whatever hinders it
at the others, and `HindersFirst` is the first stage at which something does. Main statement:
`compile_reports_first`.
-/

namespace TemplateTree.Host

/-- The stages of a compilation, in the order in which it passes them. -/
inductive Stage where
  | source
  | reading
  | decoding
  | placing
  | parsing
  | walk
  deriving DecidableEq, Repr

/-- The number of stages before a stage. -/
def Stage.rank : Stage → Nat
  | .source => 0
  | .reading => 1
  | .decoding => 2
  | .placing => 3
  | .parsing => 4
  | .walk => 5

theorem Stage.eq_of_rank {first second : Stage} (same : first.rank = second.rank) :
    first = second := by
  cases first <;> cases second <;> first | rfl | cases same

variable {Store Agenda : Type} (host : Host)

/-- The name of a template in errors about its text: its normal path, if it has a path. -/
def textLabel (workspace : Workspace Store Agenda) :
    Option Path → Except Path.Rejection Path
  | none => .ok inlineLabel
  | some path => Path.normalize (host.resolver workspace).1.root path

variable [Storage Store] (interrupt : Interrupt Store Agenda) (workspace : Workspace Store Agenda)

section Stages

variable (path : Option Path) (source : Option Stream)

/-- What hinders a compilation at a stage, and the error that says so. -/
inductive Hinders : Stage → CompileError → Prop where
  | missing (absent : source = none) : Hinders .source (.invalidArgument .missingSource)
  | broken {stream failure} (given : source = some stream)
      (fails : stream.failure = some failure) :
      Hinders .reading (.storage (path.getD inlineLabel) failure)
  | undecodable {stream} (given : source = some stream)
      (foreign : ∀ text, stream.bytes ≠ Text.Utf8.encode text) :
      Hinders .decoding (.invalidArgument (.notUtf8 (path.getD inlineLabel)))
  | rejected {place rejection} (placed : path = some place)
      (outside : Path.normalize (host.resolver workspace).1.root place = .error rejection) :
      Hinders .placing
        (.invalidArgument (.rejected rejection (host.resolver workspace).1.root place))
  | malformed {stream text label error} (given : source = some stream)
      (encoded : stream.bytes = Text.Utf8.encode text)
      (named : host.textLabel workspace path = .ok label)
      (lacking : Directive.FirstLacking (Text.lines (Text.withoutMark text)) error) :
      Hinders .parsing (.malformed label error)
  | unchained {place error} (placed : path = some place)
      (failed : ((host.resolver workspace).1.chain interrupt place
        (host.resolver workspace).2).1 = .error error) : Hinders .walk error

/-- The first stage at which a compilation is hindered, with the error that says so. -/
structure HindersFirst (stage : Stage) (error : CompileError) : Prop where
  hinders : Hinders host interrupt workspace path source stage error
  first : ∀ other before, Hinders host interrupt workspace path source other before →
    stage.rank ≤ other.rank

end Stages

/-- What a compilation that is hindered first at a stage leaves behind: it has at most taken a
resolver into use, unless it looks up the directive files of a template. -/
inductive Leaves : Stage → Workspace Store Agenda → Prop where
  | untouched {stage} (early : stage ≠ .walk) : Leaves stage workspace
  | ready {stage} (early : stage ≠ .walk) : Leaves stage (host.resolver workspace).2
  | walked (place : Path) : Leaves .walk
      ((host.resolver workspace).1.chain interrupt place (host.resolver workspace).2).2

/-- The courses that a compilation can take. -/
inductive Compiles : Option Path → Option Stream →
    Except CompileError Code × Workspace Store Agenda → Prop where
  | missing {path} : Compiles path none (.error (.invalidArgument .missingSource), workspace)
  | broken {path bytes failure} :
      Compiles path (some ⟨bytes, some failure⟩)
        (.error (.storage (path.getD inlineLabel) failure), workspace)
  | undecodable {path bytes} (foreign : ∀ text, bytes ≠ Text.Utf8.encode text) :
      Compiles path (some ⟨bytes, none⟩)
        (.error (.invalidArgument (.notUtf8 (path.getD inlineLabel))), workspace)
  | malformed {text error} (refused : Template.parse text = .error error) :
      Compiles none (some ⟨Text.Utf8.encode text, none⟩)
        (.error (.malformed inlineLabel error), workspace)
  | inline {text template} (parsed : Template.parse text = .ok template) :
      Compiles none (some ⟨Text.Utf8.encode text, none⟩)
        (.ok (host.generate (.merge [] (.ofDirectives template.directives) host.defaults)
            host.defaults.className template),
          workspace.warn (Directive.warnings inlineLabel.text template.directives))
  | rejected {place text rejection}
      (outside : Path.normalize (host.resolver workspace).1.root place = .error rejection) :
      Compiles (some place) (some ⟨Text.Utf8.encode text, none⟩)
        (.error (.invalidArgument (.rejected rejection (host.resolver workspace).1.root place)),
          (host.resolver workspace).2)
  | malformedAt {place relative text error}
      (normal : Path.normalize (host.resolver workspace).1.root place = .ok relative)
      (refused : Template.parse text = .error error) :
      Compiles (some place) (some ⟨Text.Utf8.encode text, none⟩)
        (.error (.malformed relative error), (host.resolver workspace).2)
  | unchained {place relative text template error after}
      (normal : Path.normalize (host.resolver workspace).1.root place = .ok relative)
      (parsed : Template.parse text = .ok template)
      (walked : (host.resolver workspace).1.chain interrupt place (host.resolver workspace).2 =
        (.error error, after)) :
      Compiles (some place) (some ⟨Text.Utf8.encode text, none⟩) (.error error, after)
  | placed {place relative text template files after}
      (normal : Path.normalize (host.resolver workspace).1.root place = .ok relative)
      (parsed : Template.parse text = .ok template)
      (walked : (host.resolver workspace).1.chain interrupt place (host.resolver workspace).2 =
        (.ok files, after)) :
      Compiles (some place) (some ⟨Text.Utf8.encode text, none⟩)
        (.ok (host.generate (.merge (files.map (·.declarations))
              (.ofDirectives template.directives) host.defaults)
            (host.className relative) template),
          after.warn (Directive.warnings relative.text template.directives))

/-- The directive files that apply to a template are those that apply to its normal path. -/
theorem chain_normalize {resolver : Resolver} {place relative : Path}
    (normal : Path.normalize resolver.root place = .ok relative)
    (workspace : Workspace Store Agenda) :
    resolver.chain interrupt place workspace = resolver.chain interrupt relative workspace := by
  have named : relative.IsNormal := Path.isNormal_of_normalize normal
  have listed : resolver.normalize place = .ok relative := Resolver.normalize_eq_ok_iff.2 normal
  rw [Resolver.chain_of_isNormal named]
  simp only [Resolver.chain_eq, Resolver.directivePaths, listed]

/-- Compiling the text of a template at a path takes one of these courses. -/
theorem compiles_compileAt (place : Path) (text : List Char) :
    Compiles host interrupt workspace (some place) (some ⟨Text.Utf8.encode text, none⟩)
      (host.compileAt interrupt place text workspace) := by
  cases normal : Path.normalize (host.resolver workspace).1.root place with
  | error rejection =>
    have rejected : (host.resolver workspace).1.normalize place =
        .error (.invalidArgument (.rejected rejection (host.resolver workspace).1.root place)) := by
      rw [Resolver.normalize, normal]
    simp only [compileAt_eq, rejected]
    exact .rejected normal
  | ok relative =>
    have placed : (host.resolver workspace).1.normalize place = .ok relative :=
      Resolver.normalize_eq_ok_iff.2 normal
    have same := chain_normalize interrupt normal (host.resolver workspace).2
    simp only [compileAt_eq, placed, parse]
    cases parsed : Template.parse text with
    | error error => exact .malformedAt normal parsed
    | ok template =>
      simp only [configure_eq]
      rcases walked : (host.resolver workspace).1.chain interrupt relative
        (host.resolver workspace).2 with ⟨error | files, after⟩
      · exact .unchained normal parsed (same.trans walked)
      · exact .placed normal parsed (same.trans walked)

/-- A compilation takes one of these courses. -/
theorem compiles_compile (path : Option Path) (source : Option Stream) :
    Compiles host interrupt workspace path source
      (host.compile interrupt path source workspace) := by
  cases source with
  | none => exact .missing
  | some stream =>
    obtain ⟨bytes, _ | failure⟩ := stream
    case some => exact .broken
    cases decoded : Text.Utf8.decode? bytes with
    | none =>
      simp only [compile_eq, readSource, Stream.content, decoded]
      refine .undecodable fun text encoded => ?_
      rw [Text.Utf8.decode?_eq_some_iff.2 encoded] at decoded
      cases decoded
    | some text =>
      simp only [compile_eq, readSource_eq_ok decoded]
      obtain rfl := Text.Utf8.decode?_eq_some_iff.1 decoded
      cases path with
      | some place => exact host.compiles_compileAt interrupt workspace place text
      | none =>
        simp only [compileInline_eq, parse]
        cases parsed : Template.parse text with
        | error error => exact .malformed parsed
        | ok template => exact .inline parsed

variable {interrupt workspace} {path : Option Path} {source : Option Stream} {stage : Stage}
  {error : CompileError} {result : Except CompileError Code × Workspace Store Agenda}

/-- A stage is hindered with one error. -/
theorem Hinders.unique {other : CompileError}
    (one : Hinders host interrupt workspace path source stage error)
    (two : Hinders host interrupt workspace path source stage other) : error = other := by
  cases one with
  | missing absent => cases two; rfl
  | broken given fails =>
    cases two with
    | broken again failed =>
      obtain rfl := Option.some.inj (given.symm.trans again)
      rw [Option.some.inj (fails.symm.trans failed)]
  | undecodable given foreign => cases two; rfl
  | rejected placed outside =>
    cases two with
    | rejected again also =>
      obtain rfl := Option.some.inj (placed.symm.trans again)
      rw [Except.error.inj (outside.symm.trans also)]
  | malformed given encoded named lacking =>
    cases two with
    | malformed again encodes names lacks =>
      obtain rfl := Option.some.inj (given.symm.trans again)
      obtain rfl := Except.ok.inj (named.symm.trans names)
      have text := Text.Utf8.decode?_eq_some_iff.2 encoded
      obtain rfl := Option.some.inj (text.symm.trans (Text.Utf8.decode?_eq_some_iff.2 encodes))
      have blamed := Template.parse_eq_error_iff.2 lacking
      rw [Except.error.inj (blamed.symm.trans (Template.parse_eq_error_iff.2 lacks))]
  | unchained placed failed =>
    cases two with
    | unchained again also =>
      obtain rfl := Option.some.inj (placed.symm.trans again)
      exact Except.error.inj (failed.symm.trans also)

/-- There is one first stage, with one error. -/
theorem HindersFirst.unique {other : Stage} {found : CompileError}
    (one : HindersFirst host interrupt workspace path source stage error)
    (two : HindersFirst host interrupt workspace path source other found) :
    stage = other ∧ error = found := by
  have ranks := Nat.le_antisymm (one.first _ _ two.hinders) (two.first _ _ one.hinders)
  obtain rfl := Stage.eq_of_rank ranks
  exact ⟨rfl, one.hinders.unique host two.hinders⟩

theorem not_firstLacking_of_parse {text : List Char} {template : Template}
    (parsed : Template.parse text = .ok template) {problem : Directive.SyntaxError} :
    ¬Directive.FirstLacking (Text.lines (Text.withoutMark text)) problem := by
  rw [← Template.parse_eq_error_iff, parsed]
  nofun

/-- A source that is read as text hinders no stage before that of the path. -/
theorem Hinders.placing_le_rank {text : List Char}
    (hinders : Hinders host interrupt workspace path (some ⟨Text.Utf8.encode text, none⟩) stage
      error) : Stage.placing.rank ≤ stage.rank := by
  cases hinders with
  | missing absent => cases absent
  | broken given fails =>
    cases given
    cases fails
  | undecodable given foreign =>
    cases given
    exact absurd rfl (foreign text)
  | rejected | malformed | unchained => decide

/-- If its path is taken relative to the root as well, it hinders no stage before that of its
text. -/
theorem Hinders.parsing_le_rank {text : List Char} {label : Path}
    (named : host.textLabel workspace path = .ok label)
    (hinders : Hinders host interrupt workspace path (some ⟨Text.Utf8.encode text, none⟩) stage
      error) : Stage.parsing.rank ≤ stage.rank := by
  have placing := hinders.placing_le_rank host
  cases hinders with
  | missing | broken | undecodable => exact absurd placing (by decide)
  | rejected placed outside =>
    subst placed
    cases named.symm.trans outside
  | malformed | unchained => decide

/-- If its text is a template as well, nothing but the directive files can hinder it. -/
theorem Hinders.eq_walk {text : List Char} {template : Template} {label : Path}
    (named : host.textLabel workspace path = .ok label)
    (parsed : Template.parse text = .ok template)
    (hinders : Hinders host interrupt workspace path (some ⟨Text.Utf8.encode text, none⟩) stage
      error) : stage = .walk := by
  have parsing := hinders.parsing_le_rank host named
  cases hinders with
  | missing | broken | undecodable | rejected => exact absurd parsing (by decide)
  | malformed given encoded _ lacking =>
    cases given
    have same := Text.Utf8.decode?_eq_some_iff.2 encoded
    obtain rfl := Option.some.inj ((Text.Utf8.decode?_eq_some_iff.2 rfl).symm.trans same)
    exact absurd lacking (not_firstLacking_of_parse parsed)
  | unchained => rfl

/-- A compilation that takes one of its courses either comes to code, and nothing hinders it, or it
reports the first stage at which it is hindered. -/
theorem Compiles.verdict (course : Compiles host interrupt workspace path source result) :
    ((∃ code, result.1 = .ok code) ∧
        ∀ stage error, ¬Hinders host interrupt workspace path source stage error) ∨
      ∃ stage error, HindersFirst host interrupt workspace path source stage error ∧
        result.1 = .error error ∧ Leaves host interrupt workspace stage result.2 := by
  cases course with
  | missing =>
    exact .inr ⟨.source, _, ⟨.missing rfl, fun _ _ _ => Nat.zero_le _⟩, rfl,
      .untouched (by decide)⟩
  | broken =>
    refine .inr ⟨.reading, _, ⟨.broken rfl rfl, fun other before hinders => ?_⟩, rfl,
      .untouched (by decide)⟩
    cases hinders with
    | missing absent => cases absent
    | broken | undecodable | rejected | malformed | unchained => decide
  | undecodable foreign =>
    refine .inr ⟨.decoding, _, ⟨.undecodable rfl foreign, fun other before hinders => ?_⟩, rfl,
      .untouched (by decide)⟩
    cases hinders with
    | missing absent => cases absent
    | broken given fails =>
      cases given
      cases fails
    | undecodable | rejected | malformed | unchained => decide
  | malformed refused =>
    have hinders := Template.parse_eq_error_iff.1 refused
    exact .inr ⟨.parsing, _, ⟨.malformed rfl rfl rfl hinders,
      fun _ _ other => other.parsing_le_rank host rfl⟩, rfl, .untouched (by decide)⟩
  | inline parsed =>
    refine .inl ⟨⟨_, rfl⟩, fun stage error hinders => ?_⟩
    obtain rfl := hinders.eq_walk host rfl parsed
    cases hinders with
    | unchained placed => cases placed
  | rejected outside =>
    exact .inr ⟨.placing, _, ⟨.rejected rfl outside,
      fun _ _ other => other.placing_le_rank host⟩, rfl, .ready (by decide)⟩
  | @malformedAt place relative _ _ normal refused =>
    have named : host.textLabel workspace (some place) = .ok relative := normal
    have hinders := Template.parse_eq_error_iff.1 refused
    exact .inr ⟨.parsing, _, ⟨.malformed rfl rfl normal hinders,
      fun _ _ other => other.parsing_le_rank host named⟩, rfl, .ready (by decide)⟩
  | @unchained place relative _ _ _ _ normal parsed walked =>
    have named : host.textLabel workspace (some place) = .ok relative := normal
    have leaves : Leaves host interrupt workspace .walk _ := .walked place
    rw [walked] at leaves
    refine .inr ⟨.walk, _, ⟨.unchained rfl (congrArg Prod.fst walked), fun stage _ other => ?_⟩,
      rfl, leaves⟩
    rw [other.eq_walk host named parsed]
  | @placed place relative _ _ _ _ normal parsed walked =>
    have named : host.textLabel workspace (some place) = .ok relative := normal
    refine .inl ⟨⟨_, rfl⟩, fun stage error hinders => ?_⟩
    obtain rfl := hinders.eq_walk host named parsed
    cases hinders with
    | unchained placed failed =>
      cases placed
      rw [walked] at failed
      cases failed

/-- Looking up the directive files that apply to a template leaves the storage alone and the
resolver in use, while nobody acts. -/
theorem chain_keeps (idle : interrupt.Idle workspace.agenda) (place : Path) :
    let after := ((host.resolver workspace).1.chain interrupt place (host.resolver workspace).2).2
    after.storage = workspace.storage ∧ after.installed = some (host.resolver workspace).1 := by
  have frame := host.resolver_frame workspace
  have ready : interrupt.Idle (host.resolver workspace).2.agenda := frame.2.symm ▸ idle
  have kept := (chain_alone ready (host.resolver workspace).1 place).2
  exact ⟨kept.storage.trans frame.1, kept.installed.trans (host.installed_resolver workspace)⟩

/-- A compilation fails when something hinders it, and it reports the first stage at which it is
hindered: that there is no source; that the source fails, or is no text, under the path as it was
given; that the path leads nowhere; the first line on which a directive lacks its argument, under
the normal path; and the error with which looking up the directive files fails. If it fails before
it looks up directive files, the storage, the agenda and every cache are as they were. If it fails
while it looks them up, and nobody acts, the storage is as it was, the settings of the host are, and
a resolver in use stays so. -/
theorem compile_reports_first (path : Option Path) (source : Option Stream) :
    let result := host.compile interrupt path source workspace
    let fails := Hinders host interrupt workspace path source
    let reports := HindersFirst host interrupt workspace path source
    ((∃ error, result.1 = .error error) ↔ ∃ stage error, fails stage error) ∧
    (∀ error, result.1 = .error error ↔ ∃ stage, reports stage error) ∧
    (∀ stage error, reports stage error → stage ≠ .walk →
      result.2.storage = workspace.storage ∧ result.2.agenda = workspace.agenda ∧
        (∀ resolver, workspace.installed = some resolver → result.2 = workspace) ∧
        ∀ number, result.2.cache number = workspace.cache number) ∧
    (interrupt.Idle workspace.agenda → ∀ error, reports .walk error →
      result.2.storage = workspace.storage ∧
        host.answer interrupt .defaults result.2 = (.defaults host.defaults, result.2) ∧
        ∀ resolver, workspace.installed = some resolver →
          result.2.installed = some resolver) := by
  intro result fails reports
  have verdict := (host.compiles_compile interrupt workspace path source).verdict
  have reported {stage : Stage} {error : CompileError} (first : reports stage error) :
      result.1 = .error error ∧ Leaves host interrupt workspace stage result.2 := by
    rcases verdict with ⟨-, free⟩ | ⟨other, found, firstly, failed, leaves⟩
    · exact absurd first.hinders (free stage error)
    · obtain ⟨rfl, rfl⟩ := first.unique host firstly
      exact ⟨failed, leaves⟩
  refine ⟨⟨?_, ?_⟩, fun error => ⟨fun failed => ?_, ?_⟩, fun stage error first before => ?_,
    fun idle error first => ?_⟩
  · rintro ⟨error, failed⟩
    rcases verdict with ⟨⟨code, coded⟩, -⟩ | ⟨stage, found, first, -⟩
    · cases failed.symm.trans coded
    · exact ⟨stage, found, first.hinders⟩
  · rintro ⟨stage, error, hinders⟩
    rcases verdict with ⟨-, free⟩ | ⟨-, found, -, failed, -⟩
    · exact absurd hinders (free stage error)
    · exact ⟨found, failed⟩
  · rcases verdict with ⟨⟨code, coded⟩, -⟩ | ⟨stage, found, first, also, -⟩
    · cases failed.symm.trans coded
    · obtain rfl := Except.error.inj (failed.symm.trans also)
      exact ⟨stage, first⟩
  · rintro ⟨stage, first⟩
    exact (reported first).1
  · have leaves := (reported first).2
    generalize result.2 = after at leaves
    cases leaves with
    | untouched => exact ⟨rfl, rfl, fun _ _ => rfl, fun _ => rfl⟩
    | ready =>
      obtain ⟨storage, agenda⟩ := host.resolver_frame workspace
      refine ⟨storage, agenda, fun resolver installed => ?_, host.cache_resolver workspace⟩
      rw [host.resolver_of_installed installed]
    | walked => exact absurd rfl before
  · have leaves := (reported first).2
    generalize result.2 = after at leaves
    cases leaves with
    | untouched early | ready early => exact absurd rfl early
    | walked place =>
      obtain ⟨storage, kept⟩ := host.chain_keeps idle place
      refine ⟨storage, rfl, fun resolver installed => ?_⟩
      rw [kept, host.resolver_of_installed installed]

/-- A template that is incomplete and lies outside of the tree is blamed for its path, and nothing
is touched. Another one, below a directive file whose import is made of semicolons, is blamed for
that file, and the storage and the resolver in use stay. -/
theorem compile_reports_first_of_several_faults :
    let host : Host := { root := ⟨"/views"⟩ }
    let outside : Path := ⟨"../page.tmpl"⟩
    let page : Path := ⟨"/other/./pages/page.tmpl"⟩
    let imports : Path := ⟨"pages/imports"⟩
    let state : Session.State :=
      { Session.start [(imports, Text.Utf8.encode "\n@using ;;".toList)] true with
        caches := [Cache.empty.keep imports ⟨7, 7⟩ {}]
        installed := some ⟨⟨"/other"⟩, "imports", 0⟩ }
    let others := Session.interruption host 1
    let below := host.compile others (some page) (some ⟨Text.Utf8.encode ['x'], none⟩) state
    let rejected : CompileError :=
      .invalidArgument (.rejected .escapes ⟨"/other"⟩ outside)
    host.compile others (some outside) (some ⟨Text.Utf8.encode "@model".toList, none⟩) state =
        (.error rejected, state) ∧
      below.1 = .error (.malformed imports ⟨2, .missingArgument .namespaceImport⟩) ∧
        below.2.storage = state.storage ∧ below.2.installed = state.installed := by
  intro host outside page imports state others below rejected
  have idle : others.Idle state.agenda := Session.idle_of_settled host 1 rfl
  obtain ⟨-, reported, before, -⟩ := @compile_reports_first _ _ host _ others state (some outside)
    (some ⟨Text.Utf8.encode "@model".toList, none⟩)
  have first : HindersFirst host others state (some outside)
      (some ⟨Text.Utf8.encode "@model".toList, none⟩) .placing rejected :=
    ⟨.rejected rfl (by decide +kernel), fun _ _ other => other.placing_le_rank host⟩
  have failed := (reported rejected).2 ⟨_, first⟩
  have untouched := (before _ _ first (by decide)).2.2.1 _ rfl
  obtain ⟨-, blamed, -, after⟩ := @compile_reports_first _ _ host _ others state (some page)
    (some ⟨Text.Utf8.encode ['x'], none⟩)
  have named : host.textLabel state (some page) = .ok ⟨"pages/page.tmpl"⟩ := by decide +kernel
  have parsed : Template.parse ['x'] = .ok ⟨[.literal "x"]⟩ := by decide +kernel
  have walk : HindersFirst host others state (some page)
      (some ⟨Text.Utf8.encode ['x'], none⟩) .walk
      (.malformed imports ⟨2, .missingArgument .namespaceImport⟩) :=
    ⟨.unchained rfl (by decide +kernel),
      fun _ _ other => (congrArg Stage.rank (other.eq_walk host named parsed)).ge⟩
  obtain ⟨storage, -, installed⟩ := after idle _ walk
  exact ⟨Prod.ext failed untouched, (blamed _).2 ⟨_, walk⟩, storage, installed _ rfl⟩

end TemplateTree.Host
