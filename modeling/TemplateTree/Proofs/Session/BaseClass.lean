import TemplateTree.Proofs.Code.Outline
import TemplateTree.Proofs.Configuration.BaseClass
import TemplateTree.Proofs.Host.Stages
import TemplateTree.Proofs.Session.Genuine

/-!
# Classes without a base

Generated code has an error only if its base class is blank, and directives alone never make it so.
Main statement: `hasErrors_of_compile`, over storages of every kind and all that can be in a cache.
-/

namespace TemplateTree

theorem exists_of_isOk {Value : Type} {result : Except CompileError Value}
    (fine : result.isOk = true) : ∃ value, result = .ok value := by
  cases result with
  | ok value => exact ⟨value, rfl⟩
  | error error => cases fine

namespace Host

variable {Store Agenda : Type} [Storage Store] {interrupt : Interrupt Store Agenda} {host : Host}
  {workspace : Workspace Store Agenda} {code : Code}

/-- What code has been generated from: the text of a template, the directive files that apply to it,
and the configuration merged from their directives. -/
structure Origin (host : Host) (interrupt : Interrupt Store Agenda)
    (workspace : Workspace Store Agenda) (path : Option Path) (source : Option Stream)
    (template : Template) (files : List DirectiveFile) : Prop where
  parsed : ∃ text, source = some ⟨Text.Utf8.encode text, none⟩ ∧
    Template.parse text = .ok template
  applying : match path with
    | none => files = []
    | some place => ((host.resolver workspace).1.chain interrupt place
        (host.resolver workspace).2).1 = .ok files

/-- The configuration of a template to which these directive files apply. -/
def configurationOf (host : Host) (template : Template) (files : List DirectiveFile) :
    Configuration :=
  .merge (files.map (·.declarations)) (.ofDirectives template.directives) host.defaults

/-- Code has an origin, under whose configuration it was generated. -/
theorem exists_origin_of_compile {path : Option Path} {source : Option Stream}
    (compiled : (host.compile interrupt path source workspace).1 = .ok code) :
    ∃ template files, host.Origin interrupt workspace path source template files ∧
      ∃ className, code = host.generate (host.configurationOf template files) className template := by
  have course := host.compiles_compile interrupt workspace path source
  generalize host.compile interrupt path source workspace = result at course compiled
  cases course with
  | missing | broken | undecodable | malformed | rejected | malformedAt | unchained =>
    cases compiled
  | @inline text template parsed =>
    exact ⟨template, [], ⟨⟨text, rfl, parsed⟩, rfl⟩, _, (Except.ok.inj compiled).symm⟩
  | @placed place relative text template files after normal parsed walked =>
    exact ⟨template, files, ⟨⟨text, rfl, parsed⟩, congrArg Prod.fst walked⟩, _,
      (Except.ok.inj compiled).symm⟩

/-- The directive files in an origin are genuine, where all that is kept is. -/
theorem Origin.genuine {path : Option Path} {source : Option Stream} {template : Template}
    {files : List DirectiveFile}
    (origin : host.Origin interrupt workspace path source template files)
    (genuine : workspace.Genuine)
    (others : ∀ path (between : Workspace Store Agenda), between.Genuine →
      (interrupt path between).Genuine) :
    ∀ file ∈ files, ∃ place, file.Genuine place := by
  have applying := origin.applying
  cases path with
  | none =>
    subst applying
    nofun
  | some place =>
    exact Resolver.genuine_chain others (host.genuine_resolver genuine) applying

theorem Origin.isDeclared {path : Option Path} {source : Option Stream} {template : Template}
    {files : List DirectiveFile}
    (origin : host.Origin interrupt workspace path source template files) {directive : Directive}
    (member : directive ∈ template.directives) : ∃ text, Directive.IsDeclared text directive := by
  obtain ⟨text, -, parsed⟩ := origin.parsed
  exact ⟨text, .inr ⟨template, parsed, member⟩⟩

end Host

namespace Session.Journaled

open Code (isBlankName)

/-- Where all that is kept has been read, and others leave it so, code that a template is compiled
to has an error exactly if the base class of its configuration is blank. It is not, if the default
model type is not blank and the default base type is not either, or else a base type is declared by
the template or by a directive file that applies to it; whatever the placeholder, the model types
and the base types are. The code of a template in the storage is compiled from its stream. What is
kept has been read in the workspace of a new host, after any request, and at every point of every
session, whatever is done while files are opened. -/
theorem hasErrors_of_compile (Store Agenda : Type) [Storage Store] (host : Host) :
    (∀ (interrupt : Interrupt Store Agenda) (workspace : Workspace Store Agenda),
      workspace.Genuine →
      (∀ path (between : Workspace Store Agenda), between.Genuine →
        (interrupt path between).Genuine) →
      (∀ path source code, (host.compile interrupt path source workspace).1 = .ok code →
        ∃ template files, host.Origin interrupt workspace path source template files ∧
          (code.hasErrors = true ↔
            ∀ c ∈ (host.configurationOf template files).baseClass.toList, Text.isBlank c = true) ∧
          (isBlankName host.defaults.modelType = false →
            (isBlankName host.defaults.baseType.template = false ∨
              (∃ directive ∈ template.directives, directive.kind = .baseType) ∨
              ∃ file ∈ files, file.declarations.baseType ≠ none) →
            code.hasErrors = false)) ∧
      (∀ path code, (host.compileFile interrupt path workspace).1 = .ok code →
        ∃ relative stream, (interrupt relative workspace).Genuine ∧
          (host.compile interrupt (some relative) (some stream)
            (interrupt relative workspace)).1 = .ok code) ∧
      ∀ request, (host.answer interrupt request workspace).2.Genuine) ∧
    (∀ (storage : Store) (agenda : Agenda), Workspace.Genuine { storage, agenda }) ∧
    ∀ files frozen point, Later host (begin files frozen) point →
      point.Genuine ∧ ∀ depth path (between : Journaled), between.Genuine →
        (interruption host depth path between).Genuine := by
  refine ⟨fun interrupt workspace genuine others => ⟨fun path source code compiled => ?_,
    fun path code compiled => ?_, host.genuine_answer others genuine⟩,
    fun storage agenda => Workspace.genuine_of_no_caches rfl,
    fun files frozen point later => ⟨genuine_of_later later, genuine_interruption host⟩⟩
  · obtain ⟨template, files, origin, className, rfl⟩ := Host.exists_origin_of_compile compiled
    have errors : (host.generate (host.configurationOf template files) className
        template).hasErrors = isBlankName (host.configurationOf template files).baseClass :=
      Code.hasErrors_generate_apply
    refine ⟨template, files, origin, ?_, fun typed based => ?_⟩
    · rw [errors, isBlankName, List.all_eq_true]
    · have ink (directive : Directive) (member : directive ∈ template.directives) :
          isBlankName directive.argument = false := by
        obtain ⟨text, declared⟩ := origin.isDeclared member
        exact declared.isBlankName_argument
      rw [errors]
      exact Configuration.isBlankName_baseClass_merge (origin.genuine genuine others) ink typed based
  · rw [Host.compileFile_eq] at compiled
    split at compiled
    · cases compiled
    · next relative _ =>
      have later := others relative workspace genuine
      rw [Workspace.openFile] at compiled
      cases opened : Storage.stream (interrupt relative workspace).storage relative with
      | error error =>
        simp only [opened] at compiled
        cases compiled
      | ok stream =>
        simp only [opened] at compiled
        exact ⟨relative, stream, later, compiled⟩

/-- In a frozen session the default base type is blank, and so would be the base class. A directive
file that declares nothing but the placeholder, kept from an earlier walk, gives the class the model
type for a base. -/
theorem hasErrors_of_compile_below_placeholder :
    let host : Host :=
      { root := ⟨"views"⟩, defaults := { modelType := "object", baseType := ⟨" ", "TModel"⟩ } }
    let page : Path := ⟨"pages/page.tmpl"⟩
    let source (text : String) : Option Stream := some ⟨Text.Utf8.encode text.toList, none⟩
    let point := script host [.ask (.chain page)]
      (begin [(⟨"_imports.tmpl"⟩, Text.Utf8.encode "@inherits TModel".toList)] true)
    let others := interruption host 1
    isBlankName host.defaults.modelType = false ∧ point.Genuine ∧
      (∃ code, (host.compile others (some page) (source "@model Item\nx") point).1 = .ok code ∧
        code.hasErrors = false) ∧
      ∃ code, (host.compile others none (source "@model Item\nx") point).1 = .ok code ∧
        code.hasErrors = true := by
  intro host page source point others
  obtain ⟨each, -, sessions⟩ := hasErrors_of_compile Memory Journal host
  obtain ⟨genuine, keeping⟩ := sessions _ true point (later_script host _ _)
  obtain ⟨compiles, -⟩ := each others point genuine (keeping 1)
  have typed : isBlankName host.defaults.modelType = false := by decide
  obtain ⟨below, coded⟩ : ∃ code,
      (host.compile others (some page) (source "@model Item\nx") point).1 = .ok code :=
    exists_of_isOk (by decide +kernel)
  obtain ⟨inline, written⟩ : ∃ code,
      (host.compile others none (source "@model Item\nx") point).1 = .ok code :=
    exists_of_isOk (by decide +kernel)
  have reported : (host.compile others none (source "@model Item\nx") point).1.toOption.map
      Code.hasErrors = some true := by decide +kernel
  rw [written] at reported
  obtain ⟨template, files, origin, -, fine⟩ := compiles _ _ _ coded
  let imports : DirectiveFile := .ofDirectives ⟨"_imports.tmpl"⟩
    (Digest.fingerprint (Text.Utf8.encode "@inherits TModel".toList)) [⟨.baseType, "TModel"⟩]
  have walked : ((host.resolver point).1.chain others page (host.resolver point).2).1 =
      .ok [imports] := by decide +kernel
  obtain rfl := Except.ok.inj (walked.symm.trans origin.applying)
  have declares : imports.declarations.baseType ≠ none := by decide
  exact ⟨typed, genuine,
    ⟨below, coded, fine typed (.inr (.inr ⟨imports, List.mem_singleton_self _, declares⟩))⟩,
    inline, written, Option.some.inj reported⟩

end Session.Journaled

end TemplateTree
