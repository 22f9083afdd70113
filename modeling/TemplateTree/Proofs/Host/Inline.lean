import TemplateTree.Proofs.Host.Work
import TemplateTree.Session

/-!
# Templates without a path

A template that has no path is compiled from its own text and the settings of the host, and from
nothing else. Main statement: `compile_without_path` compares it with the same text at a path to
which no directive file applies.
-/

namespace TemplateTree.Host

variable (host : Host)

/-- A template without a path has the same result wherever it is compiled, and leaves nothing behind
but its warnings. -/
theorem compile_none_eq (source : Option Stream) :
    ∃ result warnings, ∀ {Store Agenda : Type} [Storage Store]
      (interrupt : Interrupt Store Agenda) (workspace : Workspace Store Agenda),
      host.compile interrupt none source workspace = (result, workspace.warn warnings) := by
  have silent {Store Agenda : Type} (workspace : Workspace Store Agenda) :
      workspace.warn [] = workspace := by
    rw [Workspace.warn, List.append_nil]
  cases source with
  | none =>
    refine ⟨.error (.invalidArgument .missingSource), [], fun interrupt workspace => ?_⟩
    rw [compile_eq, silent]
  | some source =>
    cases read : readSource inlineLabel source with
    | error error =>
      refine ⟨.error error, [], fun interrupt workspace => ?_⟩
      simp only [compile_eq, Option.getD_none, read, silent]
    | ok text =>
      cases parsed : parse inlineLabel text with
      | error error =>
        refine ⟨.error error, [], fun interrupt workspace => ?_⟩
        simp only [compile_eq, Option.getD_none, read, compileInline_eq, parsed, silent]
      | ok template =>
        let own := Configuration.merge [] (.ofDirectives template.directives) host.defaults
        refine ⟨.ok (host.generate own host.defaults.className template),
          Directive.warnings inlineLabel.text template.directives, fun interrupt workspace => ?_⟩
        simp only [compile_eq, Option.getD_none, read, compileInline_eq, parsed, own]

variable {Store Agenda : Type} [Storage Store] {interrupt : Interrupt Store Agenda}
  {workspace : Workspace Store Agenda} {path relative : Path}

/-- The text of a template without a path is compiled under its own directives over the defaults. -/
theorem fst_compile_none {bytes : List UInt8} {text : List Char}
    (decoded : Text.Utf8.decode? bytes = some text) :
    (host.compile interrupt none (some ⟨bytes, none⟩) workspace).1 =
      (parse inlineLabel text).map fun template =>
        host.generate (.merge [] (.ofDirectives template.directives) host.defaults)
          host.defaults.className template := by
  simp only [compile_eq, readSource_eq_ok decoded, compileInline_eq]
  cases parse inlineLabel text <;> rfl

/-- The text of a template to which no directive file applies is compiled under its own directives
over the defaults. -/
theorem fst_compile_of_absent (normal : (host.resolver workspace).1.normalize path = .ok relative)
    (absent : ∀ place ∈ Resolver.candidates (host.resolver workspace).1.directiveFilename relative,
      Storage.stamp workspace.storage place = .ok none)
    {bytes : List UInt8} {text : List Char} (decoded : Text.Utf8.decode? bytes = some text) :
    (host.compile interrupt (some path) (some ⟨bytes, none⟩) workspace).1 =
      (parse relative text).map fun template =>
        host.generate (.merge [] (.ofDirectives template.directives) host.defaults)
          (host.className relative) template := by
  rw [← (host.resolver_frame workspace).1] at absent
  rw [host.compile_eq_codeAt normal decoded, codeAt]
  exact host.fst_work_of_absent absent _ text

/-- A template without a path has one result, whatever the storage, the caches, the resolver in use
and the others are, and its warnings are all that is left of it. This result is the one that its
text has at any path to which no directive file applies: the same malformed directive, or else code
from the same template under the same configuration, which differs in the name of the class only. -/
theorem compile_without_path :
    (∀ source, ∃ result warnings, ∀ {Store Agenda : Type} [Storage Store]
      (interrupt : Interrupt Store Agenda) (workspace : Workspace Store Agenda),
      host.compile interrupt none source workspace = (result, workspace.warn warnings)) ∧
    ∀ {Store Agenda : Type} [Storage Store] (interrupt : Interrupt Store Agenda)
      (workspace : Workspace Store Agenda) (path relative : Path) (places : List Path),
      (host.resolver workspace).1.normalize path = .ok relative →
      (host.resolver workspace).1.directivePaths path = .ok places →
      (∀ place ∈ places, Storage.stamp workspace.storage place = .ok none) →
      ∀ bytes text, Text.Utf8.decode? bytes = some text →
        let inline := (host.compile interrupt none (some ⟨bytes, none⟩) workspace).1
        let placed := (host.compile interrupt (some path) (some ⟨bytes, none⟩) workspace).1
        (match Template.parse text with
        | .error error =>
          inline = .error (.malformed inlineLabel error) ∧
            placed = .error (.malformed relative error)
        | .ok template =>
          let own := Configuration.merge [] (.ofDirectives template.directives) host.defaults
          inline = .ok (Code.generate own host.defaults.methods host.defaults.className
              (own.apply template)) ∧
            placed = .ok (Code.generate own host.defaults.methods (host.className relative)
              (own.apply template))) ∧
        ((∀ other, host.className other = host.defaults.className) →
          ∀ code, inline = .ok code ↔ placed = .ok code) := by
  refine ⟨host.compile_none_eq, ?_⟩
  intro Store Agenda _ interrupt workspace path relative places normal listed absent bytes text
    decoded inline placed
  rw [Resolver.directivePaths, normal] at listed
  obtain rfl := Except.ok.inj listed
  have alone : inline = _ := host.fst_compile_none decoded
  have below : placed = _ := host.fst_compile_of_absent normal absent decoded
  rw [alone, below, parse, parse]
  cases Template.parse text with
  | error error => exact ⟨⟨rfl, rfl⟩, by simp [Except.map]⟩
  | ok template =>
    refine ⟨⟨rfl, rfl⟩, fun constant code => ?_⟩
    rw [constant relative]

/-- Beside a malformed directive file that applies to another template, under a resolver for another
tree and with one name for all classes, a template that declares its model has the same code with a
path and without. -/
theorem compile_without_path_beside_malformed :
    let host : Host :=
      { root := ⟨"/views"⟩, defaults := { className := "Page" }, className := fun _ => "Page" }
    let path : Path := ⟨"/other/./pages/view.tmpl"⟩
    let bytes := Text.Utf8.encode "@model Item\n<b>@Model.Name</b>".toList
    let state : Session.State :=
      { Session.start [(⟨"old/imports"⟩, Text.Utf8.encode "@using".toList)] true with
        installed := some ⟨⟨"/other"⟩, "imports", 0⟩ }
    let resolver := (host.resolver state).1
    resolver.normalize path = .ok ⟨"pages/view.tmpl"⟩ ∧
      resolver.directivePaths path = .ok [⟨"imports"⟩, ⟨"pages/imports"⟩] ∧
      (∀ place ∈ [⟨"imports"⟩, ⟨"pages/imports"⟩], Storage.stamp state.storage place = .ok none) ∧
      (∃ text, Text.Utf8.decode? bytes = some text) ∧
      ∃ code, (host.compile .none none (some ⟨bytes, none⟩) state).1 = .ok code ∧
        (host.compile .none (some path) (some ⟨bytes, none⟩) state).1 = .ok code := by
  intro host path bytes state resolver
  have normal : resolver.normalize path = .ok ⟨"pages/view.tmpl"⟩ := by decide +kernel
  have listed : resolver.directivePaths path = .ok [⟨"imports"⟩, ⟨"pages/imports"⟩] := by
    decide +kernel
  have absent : ∀ place ∈ [⟨"imports"⟩, ⟨"pages/imports"⟩],
      Storage.stamp state.storage place = .ok none := by decide +kernel
  have decoded : Text.Utf8.decode? bytes = some "@model Item\n<b>@Model.Name</b>".toList := by
    decide +kernel
  obtain ⟨template, parsed⟩ : ∃ template,
      Template.parse "@model Item\n<b>@Model.Name</b>".toList = .ok template :=
    ⟨⟨[.directive ⟨.modelType, "Item"⟩, .literal "<b>", .expression "Model.Name",
      .literal "</b>"]⟩, by decide +kernel⟩
  obtain ⟨alike, same⟩ := (compile_without_path host).2 .none state path _ _ normal listed absent
    bytes _ decoded
  rw [parsed] at alike
  exact ⟨normal, listed, absent, ⟨_, decoded⟩, _, alike.1, (same (fun _ => rfl) _).1 alike.1⟩

end TemplateTree.Host
