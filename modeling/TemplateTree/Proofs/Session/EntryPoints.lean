import TemplateTree.Proofs.Host.Alone
import TemplateTree.Proofs.Session.Chronicle

/-!
# Entry points of sessions

While nothing has been put off, it makes no difference through which entry point a template is
compiled, nor in what company, even if the templates of a batch take their steps in turns. Main
statements: `entry_points_agree` compares the file of a template, its bytes and its configuration;
`compileBatch_eq_map` compares a batch with its members.
-/

namespace TemplateTree

namespace Session

theorem idle_of_settled (host : Host) (depth : Nat) {agenda : Agenda}
    (settled : agenda.pending = []) : (interruption host depth).Idle agenda := by
  rintro path state rfl
  cases depth with
  | zero => rfl
  | succ depth => simp [interruption, interruptBy, settled, Agenda.due]

variable (host : Host) {state : State}

/-- At every point of every session at which nothing has been put off, a template named by its
normal path is compiled alike from the storage and from its bytes, and there is code for it exactly
if there is a configuration: that of the template as it is read, under this configuration. Otherwise
there is the same failure. -/
theorem entry_points_agree (settled : state.agenda.pending = []) {path : Path}
    (normal : Path.normalize host.root path = .ok path) (depth : Nat) :
    let others := interruption host depth
    let compiled := host.compileFile others path state
    let resolved := (host.resolve others path state).1
    (∀ bytes, Storage.content state.storage path = .ok bytes →
        host.compile others (some path) (some ⟨bytes, none⟩) state = compiled) ∧
      ((∃ code, compiled.1 = .ok code) ↔ ∃ configuration, resolved = .ok configuration) ∧
      (∀ configuration, resolved = .ok configuration →
        ∃ bytes text template, Storage.content state.storage path = .ok bytes ∧
          Text.Utf8.decode? bytes = some text ∧ Template.parse text = .ok template ∧
          compiled.1 = .ok (Code.generate configuration host.defaults.methods (host.className path)
            (configuration.apply template))) ∧
      ∀ error, compiled.1 = .error error ↔ resolved = .error error := by
  intro others compiled resolved
  have idle : others.Idle state.agenda := idle_of_settled host depth settled
  have here : (host.view state).resolver.normalize path = .ok path := by
    rw [Resolver.normalize, (Path.isNormal_of_normalize normal).normalize_eq]
  have code : compiled.1 = (host.view state).code host path := by
    have alone := (host.compileFile_alone idle path).1
    rwa [Host.View.compileFile, normal] at alone
  have configuration : resolved = (host.view state).configuration host path := by
    have alone := (host.resolve_alone idle path).1
    rwa [Host.View.resolve, here] at alone
  have failing (error : CompileError) : compiled.1 = .error error ↔ resolved = .error error := by
    rw [code, configuration, Host.View.code_eq_error_iff]
  refine ⟨fun bytes read => ?_, ?_, fun found resolves => ?_, failing⟩
  · have opened : Workspace.openFile others path state = (.ok ⟨bytes, none⟩, state) := by
      rw [Workspace.openFile, idle path state rfl, Storage.stream_of_content read]
    simp only [compiled, Host.compileFile_eq, normal, opened]
  · cases result : compiled.1 with
    | error error => simp [(failing error).1 result]
    | ok code =>
      cases resolves : resolved with
      | error error => cases result.symm.trans ((failing error).2 resolves)
      | ok configuration => simp
  · rw [configuration] at resolves
    obtain ⟨template, read, generated⟩ := Host.View.code_of_configuration resolves
    obtain ⟨source, bytes, text, opened, held, decoded, parsed⟩ :=
      Host.View.exists_of_template_eq_ok read
    have content : Storage.content state.storage path = .ok bytes := by
      rw [Storage.content, show Storage.stream state.storage path = _ from opened]
      exact held
    exact ⟨bytes, text, template, content, decoded, parsed, code.trans generated⟩

/-- Below a malformed directive file, under a resolver for another tree, a template can neither be
compiled nor configured. -/
theorem entry_points_agree_below_malformed :
    let host : Host := { root := ⟨"templates"⟩ }
    let page : Path := ⟨"pages/view.tmpl"⟩
    let state : State :=
      { start [(page, [64, 120]), (⟨"_imports.tmpl"⟩, [64, 117, 115, 105, 110, 103])] true with
        installed := some ⟨⟨"elsewhere"⟩, "_imports.tmpl", 3⟩ }
    let error : CompileError :=
      .malformed ⟨"_imports.tmpl"⟩ ⟨1, .missingArgument .namespaceImport⟩
    state.agenda.pending = [] ∧ Path.normalize host.root page = .ok page ∧
      (host.compileFile .none page state).1 = .error error ∧
        (host.resolve .none page state).1 = .error error := by
  intro host page state error
  have normal : Path.normalize host.root page = .ok page := by decide +kernel
  have compiled : (host.compileFile .none page state).1 = .error error := by decide +kernel
  obtain ⟨-, -, -, failing⟩ := @entry_points_agree host state rfl page normal 0
  exact ⟨rfl, normal, compiled, (failing error).1 compiled⟩

/-- At every point of every session at which nothing has been put off, each template of a batch is
compiled with the result that it has alone, in whatever order the members of the batch take their
steps. -/
theorem compileBatch_eq_map (settled : state.agenda.pending = []) (depth : Nat)
    (schedule : List Nat) (paths : List Path) :
    (host.compileBatch (interruption host depth) schedule paths state).1 =
      paths.map fun path => (path, (host.compileFile (interruption host depth) path state).1) := by
  have idle := idle_of_settled host depth settled
  rw [(host.compileBatch_alone idle schedule paths).1]
  refine List.map_congr_left fun path _ => ?_
  rw [(host.compileFile_alone idle path).1]

/-- The second template of a batch consults the cache for a directive file that cannot be opened any
more; then the first has the file dropped, and only then does the second open it. All are compiled
as before it was dropped. -/
theorem compileBatch_eq_map_while_dropped :
    let host : Host := { root := ⟨"templates"⟩ }
    let view : Path := ⟨"pages/view.tmpl"⟩
    let page : Path := ⟨"page.tmpl"⟩
    let imports : Path := ⟨"_imports.tmpl"⟩
    let kept : State :=
      { start [(view, [64, 120]), (page, [121]), (imports, [])] true with
        caches := [Cache.empty.keep imports ⟨7, 7⟩ {}]
        installed := some ⟨⟨"templates"⟩, "_imports.tmpl", 0⟩ }
    let state := changeStorage (·.addFault imports .opening ⟨.notFound, "gone"⟩) kept
    let consulted := List.replicate 4 1
    let dropped := consulted ++ List.replicate 8 0
    let size (schedule : List Nat) :=
      ((Process.follow schedule (host.members .none [view, page, view]) state).2.cache 0).size
    state.agenda.pending = [] ∧ size consulted = 1 ∧ size dropped = 0 ∧
      (host.compileBatch .none dropped [view, page, view] state).1 =
        [(view, (host.compileFile .none view state).1), (page, (host.compileFile .none page state).1),
          (view, (host.compileFile .none view state).1)] := by
  intro host view page imports kept state consulted dropped size
  have before : size consulted = 1 := by decide +kernel
  have after : size dropped = 0 := by decide +kernel
  exact ⟨rfl, before, after, compileBatch_eq_map host rfl 0 dropped [view, page, view]⟩

end Session

end TemplateTree
