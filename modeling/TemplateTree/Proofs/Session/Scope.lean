import TemplateTree.Proofs.Session.EntryPoints
import TemplateTree.Proofs.Session.Stillness

/-!
# The scope of a template

What becomes of a template depends on its own file and on the places where directive files may apply
to it, and on nothing else in the storage. Main statement: `results_depend_on_scope`, over two
sessions that share these files only, and over one session in which only other files change.
-/

namespace TemplateTree

namespace Memory

/-- The directive files of a storage without faults are what lookups find that have kept nothing. -/
theorem Faultless.answer_eq {memory : Memory} (faultless : memory.Faultless) (place : Path) :
    Cache.answer place (Storage.stamp memory place) (Storage.content memory place) none =
      memory.directiveFile place := by
  have stamp : Storage.stamp memory place = .ok ((memory.file? place).map memory.stampOf) := by
    change memory.stamp place = _
    rw [Memory.stamp, faultless place]
  rw [stamp, content_eq, faultless place, faultless place, directiveFile]
  cases memory.file? place with
  | none => rfl
  | some file => simp [Cache.answer]

end Memory

namespace Host

variable {Store Agenda : Type} (host : Host)

/-- Nothing is kept by the resolver in use. -/
def Unread (workspace : Workspace Store Agenda) : Prop :=
  ∀ place, ((host.resolver workspace).2.cache (host.resolver workspace).1.cache).find? place = none

variable [Storage Store]

/-- Everything that becomes of a template: the directive files that apply to it, its configuration
and its code. -/
def results (interrupt : Interrupt Store Agenda) (path : Path)
    (workspace : Workspace Store Agenda) :
    Except CompileError (List DirectiveFile) × Except CompileError Configuration ×
      Except CompileError Code :=
  (((host.resolver workspace).1.chain interrupt path (host.resolver workspace).2).1,
    (host.resolve interrupt path workspace).1, (host.compileFile interrupt path workspace).1)

variable {interrupt : Interrupt Store Agenda} {first second : Workspace Store Agenda}

/-- The same becomes of a template in two workspaces whose views agree about it. -/
theorem results_eq_of_agrees {path relative : Path} (idle : interrupt.Idle first.agenda)
    (quiet : interrupt.Idle second.agenda)
    (agrees : View.Agrees relative (host.view first) (host.view second))
    (named : Path.normalize host.root path = .ok relative)
    (within : (host.resolver first).1.normalize path = .ok relative) :
    host.results interrupt path second = host.results interrupt path first := by
  have normal := Path.isNormal_of_normalize named
  have chain (workspace : Workspace Store Agenda) (idle : interrupt.Idle workspace.agenda) :
      ((host.resolver workspace).1.chain interrupt path (host.resolver workspace).2).1 =
        (host.view workspace).chain path :=
    (chain_alone ((host.resolver_frame workspace).2.symm ▸ idle) _ path).1
  have chains := agrees.chain_eq within
  have configurations :
      (host.view second).resolve host path = (host.view first).resolve host path := by
    rw [View.resolve, View.resolve, agrees.normalize_eq,
      show (host.view first).resolver.normalize path = _ from within]
    exact agrees.configuration_eq normal host
  have codes :
      (host.view second).compileFile host path = (host.view first).compileFile host path := by
    rw [View.compileFile, View.compileFile, named]
    exact agrees.code_eq normal host
  rw [results, results, chain second quiet, chain first idle, chains,
    (host.resolve_alone quiet path).1, (host.resolve_alone idle path).1, configurations,
    (host.compileFile_alone quiet path).1, (host.compileFile_alone idle path).1, codes]

end Host

namespace Session

variable (host : Host) {state twin : State}

/-- A point of a session from which every lookup starts afresh. -/
structure Fresh (state : State) : Prop where
  settled : state.agenda.pending = []
  faultless : state.storage.Faultless
  unread : host.Unread state

/-- The views of two fresh sessions over the same tree agree about a template if the files in its
scope are the same. -/
theorem agrees_of_fresh (fresh : Fresh host state) (other : Fresh host twin) {relative : Path}
    (root : (host.resolver twin).1.root = (host.resolver state).1.root)
    (directiveFilename :
      (host.resolver twin).1.directiveFilename = (host.resolver state).1.directiveFilename)
    (same : ∀ place ∈ relative ::
        Resolver.candidates (host.resolver state).1.directiveFilename relative,
      (twin.storage.file? place).map (·.content) = (state.storage.file? place).map (·.content)) :
    Host.View.Agrees relative (host.view state) (host.view twin) := by
  obtain ⟨here, scope⟩ := List.forall_mem_cons.1 same
  refine ⟨root, directiveFilename, ?_, fun place member => ?_⟩
  · change Storage.stream twin.storage relative = Storage.stream state.storage relative
    rw [other.faultless.stream_eq, fresh.faultless.stream_eq]
    revert here
    cases twin.storage.file? relative <;> cases state.storage.file? relative <;> simp
  · have answer {state : State} (fresh : Fresh host state) :
        (host.view state).answer place = state.storage.directiveFile place := by
      change (host.resolver state).2.answer (host.resolver state).1.cache place = _
      rw [Workspace.answer, fresh.unread, (host.resolver_frame state).1, fresh.faultless.answer_eq]
    have content := scope place member
    rw [answer other, answer fresh, Memory.directiveFile, Memory.directiveFile]
    revert content
    cases twin.storage.file? place <;> cases state.storage.file? place <;> simp
    rintro same
    rw [same]

/-- The views of a session agree about a template as long as only the storage changes, and nothing
in the scope of the template. -/
theorem agrees_of_sameAt {relative : Path} (caches : twin.caches = state.caches)
    (installed : twin.installed = state.installed)
    (same : ∀ place ∈ relative ::
        Resolver.candidates (host.resolver state).1.directiveFilename relative,
      Memory.SameAt place state.storage twin.storage) :
    Host.View.Agrees relative (host.view state) (host.view twin) := by
  obtain ⟨resolver, kept⟩ := host.resolver_congr caches installed
  obtain ⟨here, scope⟩ := List.forall_mem_cons.1 same
  refine ⟨congrArg Resolver.root resolver, congrArg Resolver.directiveFilename resolver,
    here.stream, fun place member => ?_⟩
  have alike := scope place member
  change (host.resolver twin).2.answer (host.resolver twin).1.cache place =
    (host.resolver state).2.answer (host.resolver state).1.cache place
  rw [Workspace.answer, Workspace.answer, (host.resolver_frame twin).1,
    (host.resolver_frame state).1, alike.stamp, alike.content, Workspace.cache, Workspace.cache,
    kept, resolver]

/-- A step that changes no file in these places: it changes another, or asks for templates. -/
inductive Step.Spares (places : List Path) : Step → Prop where
  | insert {path content} (apart : ∀ place ∈ places, path.components ≠ place.components) :
      Spares places (.insert path content)
  | touch {path} (apart : ∀ place ∈ places, path.components ≠ place.components) :
      Spares places (.touch path)
  | remove {path} (apart : ∀ place ∈ places, path.components ≠ place.components) :
      Spares places (.remove path)
  | compileFile (path) : Spares places (.ask (.compileFile path))
  | compileBatch (paths schedule) : Spares places (.ask (.compileBatch paths schedule))
  | resolve (path) : Spares places (.ask (.resolve path))
  | chain (path) : Spares places (.ask (.chain path))

/-- A step that spares the scope of a template puts nothing off, and leaves a view that agrees about
the template. -/
theorem agrees_perform {step : Step} {relative : Path} (normal : relative.IsNormal)
    (settled : state.agenda.pending = []) (depth : Nat)
    (spares : step.Spares (relative ::
      Resolver.candidates (host.resolver state).1.directiveFilename relative)) :
    (perform host depth step state).2.agenda = state.agenda ∧
      Host.View.Agrees relative (host.view state)
        (host.view (perform host depth step state).2) := by
  have idle := idle_of_settled host depth settled
  have edited {storage : Memory} (same : ∀ place ∈ relative ::
      Resolver.candidates (host.resolver state).1.directiveFilename relative,
      Memory.SameAt place state.storage storage) :
      Host.View.Agrees relative (host.view state) (host.view { state with storage }) :=
    agrees_of_sameAt host rfl rfl same
  have asked {after : State} (keeps : host.Keeps state after) :
      after.agenda = state.agenda ∧
        Host.View.Agrees relative (host.view state) (host.view after) :=
    ⟨keeps.agenda, keeps.agrees normal⟩
  cases spares with
  | @insert path content apart =>
    have performed : (perform host depth (.insert path content) state).2 =
        { state with storage := state.storage.insert path content } := by
      cases depth <;> rfl
    rw [performed]
    exact ⟨rfl, edited fun place member => Memory.sameAt_insert (apart place member) content⟩
  | @touch path apart =>
    have performed : (perform host depth (.touch path) state).2 =
        { state with storage := (state.storage.touch path).2 } := by
      cases depth <;> rfl
    rw [performed]
    exact ⟨rfl, edited fun place member => Memory.sameAt_touch (apart place member)⟩
  | @remove path apart =>
    have performed : (perform host depth (.remove path) state).2 =
        { state with storage := (state.storage.remove path).2 } := by
      cases depth <;> rfl
    rw [performed]
    exact ⟨rfl, edited fun place member => Memory.sameAt_remove (apart place member)⟩
  | compileFile path =>
    rw [perform_ask]
    exact asked (host.compileFile_alone idle path).2
  | compileBatch paths schedule =>
    rw [perform_ask]
    exact asked (host.compileBatch_alone idle schedule paths).2
  | resolve path =>
    rw [perform_ask]
    exact asked (host.resolve_alone idle path).2
  | chain path =>
    rw [perform_ask]
    have ready : (interruption host depth).Idle (host.resolver state).2.agenda :=
      (host.resolver_frame state).2.symm ▸ idle
    have built : host.Keeps state (host.resolver state).2 := Host.keeps_resolver state
    exact asked (built.trans (Host.keeps_of_undisturbed
      (built.resolver.symm ▸ (Host.chain_alone ready _ path).2)))

/-- Steps that spare the scope of a template put nothing off, and leave a view that agrees about the
template. -/
theorem agrees_finish {steps : List Step} {relative : Path} (normal : relative.IsNormal)
    (settled : state.agenda.pending = [])
    (spares : ∀ step ∈ steps, step.Spares (relative ::
      Resolver.candidates (host.resolver state).1.directiveFilename relative)) :
    (finish host steps state).agenda.pending = [] ∧
      Host.View.Agrees relative (host.view state) (host.view (finish host steps state)) := by
  induction steps generalizing state with
  | nil => exact ⟨settled, .refl relative _⟩
  | cons step rest inductionHypothesis =>
    obtain ⟨here, later⟩ := List.forall_mem_cons.1 spares
    let ready : State := { state with
      warnings := [], agenda := { state.agenda with answers := [] } }
    have prepared : Host.View.Agrees relative (host.view state) (host.view ready) :=
      agrees_of_sameAt host rfl rfl fun place _ => ⟨rfl, rfl⟩
    have waiting : ready.agenda.pending = [] := settled
    obtain ⟨agenda, done⟩ := agrees_perform host normal waiting
      (step.deferrals + ready.agenda.deferrals) (prepared.directiveFilename.symm ▸ here)
    have agrees := prepared.trans done
    have still := (congrArg Agenda.pending agenda).trans waiting
    obtain ⟨final, others⟩ := inductionHypothesis still (agrees.directiveFilename.symm ▸ later)
    exact ⟨final, agrees.trans others⟩

/-- What becomes of a template depends on its file and on the places where directive files may apply
to it: it is the same in two fresh sessions over the same tree that have the same there, and at two
points of one session between which only other files were changed and templates asked for. -/
theorem results_depend_on_scope {path relative : Path} {places : List Path}
    (settled : state.agenda.pending = []) (named : Path.normalize host.root path = .ok relative)
    (within : (host.resolver state).1.normalize path = .ok relative)
    (scope : (host.resolver state).1.directivePaths path = .ok places) (depth : Nat) :
    (∀ twin, Fresh host state → Fresh host twin →
        (host.resolver twin).1.root = (host.resolver state).1.root →
        (host.resolver twin).1.directiveFilename = (host.resolver state).1.directiveFilename →
        (∀ place ∈ relative :: places,
          (twin.storage.file? place).map (·.content) =
            (state.storage.file? place).map (·.content)) →
        host.results (interruption host depth) path twin =
          host.results (interruption host depth) path state) ∧
      ∀ steps : List Step, (∀ step ∈ steps, step.Spares (relative :: places)) →
        host.results (interruption host depth) path (finish host steps state) =
          host.results (interruption host depth) path state := by
  have idle := idle_of_settled host depth settled
  obtain rfl : Resolver.candidates (host.resolver state).1.directiveFilename relative = places := by
    rw [Resolver.directivePaths, within] at scope
    exact Except.ok.inj scope
  constructor
  · intro twin fresh other root directiveFilename same
    have agrees := agrees_of_fresh host fresh other root directiveFilename same
    exact host.results_eq_of_agrees idle (idle_of_settled host depth other.settled) agrees named
      within
  · intro steps spares
    obtain ⟨final, agrees⟩ := agrees_finish host (Path.isNormal_of_normalize named) settled spares
    exact host.results_eq_of_agrees idle (idle_of_settled host depth final) agrees named within

/-- A template is not touched by what stands in a directory beside its own, nor by a malformed
directive file that is put there later. -/
theorem results_depend_on_scope_beside :
    let host : Host := { root := ⟨"templates"⟩ }
    let path : Path := ⟨"./pages/view.tmpl"⟩
    let beside : Path := ⟨"other/_imports.tmpl"⟩
    let files : List (Path × List UInt8) :=
      [(⟨"pages/view.tmpl"⟩, [64, 120]), (⟨"_imports.tmpl"⟩, [64, 117, 115, 105, 110, 103, 32, 65])]
    let state := start files false
    let twin := start ((beside, [64]) :: files) true
    let steps : List Step :=
      [.ask (.compileFile path), .insert beside [64], .ask (.compileFile ⟨"other/view.tmpl"⟩),
        .touch ⟨"view.tmpl"⟩]
    Fresh host state ∧ Fresh host twin ∧
      (∀ step ∈ steps, step.Spares
        [⟨"pages/view.tmpl"⟩, ⟨"_imports.tmpl"⟩, ⟨"pages/_imports.tmpl"⟩]) ∧
      host.results .none path twin = host.results .none path state ∧
      host.results .none path (finish host steps state) = host.results .none path state := by
  intro host path beside files state twin steps
  obtain ⟨apart, along⟩ := @results_depend_on_scope host state path ⟨"pages/view.tmpl"⟩
    [⟨"_imports.tmpl"⟩, ⟨"pages/_imports.tmpl"⟩] rfl (by decide +kernel) (by decide +kernel)
    (by decide +kernel) 0
  have fresh : Fresh host state := ⟨rfl, Memory.faultless_of_entries rfl, fun _ => rfl⟩
  have other : Fresh host twin := ⟨rfl, Memory.faultless_of_entries rfl, fun _ => rfl⟩
  have spares : ∀ step ∈ steps, step.Spares
      [⟨"pages/view.tmpl"⟩, ⟨"_imports.tmpl"⟩, ⟨"pages/_imports.tmpl"⟩] := by
    simp only [steps, List.forall_mem_cons]
    exact ⟨.compileFile _, .insert (by decide +kernel), .compileFile _, .touch (by decide +kernel),
      by simp⟩
  exact ⟨fresh, other, spares, apart twin fresh other rfl rfl (by decide +kernel),
    along steps spares⟩

end Session

end TemplateTree
