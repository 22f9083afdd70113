import TemplateTree.Host
import TemplateTree.Proofs.Path.Places
import TemplateTree.Proofs.Workspace.Alone

/-!
# What a host learns from a workspace

While nobody acts, the results of a host depend on its `View` of the workspace only: on the tree of
the resolver in use, on the contents in the storage, and on the answers of lookups. `View.Agrees` is
all that two views must share for a template to come out alike, and `Keeps` says of a request that
afterwards every template comes out as it did before.
-/

namespace TemplateTree

variable {Store Agenda : Type}

namespace Host

variable (host : Host)

theorem resolver_frame (workspace : Workspace Store Agenda) :
    (host.resolver workspace).2.storage = workspace.storage ∧
      (host.resolver workspace).2.agenda = workspace.agenda := by
  cases installed : workspace.installed <;>
    simp [Host.resolver, Workspace.addResolver, installed]

theorem installed_resolver (workspace : Workspace Store Agenda) :
    (host.resolver workspace).2.installed = some (host.resolver workspace).1 := by
  cases installed : workspace.installed <;>
    simp [Host.resolver, Workspace.addResolver, installed]

theorem resolver_of_installed {workspace : Workspace Store Agenda} {resolver : Resolver}
    (installed : workspace.installed = some resolver) :
    host.resolver workspace = (resolver, workspace) := by
  rw [Host.resolver, installed]

theorem cache_resolver (workspace : Workspace Store Agenda) (number : Nat) :
    (host.resolver workspace).2.cache number = workspace.cache number := by
  rw [resolver]
  cases workspace.installed with
  | some resolver => rfl
  | none => exact Workspace.cache_addResolver workspace host.root host.directiveFilename number

/-- The resolver that is taken, and the caches there are then, depend on the caches before and on
the resolver in use. -/
theorem resolver_congr {Other Kept : Type} {first : Workspace Store Agenda}
    {second : Workspace Other Kept} (caches : second.caches = first.caches)
    (installed : second.installed = first.installed) :
    (host.resolver second).1 = (host.resolver first).1 ∧
      (host.resolver second).2.caches = (host.resolver first).2.caches := by
  rw [resolver, resolver, installed, Workspace.addResolver, Workspace.addResolver, caches]
  cases first.installed with
  | none => exact ⟨rfl, rfl⟩
  | some resolver => exact ⟨rfl, caches⟩

/-- What a host can learn from a workspace while nobody acts. -/
structure View where
  resolver : Resolver
  stream : Path → Except IoError Stream
  answer : Path → Except CompileError (Option DirectiveFile)

namespace View

/-- The directive files that apply to a template. -/
def chain (view : View) (path : Path) : Except CompileError (List DirectiveFile) :=
  match view.resolver.directivePaths path with
  | .error error => .error error
  | .ok places => listedAll view.answer places.reverse

/-- The template at a normal path. -/
def template (view : View) (relative : Path) : Except CompileError Template :=
  match view.stream relative with
  | .error error => .error (.storage relative error)
  | .ok source =>
    match readSource relative source with
    | .error error => .error error
    | .ok text => parse relative text

/-- The configuration of the template at a normal path. -/
def configuration (view : View) (host : Host) (relative : Path) :
    Except CompileError Configuration :=
  match view.template relative with
  | .error error => .error error
  | .ok template =>
    (view.chain relative).map fun files =>
      .merge (files.map (·.declarations)) (.ofDirectives template.directives) host.defaults

/-- The code of the template at a normal path. -/
def code (view : View) (host : Host) (relative : Path) : Except CompileError Code :=
  match view.template relative with
  | .error error => .error error
  | .ok template =>
    (view.configuration host relative).map fun configuration =>
      host.generate configuration (host.className relative) template

/-- The configuration of the template at a path. -/
def resolve (view : View) (host : Host) (path : Path) : Except CompileError Configuration :=
  match view.resolver.normalize path with
  | .error error => .error error
  | .ok relative => view.configuration host relative

/-- The code of the template at a path. -/
def compileFile (view : View) (host : Host) (path : Path) : Except CompileError Code :=
  match Path.normalize host.root path with
  | .error rejection => .error (.invalidArgument (.rejected rejection host.root path))
  | .ok relative => view.code host relative

/-- The courses that reading the template at a path can take. -/
inductive Reads (view : View) (relative : Path) : Except CompileError Template → Prop where
  | unopened {error} (opened : view.stream relative = .error error) :
      Reads view relative (.error (.storage relative error))
  | undecoded {source error} (opened : view.stream relative = .ok source)
      (decoded : readSource relative source = .error error) : Reads view relative (.error error)
  | malformed {source text error} (opened : view.stream relative = .ok source)
      (decoded : readSource relative source = .ok text)
      (parsed : parse relative text = .error error) : Reads view relative (.error error)
  | read {source text template} (opened : view.stream relative = .ok source)
      (decoded : readSource relative source = .ok text)
      (parsed : parse relative text = .ok template) : Reads view relative (.ok template)

/-- Reading a template takes one of these courses. -/
theorem reads_template (view : View) (relative : Path) :
    view.Reads relative (view.template relative) := by
  rw [View.template]
  split
  · next opened => exact .unopened opened
  · next opened =>
    split
    · next decoded => exact .undecoded opened decoded
    · next decoded =>
      cases parsed : parse relative _ with
      | error error => exact .malformed opened decoded parsed
      | ok template => exact .read opened decoded parsed

/-- A template is made from the bytes of its file, decoded and read. -/
theorem exists_of_template_eq_ok {view : View} {relative : Path} {template : Template}
    (made : view.template relative = .ok template) :
    ∃ source bytes text, view.stream relative = .ok source ∧ source.content = .ok bytes ∧
      Text.Utf8.decode? bytes = some text ∧ Template.parse text = .ok template := by
  have reads := view.reads_template relative
  rw [made] at reads
  cases reads with
  | @read source text _ opened decoded parsed =>
    rw [readSource] at decoded
    split at decoded
    · cases decoded
    · next bytes content =>
      split at decoded
      · next found =>
        cases decoded
        rw [parse] at parsed
        split at parsed
        · next made =>
          cases parsed
          exact ⟨source, bytes, text, opened, content, found, made⟩
        · cases parsed
      · cases decoded

/-- Where there is a configuration, it has been made for a template, and the code is that of this
template under this configuration. -/
theorem code_of_configuration {view : View} {host : Host} {relative : Path}
    {configuration : Configuration}
    (configured : view.configuration host relative = .ok configuration) :
    ∃ template, view.template relative = .ok template ∧
      view.code host relative =
        .ok (host.generate configuration (host.className relative) template) := by
  cases read : view.template relative with
  | error error =>
    rw [View.configuration, read] at configured
    cases configured
  | ok template =>
    refine ⟨template, rfl, ?_⟩
    rw [code, read, configured]
    rfl

/-- Code fails to be made for the reason for which there is no configuration, and for no other. -/
theorem code_eq_error_iff {view : View} {host : Host} {relative : Path} {error : CompileError} :
    view.code host relative = .error error ↔ view.configuration host relative = .error error := by
  cases configured : view.configuration host relative with
  | ok configuration =>
    obtain ⟨template, -, generated⟩ := code_of_configuration configured
    simp [generated]
  | error failure =>
    cases read : view.template relative with
    | error failure =>
      rw [View.configuration, read] at configured
      cases configured
      simp only [code, read, Except.error.injEq]
    | ok template =>
      rw [code, read, configured]
      simp [Except.map]

/-- Two views in which the template at a normal path comes out alike: its file, the places of the
directive files that apply to it, and what is found there are the same. -/
structure Agrees (relative : Path) (first second : View) : Prop where
  root : second.resolver.root = first.resolver.root
  directiveFilename : second.resolver.directiveFilename = first.resolver.directiveFilename
  stream : second.stream relative = first.stream relative
  answers : ∀ place ∈ Resolver.candidates first.resolver.directiveFilename relative,
    second.answer place = first.answer place

variable {relative path : Path} {first second third : View}

theorem Agrees.refl (relative : Path) (view : View) : Agrees relative view view :=
  ⟨rfl, rfl, rfl, fun _ _ => rfl⟩

/-- What agrees with a view that agrees with another agrees with that one. -/
theorem Agrees.trans (one : Agrees relative first second) (two : Agrees relative second third) :
    Agrees relative first third where
  root := two.root.trans one.root
  directiveFilename := two.directiveFilename.trans one.directiveFilename
  stream := two.stream.trans one.stream
  answers place member :=
    (two.answers place (one.directiveFilename ▸ member)).trans (one.answers place member)

theorem Agrees.normalize_eq (agrees : Agrees relative first second) (path : Path) :
    second.resolver.normalize path = first.resolver.normalize path := by
  rw [Resolver.normalize, Resolver.normalize, agrees.root]

/-- The same directive files apply to the template. -/
theorem Agrees.chain_eq (agrees : Agrees relative first second)
    (normal : first.resolver.normalize path = .ok relative) :
    second.chain path = first.chain path := by
  have places (view : View) (here : view.resolver.normalize path = .ok relative) :
      view.chain path = listedAll view.answer
        (Resolver.candidates view.resolver.directiveFilename relative).reverse := by
    rw [chain, Resolver.directivePaths, here]
  rw [places second (agrees.normalize_eq path ▸ normal), places first normal,
    agrees.directiveFilename]
  exact listedAll_congr fun place member => agrees.answers place (List.mem_reverse.1 member)

theorem Agrees.template_eq (agrees : Agrees relative first second) :
    second.template relative = first.template relative := by
  rw [template, template, agrees.stream]

theorem Agrees.configuration_eq (agrees : Agrees relative first second) (normal : relative.IsNormal)
    (host : Host) : second.configuration host relative = first.configuration host relative := by
  have here : first.resolver.normalize relative = .ok relative := by
    rw [Resolver.normalize, normal.normalize_eq]
  rw [configuration, configuration, agrees.template_eq, agrees.chain_eq here]

theorem Agrees.code_eq (agrees : Agrees relative first second) (normal : relative.IsNormal)
    (host : Host) : second.code host relative = first.code host relative := by
  rw [code, code, agrees.template_eq, agrees.configuration_eq normal]

end View

variable [Storage Store]

/-- The view of a workspace. A resolver is built for it if there is none. -/
def view (workspace : Workspace Store Agenda) : View where
  resolver := (host.resolver workspace).1
  stream := Storage.stream workspace.storage
  answer := (host.resolver workspace).2.answer (host.resolver workspace).1.cache

/-- A request has left a workspace as it was, apart from what the caches keep, and the places of
directive files are answered as before. -/
structure Keeps (before after : Workspace Store Agenda) : Prop where
  agenda : after.agenda = before.agenda
  storage : after.storage = before.storage
  resolver : (host.view after).resolver = (host.view before).resolver
  answers : ∀ place : Path, place.IsPlace (host.view before).resolver.directiveFilename →
    (host.view after).answer place = (host.view before).answer place

variable {host} {before middle after : Workspace Store Agenda}

/-- What is kept twice is kept altogether. -/
theorem Keeps.trans (first : host.Keeps before middle) (second : host.Keeps middle after) :
    host.Keeps before after where
  agenda := second.agenda.trans first.agenda
  storage := second.storage.trans first.storage
  resolver := second.resolver.trans first.resolver
  answers place inside :=
    (second.answers place (first.resolver.symm ▸ inside)).trans (first.answers place inside)

/-- Every template comes out alike from a workspace that has been kept. -/
theorem Keeps.agrees (keeps : host.Keeps before after) {relative : Path}
    (normal : relative.IsNormal) :
    View.Agrees relative (host.view before) (host.view after) where
  root := by rw [keeps.resolver]
  directiveFilename := by rw [keeps.resolver]
  stream := by rw [view, view, keeps.storage]
  answers place member := keeps.answers place (Resolver.isPlace_of_mem_candidates normal member)

theorem Keeps.refl (workspace : Workspace Store Agenda) : host.Keeps workspace workspace :=
  ⟨rfl, rfl, rfl, fun _ _ => rfl⟩

theorem view_answer (workspace : Workspace Store Agenda) (place : Path) :
    (host.view workspace).answer place =
      workspace.answer (host.view workspace).resolver.cache place := by
  simp only [view, Workspace.answer, (host.resolver_frame workspace).1, host.cache_resolver]

theorem keeps_resolver (workspace : Workspace Store Agenda) :
    host.Keeps workspace (host.resolver workspace).2 := by
  obtain ⟨storage, agenda⟩ := host.resolver_frame workspace
  have again : host.resolver (host.resolver workspace).2 = host.resolver workspace :=
    host.resolver_of_installed (host.installed_resolver workspace)
  refine ⟨agenda, storage, ?_, fun place _ => ?_⟩ <;> rw [view, view, again]

/-- A workspace is kept if no lookup is disturbed. -/
theorem keeps_of_undisturbed
    (undisturbed : Workspace.Undisturbed (host.view before).resolver.cache
      (Path.IsPlace (host.view before).resolver.directiveFilename) before after) :
    host.Keeps before after := by
  have same : (host.view after).resolver = (host.view before).resolver := by
    simp only [view, resolver, undisturbed.installed, Workspace.addResolver, undisturbed.caches]
    cases before.installed <;> rfl
  refine ⟨undisturbed.agenda, undisturbed.storage, same, fun place inside => ?_⟩
  rw [view_answer, view_answer, same]
  exact undisturbed.answers place inside

/-- Lookups that go on in a workspace as long as it is kept are all answered by it. -/
theorem calm_keeps {interrupt : Interrupt Store Agenda} {workspace : Workspace Store Agenda}
    (idle : interrupt.Idle workspace.agenda) :
    Workspace.Calm interrupt (host.view workspace).resolver.cache
      (Path.IsPlace (host.view workspace).resolver.directiveFilename) workspace
      (host.Keeps workspace) where
  idle := idle
  once _ _ first second := first.eq_of_components second
  agenda := Keeps.agenda
  storage := Keeps.storage
  answers keeps place inside := by
    have same := keeps.answers place inside
    rwa [view_answer, view_answer, keeps.resolver] at same
  undisturbed keeps undisturbed :=
    keeps.trans (keeps_of_undisturbed (keeps.resolver.symm ▸ undisturbed))

end Host

end TemplateTree
