import TemplateTree.Proofs.Configuration.Inherited
import TemplateTree.Proofs.Path.Within
import TemplateTree.Proofs.Session.Scope
import TemplateTree.Proofs.Session.Walk

/-!
# Inheritance down the tree

The directive files that apply to a template also apply to every template in its directory and below
it, and come first there. Main statement: `inheritance_grows_downwards`, for any two templates at
any point of a session at which nothing has been put off.
-/

namespace TemplateTree

namespace Path

variable {directiveFilename file last : String} {above : List String}

/-- A file name of one ordinary component stands behind the names of its directory. -/
theorem components_join_of_ordinary (named : ∀ name ∈ above, IsName name)
    (ordinary : (Path.mk directiveFilename).components = [.name file]) :
    ((ofNames above).join ⟨directiveFilename⟩).components = (above ++ [file]).map .name := by
  cases above with
  | nil => rw [join_ofNames_nil, ordinary, List.nil_append, List.map_singleton]
  | cons first rest =>
    have relative : (Path.mk directiveFilename).isAbsolute = false := by
      rw [← Bool.not_eq_true, ← root_mem_components_iff, ordinary]
      simp
    have plain : (pieces directiveFilename.toList).filterMap component? = [.name file] := by
      rcases components_eq_or _ relative with plain | dotted
      · exact plain.symm.trans ordinary
      · cases dotted.symm.trans ordinary
    rw [components_join_ofNames (List.cons_ne_nil first rest) named relative, plain,
      List.map_append, List.map_singleton]

theorem dropLast_inits_concat (above : List String) (last : String) :
    (above ++ [last]).inits.dropLast = above.inits := by
  simp [List.inits_append]

end Path

namespace Resolver

variable {directiveFilename file last : String} {above : List String}

/-- Directive files of an ordinary name may apply from every directory to a template that has not
this name. -/
theorem candidates_concat (named : ∀ name ∈ above ++ [last], Path.IsName name)
    (ordinary : (Path.mk directiveFilename).components = [.name file]) (other : last ≠ file) :
    candidates directiveFilename (Path.ofNames (above ++ [last])) =
      above.inits.map fun names => (Path.ofNames names).join ⟨directiveFilename⟩ := by
  rw [candidates_ofNames named, Path.dropLast_inits_concat, List.filter_eq_self]
  intro place member
  obtain ⟨names, begins, rfl⟩ := List.mem_map.1 member
  have inside := (List.mem_inits names above).1 begins
  have here (name : String) (within : name ∈ names) : Path.IsName name :=
    named name (List.mem_append_left [last] (inside.mem within))
  rw [Path.components_join_of_ordinary here ordinary, decide_eq_true_eq, List.map_append,
    List.map_append]
  intro same
  have ends := (List.append_inj' same rfl).2
  simp only [List.map_cons, List.map_nil, List.cons.injEq, Path.Component.name.injEq, and_true] at ends
  exact other ends.symm

/-- So a resolver looks for them in every directory above such a template. -/
theorem directivePaths_concat {resolver : Resolver} {path : Path} (normal : path.IsNormal)
    (steps : path.components = (above ++ [last]).map .name)
    (ordinary : (Path.mk resolver.directiveFilename).components = [.name file])
    (other : last ≠ file) :
    resolver.directivePaths path =
      .ok (above.inits.map fun names =>
        (Path.ofNames names).join ⟨resolver.directiveFilename⟩) := by
  obtain ⟨rfl, named⟩ := normal.eq_ofNames steps
  rw [directivePaths, normalize_eq_ok_iff.2 (normal.normalize_eq _)]
  exact congrArg Except.ok (candidates_concat named ordinary other)

end Resolver

/-- What is listed for two lots of paths is listed for each of them, the second lot in front. -/
theorem exists_of_listedAll_append {File : Type} {answer : Path → Except CompileError (Option File)}
    {first rest : List Path} {files : List File}
    (listing : listedAll answer (first ++ rest) = .ok files) :
    ∃ early late, listedAll answer rest = .ok early ∧ listedAll answer first = .ok late ∧
      files = early ++ late := by
  induction first generalizing files with
  | nil => exact ⟨files, [], listing, rfl, (List.append_nil files).symm⟩
  | cons path others inductionHypothesis =>
    rw [List.cons_append, listedAll] at listing
    rw [listedAll]
    cases found : answer path with
    | error error =>
      rw [found] at listing
      cases listing
    | ok file =>
      cases remaining : listedAll answer (others ++ rest) with
      | error error =>
        rw [found, remaining] at listing
        cases listing
      | ok more =>
        rw [found, remaining] at listing
        cases listing
        obtain ⟨early, late, before, behind, rfl⟩ := inductionHypothesis remaining
        exact ⟨early, late ++ file.toList, before, by rw [behind, listed], List.append_assoc ..⟩

/-- What is listed is what was found at each of the paths. -/
theorem exists_of_listedAll {File : Type} {answer : Path → Except CompileError (Option File)}
    {paths : List Path} {files : List File} (listing : listedAll answer paths = .ok files) :
    ∃ found : Path → Option File,
      (∀ path ∈ paths, answer path = .ok (found path)) ∧ files = paths.reverse.filterMap found := by
  have good : ∀ path ∈ paths, answer path = .ok (answer path).toOption.join := by
    intro path member
    obtain ⟨before, behind, rfl⟩ := List.append_of_mem member
    obtain ⟨early, -, others, -⟩ := exists_of_listedAll_append listing
    rw [listedAll] at others
    cases answered : answer path with
    | error error =>
      rw [answered] at others
      cases others
    | ok file => rfl
  refine ⟨_, good, ?_⟩
  rw [listedAll_of_forall_ok good, Except.ok.injEq] at listing
  exact listing.symm

namespace Resolver

variable {Store Agenda : Type} [Storage Store] {interrupt : Interrupt Store Agenda}
  {workspace after : Workspace Store Agenda}

/-- While nobody acts, where further places are looked up behind shared ones, what is found there is
listed behind what the shared ones have, now or afterwards. -/
theorem exists_of_chain (idle : interrupt.Idle workspace.agenda) {resolver : Resolver}
    {upper lower : Path} {shared between : List Path}
    (high : resolver.directivePaths upper = .ok shared)
    (low : resolver.directivePaths lower = .ok (shared ++ between)) {files : List DirectiveFile}
    (chained : resolver.chain interrupt lower workspace = (.ok files, after)) :
    ∃ inherited found,
      (resolver.chain interrupt upper workspace).1 = .ok inherited ∧
        (resolver.chain interrupt upper after).1 = .ok inherited ∧
        (∀ place ∈ between,
          (Workspace.lookUp interrupt resolver.cache place workspace).1 = .ok (found place)) ∧
        files = inherited ++ between.filterMap found := by
  obtain ⟨listing, undisturbed⟩ := Host.chain_alone idle resolver lower
  rw [chained] at listing undisturbed
  rw [low] at listing
  dsimp only at listing
  rw [List.reverse_append] at listing
  obtain ⟨inherited, deeper, early, late, rfl⟩ := exists_of_listedAll_append listing.symm
  obtain ⟨found, good, rfl⟩ := exists_of_listedAll late
  have before := (Host.chain_alone idle resolver upper).1
  have later := (Host.chain_alone (undisturbed.agenda.symm ▸ idle) resolver upper).1
  have same : listedAll (after.answer resolver.cache) shared.reverse =
      listedAll (workspace.answer resolver.cache) shared.reverse :=
    listedAll_congr fun place member => undisturbed.answers place
      (isPlace_of_directivePaths high (List.mem_reverse.1 member))
  rw [high] at before later
  refine ⟨inherited, found, before.trans early, later.trans (same.trans early),
    fun place member => ?_, by rw [List.reverse_reverse]⟩
  rw [(Workspace.lookUp_alone idle resolver.cache place).answered]
  exact good place (List.mem_reverse.2 member)

end Resolver

/-- The template that a storage has at a path, as it is read. -/
def Storage.HasTemplate {Store : Type} [Storage Store] (store : Store) (path : Path)
    (template : Template) : Prop :=
  ∃ bytes text, content store path = .ok bytes ∧ Text.Utf8.decode? bytes = some text ∧
    Template.parse text = .ok template

namespace Host

variable {Store Agenda : Type} [Storage Store] {host : Host} {workspace : Workspace Store Agenda}
  {relative : Path} {template : Template}

/-- A host reads the template that the storage has. -/
theorem template_view_of_hasTemplate
    (stored : Storage.HasTemplate workspace.storage relative template) :
    (host.view workspace).template relative = .ok template := by
  obtain ⟨bytes, text, read, decoded, parsed⟩ := stored
  have opened : (host.view workspace).stream relative = .ok ⟨bytes, none⟩ :=
    Storage.stream_of_content read
  simp only [View.template, opened, readSource, Stream.content, decoded, parse, parsed]

/-- A resolver that is built for a lookup answers as one that has kept nothing. -/
theorem answer_view (place : Path) :
    (host.view workspace).answer place = workspace.answer (host.resolver workspace).1.cache place := by
  change (host.resolver workspace).2.answer _ place = _
  rw [Workspace.answer, Workspace.answer, (host.resolver_frame workspace).1]
  cases installed : workspace.installed with
  | some resolver => rw [host.resolver_of_installed installed]
  | none =>
    simp [resolver, installed, Workspace.addResolver, Workspace.cache]

/-- A template that has been read is configured by the files that apply to it. -/
theorem resolve_of_chain {interrupt : Interrupt Store Agenda}
    (idle : interrupt.Idle workspace.agenda) (normal : relative.IsNormal)
    (stored : Storage.HasTemplate workspace.storage relative template)
    {files : List DirectiveFile}
    (applies : ((host.resolver workspace).1.chain interrupt relative workspace).1 = .ok files) :
    (host.resolve interrupt relative workspace).1 =
      .ok (.merge (files.map (·.declarations)) (.ofDirectives template.directives)
        host.defaults) := by
  have within : (host.view workspace).resolver.normalize relative = .ok relative :=
    Resolver.normalize_eq_ok_iff.2 (normal.normalize_eq _)
  have answers : (host.view workspace).answer =
      workspace.answer (host.resolver workspace).1.cache :=
    funext fun place => answer_view place
  have chain : (host.view workspace).chain relative = .ok files := by
    rw [View.chain, answers, ← applies, (chain_alone idle _ relative).1]
    rfl
  rw [(host.resolve_alone idle relative).1, View.resolve, within]
  simp only [View.configuration, template_view_of_hasTemplate stored, chain, Except.map]

end Host

namespace Session

/-- At every point of every session at which nothing has been put off, the directive files that
apply to a template come first among those that apply to any template in its directory or below it;
the others have been found in the directories between. They are the same if they are asked for
afterwards. If both templates are there and can be read, what the first one imports stays at the
front unless it has imports of its own, and its model type and its base type are passed on where
neither of the two templates nor any file between declares one. Where nothing has been kept and
nothing fails, the files found are those in the storage. -/
theorem inheritance_grows_downwards (host : Host) {state : State}
    (settled : state.agenda.pending = []) {resolver : Resolver} {file : String}
    (ordinary : (Path.mk resolver.directiveFilename).components = [.name file])
    {outer inner : List String} {first second : String} {upper lower : Path}
    (high : upper.IsNormal) (above : upper.components = (outer ++ [first]).map .name)
    (low : lower.IsNormal) (below : lower.components = (outer ++ inner ++ [second]).map .name)
    (other : first ≠ file) (another : second ≠ file) (depth : Nat) :
    let others := interruption host depth
    let lookUp (place : Path) := (Workspace.lookUp others resolver.cache place state).1
    let between := inner.inits.tail.map fun way =>
      (Path.ofNames (outer ++ way)).join ⟨resolver.directiveFilename⟩
    let silent (setting : Declarations → Option String) :=
      ∀ place ∈ between, ∀ found, lookUp place = .ok (some found) →
        setting found.declarations = none
    (∀ files after, resolver.chain others lower state = (.ok files, after) →
      ∃ inherited found,
        (resolver.chain others upper state).1 = .ok inherited ∧
        (resolver.chain others upper after).1 = .ok inherited ∧
        (∀ place ∈ between, lookUp place = .ok (found place)) ∧
        files = inherited ++ between.filterMap found ∧
        ((host.resolver state).1 = resolver →
          ∀ template deeper, Storage.HasTemplate state.storage upper template →
            Storage.HasTemplate state.storage lower deeper →
            ∃ configuration further,
              (host.resolve others upper state).1 = .ok configuration ∧
              (host.resolve others lower state).1 = .ok further ∧
              (Directive.argumentsOf .namespaceImport template.directives = [] →
                configuration.namespaces <+: further.namespaces) ∧
              (Directive.argumentsOf .modelType template.directives = [] →
                Directive.argumentsOf .modelType deeper.directives = [] → silent (·.modelType) →
                further.modelType = configuration.modelType) ∧
              (Directive.argumentsOf .baseType template.directives = [] →
                Directive.argumentsOf .baseType deeper.directives = [] → silent (·.baseType) →
                further.baseTypeTemplate = configuration.baseTypeTemplate))) ∧
    (state.storage.Faultless → (∀ place, (state.cache resolver.cache).find? place = none) →
      ∀ place, lookUp place = state.storage.directiveFile place) := by
  intro others lookUp between silent
  have idle : others.Idle state.agenda := idle_of_settled host depth settled
  have answers : lookUp = state.answer resolver.cache := by
    funext place
    exact (Workspace.lookUp_alone idle resolver.cache place).answered
  have shared := Resolver.directivePaths_concat high above ordinary other
  have all := Resolver.directivePaths_concat low below ordinary another
  rw [List.inits_append, List.map_append, List.map_map] at all
  refine ⟨fun files after chained => ?_, fun faultless unread place => ?_⟩
  · obtain ⟨inherited, found, before, later, good, rfl⟩ :=
      Resolver.exists_of_chain idle shared all chained
    have passed (setting : Declarations → Option String) (nowhere : silent setting) :
        ∀ declared ∈ (between.filterMap found).map (·.declarations), setting declared = none := by
      intro declared member
      obtain ⟨file, inside, rfl⟩ := List.mem_map.1 member
      obtain ⟨place, between, there⟩ := List.mem_filterMap.1 inside
      exact nowhere place between file (there ▸ good place between)
    refine ⟨inherited, found, before, later, good, rfl, ?_⟩
    rintro rfl template deeper stored kept
    refine ⟨_, _, Host.resolve_of_chain idle high stored before,
      Host.resolve_of_chain idle low kept (congrArg Prod.fst chained), ?_, ?_, ?_⟩
    all_goals rw [List.map_append]
    · intro absent
      exact Configuration.namespaces_prefix_merge (Declarations.namespaces_ofDirectives absent)
    · intro absent missing nowhere
      exact Configuration.modelType_merge (Declarations.modelType_ofDirectives absent)
        (Declarations.modelType_ofDirectives missing) (passed (·.modelType) nowhere)
    · intro absent missing nowhere
      exact Configuration.baseTypeTemplate_merge (Declarations.baseType_ofDirectives absent)
        (Declarations.baseType_ofDirectives missing) (passed (·.baseType) nowhere)
  · rw [answers, Workspace.answer, unread, faultless.answer_eq]

/-- Two directories below a page, the imports of the page come first although one of them is
repeated in between, and the model type of the page is passed on although the base type is not. -/
theorem inheritance_grows_downwards_below_page :
    let host : Host := { root := ⟨"templates"⟩ }
    let upper : Path := ⟨"pages/page.tmpl"⟩
    let lower : Path := ⟨"pages/old/more/view.tmpl"⟩
    let state := start [(⟨"_imports.tmpl"⟩, "@using A\n@model M".toUTF8.toList),
      (⟨"pages/old/_imports.tmpl"⟩, "@using B\n@using A\n@inherits P".toUTF8.toList),
      (upper, "x".toUTF8.toList), (lower, "@using C\ny".toUTF8.toList)] true
    let resolver := (host.resolver state).1
    state.agenda.pending = [] ∧
      (Path.mk resolver.directiveFilename).components = [.name "_imports.tmpl"] ∧
      upper.IsNormal ∧ upper.components = (["pages"] ++ ["page.tmpl"]).map .name ∧
      lower.IsNormal ∧
      lower.components = (["pages"] ++ ["old", "more"] ++ ["view.tmpl"]).map .name ∧
      ∃ inherited files configuration further,
        (resolver.chain .none upper state).1 = .ok inherited ∧
        (resolver.chain .none lower state).1 = .ok files ∧ inherited <+: files ∧
        (host.resolve .none upper state).1 = .ok configuration ∧
        (host.resolve .none lower state).1 = .ok further ∧
        configuration.namespaces <+: further.namespaces ∧
        further.modelType = configuration.modelType := by
  intro host upper lower state resolver
  have ordinary : (Path.mk resolver.directiveFilename).components = [.name "_imports.tmpl"] := by
    decide +kernel
  have high : upper.IsNormal := Path.isNormal_of_normalize (by decide +kernel :
    Path.normalize host.root upper = .ok upper)
  have above : upper.components = (["pages"] ++ ["page.tmpl"]).map .name := by decide +kernel
  have low : lower.IsNormal := Path.isNormal_of_normalize (by decide +kernel :
    Path.normalize host.root lower = .ok lower)
  have below : lower.components = (["pages"] ++ ["old", "more"] ++ ["view.tmpl"]).map .name := by
    decide +kernel
  have read : (resolver.chain .none lower state).1.isOk = true := by decide +kernel
  obtain ⟨⟨_ | files, after⟩, chained⟩ :
      ∃ result, resolver.chain .none lower state = result := ⟨_, rfl⟩
  · rw [chained] at read
    cases read
  have stored : Storage.HasTemplate state.storage upper ⟨[.literal "x"]⟩ :=
    ⟨"x".toUTF8.toList, "x".toList, by decide +kernel, by decide +kernel, by decide +kernel⟩
  have kept : Storage.HasTemplate state.storage lower
      ⟨[.directive ⟨.namespaceImport, "C"⟩, .literal "y"]⟩ :=
    ⟨"@using C\ny".toUTF8.toList, "@using C\ny".toList, by decide +kernel, by decide +kernel,
      by decide +kernel⟩
  have silent : ∀ place ∈ (["old", "more"].inits.tail.map fun way =>
      (Path.ofNames (["pages"] ++ way)).join ⟨resolver.directiveFilename⟩),
      ((Workspace.lookUp .none resolver.cache place state).1.toOption.join.bind
        (·.declarations.modelType)) = none := by
    decide +kernel
  obtain ⟨grows, -⟩ := @inheritance_grows_downwards host state rfl resolver _ ordinary _ _ _ _ upper
    lower high above low below (by decide) (by decide) 0
  obtain ⟨inherited, found, before, -, -, rfl, configured⟩ := grows files after chained
  obtain ⟨configuration, further, one, two, imports, modelType, -⟩ :=
    configured rfl _ _ stored kept
  refine ⟨rfl, ordinary, high, above, low, below, inherited, _, configuration, further, before,
    congrArg Prod.fst chained, List.prefix_append _ _, one, two, imports rfl,
    modelType rfl rfl fun place member file there => ?_⟩
  have nothing := silent place member
  have answered : (Workspace.lookUp .none resolver.cache place state).1 = .ok (some file) := there
  rw [answered] at nothing
  exact nothing

end Session

end TemplateTree
