import TemplateTree.Proofs.Host.View

/-!
# Requests while nobody acts

While nobody acts, what a host answers is what its view of the workspace has, and every request
keeps the workspace as far as later requests can tell. The same holds of requests that run together,
since each relies on no more than that the others keep the workspace. Main statements:
`resolve_alone`, `compileFile_alone` and `compileBatch_alone`.
-/

namespace TemplateTree.Host

open Process

variable {Store Agenda : Type} [Storage Store] (host : Host) {interrupt : Interrupt Store Agenda}
  {workspace : Workspace Store Agenda}

/-- A resolver among others lists the answers for the places of directive files. -/
theorem ensures_chain {resolver : Resolver} {invariant : Workspace Store Agenda → Prop}
    (calm : Workspace.Calm interrupt resolver.cache (Path.IsPlace resolver.directiveFilename)
      workspace invariant) (path : Path) (start : {now // invariant now}) :
    (resolver.chainSteps interrupt path).Ensures (.ofInvariant invariant)
      (fun _ result => result =
        match resolver.directivePaths path with
        | .error error => .error error
        | .ok places => listedAll (workspace.answer resolver.cache) places.reverse) 0 start := by
  rw [Resolver.chainSteps]
  cases found : resolver.directivePaths path with
  | error error => exact .pure fun _ _ => rfl
  | ok places =>
    exact calm.ensures_lookUpAll (fun place member =>
      Resolver.isPlace_of_directivePaths found (List.mem_reverse.1 member)) start

/-- While nobody acts, a resolver lists the answers for the places of directive files. -/
theorem chain_alone (idle : interrupt.Idle workspace.agenda) (resolver : Resolver) (path : Path) :
    (resolver.chain interrupt path workspace).1 =
        (match resolver.directivePaths path with
        | .error error => .error error
        | .ok places => listedAll (workspace.answer resolver.cache) places.reverse) ∧
      Workspace.Undisturbed resolver.cache (Path.IsPlace resolver.directiveFilename) workspace
        (resolver.chain interrupt path workspace).2 := by
  have calm := Workspace.calm_undisturbed idle resolver.cache
    fun _ _ (first : Path.IsPlace resolver.directiveFilename _) second =>
      first.eq_of_components second
  exact (ensures_chain calm path ⟨workspace, .refl ..⟩).run_invariant

/-- Among others that keep the workspace, a template that has been read is configured as the view
has it. -/
theorem ensures_configure (idle : interrupt.Idle workspace.agenda) {relative : Path}
    {template : Template} (read : (host.view workspace).template relative = .ok template)
    (start : {now // host.Keeps workspace now}) :
    (host.configureSteps interrupt (host.view workspace).resolver relative template).Ensures
      (.ofInvariant (host.Keeps workspace))
      (fun _ result => result = (host.view workspace).configuration host relative) 0 start := by
  have listed : (match (host.view workspace).resolver.directivePaths relative with
      | .error error => .error error
      | .ok places => listedAll (workspace.answer (host.view workspace).resolver.cache)
          places.reverse) = (host.view workspace).chain relative := by
    rewrite [View.chain, funext (host.view_answer workspace)]
    rfl
  rw [View.configuration, read]
  refine (ensures_chain (calm_keeps idle) relative start).andThen fun now chain _ known => ?_
  rw [known now (.refl now), listed]
  cases (host.view workspace).chain relative with
  | error error => exact .pure fun _ _ => rfl
  | ok files =>
    have warns : (.change (·.warn (Directive.warnings relative.text template.directives)) :
        Process (Workspace Store Agenda) Unit).Ensures
          (.ofInvariant (host.Keeps workspace)) (fun _ _ => True) 0 now :=
      .act_invariant fun now keeps =>
        ⟨trivial, keeps.trans (keeps_of_undisturbed (Workspace.undisturbed_warn ..))⟩
    exact warns.andThen fun _ _ _ _ => .pure fun _ _ => rfl

/-- While nobody acts, a template of the storage is configured as the view has it. -/
theorem resolve_alone (idle : interrupt.Idle workspace.agenda) (path : Path) :
    (host.resolve interrupt path workspace).1 = (host.view workspace).resolve host path ∧
      host.Keeps workspace (host.resolve interrupt path workspace).2 := by
  obtain ⟨storage, agenda⟩ := host.resolver_frame workspace
  have opened (relative : Path) :
      Workspace.openFile interrupt relative (host.resolver workspace).2 =
        ((host.view workspace).stream relative, (host.resolver workspace).2) := by
    rw [Workspace.openFile, idle relative _ agenda, storage]
    rfl
  have built : host.Keeps workspace (host.resolver workspace).2 := keeps_resolver workspace
  cases normal : (host.resolver workspace).1.normalize path with
  | error error =>
    have viewed : (host.view workspace).resolve host path = .error error := by
      rw [View.resolve, show (host.view workspace).resolver.normalize path = _ from normal]
    simp only [resolve, normal]
    exact ⟨viewed.symm, built⟩
  | ok relative =>
    have viewed : (host.view workspace).resolve host path =
        (host.view workspace).configuration host relative := by
      rw [View.resolve, show (host.view workspace).resolver.normalize path = _ from normal]
    have reads := (host.view workspace).reads_template relative
    rw [viewed]
    simp only [resolve, normal, opened]
    generalize made : (host.view workspace).template relative = result at reads
    cases reads with
    | unopened failed =>
      simp only [failed]
      exact ⟨by simp only [View.configuration, made], built⟩
    | undecoded source failed =>
      simp only [source, failed]
      exact ⟨by simp only [View.configuration, made], built⟩
    | malformed source decoded failed =>
      simp only [source, decoded, failed]
      exact ⟨by simp only [View.configuration, made], built⟩
    | read source decoded parsed =>
      simp only [source, decoded, parsed]
      exact (host.ensures_configure idle made ⟨_, built⟩).run_invariant

/-- Among others that keep the workspace, a template of the storage is compiled as the view has it.
-/
theorem ensures_compileFile (idle : interrupt.Idle workspace.agenda) (path : Path)
    (start : {now // host.Keeps workspace now}) :
    (host.compileFileSteps interrupt path).Ensures (.ofInvariant (host.Keeps workspace))
      (fun _ result => result = (host.view workspace).compileFile host path) 0 start := by
  have opens (relative : Path) : (Process.act (Workspace.openFile interrupt relative)).Ensures
      (.ofInvariant (host.Keeps workspace))
      (fun _ opened => opened = (host.view workspace).stream relative) 0 start := by
    refine .act_invariant fun now keeps => ?_
    rw [Workspace.openFile, idle relative now keeps.agenda, keeps.storage]
    exact ⟨rfl, keeps⟩
  have takes (start : {now // host.Keeps workspace now}) : (Process.act host.resolver).Ensures
      (.ofInvariant (host.Keeps workspace))
      (fun _ resolver => resolver = (host.view workspace).resolver) 0 start :=
    .act_invariant fun now keeps => ⟨keeps.resolver, keeps.trans (keeps_resolver now)⟩
  rw [compileFileSteps, View.compileFile]
  cases normal : Path.normalize host.root path with
  | error rejection => exact .pure fun _ _ => rfl
  | ok relative =>
    have again : (host.view workspace).resolver.normalize relative = .ok relative := by
      rw [Resolver.normalize, (Path.isNormal_of_normalize normal).normalize_eq]
    refine (opens relative).andThen fun now opened _ known => ?_
    rw [known now (.refl now)]
    have reads := (host.view workspace).reads_template relative
    generalize made : (host.view workspace).template relative = result at reads
    cases reads with
    | unopened failed =>
      simp only [failed, View.code, made]
      exact .pure fun _ _ => rfl
    | undecoded source failed =>
      simp only [source, compileSteps, Option.getD_some, failed, View.code, made]
      exact .pure fun _ _ => rfl
    | malformed source decoded failed =>
      simp only [source, compileSteps, Option.getD_some, decoded, compileAtSteps, View.code, made]
      refine (takes now).andThen fun later resolver _ known => ?_
      simp only [known later (.refl later), again, failed]
      exact .pure fun _ _ => rfl
    | read source decoded parsed =>
      simp only [source, compileSteps, Option.getD_some, decoded, compileAtSteps, View.code, made]
      refine (takes now).andThen fun later resolver _ known => ?_
      simp only [known later (.refl later), again, parsed]
      refine (host.ensures_configure idle made later).andThen fun last configured _ known => ?_
      rw [known last (.refl last)]
      cases (host.view workspace).configuration host relative <;> exact .pure fun _ _ => rfl

/-- While nobody acts, a template of the storage is compiled as the view has it. -/
theorem compileFile_alone (idle : interrupt.Idle workspace.agenda) (path : Path) :
    (host.compileFile interrupt path workspace).1 = (host.view workspace).compileFile host path ∧
      host.Keeps workspace (host.compileFile interrupt path workspace).2 :=
  (host.ensures_compileFile idle path ⟨workspace, .refl workspace⟩).run_invariant

/-- While nobody else acts, every template of a batch is compiled as if it were alone, in whatever
order the members take their steps. -/
theorem compileBatch_alone (idle : interrupt.Idle workspace.agenda) (schedule : List Nat)
    (paths : List Path) :
    (host.compileBatch interrupt schedule paths workspace).1 =
        paths.map (fun path => (path, (host.view workspace).compileFile host path)) ∧
      host.Keeps workspace (host.compileBatch interrupt schedule paths workspace).2 := by
  refine Ensured.together_invariant ⟨workspace, .refl workspace⟩ schedule fun path _ => ?_
  exact (host.ensures_compileFile idle path _).map fun _ _ _ fact => by rw [fact]

end TemplateTree.Host
