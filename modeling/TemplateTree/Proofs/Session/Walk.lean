import TemplateTree.Proofs.Path.Levels
import TemplateTree.Proofs.Session.EntryPoints

/-!
# The walk up the tree

A resolver looks up the places of directive files from the template upwards, up to the first
failure. Main statement: `chain_walks_upwards`, for sessions in which nothing has been put off, over
storages with any faults and caches with any content.
-/

namespace TemplateTree

/-- Where all answers are good, the files that are answers are listed in the opposite order. -/
theorem listedAll_of_forall_ok {File : Type} {answer : Path → Except CompileError (Option File)}
    {found : Path → Option File} {paths : List Path}
    (good : ∀ path ∈ paths, answer path = .ok (found path)) :
    listedAll answer paths = .ok (paths.reverse.filterMap found) := by
  induction paths with
  | nil => rfl
  | cons path rest inductionHypothesis =>
    obtain ⟨here, others⟩ := List.forall_mem_cons.1 good
    rw [listedAll, here, inductionHypothesis others, List.reverse_cons, List.filterMap_append, listed]
    cases file : found path <;> simp [file]

/-- A failure behind good answers is all that is listed. -/
theorem listedAll_concat_of_error {File : Type}
    {answer : Path → Except CompileError (Option File)} {paths : List Path} {place : Path}
    {error : CompileError} (good : ∀ path ∈ paths, ∃ found, answer path = .ok found)
    (fails : answer place = .error error) :
    listedAll answer (paths ++ [place]) = .error error := by
  induction paths with
  | nil => rw [List.nil_append, listedAll, fails, listed]
  | cons path rest inductionHypothesis =>
    obtain ⟨⟨found, here⟩, others⟩ := List.forall_mem_cons.1 good
    rw [List.cons_append, listedAll, here, inductionHypothesis others, listed]

/-- Where some answer is a failure, there is a last one. -/
theorem exists_last_failure {File : Type} {answer : Path → Except CompileError (Option File)}
    {places : List Path} (fails : ∃ place ∈ places, ∃ error, answer place = .error error) :
    ∃ above place below error, places = above ++ place :: below ∧ answer place = .error error ∧
      ∀ deeper ∈ below, ∃ found, answer deeper = .ok found := by
  induction places with
  | nil =>
    obtain ⟨place, member, -⟩ := fails
    cases member
  | cons first rest inductionHypothesis =>
    by_cases later : ∃ place ∈ rest, ∃ error, answer place = .error error
    · obtain ⟨above, place, below, error, rfl, failing⟩ := inductionHypothesis later
      exact ⟨first :: above, place, below, error, rfl, failing⟩
    · have good (deeper : Path) (member : deeper ∈ rest) : ∃ found, answer deeper = .ok found := by
        cases result : answer deeper with
        | ok found => exact ⟨found, rfl⟩
        | error error => exact absurd ⟨deeper, member, error, result⟩ later
      obtain ⟨place, member, error, failing⟩ := fails
      rcases List.mem_cons.1 member with rfl | inside
      · exact ⟨[], place, rest, error, rfl, failing, good⟩
      · exact absurd ⟨place, inside, error, failing⟩ later

namespace Resolver

variable {Store Agenda : Type} [Storage Store] {interrupt : Interrupt Store Agenda}

/-- Nothing is looked up behind a failure. -/
theorem lookUpAll_append_of_error {number : Nat} {workspace : Workspace Store Agenda}
    {first : List Path} {error : CompileError}
    (fails : (lookUpAll interrupt number workspace first).1 = .error error) (rest : List Path) :
    lookUpAll interrupt number workspace (first ++ rest) =
      lookUpAll interrupt number workspace first := by
  induction first generalizing workspace error with
  | nil => cases fails
  | cons path others inductionHypothesis =>
    rw [List.cons_append, lookUpAll_cons, lookUpAll_cons]
    rw [lookUpAll_eq_listed] at fails
    rcases looked : Workspace.lookUp interrupt number path workspace with ⟨_ | found, after⟩
    · rfl
    · rw [looked] at fails
      cases result : (lookUpAll interrupt number after others).1 with
      | ok files =>
        rw [result] at fails
        cases fails
      | error failure =>
        dsimp only
        rw [inductionHypothesis result]

/-- While nobody acts, lookups leave alone what caches keep under other paths. -/
theorem find?_lookUpAll {workspace : Workspace Store Agenda}
    (idle : interrupt.Idle workspace.agenda) {number : Nat} {paths : List Path} {place : Path}
    (apart : ∀ path ∈ paths, place.components ≠ path.components) (other : Nat) :
    ((lookUpAll interrupt number workspace paths).2.cache other).find? place =
      (workspace.cache other).find? place := by
  induction paths generalizing workspace with
  | nil => rfl
  | cons path rest inductionHypothesis =>
    obtain ⟨here, others⟩ := List.forall_mem_cons.1 apart
    have alone := Workspace.lookUp_alone idle number path
    have first := (alone.kept other place).resolve_right fun changed => here changed.2.1
    have later := inductionHypothesis (alone.agenda.symm ▸ idle) others
    rw [snd_lookUpAll_cons]
    split
    · exact first
    · exact later.trans first

end Resolver

namespace Session

/-- At every point of every session at which nothing has been put off, the directive files that may
apply to a template are those of its levels, from the root down and each deeper than the one before.
If they can all be looked up, the chain has those that are there, in this order. Otherwise it is the
failure of the deepest level that cannot be looked up, and the walk ends there: nothing changes in
the caches about the levels above. -/
theorem chain_walks_upwards (host : Host) {state : State} (settled : state.agenda.pending = [])
    {resolver : Resolver} (plain : Path.IsName resolver.directiveFilename) {path relative : Path}
    (normal : resolver.normalize path = .ok relative) {names : List String}
    (steps : relative.components = names.map .name) (depth : Nat) :
    let others := interruption host depth
    let lookUp (place : Path) := (Workspace.lookUp others resolver.cache place state).1
    let chain := resolver.chain others path state
    let levels := Path.levels names resolver.directiveFilename
    resolver.directivePaths path = .ok levels ∧
      (levels.Pairwise fun above below => above.components.length < below.components.length) ∧
      (levels.map (·.components)).Nodup ∧
      (∀ found : Path → Option DirectiveFile, (∀ place ∈ levels, lookUp place = .ok (found place)) →
        chain.1 = .ok (levels.filterMap found)) ∧
      ((∃ place ∈ levels, ∃ error, lookUp place = .error error) →
        ∃ above place below error, levels = above ++ place :: below ∧
          lookUp place = .error error ∧ (∀ deeper ∈ below, ∃ found, lookUp deeper = .ok found) ∧
          chain = Resolver.lookUpAll others resolver.cache state (place :: below).reverse ∧
          chain.1 = .error error ∧
          ∀ higher ∈ above, ∀ number,
            (chain.2.cache number).find? higher = (state.cache number).find? higher) := by
  intro others lookUp chain levels
  have idle : others.Idle state.agenda := idle_of_settled host depth settled
  obtain ⟨rfl, named⟩ := (Path.isNormal_of_normalize
    (Resolver.normalize_eq_ok_iff.1 normal)).eq_ofNames steps
  have deeper : levels.Pairwise fun above below =>
    above.components.length < below.components.length := Path.pairwise_levels named plain
  have listed : resolver.directivePaths path = .ok levels := by
    rw [Resolver.directivePaths, normal]
    exact congrArg Except.ok (Resolver.candidates_eq_levels named plain)
  have walked : chain = Resolver.lookUpAll others resolver.cache state levels.reverse := by
    simp only [chain, Resolver.chain_eq, listed]
  have answers : lookUp = state.answer resolver.cache := by
    funext place
    exact (Workspace.lookUp_alone idle resolver.cache place).answered
  have results {paths : List Path} (inside : ∀ place ∈ paths, place ∈ levels) :
      (Resolver.lookUpAll others resolver.cache state paths).1 = listedAll lookUp paths := by
    rw [answers]
    exact (Workspace.lookUpAll_alone idle resolver.cache
      (fun _ _ first second => first.eq_of_components second)
      fun place member => Resolver.isPlace_of_directivePaths listed (inside place member)).1
  refine ⟨listed, deeper, ?_, fun found good => ?_, fun fails => ?_⟩
  · rw [List.nodup_iff_pairwise_ne, List.pairwise_map]
    exact deeper.imp fun lower same => lower.ne (congrArg List.length same)
  · have good : ∀ place ∈ levels.reverse, lookUp place = .ok (found place) :=
      fun place member => good place (List.mem_reverse.1 member)
    rw [walked, results fun place => List.mem_reverse.1, listedAll_of_forall_ok good,
      List.reverse_reverse]
  · obtain ⟨above, place, below, error, split, failing, good⟩ := exists_last_failure fails
    have partly : (Resolver.lookUpAll others resolver.cache state (place :: below).reverse).1 =
        .error error := by
      have inside (other : Path) (member : other ∈ (place :: below).reverse) : other ∈ levels :=
        split ▸ List.mem_append_right above (List.mem_reverse.1 member)
      rw [results inside, List.reverse_cons]
      exact listedAll_concat_of_error
        (fun path member => good path (List.mem_reverse.1 member)) failing
    have ended : chain =
        Resolver.lookUpAll others resolver.cache state (place :: below).reverse := by
      rw [walked, split, List.reverse_append, Resolver.lookUpAll_append_of_error partly]
    refine ⟨above, place, below, error, split, failing, good, ended, ended ▸ partly, ?_⟩
    intro higher member number
    rw [ended]
    refine Resolver.find?_lookUpAll idle (fun path behind same => ?_) number
    rw [split] at deeper
    have lower := (List.pairwise_append.1 deeper).2.2 higher member path (List.mem_reverse.1 behind)
    exact lower.ne (congrArg List.length same)

/-- Above a level that the cache answers for and one that cannot be read, a malformed directive file
of which the cache has an old revision is not met. -/
theorem chain_walks_upwards_past_hit :
    let resolver : Resolver := ⟨⟨"templates"⟩, "_imports.tmpl", 0⟩
    let page : Path := ⟨"pages/old/view.tmpl"⟩
    let top : Path := ⟨"_imports.tmpl"⟩
    let middle : Path := ⟨"pages/_imports.tmpl"⟩
    let bottom : Path := ⟨"pages/old/_imports.tmpl"⟩
    let kept : State :=
      { start [(bottom, [64]), (middle, []), (top, [64, 109])] false with
        caches := [(Cache.empty.keep bottom ⟨1, 1⟩ {}).keep top ⟨7, 7⟩ {}] }
    let state := changeStorage (·.addFault middle .reading ⟨.timedOut, "slow"⟩) kept
    let chain := resolver.chain .none page state
    state.agenda.pending = [] ∧ Path.IsName resolver.directiveFilename ∧
      resolver.normalize page = .ok page ∧
      page.components = ["pages", "old", "view.tmpl"].map .name ∧
      resolver.directivePaths page = .ok [top, middle, bottom] ∧
      chain.1 = .error (.storage middle ⟨.timedOut, "slow"⟩) ∧
      (chain.2.cache 0).find? top = some ⟨⟨7, 7⟩, {}⟩ := by
  intro resolver page top middle bottom kept state chain
  have plain : Path.IsName resolver.directiveFilename := ⟨by decide +kernel, by decide +kernel⟩
  have normal : resolver.normalize page = .ok page := by decide +kernel
  have steps : page.components = ["pages", "old", "view.tmpl"].map .name := by decide +kernel
  have levels : Path.levels ["pages", "old", "view.tmpl"] resolver.directiveFilename =
      [top, middle, bottom] := by decide +kernel
  have hit : (Workspace.lookUp .none 0 bottom state).1 = .ok (some {}) := by decide +kernel
  have slow : (Workspace.lookUp .none 0 middle state).1 =
      .error (.storage middle ⟨.timedOut, "slow"⟩) := by decide +kernel
  have walk := @chain_walks_upwards { root := resolver.root } state rfl resolver plain page page
    normal _ steps 0
  rw [levels] at walk
  obtain ⟨listed, -, -, -, fails⟩ := walk
  obtain ⟨above, place, below, error, split, failing, good, -, result, same⟩ :=
    fails ⟨middle, by decide +kernel, _, slow⟩
  refine ⟨rfl, plain, normal, steps, listed, ?_⟩
  rcases above with _ | ⟨first, _ | ⟨second, _ | ⟨third, rest⟩⟩⟩ <;>
    simp only [List.nil_append, List.cons_append, List.cons.injEq] at split
  · obtain ⟨found, read⟩ := good middle (split.2 ▸ List.mem_cons_self)
    cases slow.symm.trans read
  · obtain ⟨rfl, rfl, rfl⟩ := split
    cases slow.symm.trans failing
    exact ⟨result, (same top List.mem_cons_self 0).trans (by decide +kernel)⟩
  · obtain ⟨-, -, rfl, -⟩ := split
    cases hit.symm.trans failing
  · simp at split

end Session

end TemplateTree
