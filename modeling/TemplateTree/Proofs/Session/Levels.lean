import TemplateTree.Proofs.Session.BaseClass
import TemplateTree.Proofs.Session.Inheritance

/-!
# What is listed for a template and what it is compiled with

The levels of a template are listed from the storage, and the directive files that apply to it come
out of a cache. Main statement: `chain_eq_levels`, that while nobody acts and the storage does not
fail, the levels marked are those of the files, at every point of every session.
-/

namespace TemplateTree

/-- What the files of this name mean in each of the directories from the root down to that of a
template, without the template itself. -/
def Path.locationsAbove (names : List String) (file : String) : List Path.Location :=
  ((List.range names.length).map fun depth =>
    (names.take depth ++ [file]).map Path.Component.name).filter (· ≠ names.map .name)

/-- Each of them lies deeper than the one before it. -/
theorem Path.pairwise_locationsAbove (names : List String) (file : String) :
    (locationsAbove names file).Pairwise fun above below => above.length < below.length := by
  refine List.Pairwise.filter _ (List.pairwise_map.2 ?_)
  refine List.pairwise_lt_range.imp_of_mem fun {first second} before after lower => ?_
  have inside := (List.mem_range.1 before).le
  have within := (List.mem_range.1 after).le
  simpa [inside, within] using lower

namespace Resolver

/-- Directive files of one ordinary component may apply to a template from each of these places. -/
theorem components_candidates {names : List String} {directiveFilename file : String}
    (named : ∀ name ∈ names, Path.IsName name)
    (ordinary : (Path.mk directiveFilename).components = [.name file]) :
    (candidates directiveFilename (Path.ofNames names)).map Path.components =
      Path.locationsAbove names file := by
  have joined (depth : Nat) :
      ((Path.ofNames (names.take depth)).join ⟨directiveFilename⟩).components =
        (names.take depth ++ [file]).map .name :=
    Path.components_join_of_ordinary
      (fun name member => named name (List.mem_of_mem_take member)) ordinary
  rw [candidates_ofNames named, Path.dropLast_inits, List.map_map]
  have places : ((List.range names.length).map fun depth =>
        (names.take depth ++ [file]).map Path.Component.name) =
      ((List.range names.length).map fun depth =>
        (Path.ofNames (names.take depth)).join ⟨directiveFilename⟩).map Path.components := by
    rw [List.map_map]
    exact List.map_congr_left fun depth _ => (joined depth).symm
  rw [Path.locationsAbove, places]
  exact (List.filter_map (f := Path.components) (p := (· ≠ names.map .name))).symm

end Resolver

namespace Workspace

variable {Store Agenda : Type} [Storage Store]

theorem Genuine.of_answer {workspace : Workspace Store Agenda} (genuine : workspace.Genuine)
    {number : Nat} {place : Path} {file : DirectiveFile}
    (answered : workspace.answer number place = .ok (some file)) : file.Genuine place := by
  have alone := (lookUp_alone (Interrupt.idle_none workspace.agenda) number place).answered
  exact (genuine_lookUp (fun _ _ => id) genuine number place).2 file (alone.trans answered)

/-- In a storage without faults there is a file exactly where the answer is one. -/
theorem hasFile_of_answer {workspace : Workspace Memory Agenda}
    (faultless : workspace.storage.Faultless) {number : Nat} {place : Path}
    {found : Option DirectiveFile} (answered : workspace.answer number place = .ok found) :
    Storage.hasFile workspace.storage place = found.isSome := by
  simp only [answer, Cache.answer] at answered
  rw [Storage.hasFile]
  split at answered
  · cases answered
  · next stamped =>
    cases answered
    rw [stamped]
    rfl
  · next stamp stamped =>
    obtain ⟨file, there, -⟩ := Memory.file?_of_stamp stamped
    rw [stamped]
    split at answered
    · cases answered
      rfl
    · next unread =>
      -- What has a stamp can be opened.
      have missing := (faultless.file?_of_unread unread).1
      rw [there] at missing
      cases missing
    · split at answered
      · cases answered
        rfl
      · cases made : DirectiveFile.ofContent place _ with
        | error error =>
          rw [made] at answered
          cases answered
        | ok file =>
          rw [made] at answered
          cases answered
          rfl

end Workspace

/-- The places of what was found are those at which something is, in order. -/
theorem map_components_filterMap {places : List Path} {found : Path → Option DirectiveFile}
    {here : Path → Bool} (there : ∀ place ∈ places, here place = (found place).isSome)
    (placed : ∀ place ∈ places, ∀ file, found place = some file →
      file.path.components = place.components) :
    (places.filterMap found).map (·.path.components) =
      ((places.map fun place => (place, here place)).filter (·.2)).map (·.1.components) := by
  induction places with
  | nil => rfl
  | cons place rest inductionHypothesis =>
    obtain ⟨first, others⟩ := List.forall_mem_cons.1 there
    obtain ⟨same, behind⟩ := List.forall_mem_cons.1 placed
    have later := inductionHypothesis others behind
    cases answered : found place with
    | none =>
      rw [answered] at first
      simpa [answered, first] using later
    | some file =>
      rw [answered] at first
      simpa [answered, first, same file answered] using later

namespace Host

variable {Store Agenda : Type} [Storage Store] (host : Host) {workspace : Workspace Store Agenda}
  {path : Path}

/-- The levels of a template are the places where directive files may apply to it. -/
theorem fst_levels :
    (host.levels path workspace).1 =
      ((host.resolver workspace).1.directivePaths path).map fun places =>
        places.map fun place => (place, Storage.hasFile workspace.storage place) := by
  have storage := (host.resolver_frame workspace).1
  cases listed : (host.resolver workspace).1.directivePaths path with
  | error error =>
    simp only [levels, listed]
    rfl
  | ok places =>
    simp only [levels, listed, storage]
    rfl

end Host

namespace Session.Journaled

variable (host : Host) {point : Journaled}

theorem idle_of_settled (depth : Nat) (settled : point.agenda.pending = []) :
    (interruption host depth).Idle point.agenda := by
  intro path journaled same
  cases depth with
  | zero => rfl
  | succ depth => simp [interruption, interruptBy, same, settled, Agenda.due]

/-- The levels of a template lie above its normal path. -/
theorem exists_locationsAbove_of_levels {file : String}
    (ordinary : (Path.mk (host.resolver point).1.directiveFilename).components = [.name file])
    {path : Path} {listed : List (Path × Bool)}
    (found : (host.levels path point).1 = .ok listed) :
    ∃ (relative : Path) (names : List String),
      (host.resolver point).1.normalize path = .ok relative ∧
      relative.components = names.map .name ∧
      listed.map (·.1.components) = Path.locationsAbove names file := by
  rw [host.fst_levels, Resolver.directivePaths] at found
  cases normal : (host.resolver point).1.normalize path with
  | error error =>
    rw [normal] at found
    cases found
  | ok relative =>
    rw [normal] at found
    cases found
    obtain ⟨names, -, named, rfl⟩ :=
      Path.isNormal_of_normalize (Resolver.normalize_eq_ok_iff.1 normal)
    refine ⟨_, names, rfl, Path.components_ofNames named, ?_⟩
    rw [← Resolver.components_candidates named ordinary, List.map_map]
    rfl

/-- The places of the directive files that apply to a template are the levels at which there is a
file, where all that is kept was read and the storage does not fail. -/
theorem exists_levels_of_chain (genuine : point.Genuine) (settled : point.agenda.pending = [])
    (faultless : point.storage.Faultless) {depth : Nat} {path : Path} {files : List DirectiveFile}
    (chained : ((host.resolver point).1.chain (interruption host depth) path
      (host.resolver point).2).1 = .ok files) :
    ∃ listed, (host.levels path point).1 = .ok listed ∧
      files.map (·.path.components) = (listed.filter (·.2)).map (·.1.components) := by
  obtain ⟨storage, agenda⟩ := host.resolver_frame point
  have idle : (interruption host depth).Idle (host.resolver point).2.agenda :=
    agenda.symm ▸ idle_of_settled host depth settled
  have ready : (host.resolver point).2.Genuine := host.genuine_resolver genuine
  rw [(Host.chain_alone idle _ path).1] at chained
  rw [host.fst_levels]
  cases places : (host.resolver point).1.directivePaths path with
  | error error =>
    rw [places] at chained
    cases chained
  | ok places =>
    simp only [places] at chained
    obtain ⟨found, answered, rfl⟩ := exists_of_listedAll chained
    simp only [List.mem_reverse] at answered
    refine ⟨_, rfl, ?_⟩
    rw [List.reverse_reverse]
    refine map_components_filterMap (fun place member => ?_) fun place member file here => ?_
    · rw [← storage] at faultless ⊢
      exact Workspace.hasFile_of_answer faultless (answered place member)
    · exact (ready.of_answer (here ▸ answered place member)).placed

/-- At every point of every session at which nothing has been put off and the storage does not fail,
with whatever is kept and whichever resolver is in use, if the name of directive files is one
ordinary component: the directive files that apply to a template have, in order, the places of the
levels that are marked, and so do those with which it is compiled. The levels are one for each
directory from the root down to that of the template, each once and each deeper than the one before
it, and the template itself is none of them. -/
theorem chain_eq_levels {files : List (Path × List UInt8)} {frozen : Bool}
    (later : Later host (begin files frozen) point) (settled : point.agenda.pending = [])
    (faultless : point.storage.Faultless) {file : String}
    (ordinary : (Path.mk (host.resolver point).1.directiveFilename).components = [.name file])
    (depth : Nat) (path : Path) :
    let others := interruption host depth
    let chain := ((host.resolver point).1.chain others path (host.resolver point).2).1
    let levels := (host.levels path point).1
    let shows (listed : List (Path × Bool)) (files : List DirectiveFile) :=
      levels = .ok listed ∧
        files.map (·.path.components) = (listed.filter (·.2)).map (·.1.components)
    (∀ files, chain = .ok files → ∃ listed, shows listed files) ∧
    (∀ source code, (host.compile others (some path) source point).1 = .ok code →
      ∃ template files, host.Origin others point (some path) source template files ∧
        (∃ className, code = host.generate (host.configurationOf template files) className
          template) ∧
        ∃ listed, shows listed files) ∧
    ∀ listed, levels = .ok listed →
      ∃ (relative : Path) (names : List String),
        (host.resolver point).1.normalize path = .ok relative ∧
        relative.components = names.map .name ∧
        listed.map (·.1.components) = Path.locationsAbove names file ∧
        (listed.map (·.1.components)).Pairwise (·.length < ·.length) ∧
        (listed.map (·.1.components)).Nodup ∧
        relative.components ∉ listed.map (·.1.components) := by
  intro others chain levels shows
  have genuine := genuine_of_later later
  have shown {files : List DirectiveFile} (chained : chain = .ok files) :
      ∃ listed, shows listed files :=
    exists_levels_of_chain host genuine settled faultless chained
  refine ⟨fun files => shown, fun source code compiled => ?_, fun listed found => ?_⟩
  · obtain ⟨template, files, origin, generated⟩ := Host.exists_origin_of_compile compiled
    exact ⟨template, files, origin, generated, shown origin.applying⟩
  · obtain ⟨relative, names, normal, steps, places⟩ :=
      exists_locationsAbove_of_levels host ordinary found
    have deeper := Path.pairwise_locationsAbove names file
    have apart : relative.components ∉ Path.locationsAbove names file := by
      simp [Path.locationsAbove, steps]
    rw [places]
    exact ⟨relative, names, normal, steps, rfl, deeper,
      deeper.imp fun lower same => lower.ne (congrArg List.length same), apart⟩

/-- In a frozen session a resolver that spells its files with a slash has kept two of them; one has
gone since, and another one has come, which is found under its own spelling. -/
theorem chain_eq_levels_among_changes :
    let host : Host := { root := ⟨"views"⟩ }
    let page : Path := ⟨"/other/pages/./old/page.tmpl"⟩
    let first := begin [(⟨"imports"⟩, Text.Utf8.encode "@using A".toList),
      (⟨"pages/imports"⟩, Text.Utf8.encode "@using B".toList)] true
    let point := script host [.ask (.replaceResolver ⟨"/other"⟩ "imports/"), .ask (.chain page),
      .remove ⟨"imports"⟩, .insert ⟨"pages/old//imports"⟩ (Text.Utf8.encode "@model M".toList),
      .ask (.lookUp ⟨"pages/old/imports"⟩)] first
    let others := interruption host 1
    let chain := ((host.resolver point).1.chain others page (host.resolver point).2).1
    point.agenda.pending = [] ∧ point.storage.Faultless ∧
      (Path.mk (host.resolver point).1.directiveFilename).components = [.name "imports"] ∧
      ∃ files listed, chain = .ok files ∧ (host.levels page point).1 = .ok listed ∧
        listed.map (·.2) = [false, true, true] ∧
        files.map (·.path.components) = (listed.filter (·.2)).map (·.1.components) ∧
        (listed.map (·.1.components)).Nodup := by
  intro host page first point others chain
  have settled : point.agenda.pending = [] := by decide +kernel
  have faultless : point.storage.Faultless := Memory.faultless_of_entries (by decide +kernel)
  have ordinary : (Path.mk (host.resolver point).1.directiveFilename).components =
      [.name "imports"] := by decide +kernel
  obtain ⟨shows, -, lists⟩ := chain_eq_levels host (later_script host _ first) settled faultless
    ordinary 1 page
  have marked : (host.levels page point).1.toOption.map (·.map (·.2)) =
      some [false, true, true] := by decide +kernel
  obtain ⟨files, chained⟩ : ∃ files, chain = .ok files := exists_of_isOk (by decide +kernel)
  obtain ⟨listed, levels, same⟩ := shows files chained
  obtain ⟨-, -, -, -, -, -, once, -⟩ := lists listed levels
  rw [levels] at marked
  exact ⟨settled, faultless, ordinary, files, listed, chained, levels, Option.some.inj marked, same,
    once⟩

end Session.Journaled

end TemplateTree
