import TemplateTree.Proofs.Path.Places
import TemplateTree.Proofs.Process.Lockstep
import TemplateTree.Request

/-!
# Workspaces that a host cannot tell apart

A host asks the storage about some places only, and never looks at the agenda. A `Likeness` names
such places and says which storages and agendas count as alike; storages that do must answer alike
in these places. From similar workspaces a host goes on to similar workspaces and gives the same
answers, as long as its resolvers search no other places and others act similarly: there is one
lemma for each thing that a host does, and `similar_answer` for requests.
-/

namespace TemplateTree

/-- What counts as alike. -/
structure Likeness (Store First Second : Type) [Storage Store] where
  places : Path → Prop
  storages : Store → Store → Prop
  agendas : First → Second → Prop
  normal {path} : path.IsNormal → places path
  stamp_eq {one two path} : storages one two → places path →
    Storage.stamp one path = Storage.stamp two path
  stream_eq {one two path} : storages one two → places path →
    Storage.stream one path = Storage.stream two path

namespace Likeness

variable {Store First Second Result : Type} [Storage Store]

/-- Directive files of this name are searched in the places only. -/
def Covers (likeness : Likeness Store First Second) (directiveFilename : String) : Prop :=
  ∀ ⦃place⦄, place.IsPlace directiveFilename → likeness.places place

/-- Two workspaces are the same up to storages and agendas that are alike, and their resolvers
search in the places only. -/
structure Similar (likeness : Likeness Store First Second) (one : Workspace Store First)
    (two : Workspace Store Second) : Prop where
  storage : likeness.storages one.storage two.storage
  caches : one.caches = two.caches
  installed : one.installed = two.installed
  aside : one.aside = two.aside
  builds : one.builds = two.builds
  warnings : one.warnings = two.warnings
  agenda : likeness.agendas one.agenda two.agenda
  covers : ∀ resolver, one.installed = some resolver ∨ one.aside = some resolver →
    likeness.Covers resolver.directiveFilename

/-- Two results are the same, and the workspaces that come with them similar. -/
abbrev Same (likeness : Likeness Store First Second) :
    Result × Workspace Store First → Result × Workspace Store Second → Prop :=
  Process.Same likeness.Similar

/-- Two processes have the same result and leave similar workspaces, step by step. -/
abbrev Alike (likeness : Likeness Store First Second) :
    Process (Workspace Store First) Result → Process (Workspace Store Second) Result → Prop :=
  Process.Alike likeness.Similar

/-- While files are opened in the places, others act similarly. -/
def Matches (likeness : Likeness Store First Second) (first : Interrupt Store First)
    (second : Interrupt Store Second) : Prop :=
  ∀ ⦃path⦄, likeness.places path → ∀ ⦃one two⦄, likeness.Similar one two →
    likeness.Similar (first path one) (second path two)

variable {likeness : Likeness Store First Second} {one : Workspace Store First}
  {two : Workspace Store Second}

theorem matches_none : likeness.Matches .none .none :=
  fun _ _ _ _ similar => similar

theorem Similar.same (similar : likeness.Similar one two) (result : Result) :
    likeness.Same (result, one) (result, two) :=
  ⟨result, one, two, rfl, rfl, similar⟩

theorem Similar.cache_eq (similar : likeness.Similar one two) (number : Nat) :
    one.cache number = two.cache number := by
  rw [Workspace.cache, Workspace.cache, similar.caches]

theorem Similar.updateCache (similar : likeness.Similar one two) (number : Nat)
    (change : Cache → Cache) :
    likeness.Similar (one.updateCache number change) (two.updateCache number change) :=
  { similar with caches := congrArg (List.modify · number change) similar.caches }

theorem Similar.warn (similar : likeness.Similar one two) (warnings : List String) :
    likeness.Similar (one.warn warnings) (two.warn warnings) :=
  { similar with warnings := congrArg (· ++ warnings) similar.warnings }

/-- Exchanging the resolver in use and the one put aside leads to similar workspaces. -/
theorem Similar.exchange (similar : likeness.Similar one two)
    {installed aside installed' aside' : Option Resolver} (same : installed = installed')
    (beside : aside = aside')
    (covers : ∀ resolver, installed = some resolver ∨ aside = some resolver →
      likeness.Covers resolver.directiveFilename) :
    likeness.Similar { one with installed, aside }
      { two with installed := installed', aside := aside' } :=
  { similar with installed := same, aside := beside, covers }

/-- A new resolver is the same in both, and leads to similar workspaces. -/
theorem Similar.addResolver (similar : likeness.Similar one two) (root : Path)
    (directiveFilename : String) :
    (one.addResolver root directiveFilename).1 = (two.addResolver root directiveFilename).1 ∧
      likeness.Similar (one.addResolver root directiveFilename).2
        (two.addResolver root directiveFilename).2 := by
  have number : one.caches.length = two.caches.length := congrArg List.length similar.caches
  have caches : one.caches ++ [Cache.empty] = two.caches ++ [Cache.empty] :=
    congrArg (· ++ [Cache.empty]) similar.caches
  exact ⟨congrArg (Resolver.mk root directiveFilename) number, { similar with caches }⟩

theorem Similar.hasFile_eq (similar : likeness.Similar one two) {path : Path}
    (place : likeness.places path) :
    Storage.hasFile one.storage path = Storage.hasFile two.storage path := by
  rw [Storage.hasFile, Storage.hasFile, likeness.stamp_eq similar.storage place]

variable {first : Interrupt Store First} {second : Interrupt Store Second}

theorem Similar.openFile (similar : likeness.Similar one two) (others : likeness.Matches first second)
    {path : Path} (place : likeness.places path) :
    likeness.Same (Workspace.openFile first path one) (Workspace.openFile second path two) := by
  have after := others place similar
  refine ⟨_, _, _, rfl, ?_, after⟩
  rw [Workspace.openFile, likeness.stream_eq after.storage place]

theorem Similar.readFile (similar : likeness.Similar one two) (others : likeness.Matches first second)
    {path : Path} (place : likeness.places path) :
    likeness.Same (Workspace.readFile first path one) (Workspace.readFile second path two) := by
  obtain ⟨result, left, right, left_eq, right_eq, after⟩ := similar.openFile others place
  rw [Workspace.readFile, Workspace.readFile, left_eq, right_eq]
  cases result <;> exact after.same _

/-- Taking content in. -/
theorem Similar.takeIn (similar : likeness.Similar one two) (number : Nat) (path : Path)
    (stamp : Stamp) (earlier : Option Cache.Entry) (content : List UInt8) :
    likeness.Same (Workspace.takeIn number path stamp earlier content one)
      (Workspace.takeIn number path stamp earlier content two) := by
  have keeps {one : Workspace Store First} {two : Workspace Store Second}
      (similar : likeness.Similar one two) (file : DirectiveFile) :
      likeness.Same (Workspace.keepFile number path stamp file one)
        (Workspace.keepFile number path stamp file two) := by
    refine ⟨_, _, _, rfl, ?_, similar.updateCache number (·.keep path stamp file)⟩
    rw [Workspace.keepFile, similar.cache_eq]
  simp only [Workspace.takeIn]
  split
  · next entry _ =>
    obtain ⟨file, left, right, left_eq, right_eq, after⟩ :=
      keeps (similar.updateCache number Cache.countRevalidation) entry.file
    rw [left_eq, right_eq]
    exact after.same _
  · have counted := similar.updateCache number Cache.countMiss
    split
    · exact counted.same _
    · next directives _ =>
      obtain ⟨file, left, right, left_eq, right_eq, after⟩ :=
        keeps (counted.warn (Directive.warnings path.text directives))
          (.ofDirectives path (Digest.fingerprint content) directives)
      rw [left_eq, right_eq]
      exact after.same _

/-- Consulting a cache. -/
theorem Similar.consult (similar : likeness.Similar one two) (number : Nat) (path : Path)
    (stamp : Stamp) :
    likeness.Same (Workspace.consult number path stamp one)
      (Workspace.consult number path stamp two) := by
  simp only [Workspace.consult, similar.cache_eq]
  split
  · exact (similar.updateCache number Cache.countHit).same _
  · exact similar.same _

/-- A step is alike in similar workspaces if its value is the same and they stay similar. -/
theorem alike_act {act : Workspace Store First → Result × Workspace Store First}
    {act' : Workspace Store Second → Result × Workspace Store Second}
    (acts : ∀ {one two}, likeness.Similar one two → likeness.Same (act one) (act' two)) :
    likeness.Alike (.act act) (.act act') := by
  rw [← bind_pure (Process.act act), ← bind_pure (Process.act act')]
  refine Process.Alike.act_bind fun similar => ?_
  obtain ⟨result, left, right, left_eq, right_eq, after⟩ := acts similar
  exact ⟨result, left, right, left_eq, right_eq, after, .done result⟩

theorem alike_change {change : Workspace Store First → Workspace Store First}
    {change' : Workspace Store Second → Workspace Store Second}
    (changes : ∀ {one two}, likeness.Similar one two → likeness.Similar (change one) (change' two)) :
    likeness.Alike (.change change) (.change change') :=
  alike_act fun similar => ⟨(), _, _, rfl, rfl, changes similar⟩

/-- Looking a directive file up, step by step. -/
theorem alike_lookUpSteps (others : likeness.Matches first second) (number : Nat) {path : Path}
    (place : likeness.places path) :
    likeness.Alike (Workspace.lookUpSteps first number path)
      (Workspace.lookUpSteps second number path) := by
  have evicts : likeness.Alike (.change (·.updateCache number (·.evict path)))
      (.change (·.updateCache number (·.evict path))) :=
    alike_change fun similar => similar.updateCache number _
  have asked : likeness.Alike (.ask fun workspace => Storage.stamp workspace.storage path)
      (.ask fun workspace => Storage.stamp workspace.storage path) :=
    alike_act fun {one two} similar => ⟨_, one, two, rfl,
      congrArg (·, two) (likeness.stamp_eq similar.storage place).symm, similar⟩
  refine asked.bind fun stamped => ?_
  cases stamped with
  | error error => exact .done _
  | ok stamped =>
    cases stamped with
    | none => exact evicts.bind fun _ => .done _
    | some stamp =>
      refine (alike_act fun similar => similar.consult number path stamp).bind fun earlier => ?_
      cases earlier.filter (·.stamp = stamp) with
      | some entry => exact .done _
      | none =>
        refine (alike_act fun similar => similar.readFile others place).bind fun read => ?_
        cases read with
        | error error =>
          by_cases kind : error.kind = .notFound
          · simp only [kind, if_true]
            exact evicts.bind fun _ => .done _
          · simp only [kind, if_false]
            exact .done _
        | ok content =>
          refine (alike_act fun similar =>
            similar.takeIn number path stamp earlier content).bind fun taken => ?_
          cases taken <;> exact .done _

/-- Looking several directive files up, step by step. -/
theorem alike_lookUpAllSteps (others : likeness.Matches first second) (number : Nat)
    {paths : List Path} (places : ∀ path ∈ paths, likeness.places path) :
    likeness.Alike (Resolver.lookUpAllSteps first number paths)
      (Resolver.lookUpAllSteps second number paths) := by
  induction paths with
  | nil => exact .done _
  | cons path rest inductionHypothesis =>
    obtain ⟨here, elsewhere⟩ := List.forall_mem_cons.1 places
    refine (alike_lookUpSteps others number here).bind fun found => ?_
    cases found with
    | error error => exact .done _
    | ok found =>
      refine (inductionHypothesis elsewhere).bind fun files => ?_
      cases files <;> exact .done _

/-- Finding the directive files that apply to a template, step by step. -/
theorem alike_chainSteps (others : likeness.Matches first second) {resolver : Resolver}
    (covers : likeness.Covers resolver.directiveFilename) (path : Path) :
    likeness.Alike (resolver.chainSteps first path) (resolver.chainSteps second path) := by
  rw [Resolver.chainSteps, Resolver.chainSteps]
  cases found : resolver.directivePaths path with
  | error error => exact .done _
  | ok paths =>
    exact alike_lookUpAllSteps others resolver.cache fun place member =>
      covers (Resolver.isPlace_of_directivePaths found (List.mem_reverse.1 member))

/-- Configuring a template, step by step. -/
theorem alike_configureSteps (others : likeness.Matches first second) (host : Host)
    {resolver : Resolver} (covers : likeness.Covers resolver.directiveFilename) (relative : Path)
    (template : Template) :
    likeness.Alike (host.configureSteps first resolver relative template)
      (host.configureSteps second resolver relative template) := by
  refine (alike_chainSteps others covers relative).bind fun chain => ?_
  cases chain with
  | error error => exact .done _
  | ok chain => exact (alike_change fun similar => similar.warn _).bind fun _ => .done _

theorem alike_compileInlineSteps (host : Host) (text : List Char) :
    likeness.Alike (host.compileInlineSteps text) (host.compileInlineSteps text) := by
  rw [Host.compileInlineSteps, Host.compileInlineSteps]
  split
  · exact .done _
  · exact (alike_change fun similar => similar.warn _).bind fun _ => .done _

section

variable {host : Host} (own : likeness.Covers host.directiveFilename)
include own

/-- Taking the resolver in use. It searches in the places only, built or not. -/
theorem Similar.resolver (similar : likeness.Similar one two) :
    ∃ resolver left right, host.resolver one = (resolver, left) ∧
      host.resolver two = (resolver, right) ∧ likeness.Similar left right ∧
      likeness.Covers resolver.directiveFilename := by
  cases installed : one.installed with
  | some resolver =>
    have there : two.installed = some resolver := similar.installed ▸ installed
    refine ⟨resolver, one, two, ?_, ?_, similar, similar.covers resolver (.inl installed)⟩
    · rw [Host.resolver, installed]
    · rw [Host.resolver, there]
  | none =>
    have there : two.installed = none := similar.installed ▸ installed
    obtain ⟨same, after⟩ := similar.addResolver host.root host.directiveFilename
    have ready : likeness.Similar (host.resolver one).2 (host.resolver two).2 := by
      rw [Host.resolver, Host.resolver, installed, there]
      exact { after with
        installed := congrArg some same
        builds := congrArg (· + 1) after.builds
        covers := fun other put => put.elim
          (fun built => Option.some.inj built ▸ own)
          (fun put => after.covers other (.inr put)) }
    refine ⟨(one.addResolver host.root host.directiveFilename).1, _, _, ?_, ?_, ready, own⟩
    · rw [Host.resolver, installed]
    · rw [Host.resolver, there, same]

/-- Compiling the text of a template at a path, step by step. -/
theorem alike_compileAtSteps (others : likeness.Matches first second) (path : Path)
    (text : List Char) :
    likeness.Alike (host.compileAtSteps first path text) (host.compileAtSteps second path text) := by
  refine Process.Alike.act_bind fun similar => ?_
  obtain ⟨resolver, left, right, left_eq, right_eq, ready, covers⟩ := similar.resolver own
  refine ⟨resolver, left, right, left_eq, right_eq, ready, ?_⟩
  cases resolver.normalize path with
  | error error => exact .done _
  | ok relative =>
    dsimp only
    cases Host.parse relative text with
    | error error => exact .done _
    | ok template =>
      refine (alike_configureSteps others host covers relative template).bind fun configured => ?_
      cases configured <;> exact .done _

/-- Compiling a template from its source, step by step. -/
theorem alike_compileSteps (others : likeness.Matches first second) (path : Option Path)
    (source : Option Stream) :
    likeness.Alike (host.compileSteps first path source) (host.compileSteps second path source) := by
  cases source with
  | none => exact .done _
  | some source =>
    simp only [Host.compileSteps]
    split
    · exact .done _
    · cases path with
      | none => exact alike_compileInlineSteps host _
      | some path => exact alike_compileAtSteps own others path _

/-- Compiling a template of the storage, step by step. -/
theorem alike_compileFileSteps (others : likeness.Matches first second) (path : Path) :
    likeness.Alike (host.compileFileSteps first path) (host.compileFileSteps second path) := by
  rw [Host.compileFileSteps, Host.compileFileSteps]
  cases normal : Path.normalize host.root path with
  | error rejection => exact .done _
  | ok relative =>
    have place := likeness.normal (Path.isNormal_of_normalize normal)
    refine (alike_act fun similar => similar.openFile others place).bind fun opened => ?_
    cases opened with
    | error error => exact .done _
    | ok source => exact alike_compileSteps own others (some relative) (some source)

theorem alike_members (others : likeness.Matches first second) (paths : List Path) :
    List.Forall₂ likeness.Alike (host.members first paths) (host.members second paths) := by
  rw [Host.members, Host.members, List.forall₂_map_left_iff, List.forall₂_map_right_iff,
    List.forall₂_same]
  exact fun path _ => (alike_compileFileSteps own others path).map _

/-- Resolving a template of the storage. -/
theorem Similar.resolve (similar : likeness.Similar one two)
    (others : likeness.Matches first second) (path : Path) :
    likeness.Same (host.resolve first path one) (host.resolve second path two) := by
  obtain ⟨resolver, left, right, left_eq, right_eq, ready, covers⟩ := similar.resolver own
  simp only [Host.resolve, left_eq, right_eq]
  cases normal : resolver.normalize path with
  | error error => exact ready.same _
  | ok relative =>
    have place := Path.isNormal_of_normalize (Resolver.normalize_eq_ok_iff.1 normal)
    obtain ⟨opened, left, right, left_eq, right_eq, after⟩ :=
      ready.openFile others (likeness.normal place)
    simp only [left_eq, right_eq]
    cases opened with
    | error error => exact after.same _
    | ok source =>
      dsimp only
      split
      · exact after.same _
      · split
        · exact after.same _
        · exact (alike_configureSteps others host covers relative _).run after

/-- Listing the levels of a template. -/
theorem Similar.levels (similar : likeness.Similar one two) (path : Path) :
    likeness.Same (host.levels path one) (host.levels path two) := by
  obtain ⟨resolver, left, right, left_eq, right_eq, ready, covers⟩ := similar.resolver own
  simp only [Host.levels, left_eq, right_eq]
  cases found : resolver.directivePaths path with
  | error error => exact ready.same _
  | ok paths =>
    have flags : (paths.map fun path => (path, Storage.hasFile left.storage path)) =
        paths.map fun path => (path, Storage.hasFile right.storage path) :=
      List.map_congr_left fun place member => by
        rw [ready.hasFile_eq (covers (Resolver.isPlace_of_directivePaths found member))]
    simp only [flags]
    exact ready.same _

/-- A request that names a file to be asked about, or a tree to be searched, stays in the places. -/
def Asks (likeness : Likeness Store First Second) : Request → Prop
  | .stamp path | .hasFile path | .read path | .lookUp path => likeness.places path
  | .replaceResolver _ directiveFilename => likeness.Covers directiveFilename
  | _ => True

/-- Whatever is asked of a host, its answer is the same. -/
theorem Similar.answer (similar : likeness.Similar one two)
    (others : likeness.Matches first second) {request : Request} (asks : likeness.Asks request) :
    likeness.Same (host.answer first request one) (host.answer second request two) := by
  cases request with
  | stamp path =>
    simp only [Host.answer, likeness.stamp_eq similar.storage asks]
    split <;> exact similar.same _
  | hasFile path =>
    simp only [Host.answer, similar.hasFile_eq asks]
    exact similar.same _
  | read path =>
    obtain ⟨result, left, right, left_eq, right_eq, after⟩ := similar.readFile others asks
    simp only [Host.answer, left_eq, right_eq]
    cases result <;> exact after.same _
  | compile path source =>
    exact ((alike_compileSteps own others path source).run similar).map (Answer.ofResult .code)
  | compileFile path =>
    exact ((alike_compileFileSteps own others path).run similar).map (Answer.ofResult .code)
  | compileBatch paths schedule =>
    exact (Process.Alike.together schedule (alike_members own others paths) similar).map Answer.codes
  | resolve path => exact (similar.resolve own others path).map (Answer.ofResult .configuration)
  | levels path => exact (similar.levels own path).map (Answer.ofResult .levels)
  | chain path =>
    obtain ⟨resolver, left, right, left_eq, right_eq, ready, covers⟩ := similar.resolver own
    simp only [Host.answer, left_eq, right_eq]
    exact ((alike_chainSteps others covers path).run ready).map (Answer.ofResult .files)
  | lookUp path =>
    obtain ⟨resolver, left, right, left_eq, right_eq, ready, -⟩ := similar.resolver own
    simp only [Host.answer, left_eq, right_eq]
    exact ((alike_lookUpSteps others resolver.cache asks).run ready).map (Answer.ofResult .file)
  | evict path =>
    obtain ⟨resolver, left, right, left_eq, right_eq, ready, -⟩ := similar.resolver own
    simp only [Host.answer, left_eq, right_eq, ready.cache_eq]
    exact (ready.updateCache resolver.cache (·.evict path)).same _
  | clearCache =>
    obtain ⟨resolver, left, right, left_eq, right_eq, ready, -⟩ := similar.resolver own
    simp only [Host.answer, left_eq, right_eq]
    exact (ready.updateCache resolver.cache Cache.clear).same _
  | directivePaths path | normalize path | resolver =>
    obtain ⟨resolver, left, right, left_eq, right_eq, ready, -⟩ := similar.resolver own
    simp only [Host.answer, left_eq, right_eq]
    exact ready.same _
  | resetResolver =>
    have dropped := similar.exchange (Eq.refl none) similar.aside fun resolver put =>
      similar.covers resolver (.inr (by simpa using put))
    simp only [Host.answer, similar.installed]
    exact dropped.same _
  | replaceResolver root directiveFilename =>
    obtain ⟨same, added⟩ := similar.addResolver root directiveFilename
    have replaced := added.exchange (congrArg some same) similar.installed fun resolver put =>
      put.elim (fun new => Option.some.inj new ▸ asks) fun old => similar.covers resolver (.inl old)
    simp only [Host.answer, similar.installed] at replaced ⊢
    exact replaced.same _
  | restoreResolver =>
    cases put : one.aside with
    | none =>
      have nothing : two.aside = none := similar.aside ▸ put
      simp only [Host.answer, put, nothing]
      exact similar.same _
    | some resolver =>
      have there : two.aside = some resolver := similar.aside ▸ put
      have restored := similar.exchange (Eq.refl (some resolver)) (Eq.refl none) fun other again =>
        similar.covers other (.inr (put.trans (by simpa using again)))
      simp only [Host.answer, put, there, similar.installed]
      exact restored.same _
  | root | defaults => exact similar.same _
  | generate source className =>
    simp only [Host.answer]
    split <;> exact similar.same _

end

end Likeness

end TemplateTree
