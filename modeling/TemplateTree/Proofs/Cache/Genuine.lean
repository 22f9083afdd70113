import TemplateTree.Proofs.Cache.Faithful
import TemplateTree.Proofs.Workspace.Regimes

/-!
# Genuine caches

A file in a cache was made from some content that was read at its place, whatever has become of the
storage since. This is less than that its entry is faithful, and it holds of storages of every kind.
Main statements: `genuine_chain` for what is found, and `genuine_answer` for what a request leaves.
-/

namespace TemplateTree

/-- A directive file was read at a path, from some content. -/
structure DirectiveFile.Genuine (path : Path) (file : DirectiveFile) : Prop where
  placed : file.path.components = path.components
  parsed : ∃ content, ofContent file.path content = .ok file

theorem DirectiveFile.genuine_ofDirectives {path : Path} {content : List UInt8}
    {directives : List Directive} (read : directivesIn path content = .ok directives) :
    (ofDirectives path (Digest.fingerprint content) directives).Genuine path :=
  ⟨rfl, content, ofContent_of_directivesIn read⟩

namespace Workspace

variable {Store Agenda : Type} {number : Nat} {path : Path}
  {workspace before after : Workspace Store Agenda}

/-- Every file in every cache of a workspace is genuine. -/
def Genuine (workspace : Workspace Store Agenda) : Prop :=
  ∀ number path entry, (workspace.cache number).find? path = some entry → entry.file.Genuine path

theorem Genuine.of_entries (genuine : before.Genuine)
    (entries : ∀ number path entry, (after.cache number).find? path = some entry →
      (before.cache number).find? path = some entry) : after.Genuine :=
  fun number path entry found => genuine number path entry (entries number path entry found)

theorem Genuine.of_caches (genuine : before.Genuine) (caches : after.caches = before.caches) :
    after.Genuine := by
  refine genuine.of_entries fun number path entry found => ?_
  rwa [cache, caches] at found

theorem genuine_of_no_caches (none : workspace.caches = []) : workspace.Genuine := by
  intro number path entry found
  rw [cache, none] at found
  cases found

/-- A workspace stays genuine while a cache changes and keeps nothing new. -/
theorem Genuine.updateCache (genuine : workspace.Genuine) {change : Cache → Cache}
    (entries : ∀ (cache : Cache) path entry, (change cache).find? path = some entry →
      cache.find? path = some entry) (number : Nat) :
    (workspace.updateCache number change).Genuine := by
  refine genuine.of_entries fun other path entry found => ?_
  rcases find?_of_find?_updateCache found with before | ⟨rfl, changed⟩
  · exact before
  · exact entries _ path entry changed

theorem Genuine.addResolver (genuine : workspace.Genuine) (root : Path)
    (directiveFilename : String) : (workspace.addResolver root directiveFilename).2.Genuine := by
  refine genuine.of_entries fun number path entry found => ?_
  rwa [cache_addResolver] at found

/-- A workspace stays genuine when a genuine file is kept, and the file that is kept then is
genuine. -/
theorem Genuine.keep (genuine : workspace.Genuine) {file : DirectiveFile}
    (read : file.Genuine path) (number : Nat) (stamp : Stamp) :
    ((workspace.cache number).kept path stamp file).Genuine path ∧
      (workspace.updateCache number (·.keep path stamp file)).Genuine := by
  constructor
  · rcases (workspace.cache number).kept_cases path stamp file with same | ⟨entry, held, -, same⟩
    · rwa [same]
    · rw [same]
      exact genuine number path entry held
  · intro other place entry found
    rcases find?_of_find?_updateCache_keep found with before | ⟨there, rfl⟩
    · exact genuine other place entry before
    · exact ⟨read.placed.trans there.symm, read.parsed⟩

/-- Taking content in leaves a workspace genuine, and what is made of it is genuine. -/
theorem TakesIn.genuine {stamp : Stamp} {earlier : Option Cache.Entry} {content : List UInt8}
    {result : Except CompileError DirectiveFile}
    (taken : TakesIn number path stamp earlier content workspace result after)
    (genuine : workspace.Genuine)
    (held : ∀ entry, earlier = some entry → entry.file.Genuine path) :
    after.Genuine ∧ ∀ file, result = .ok file → file.Genuine path := by
  have revalidating := genuine.updateCache (fun cache path _ found =>
    (cache.find?_countRevalidation path).symm.trans found) number
  have missing := genuine.updateCache (fun cache path _ found =>
    (cache.find?_countMiss path).symm.trans found) number
  cases taken with
  | @revalidated entry known =>
    refine ⟨(revalidating.keep (held entry known) number stamp).2, fun file made => ?_⟩
    cases made
    exact (genuine.keep (held entry known) number stamp).1
  | malformed => exact ⟨missing, nofun⟩
  | @parsed directives _ _ read made =>
    subst made
    have read := DirectiveFile.genuine_ofDirectives read
    refine ⟨((missing.of_caches rfl).keep read number stamp).2, fun file made => ?_⟩
    cases made
    exact (genuine.keep read number stamp).1

theorem Genuine.evict (genuine : workspace.Genuine) (number : Nat) (path : Path) :
    (workspace.updateCache number (·.evict path)).Genuine :=
  genuine.updateCache (fun _ _ _ => Cache.find?_of_find?_evict) number

variable [Storage Store] {interrupt : Interrupt Store Agenda}
  (others : ∀ path (workspace : Workspace Store Agenda), workspace.Genuine →
    (interrupt path workspace).Genuine)
include others

/-- Workspaces that stay genuine allow for every lookup, and the file that it finds is genuine. -/
theorem serves_genuine (number : Nat) (path : Path)
    (start : {workspace : Workspace Store Agenda // workspace.Genuine}) :
    Serves interrupt (.ofInvariant Genuine) number path (fun _ result =>
      ∀ file, result = .ok (some file) → file.Genuine path) 0 start where
  opening := Process.Regime.allows_ofInvariant (others path)
  unanswered _ _ := ⟨rfl, fun _ _ => nofun⟩
  absent {_ now} _ _ _ := (Process.Regime.allows_ofInvariant fun _ genuine =>
    genuine.evict number path).reaches now fun _ _ => nofun
  hit {_ now entry} _ _ _ kept := (Process.Regime.allows_ofInvariant fun _ genuine =>
    genuine.updateCache (fun cache path _ found => (cache.find?_countHit path).symm.trans found)
      number).reaches now fun _ _ file found => by
        cases found
        exact now.2 number path entry kept
  vanished {_ _ _ now _ _} _ _ _ _ _ _ _ _ := (Process.Regime.allows_ofInvariant fun _ genuine =>
    genuine.evict number path).reaches now fun _ _ => nofun
  unreadable _ _ _ _ _ _ _ := ⟨rfl, fun _ _ => nofun⟩
  read {_ consulted _ now _ _ result after} _ _ _ _ _ _ _ taken := by
    obtain ⟨genuine, made⟩ := taken.genuine now.2 fun entry kept => consulted.2 number path entry kept
    refine ⟨⟨after, genuine⟩, trivial, rfl, fun _ _ file found => ?_⟩
    cases result with
    | error error => cases found
    | ok other =>
      cases found
      exact made _ rfl

/-- A lookup leaves a workspace genuine if others do, and the file that it finds is genuine. -/
theorem genuine_lookUp (genuine : workspace.Genuine) (number : Nat) (path : Path) :
    (lookUp interrupt number path workspace).2.Genuine ∧
      ∀ file, (lookUp interrupt number path workspace).1 = .ok (some file) →
        file.Genuine path := by
  obtain ⟨after, -, seen, found⟩ :=
    (serves_genuine others number path ⟨workspace, genuine⟩).ensures.run
  exact ⟨seen ▸ after.2, found after (.refl after)⟩

end Workspace

namespace Host

variable {Store Agenda : Type} [Storage Store] {interrupt : Interrupt Store Agenda} (host : Host)
  {workspace before after : Workspace Store Agenda}

omit [Storage Store] in
theorem genuine_resolver (genuine : workspace.Genuine) : (host.resolver workspace).2.Genuine := by
  rw [Host.resolver]
  split
  · exact genuine
  · exact (genuine.addResolver host.root host.directiveFilename).of_caches rfl

section Keeping

variable (others : ∀ path (workspace : Workspace Store Agenda), workspace.Genuine →
  (interrupt path workspace).Genuine)

include others

variable {host}

/-- Workspaces that stay genuine allow for a host. -/
theorem admits_genuine : host.Admits interrupt (.ofInvariant Workspace.Genuine) where
  opening path := Process.Regime.allows_ofInvariant (others path)
  lookUp number path start :=
    (Workspace.serves_genuine others number path start).weaken fun _ _ _ => trivial
  evict number path := Process.Regime.allows_ofInvariant fun _ genuine => genuine.evict number path
  clear number := Process.Regime.allows_ofInvariant fun _ genuine => by
    have nothing (cache : Cache) (path : Path) : cache.clear.find? path = none := rfl
    exact genuine.updateCache (fun _ _ _ found => nomatch (nothing ..).symm.trans found) number
  warn _ := Process.Regime.allows_ofInvariant fun _ genuine => genuine.of_caches rfl
  build := Process.Regime.allows_ofInvariant fun _ genuine => host.genuine_resolver genuine

theorem genuine_steady (taken : host.Steady interrupt before after) (genuine : before.Genuine) :
    after.Genuine := by
  obtain ⟨final, -, seen⟩ := (admits_genuine others).steady taken
    (rfl : (Process.Regime.ofInvariant Workspace.Genuine).seen ⟨before, genuine⟩ = before)
  exact seen ▸ final.2

/-- A move leaves a workspace genuine if others do. -/
theorem genuine_move (move : host.Move interrupt before after) (genuine : before.Genuine) :
    after.Genuine := by
  cases move with
  | steady taken => exact genuine_steady others taken genuine
  | reset | restore => exact genuine.of_caches rfl
  | replace root directiveFilename =>
    exact (genuine.addResolver root directiveFilename).of_caches rfl

theorem genuine_moves (moves : host.Moves interrupt before after) (genuine : before.Genuine) :
    after.Genuine := by
  induction moves with
  | refl => exact genuine
  | tail _ move inductionHypothesis => exact genuine_move others move inductionHypothesis

variable (host)

/-- A request leaves a workspace genuine if others do. -/
theorem genuine_answer (genuine : workspace.Genuine) (request : Request) :
    (host.answer interrupt request workspace).2.Genuine :=
  genuine_moves others (host.moves_answer interrupt request workspace) genuine

end Keeping

end Host

namespace Resolver

variable {Store Agenda : Type} [Storage Store] {interrupt : Interrupt Store Agenda}
  {workspace : Workspace Store Agenda}

/-- Each file that lookups find is genuine, if others leave the workspace so. -/
theorem genuine_lookUpAll
    (others : ∀ path (workspace : Workspace Store Agenda), workspace.Genuine →
      (interrupt path workspace).Genuine)
    (genuine : workspace.Genuine) (number : Nat) (places : List Path) {files : List DirectiveFile}
    (found : (lookUpAll interrupt number workspace places).1 = .ok files) :
    ∀ file ∈ files, ∃ place ∈ places, file.Genuine place := by
  induction places generalizing workspace files with
  | nil =>
    cases found
    nofun
  | cons place rest inductionHypothesis =>
    obtain ⟨later, here⟩ := Workspace.genuine_lookUp others genuine number place
    have below (files : List DirectiveFile) := @inductionHypothesis _ later files
    rw [lookUpAll_cons] at found
    generalize Workspace.lookUp interrupt number place workspace = first at found here below
    obtain ⟨_ | answer, left⟩ := first
    · cases found
    · simp only at found below
      generalize lookUpAll interrupt number left rest = others at found below
      obtain ⟨_ | more, final⟩ := others
      · cases found
      · cases found
        intro file member
        rcases List.mem_append.1 member with member | member
        · obtain ⟨other, listed, read⟩ := below more rfl file member
          exact ⟨other, List.mem_cons_of_mem _ listed, read⟩
        · cases Option.mem_toList.1 member
          exact ⟨place, List.mem_cons_self, here file rfl⟩

/-- Each of the directive files that apply to a template is genuine, if others leave the workspace
so. -/
theorem genuine_chain
    (others : ∀ path (workspace : Workspace Store Agenda), workspace.Genuine →
      (interrupt path workspace).Genuine)
    (genuine : workspace.Genuine) {resolver : Resolver} {path : Path} {files : List DirectiveFile}
    (found : (resolver.chain interrupt path workspace).1 = .ok files) :
    ∀ file ∈ files, ∃ place, file.Genuine place := by
  rw [chain_eq] at found
  split at found
  · cases found
  · intro file member
    obtain ⟨place, -, read⟩ := genuine_lookUpAll others genuine resolver.cache _ found file member
    exact ⟨place, read⟩

end Resolver

end TemplateTree
