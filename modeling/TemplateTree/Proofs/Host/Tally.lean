import Mathlib.Algebra.GroupWithZero.Nat
import Mathlib.Algebra.Group.Prod
import Mathlib.Algebra.Order.Group.Multiset
import TemplateTree.Proofs.Cache.Tally
import TemplateTree.Proofs.Host.View

/-!
# Lookups over a storage that stands still

Templates that are compiled over a storage that stands still account for lookups and for misses.
Each lookup of a file that is there counts, and a template misses a file at most once, and only if
it has not been kept before; so the accounts of templates that are compiled together are added, in
whatever order they take their steps. Main statements: `reaches_compileFile_tally`,
`reaches_resolve_tally` and `reaches_compileBatch_tally`.
-/

namespace TemplateTree

/-- What someone accounts for who makes these lookups, of files that are there. Those of files that
are kept already are hits; of each other file the first may be a miss, and the others are hits. -/
def share (visits : Multiset Path.Location) (seen : Finset Path.Location) :
    Multiset Path.Location × Nat :=
  (visits, (visits.toFinset \ seen).card)

/-- Someone who makes these lookups and then more accounts for both. What has been seen by then is
not missed again. -/
theorem share_add (first second : Multiset Path.Location) (seen : Finset Path.Location) :
    share (first + second) seen = share first seen + share second (seen ∪ first.toFinset) := by
  have split : (first + second).toFinset \ seen =
      (first.toFinset \ seen) ∪ (second.toFinset \ (seen ∪ first.toFinset)) := by
    ext location
    simp only [Multiset.toFinset_add, Finset.mem_union, Finset.mem_sdiff]
    tauto
  have apart : Disjoint (first.toFinset \ seen) (second.toFinset \ (seen ∪ first.toFinset)) := by
    rw [Finset.disjoint_left]
    simp only [Finset.mem_union, Finset.mem_sdiff]
    tauto
  rw [share, split, Finset.card_union_of_disjoint apart]
  rfl

theorem share_zero (seen : Finset Path.Location) : share 0 seen = 0 := by
  simp [share]

theorem share_locations_nil (seen : Finset Path.Location) : share (Path.locations []) seen = 0 :=
  share_zero seen

theorem share_singleton {location : Path.Location} {seen : Finset Path.Location}
    (unseen : location ∉ seen) : share {location} seen = ({location}, 1) := by
  rw [share, Multiset.toFinset_singleton, Finset.sdiff_eq_self_of_disjoint
    (Finset.disjoint_singleton_left.2 unseen), Finset.card_singleton]

namespace Memory

/-- All directive files of this name are well-formed. -/
def Parses (memory : Memory) (directiveFilename : String) : Prop :=
  ∀ place file, place.IsPlace directiveFilename → memory.file? place = some file →
    ∃ directives, DirectiveFile.directivesIn place file.content = .ok directives

/-- The text at a path, if there is a file in UTF-8. -/
def text? (memory : Memory) (path : Path) : Option (List Char) :=
  (memory.file? path).bind fun file => Text.Utf8.decode? file.content

/-- Whether there is a well-formed template at a path. -/
def hasTemplate (memory : Memory) (path : Path) : Bool :=
  match memory.text? path with
  | some text => (Template.parse text).toOption.isSome
  | none => false

end Memory

namespace Host

open Process

section Found

variable (host : Host) (memory : Memory)

/-- The normal path of a template for which directive files are looked up: one that lies in the tree
and is well-formed. -/
def walked? (path : Path) : Option Path :=
  (Path.normalize host.root path).toOption.filter memory.hasTemplate

/-- The directive files that apply to the template at a normal path, as far as they are there. -/
def existing (template : Path) : List Path :=
  (Resolver.candidates host.directiveFilename template).filter memory.holds

/-- The directive files that are found for the template at a path. -/
def found (path : Path) : List Path :=
  (host.walked? memory path).toList.flatMap (host.existing memory)

/-- Where directive files are found for the template at a path. -/
def sought (path : Path) : Finset Path.Location :=
  ((host.found memory path).map Path.components).toFinset

variable {host} {memory}

theorem found_of_rejected {path : Path} {rejection : Path.Rejection}
    (rejected : Path.normalize host.root path = .error rejection) : host.found memory path = [] := by
  simp [found, walked?, rejected, Except.toOption]

theorem found_of_normalize {path relative : Path}
    (normal : Path.normalize host.root path = .ok relative) :
    host.found memory path =
      if memory.hasTemplate relative then host.existing memory relative else [] := by
  cases there : memory.hasTemplate relative <;>
    simp [found, walked?, normal, Except.toOption, Option.filter, there]

end Found

variable {Agenda : Type} {host : Host} {memory : Memory} {agenda : Agenda} {resolver : Resolver}

/-- A workspace over a storage that stands still. The resolver is in use, or it is the one that will
be built, and its cache is up to date. -/
structure Standing (host : Host) (memory : Memory) (agenda : Agenda) (resolver : Resolver)
    (workspace : Workspace Memory Agenda) : Prop where
  storage : workspace.storage = memory
  agenda : workspace.agenda = agenda
  taken : (host.resolver workspace).1 = resolver
  numbered : resolver.cache < (host.resolver workspace).2.caches.length
  upToDate : (workspace.cache resolver.cache).UpToDate memory

/-- The storage stands still as well where only warnings, counts and the agenda are others. -/
theorem Standing.congr {next : Agenda} {workspace other : Workspace Memory Agenda}
    (standing : host.Standing memory agenda resolver workspace)
    (storage : other.storage = workspace.storage) (set : other.agenda = next)
    (caches : other.caches = workspace.caches) (installed : other.installed = workspace.installed) :
    host.Standing memory next resolver other := by
  obtain ⟨taken, built⟩ := host.resolver_congr caches installed
  refine ⟨storage.trans standing.storage, set, taken.trans standing.taken, ?_, ?_⟩
  · rw [built]
    exact standing.numbered
  · rw [Workspace.cache, caches]
    exact standing.upToDate

/-- Those who look directive files up while the storage stands still, and what they account for. -/
def tally (host : Host) (memory : Memory) (agenda : Agenda) (resolver : Resolver) :
    Regime {workspace // host.Standing memory agenda resolver workspace} (Workspace Memory Agenda)
      (Multiset Path.Location × Nat) where
  seen := Subtype.val
  adds amount before after :=
    Cache.Tallies amount.1 amount.2 (before.1.cache resolver.cache) (after.1.cache resolver.cache) ∧
      (before.1.installed = some resolver → after.1.installed = some resolver)
  nothing _ := ⟨.refl _, id⟩
  more first second := ⟨first.1.trans second.1, second.2 ∘ first.2⟩

/-- Taking the resolver leaves the storage standing, and the cache as it is. -/
theorem Standing.build {workspace : Workspace Memory Agenda}
    (standing : host.Standing memory agenda resolver workspace) :
    host.Standing memory agenda resolver (host.resolver workspace).2 ∧
      (host.resolver workspace).2.installed = some resolver := by
  have installed := host.installed_resolver workspace
  rw [standing.taken] at installed
  have again := host.resolver_of_installed installed
  obtain ⟨storage, agenda⟩ := host.resolver_frame workspace
  refine ⟨⟨storage.trans standing.storage, agenda.trans standing.agenda, ?_, ?_, ?_⟩, installed⟩
  · rw [again]
  · rw [again]
    exact standing.numbered
  · rw [host.cache_resolver]
    exact standing.upToDate

/-- One comes to a workspace in which the cache has changed as these lookups have it. -/
theorem reaches_tally {now : {workspace // host.Standing memory agenda resolver workspace}}
    (built : now.1.installed = some resolver) {amount : Multiset Path.Location × Nat}
    {change : Cache → Cache} {after : Workspace Memory Agenda} {fact : Prop}
    (storage : after.storage = now.1.storage) (same : after.agenda = now.1.agenda)
    (installed : after.installed = now.1.installed)
    (caches : after.caches = now.1.caches.modify resolver.cache change)
    (upToDate : (change (now.1.cache resolver.cache)).UpToDate memory)
    (tallies : Cache.Tallies amount.1 amount.2 (now.1.cache resolver.cache)
      (change (now.1.cache resolver.cache)))
    (known : fact) :
    (host.tally memory agenda resolver).Reaches amount now after fun further =>
      fact ∧ amount.1.toFinset ⊆ (further.1.cache resolver.cache).places := by
  have there : resolver.cache < now.1.caches.length := by
    have numbered := now.2.numbered
    rwa [host.resolver_of_installed built] at numbered
  have taken := host.resolver_of_installed (installed.trans built)
  have changed : after.cache resolver.cache = change (now.1.cache resolver.cache) := by
    have updated := Workspace.cache_updateCache now.1 resolver.cache change resolver.cache
    rw [if_pos ⟨rfl, there⟩] at updated
    rw [← updated, Workspace.cache, caches]
    rfl
  have standing : host.Standing memory agenda resolver after := by
    refine ⟨storage.trans now.2.storage, same.trans now.2.agenda, by rw [taken], ?_, ?_⟩
    · rw [taken, caches, List.length_modify]
      exact there
    · rw [changed]
      exact upToDate
  rw [← changed] at tallies
  refine ⟨⟨after, standing⟩, ⟨tallies, fun _ => installed.trans built⟩, rfl,
    fun further later => ⟨known, ?_⟩⟩
  obtain ⟨_, tallied, -⟩ := later
  have there : amount.1.toFinset ⊆ (after.cache resolver.cache).places :=
    tallies.places ▸ Finset.subset_union_right
  exact there.trans tallied.subset

variable {interrupt : Interrupt Memory Agenda} {seen : Finset Path.Location}
  {start : {workspace // host.Standing memory agenda resolver workspace}}

/-- What is kept stays kept. -/
theorem subset_of_later {now : {workspace // host.Standing memory agenda resolver workspace}}
    (later : (host.tally memory agenda resolver).Later start now) :
    (start.1.cache resolver.cache).places ⊆ (now.1.cache resolver.cache).places := by
  obtain ⟨_, tallied, -⟩ := later
  exact tallied.subset

/-- A resolver that has been built stays in use. -/
theorem installed_of_later {now : {workspace // host.Standing memory agenda resolver workspace}}
    (later : (host.tally memory agenda resolver).Later start now)
    (built : start.1.installed = some resolver) : now.1.installed = some resolver := by
  obtain ⟨_, -, stays⟩ := later
  exact stays built

/-- A lookup of a well-formed file, or of none, accounts for itself. -/
theorem serves_tally (idle : interrupt.Idle agenda) (faultless : memory.Faultless) {place : Path}
    (parses : ∀ file, memory.file? place = some file →
      ∃ directives, DirectiveFile.directivesIn place file.content = .ok directives)
    (known : seen ⊆ (start.1.cache resolver.cache).places)
    (built : start.1.installed = some resolver) :
    Workspace.Serves interrupt (host.tally memory agenda resolver) resolver.cache place
      (fun now result => (∃ found, result = .ok found) ∧
        (memory.occupied [place]).toFinset ⊆ (now.1.cache resolver.cache).places)
      (share (memory.occupied [place]) seen) start := by
  constructor
  case opening =>
    intro now
    refine ⟨now, ⟨.refl _, id⟩, ?_⟩
    exact (idle place now.1 now.2.agenda).symm
  case unanswered =>
    intro asked error _ stamped
    exact absurd (asked.2.storage ▸ stamped) (faultless.stamp_ne_error place _)
  case absent =>
    intro asked now begun later stamped
    have absent := Memory.file?_of_no_stamp (asked.2.storage ▸ stamped)
    have same : (now.1.cache resolver.cache).evict place = now.1.cache resolver.cache :=
      now.2.upToDate.evict_eq absent
    have built := installed_of_later (begun.trans later) built
    rw [Memory.occupied_of_absent absent, share_zero]
    refine reaches_tally built rfl rfl rfl rfl ?_ ?_ ⟨_, rfl⟩
    · rw [same]
      exact now.2.upToDate
    · rw [same]
      exact .refl _
  case hit =>
    intro asked now entry begun later stamped held
    obtain ⟨file, there, -⟩ := now.2.upToDate place entry held
    have built := installed_of_later (begun.trans later) built
    rw [Memory.occupied_of_file? there]
    exact reaches_tally built rfl rfl rfl rfl now.2.upToDate (Cache.tallies_countHit held _) ⟨_, rfl⟩
  case vanished =>
    intro asked consulted opened now stamp error _ _ _ _ stamped _ read _
    obtain ⟨file, there, -⟩ := Memory.file?_of_stamp (asked.2.storage ▸ stamped)
    cases (faultless.file?_of_unread (opened.2.storage ▸ read)).1.symm.trans there
  case unreadable =>
    intro asked consulted opened stamp error _ _ _ stamped _ read _
    obtain ⟨file, there, -⟩ := Memory.file?_of_stamp (asked.2.storage ▸ stamped)
    cases (faultless.file?_of_unread (opened.2.storage ▸ read)).1.symm.trans there
  case read =>
    intro asked consulted opened now stamp content result after begun ready reading later stamped
      stale read taken
    obtain ⟨file, there, rfl⟩ := Memory.file?_of_stamp (asked.2.storage ▸ stamped)
    -- Whatever is kept is up to date, so that there was nothing when the cache was consulted.
    have unkept : (consulted.1.cache resolver.cache).find? place = none := by
      by_contra kept
      obtain ⟨entry, held⟩ := Option.ne_none_iff_exists'.1 kept
      obtain ⟨other, here, same⟩ := consulted.2.upToDate place entry held
      obtain rfl := Option.some.inj (here.symm.trans there)
      exact stale entry held same
    have unseen : place.components ∉ seen := by
      intro member
      have kept := (known.trans (subset_of_later (begun.trans ready))) member
      obtain ⟨entry, held⟩ := Cache.mem_places_iff.1 kept
      cases unkept.symm.trans held
    obtain ⟨other, here, rfl⟩ := Memory.file?_of_content (opened.2.storage ▸ read)
    obtain rfl := Option.some.inj (here.symm.trans there)
    obtain ⟨directives, parsed⟩ := parses other there
    have built := installed_of_later (((begun.trans ready).trans reading).trans later) built
    rw [Memory.occupied_of_file? there, share_singleton unseen]
    generalize found : ((tally host memory agenda resolver).seen consulted).cache resolver.cache = cache
      at taken
    cases taken with
    | @revalidated entry held =>
      rw [← found] at held
      cases unkept.symm.trans held
    | malformed _ failed => cases failed.symm.trans parsed
    | @parsed _ file =>
      have counted : (now.1.cache resolver.cache).countMiss.UpToDate memory := now.2.upToDate
      exact reaches_tally built rfl rfl rfl (List.modify_modify_eq ..) (counted.keep there file)
        (Cache.tallies_countMiss ..) ⟨_, rfl⟩

/-- Taking the resolver accounts for nothing. -/
theorem ensures_resolver_tally :
    (Process.act host.resolver).Ensures (host.tally memory agenda resolver)
      (fun now taken => taken = resolver ∧ now.1.installed = some resolver) 0 start := by
  refine .act fun now _ => ?_
  obtain ⟨standing, installed⟩ := now.2.build
  refine ⟨⟨_, standing⟩, ⟨?_, fun _ => installed⟩, rfl, fun further later => ?_⟩
  · rw [host.cache_resolver]
    exact .refl _
  · obtain ⟨_, -, stays⟩ := later
    exact ⟨now.2.taken, stays installed⟩

section Calls

variable (idle : interrupt.Idle agenda) (faultless : memory.Faultless)
  (parses : memory.Parses resolver.directiveFilename)
include idle faultless parses

/-- Lookups of well-formed files, or of none, account for themselves. -/
theorem ensures_lookUpAll_tally {places : List Path}
    (inside : ∀ place ∈ places, place.IsPlace resolver.directiveFilename)
    (known : seen ⊆ (start.1.cache resolver.cache).places)
    (built : start.1.installed = some resolver) :
    (Resolver.lookUpAllSteps interrupt resolver.cache places).Ensures
      (host.tally memory agenda resolver) (fun _ result => ∃ files, result = .ok files)
      (share (memory.occupied places) seen) start := by
  induction places generalizing seen start with
  | nil =>
    rw [show share (memory.occupied []) seen = 0 from share_zero seen]
    exact .pure fun _ _ => ⟨[], rfl⟩
  | cons place rest inductionHypothesis =>
    obtain ⟨here, others⟩ := List.forall_mem_cons.1 inside
    rw [Resolver.lookUpAllSteps, Memory.occupied_cons, share_add]
    refine (serves_tally idle faultless (fun file => parses place file here) known
      built).ensures.bind fun now result later fact => ?_
    obtain ⟨⟨found, rfl⟩, kept⟩ := fact now (.refl now)
    have known := known.trans (subset_of_later later)
    refine (inductionHypothesis others (Finset.union_subset known kept)
      (installed_of_later later built)).finish fun last result _ fact => ?_
    obtain ⟨files, rfl⟩ := fact last (.refl last)
    exact .pure fun _ _ => ⟨_, rfl⟩

variable (named : resolver.directiveFilename = host.directiveFilename)
include named

/-- A template that has been read accounts for the directive files that apply to it. -/
theorem ensures_configure_tally {relative : Path} (normal : relative.IsNormal) (template : Template)
    (known : seen ⊆ (start.1.cache resolver.cache).places)
    (built : start.1.installed = some resolver) :
    (host.configureSteps interrupt resolver relative template).Ensures
      (host.tally memory agenda resolver) (fun _ _ => True)
      (share (Path.locations (host.existing memory relative)) seen) start := by
  have here : resolver.normalize relative = .ok relative := by
    rw [Resolver.normalize, normal.normalize_eq]
  have existing : Path.locations (host.existing memory relative) =
      memory.occupied (Resolver.candidates resolver.directiveFilename relative).reverse := by
    rw [Memory.occupied_reverse, named]
    rfl
  have inside : ∀ place ∈ (Resolver.candidates resolver.directiveFilename relative).reverse,
      place.IsPlace resolver.directiveFilename :=
    fun place member => Resolver.isPlace_of_mem_candidates normal (List.mem_reverse.1 member)
  have warns (warnings : List String) :
      (host.tally memory agenda resolver).Allows (·.warn warnings) :=
    fun now => ⟨⟨now.1.warn warnings, now.2.congr rfl now.2.agenda rfl rfl⟩, ⟨.refl _, id⟩, rfl⟩
  rw [existing, configureSteps, Resolver.chainSteps, Resolver.directivePaths, here]
  refine (ensures_lookUpAll_tally idle faultless parses inside known built).finish
    fun now result _ _ => ?_
  cases result with
  | error error => exact .pure fun _ _ => trivial
  | ok files =>
    exact (Ensures.act_of_allows (warns _)).andThen fun _ _ _ _ => .pure fun _ _ => trivial

/-- A text that is compiled as a template accounts for the directive files that apply to it, if it
is well-formed. -/
theorem ensures_compileAt_tally {relative : Path} (normal : relative.IsNormal) (text : List Char)
    (known : seen ⊆ (start.1.cache resolver.cache).places) :
    (host.compileAtSteps interrupt relative text).Ensures (host.tally memory agenda resolver)
      (fun _ _ => True)
      (share (Path.locations (if (Template.parse text).toOption.isSome then
        host.existing memory relative else [])) seen) start := by
  rw [compileAtSteps]
  refine ensures_resolver_tally.andThen fun ready taken later fact => ?_
  obtain ⟨rfl, built⟩ := fact ready (.refl ready)
  have here : taken.normalize relative = .ok relative := by
    rw [Resolver.normalize, normal.normalize_eq]
  simp only [here, parse]
  cases Template.parse text with
  | error error =>
    simp only [Except.toOption, Option.isSome_none, Bool.false_eq_true, if_false,
      share_locations_nil]
    exact .pure fun _ _ => trivial
  | ok template =>
    simp only [Except.toOption, Option.isSome_some, if_true]
    refine (ensures_configure_tally idle faultless parses named normal template
      (known.trans (subset_of_later later)) built).finish fun last configured _ _ => ?_
    cases configured <;> exact .pure fun _ _ => trivial

/-- A template of the storage accounts for the directive files that are found for it. -/
theorem ensures_compileFile_tally (path : Path)
    (known : seen ⊆ (start.1.cache resolver.cache).places) :
    (host.compileFileSteps interrupt path).Ensures (host.tally memory agenda resolver)
      (fun _ _ => True) (share (Path.locations (host.found memory path)) seen) start := by
  rw [compileFileSteps]
  cases normal : Path.normalize host.root path with
  | error rejection =>
    rw [found_of_rejected normal, share_locations_nil]
    exact .pure fun _ _ => trivial
  | ok relative =>
    have isNormal := Path.isNormal_of_normalize normal
    have opens : (Process.act (Workspace.openFile interrupt relative)).Ensures
        (host.tally memory agenda resolver)
        (fun _ opened => opened = Storage.stream memory relative) 0 start := by
      refine .act fun now _ => ⟨now, ⟨.refl _, id⟩, ?_, fun _ _ => ?_⟩
      · exact (idle relative now.1 now.2.agenda).symm
      · change Storage.stream (interrupt relative now.1).storage relative = _
        rw [idle relative now.1 now.2.agenda, now.2.storage]
    refine opens.andThen fun now opened later fact => ?_
    rw [fact now (.refl now), faultless.stream_eq, found_of_normalize normal, Memory.hasTemplate,
      Memory.text?]
    cases memory.file? relative with
    | none =>
      simp only [Option.bind_none, Bool.false_eq_true, if_false, share_locations_nil]
      exact .pure fun _ _ => trivial
    | some file =>
      cases decoded : Text.Utf8.decode? file.content with
      | none =>
        simp only [Option.bind_some, compileSteps, readSource, Stream.content, decoded,
          Bool.false_eq_true, if_false, share_locations_nil]
        exact .pure fun _ _ => trivial
      | some text =>
        simp only [Option.bind_some, compileSteps, readSource, Stream.content, decoded]
        exact ensures_compileAt_tally idle faultless parses named isNormal text
          (known.trans (subset_of_later later))

/-- A template that is compiled alone accounts for no more. -/
theorem reaches_compileFile_tally (path : Path)
    (known : seen ⊆ (start.1.cache resolver.cache).places) :
    (host.tally memory agenda resolver).Reaches
      (share (Path.locations (host.found memory path)) seen) start
      (host.compileFile interrupt path start.1).2 fun _ => True := by
  obtain ⟨after, adds, same, -⟩ :=
    (ensures_compileFile_tally idle faultless parses named path known).run
  exact ⟨after, adds, same, fun _ _ => trivial⟩

/-- A template that is configured accounts for the directive files that are found for it. -/
theorem reaches_resolve_tally (rooted : resolver.root = host.root) (path : Path)
    (known : seen ⊆ (start.1.cache resolver.cache).places) :
    (host.tally memory agenda resolver).Reaches
      (share (Path.locations (host.found memory path)) seen) start
      (host.resolve interrupt path start.1).2 fun _ => True := by
  have takes : (Process.act host.resolver).Ensures (host.tally memory agenda resolver) _ 0 start :=
    ensures_resolver_tally
  obtain ⟨ready, built, same, fact⟩ := takes.run
  have stays : (host.tally memory agenda resolver).Reaches 0 start (host.resolver start.1).2
      fun _ => True :=
    ⟨ready, built, same, fun _ _ => trivial⟩
  obtain ⟨-, installed⟩ := fact ready (.refl ready)
  have taken : host.resolver start.1 = (resolver, ready.1) := Prod.ext start.2.taken same.symm
  rw [taken] at stays
  simp only [resolve, taken, Resolver.normalize, rooted]
  cases normal : Path.normalize host.root path with
  | error rejection =>
    rw [found_of_rejected normal, share_locations_nil]
    exact stays
  | ok relative =>
    have opened : Workspace.openFile interrupt relative ready.1 =
        (Storage.stream memory relative, ready.1) := by
      rw [Workspace.openFile, idle relative ready.1 ready.2.agenda, ready.2.storage]
    rw [found_of_normalize normal, Memory.hasTemplate, Memory.text?]
    simp only [opened, faultless.stream_eq]
    cases there : memory.file? relative with
    | none => simpa [share_locations_nil] using stays
    | some file =>
      cases decoded : Text.Utf8.decode? file.content with
      | none => simpa [readSource, Stream.content, decoded, share_locations_nil] using stays
      | some text =>
        cases parsed : Template.parse text with
        | error error =>
          simpa [readSource, Stream.content, decoded, parse, parsed, Except.toOption, share_locations_nil]
            using stays
        | ok template =>
          have known : seen ⊆ (ready.1.cache resolver.cache).places := known.trans built.1.subset
          obtain ⟨after, adds, final, -⟩ := (ensures_configure_tally idle faultless parses named
            (Path.isNormal_of_normalize normal) template known installed).run
          refine ⟨after, ?_, ?_, fun _ _ => trivial⟩
          · simpa [decoded, parsed, Except.toOption] using
              (host.tally memory agenda resolver).more built adds
          · have configured : after.1 =
                (host.configure interrupt resolver relative template ready.1).2 := final
            change after.1 = _
            simpa [readSource, Stream.content, decoded, parse, parsed] using configured

/-- Templates that are compiled together account for the directive files that are found for them,
each for its own. -/
theorem reaches_compileBatch_tally (schedule : List Nat)
    (paths : List Path) (known : seen ⊆ (start.1.cache resolver.cache).places) :
    (host.tally memory agenda resolver).Reaches
      (paths.map fun path => share (Path.locations (host.found memory path)) seen).sum start
      (host.compileBatch interrupt schedule paths start.1).2 fun _ => True := by
  have each : ∀ path ∈ paths, ((path, ·) <$> host.compileFileSteps interrupt path).Ensures
      (host.tally memory agenda resolver) (fun _ _ => True)
      (share (Path.locations (host.found memory path)) seen) start :=
    fun path _ => (ensures_compileFile_tally idle faultless parses named path known).map
      fun _ _ _ _ => trivial
  obtain ⟨after, adds, same, -⟩ := (Ensured.of_forall each).together schedule
  exact ⟨after, adds, same, fun _ _ => trivial⟩

end Calls

end Host

end TemplateTree
