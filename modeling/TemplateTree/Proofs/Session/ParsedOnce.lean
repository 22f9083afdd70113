import Mathlib.Data.Finset.Union
import TemplateTree.Proofs.Host.Tally
import TemplateTree.Proofs.Session.EntryPoints

/-!
# How often directive files are parsed

While nobody changes the storage and all its directive files are well-formed, what a new cache keeps
follows from the templates that have been compiled or configured, in whatever order, and so does the
number of lookups counted. Templates that are compiled at the same time may each parse a directive
file that they share; apart from that, every file is parsed once. Main statement:
`parsed_when_first_sought`.
-/

namespace TemplateTree.Session

/-- A call that compiles or configures templates of the storage. -/
inductive Call where
  | resolve (path : Path)
  | compileFile (path : Path)
  | compileBatch (paths : List Path) (schedule : List Nat)

/-- What a call asks of a host. -/
def Call.request : Call → Request
  | .resolve path => .resolve path
  | .compileFile path => .compileFile path
  | .compileBatch paths schedule => .compileBatch paths schedule

/-- The paths of the templates that a call is about. -/
def Call.templates : Call → List Path
  | .resolve path | .compileFile path => [path]
  | .compileBatch paths _ => paths

/-- The templates of a call, in rounds. Those of one round are compiled at the same time; the
members of a batch follow one another only if nothing has been scheduled. -/
def Call.rounds : Call → List (List Path)
  | .resolve path | .compileFile path => [[path]]
  | .compileBatch paths [] => paths.map ([·])
  | .compileBatch paths (_ :: _) => [paths]

theorem Call.flatten_rounds (call : Call) : call.rounds.flatten = call.templates := by
  cases call with
  | resolve path | compileFile path => rfl
  | compileBatch paths schedule =>
    cases schedule with
    | nil => simp [rounds, templates, ← List.flatMap_def]
    | cons position rest => simp [rounds, templates]

/-- The state after some calls. -/
def afterCalls (host : Host) (calls : List Call) (state : State) : State :=
  finish host (calls.map fun call => .ask call.request) state

/-- How often files are looked up in these rounds that no earlier round has looked up. A template
counts once for each of its files. -/
def firstLookups (sought : Path → Finset Path.Location) (seen : Finset Path.Location) :
    List (List Path) → Nat
  | [] => 0
  | round :: rest =>
    (round.map fun path => (sought path \ seen).card).sum +
      firstLookups sought (seen ∪ round.toFinset.biUnion sought) rest

section FirstLookups

variable {sought : Path → Finset Path.Location}

theorem firstLookups_append (seen : Finset Path.Location) (first second : List (List Path)) :
    firstLookups sought seen (first ++ second) =
      firstLookups sought seen first +
        firstLookups sought (seen ∪ first.flatten.toFinset.biUnion sought) second := by
  induction first generalizing seen with
  | nil => simp [firstLookups]
  | cons round rest inductionHypothesis =>
    have union : seen ∪ round.toFinset.biUnion sought ∪ rest.flatten.toFinset.biUnion sought =
        seen ∪ (round :: rest).flatten.toFinset.biUnion sought := by
      rw [List.flatten_cons, List.toFinset_append, Finset.union_biUnion, Finset.union_assoc]
    rw [List.cons_append, firstLookups, firstLookups, inductionHypothesis, union, Nat.add_assoc]

/-- No two templates of a round share a file that no earlier round has looked up. -/
def ApartBeyond (sought : Path → Finset Path.Location) (seen : Finset Path.Location) :
    List (List Path) → Prop
  | [] => True
  | round :: rest =>
    (round.Pairwise fun one other => Disjoint (sought one \ seen) (sought other \ seen)) ∧
      ApartBeyond sought (seen ∪ round.toFinset.biUnion sought) rest

instance decidableApartBeyond (seen : Finset Path.Location) :
    (rounds : List (List Path)) → Decidable (ApartBeyond sought seen rounds)
  | [] => .isTrue trivial
  | round :: rest =>
    have := decidableApartBeyond (seen ∪ round.toFinset.biUnion sought) rest
    inferInstanceAs (Decidable (_ ∧ _))

/-- Templates that share no file look up together what they look up one by one. -/
theorem sum_card_of_pairwise {seen : Finset Path.Location} {round : List Path}
    (apart : round.Pairwise fun one other => Disjoint (sought one \ seen) (sought other \ seen)) :
    (round.map fun path => (sought path \ seen).card).sum =
      (round.toFinset.biUnion sought \ seen).card := by
  induction apart with
  | nil => simp
  | @cons path rest here _ inductionHypothesis =>
    have disjoint : Disjoint (sought path \ seen) (rest.toFinset.biUnion sought \ seen) := by
      rw [Finset.disjoint_left]
      intro location first second
      obtain ⟨inside, new⟩ := Finset.mem_sdiff.1 second
      obtain ⟨other, member, there⟩ := Finset.mem_biUnion.1 inside
      exact Finset.disjoint_left.1 (here other (List.mem_toFinset.1 member)) first
        (Finset.mem_sdiff.2 ⟨there, new⟩)
    rw [List.map_cons, List.sum_cons, inductionHypothesis, List.toFinset_cons, Finset.biUnion_insert,
      Finset.union_sdiff_distrib, Finset.card_union_of_disjoint disjoint]

/-- Where the templates of a round share no new file, each file is looked up for the first time
once. -/
theorem card_add_firstLookups {rounds : List (List Path)} {seen : Finset Path.Location}
    (apart : ApartBeyond sought seen rounds) :
    seen.card + firstLookups sought seen rounds =
      (seen ∪ rounds.flatten.toFinset.biUnion sought).card := by
  induction rounds generalizing seen with
  | nil => simp [firstLookups]
  | cons round rest inductionHypothesis =>
    obtain ⟨here, later⟩ := apart
    have grown : (seen ∪ round.toFinset.biUnion sought).card =
        seen.card + (round.toFinset.biUnion sought \ seen).card := by
      rw [← Finset.union_sdiff_self_eq_union, Finset.card_union_of_disjoint Finset.disjoint_sdiff]
    rw [firstLookups, sum_card_of_pairwise here, ← Nat.add_assoc, ← grown, inductionHypothesis later,
      List.flatten_cons, List.toFinset_append, Finset.union_biUnion, Finset.union_assoc]

end FirstLookups

variable {host : Host} {memory : Memory}

/-- What the templates of a round account for together. -/
theorem sum_share (round : List Path) (seen : Finset Path.Location) :
    (round.map fun path => share (Path.locations (host.found memory path)) seen).sum =
      (Path.locations (round.flatMap (host.found memory)),
        (round.map fun path => (host.sought memory path \ seen).card).sum) := by
  induction round with
  | nil => rfl
  | cons path rest inductionHypothesis =>
    rw [List.map_cons, List.sum_cons, inductionHypothesis, List.flatMap_cons, Path.locations_append]
    rfl

theorem toFinset_locations (paths : List Path) :
    (Path.locations (paths.flatMap (host.found memory))).toFinset =
      paths.toFinset.biUnion (host.sought memory) := by
  ext location
  simp only [Path.locations, Host.sought, Multiset.mem_toFinset, Multiset.mem_coe, List.mem_map,
    List.mem_flatMap, Finset.mem_biUnion, List.mem_toFinset]
  constructor
  · rintro ⟨place, ⟨path, listed, found⟩, rfl⟩
    exact ⟨path, listed, place, found, rfl⟩
  · rintro ⟨path, listed, place, found, rfl⟩
    exact ⟨place, ⟨path, listed, found⟩, rfl⟩

/-- What becomes of a cache in some rounds. -/
def TalliesRounds (host : Host) (memory : Memory) (rounds : List (List Path))
    (before after : Cache) : Prop :=
  Cache.Tallies (Path.locations (rounds.flatten.flatMap (host.found memory)))
    (firstLookups (host.sought memory) before.places rounds) before after

theorem TalliesRounds.append {first second : List (List Path)} {before between after : Cache}
    (one : TalliesRounds host memory first before between)
    (two : TalliesRounds host memory second between after) :
    TalliesRounds host memory (first ++ second) before after := by
  have both := Cache.Tallies.trans one two
  rw [one.places, toFinset_locations, ← firstLookups_append, ← Path.locations_append,
    ← List.flatMap_append, ← List.flatten_append] at both
  exact both

/-- A point of a session at which nothing has been put off, over a storage that stands still. -/
structure Tallying (host : Host) (memory : Memory) (resolver : Resolver) (state : State) : Prop where
  settled : state.agenda.pending = []
  standing : host.Standing memory state.agenda resolver state

namespace Tallying

variable {resolver : Resolver} {state : State}

/-- What is accounted for in a round becomes of the cache. -/
theorem round (tallying : Tallying host memory resolver state) {round : List Path} {after : State}
    (reaches : (host.tally memory state.agenda resolver).Reaches
      (round.map fun path => share (Path.locations (host.found memory path))
        (state.cache resolver.cache).places).sum ⟨state, tallying.standing⟩ after fun _ => True) :
    Tallying host memory resolver after ∧
      TalliesRounds host memory [round] (state.cache resolver.cache) (after.cache resolver.cache) := by
  obtain ⟨world, ⟨tallies, -⟩, same, -⟩ := reaches
  obtain rfl : world.1 = after := same
  rw [sum_share] at tallies
  have agenda : world.1.agenda = state.agenda := world.2.agenda
  refine ⟨⟨?_, world.2.congr rfl rfl rfl rfl⟩, ?_⟩
  · rw [agenda]
    exact tallying.settled
  · simpa [TalliesRounds, firstLookups] using tallies

theorem ready (tallying : Tallying host memory resolver state) :
    Tallying host memory resolver
      { state with warnings := [], agenda := { state.agenda with answers := [] } } :=
  ⟨tallying.settled, tallying.standing.congr rfl rfl rfl rfl⟩

/-- Before a resolver has been built, its cache is that of a new one. -/
theorem of_unbuilt (unbuilt : state.installed = none) (settled : state.agenda.pending = []) :
    Tallying host state.storage (host.resolver state).1 state ∧
      state.cache (host.resolver state).1.cache = .empty := by
  have new : state.cache (host.resolver state).1.cache = .empty := by
    simp [Host.resolver, unbuilt, Workspace.addResolver, Workspace.cache]
  refine ⟨⟨settled, rfl, rfl, rfl, ?_, ?_⟩, new⟩
  · simp [Host.resolver, unbuilt, Workspace.addResolver]
  · rw [new]
    intro place entry found
    cases found

variable (faultless : memory.Faultless) (parses : memory.Parses resolver.directiveFilename)
  (rooted : resolver.root = host.root) (named : resolver.directiveFilename = host.directiveFilename)
include faultless parses named

/-- A template that is compiled is a round of its own. -/
theorem compileFile (tallying : Tallying host memory resolver state) (path : Path) (depth : Nat) :
    let after := (host.compileFile (interruption host depth) path state).2
    Tallying host memory resolver after ∧
      TalliesRounds host memory [[path]] (state.cache resolver.cache) (after.cache resolver.cache) := by
  have idle := idle_of_settled host depth tallying.settled
  refine tallying.round ?_
  rw [List.map_singleton, List.sum_singleton]
  exact Host.reaches_compileFile_tally idle faultless parses named path subset_rfl

/-- So is every member of a batch if they follow one another. -/
theorem compileBatch_nil (tallying : Tallying host memory resolver state) (paths : List Path)
    (depth : Nat) :
    let after := (host.compileBatch (interruption host depth) [] paths state).2
    Tallying host memory resolver after ∧
      TalliesRounds host memory (paths.map ([·])) (state.cache resolver.cache)
        (after.cache resolver.cache) := by
  intro after
  induction paths generalizing state with
  | nil => exact ⟨tallying, .refl _⟩
  | cons path rest inductionHypothesis =>
    obtain ⟨between, one⟩ := tallying.compileFile faultless parses named path depth
    obtain ⟨last, others⟩ := inductionHypothesis between
    have moved : after =
        (host.compileBatch (interruption host depth) [] rest
          (host.compileFile (interruption host depth) path state).2).2 := by
      simp [after, Host.compileBatch, Host.members, Process.together, Process.follow, Process.runAll,
        Host.compileFile]
    rw [moved]
    exact ⟨last, one.append others⟩

include rooted in
/-- The cache counts what a call looks up. -/
theorem answer (tallying : Tallying host memory resolver state) (call : Call) (depth : Nat) :
    let after := (host.answer (interruption host depth) call.request state).2
    Tallying host memory resolver after ∧
      TalliesRounds host memory call.rounds (state.cache resolver.cache)
        (after.cache resolver.cache) := by
  have idle := idle_of_settled host depth tallying.settled
  cases call with
  | resolve path =>
    refine tallying.round ?_
    rw [List.map_singleton, List.sum_singleton]
    exact Host.reaches_resolve_tally idle faultless parses named rooted path subset_rfl
  | compileFile path => exact tallying.compileFile faultless parses named path depth
  | compileBatch paths schedule =>
    cases schedule with
    | nil => exact tallying.compileBatch_nil faultless parses named paths depth
    | cons position rest =>
      exact tallying.round (Host.reaches_compileBatch_tally idle faultless parses named
        (position :: rest) paths subset_rfl)

include rooted in
/-- The cache counts what the calls look up. -/
theorem afterCalls (tallying : Tallying host memory resolver state) (calls : List Call) :
    let after := afterCalls host calls state
    Tallying host memory resolver after ∧
      TalliesRounds host memory (calls.flatMap Call.rounds) (state.cache resolver.cache)
        (after.cache resolver.cache) := by
  induction calls generalizing state with
  | nil => exact ⟨tallying, .refl _⟩
  | cons call rest inductionHypothesis =>
    obtain ⟨between, one⟩ := tallying.ready.answer faultless parses rooted named call
      (Step.deferrals (.ask call.request) + state.agenda.deferrals)
    obtain ⟨last, others⟩ := inductionHypothesis between
    have moved : Session.afterCalls host (call :: rest) state =
        Session.afterCalls host rest (host.answer (interruption host
          (Step.deferrals (.ask call.request) + state.agenda.deferrals)) call.request
          { state with warnings := [], agenda := { state.agenda with answers := [] } }).2 := by
      rw [Session.afterCalls, List.map_cons, finish, step, perform_ask]
      rfl
    rw [moved, List.flatMap_cons]
    exact ⟨last, one.append others⟩

end Tallying

/-- The counters of a cache and the number of files that it keeps. -/
def countersOf (cache : Cache) : CacheStatus :=
  ⟨cache.size, cache.hits, cache.misses, cache.revalidations⟩

/-- No two templates that these calls compile at the same time share a directive file that has not
been looked up before. -/
def Apart (host : Host) (memory : Memory) (calls : List Call) : Prop :=
  ApartBeyond (host.sought memory) ∅ (calls.flatMap Call.rounds)

/-- What a new cache keeps after some rounds, and what it has counted. -/
structure TalliesRounds.Outcome (host : Host) (memory : Memory) (rounds : List (List Path))
    (cache : Cache) : Prop where
  size : cache.size =
    ((rounds.flatten.flatMap (host.found memory)).map Path.components).toFinset.card
  revalidations : cache.revalidations = 0
  total : cache.hits + cache.misses = (rounds.flatten.flatMap (host.found memory)).length
  atLeast : cache.size ≤ cache.misses
  atMost : cache.misses ≤ firstLookups (host.sought memory) ∅ rounds
  once : ApartBeyond (host.sought memory) ∅ rounds → cache.misses = cache.size

theorem TalliesRounds.outcome {rounds : List (List Path)} {cache : Cache}
    (tallies : TalliesRounds host memory rounds .empty cache) :
    Outcome host memory rounds cache := by
  have places := tallies.places
  rw [show Cache.empty.places = ∅ from rfl, Finset.empty_union] at places
  have size := congrArg Finset.card places
  rw [Cache.places, Cache.card_keys] at size
  have total := tallies.total
  have atLeast := tallies.atLeast
  have atMost := tallies.atMost
  simp only [Cache.empty, Cache.size, Table.size_empty, Nat.zero_add, Nat.add_zero]
    at total atLeast atMost
  refine ⟨size, tallies.revalidations, ?_, atLeast, atMost, fun apart => ?_⟩
  · simpa [Path.locations] using total
  · have first := card_add_firstLookups apart
    rw [Finset.card_empty, Nat.zero_add, Finset.empty_union, ← toFinset_locations, ← size] at first
    exact (atMost.trans first.le).antisymm atLeast

/-- Where all that is called `_imports.tmpl` is empty, all directive files are well-formed. -/
theorem parses_of_empty {memory : Memory} (stored : ∀ entry ∈ memory.files.entries,
      entry.1.getLast? = some (.name "_imports.tmpl") → entry.2.content = []) :
    memory.Parses "_imports.tmpl" := by
  have ends (place : Path) (found : place.IsPlace "_imports.tmpl") :
      place.components.getLast? = some (.name "_imports.tmpl") := by
    obtain ⟨names, named, rfl⟩ := found
    have steps : (Path.pieces "_imports.tmpl".toList).filterMap Path.component? =
        [.name "_imports.tmpl"] := by decide +kernel
    by_cases top : names = []
    · rw [top, Path.join_ofNames_nil]
      decide +kernel
    · rw [Path.components_join_ofNames top named (by decide +kernel), steps,
        List.getLast?_concat]
  intro place file found there
  obtain ⟨entry, held, rfl⟩ := Option.map_eq_some_iff.1 there
  have key : entry.1 = place.components := by simpa using List.find?_some held
  have content := stored entry (List.mem_of_find?_eq_some held) (key ▸ ends place found)
  exact ⟨[], by rw [content]; rfl⟩

/-- Two templates that are compiled at the same time both parse the directive file that they share:
the one consults the cache before the other has the file kept. So do two batches, of which one is
asked for while the other has the file opened. If the first template is done before the second is
begun, the file is parsed once. -/
theorem parsed_twice_in_company :
    let host : Host := { root := ⟨"views"⟩ }
    let first : Path := ⟨"a.tmpl"⟩
    let second : Path := ⟨"b.tmpl"⟩
    let state := start [(⟨"_imports.tmpl"⟩, []), (first, [120]), (second, [120])] false
    let counters (after : State) :=
      countersOf ((host.resolver after).2.cache (host.resolver after).1.cache)
    let batch (schedule : List Nat) :=
      counters (afterCalls host [.compileBatch [first, second] schedule] state)
    let meanwhile : List Step :=
      [.onNextOpen ⟨"_imports.tmpl"⟩ [.ask (.compileBatch [second])], .ask (.compileBatch [first])]
    state.installed = none ∧ state.agenda.pending = [] ∧ state.storage.Faultless ∧
      state.storage.Parses host.directiveFilename ∧ batch [0, 0, 0, 0, 1, 1, 1, 1] = ⟨1, 0, 2, 0⟩ ∧
      counters (finish host meanwhile state) = ⟨1, 0, 2, 0⟩ ∧ batch [] = ⟨1, 1, 1, 0⟩ := by
  intro host first second state counters batch meanwhile
  exact ⟨rfl, rfl, Memory.faultless_of_entries (by decide +kernel),
    parses_of_empty (by decide +kernel), by decide +kernel, by decide +kernel, by decide +kernel⟩

/-- Over a storage that stands still and has well-formed directive files only, a host that has no
resolver yet comes to keep, by whatever calls, each directive file that is there for one of the
templates walked for, and counts every lookup of one as a hit or as a miss. There are at least as
many misses as files, and at most as many as lookups in the rounds that look a file up for the first
time, where every template may parse it that is compiled at the same time. So each file is parsed
once if no two such templates share one that is new, and then the counters do not depend on the
order in which templates are compiled and configured, alone or in batches. What is kept and how many
lookups there were does not depend on it in any case. -/
theorem parsed_when_first_sought (host : Host) {state : State} (unbuilt : state.installed = none)
    (settled : state.agenda.pending = []) (faultless : state.storage.Faultless)
    (parses : state.storage.Parses host.directiveFilename) (calls : List Call) :
    let countersAfter (calls : List Call) :=
      let after := afterCalls host calls state
      countersOf ((host.resolver after).2.cache (host.resolver after).1.cache)
    let counters := countersAfter calls
    let walked := (calls.flatMap Call.templates).filterMap (host.walked? state.storage)
    counters.size =
        ((walked.flatMap (host.existing state.storage)).map Path.components).toFinset.card ∧
      counters.revalidations = 0 ∧
      counters.hits + counters.misses =
        (walked.map fun template => (host.existing state.storage template).length).sum ∧
      counters.size ≤ counters.misses ∧
      counters.misses ≤ firstLookups (host.sought state.storage) ∅ (calls.flatMap Call.rounds) ∧
      (Apart host state.storage calls → counters.misses = counters.size) ∧
      ∀ others : List Call,
        (others.flatMap Call.templates).Perm (calls.flatMap Call.templates) →
          (countersAfter others).size = counters.size ∧
          (countersAfter others).revalidations = counters.revalidations ∧
          (countersAfter others).hits + (countersAfter others).misses =
            counters.hits + counters.misses ∧
          (Apart host state.storage calls → Apart host state.storage others →
            countersAfter others = counters) := by
  intro countersAfter counters walked
  have flatten (calls : List Call) :
      (calls.flatMap Call.rounds).flatten = calls.flatMap Call.templates := by
    rw [List.flatMap_def, List.flatten_flatten, List.map_map, List.flatMap_def]
    exact congrArg List.flatten (List.map_congr_left fun call _ => call.flatten_rounds)
  have outcome (calls : List Call) :
      let after := afterCalls host calls state
      TalliesRounds.Outcome host state.storage (calls.flatMap Call.rounds)
        ((host.resolver after).2.cache (host.resolver after).1.cache) := by
    obtain ⟨tallying, new⟩ : Tallying host state.storage (host.resolver state).1 state ∧
        state.cache (host.resolver state).1.cache = .empty := Tallying.of_unbuilt unbuilt settled
    have built : (host.resolver state).1 =
        ⟨host.root, host.directiveFilename, state.caches.length⟩ := by
      rw [Host.resolver, unbuilt]
      rfl
    obtain ⟨last, tallies⟩ := tallying.afterCalls faultless (by rw [built]; exact parses)
      (by rw [built]) (by rw [built]) calls
    rw [new] at tallies
    intro after
    rw [host.cache_resolver, last.standing.taken]
    exact tallies.outcome
  have found : (calls.flatMap Call.templates).flatMap (host.found state.storage) =
      walked.flatMap (host.existing state.storage) := by
    simp only [walked, List.filterMap_eq_flatMap_toList, List.flatMap_assoc]
    rfl
  obtain ⟨size, revalidations, total, atLeast, atMost, once⟩ := outcome calls
  rw [flatten] at size total
  refine ⟨found ▸ size, revalidations, ?_, atLeast, atMost, once, fun others same => ?_⟩
  · rw [← List.length_flatMap, ← found]
    exact total
  · obtain ⟨size', revalidations', total', -, -, once'⟩ := outcome others
    rw [flatten] at size' total'
    have perm := same.flatMap_right (host.found state.storage)
    have sizes : (countersAfter others).size = counters.size := by
      refine (size'.trans ?_).trans size.symm
      rw [List.toFinset_eq_of_perm _ _ (perm.map Path.components)]
    have none : (countersAfter others).revalidations = counters.revalidations :=
      revalidations'.trans revalidations.symm
    have totals : (countersAfter others).hits + (countersAfter others).misses =
        counters.hits + counters.misses :=
      (total'.trans perm.length_eq).trans total.symm
    refine ⟨sizes, none, totals, fun apart apart' => ?_⟩
    have here : counters.misses = counters.size := once apart
    have there : (countersAfter others).misses = (countersAfter others).size := once' apart'
    cases one : counters
    cases other : countersAfter others
    simp only [one, other, CacheStatus.mk.injEq] at *
    omega

/-- Two directive files apply to a page, and one of them to a template that is malformed. Each is
parsed once, although the page is configured and then compiled twice at the same time; the malformed
template, one that is missing and one outside of the tree are counted for nothing, in whatever order
the batch is compiled. -/
theorem parsed_when_first_sought_by_batch :
    let host : Host := { root := ⟨"views"⟩ }
    let page : Path := ⟨"pages/page.tmpl"⟩
    let state := start [(⟨"_imports.tmpl"⟩, []), (⟨"pages/_imports.tmpl"⟩, []), (page, [120]),
      (⟨"bad.tmpl"⟩, Text.Utf8.encode "@using".toList)] false
    let calls : List Call := [.resolve page,
      .compileBatch [page, ⟨"bad.tmpl"⟩, ⟨"missing.tmpl"⟩, ⟨"../page.tmpl"⟩, page] [1, 4, 0, 2]]
    let after := afterCalls host calls state
    state.installed = none ∧ state.agenda.pending = [] ∧ state.storage.Faultless ∧
      state.storage.Parses host.directiveFilename ∧ Apart host state.storage calls ∧
      countersOf ((host.resolver after).2.cache (host.resolver after).1.cache) = ⟨2, 4, 2, 0⟩ := by
  intro host page state calls after
  have faultless : state.storage.Faultless := Memory.faultless_of_entries (by decide +kernel)
  have parses : state.storage.Parses host.directiveFilename := parses_of_empty (by decide +kernel)
  have walked : (calls.flatMap Call.templates).filterMap (host.walked? state.storage) =
      [page, page, page] := by decide +kernel
  have existing : host.existing state.storage page =
      [⟨"_imports.tmpl"⟩, ⟨"pages/_imports.tmpl"⟩] := by decide +kernel
  have apart : Apart host state.storage calls := by
    rw [Apart]
    decide +kernel
  have facts :=
    parsed_when_first_sought host (show state.installed = none from rfl) rfl faultless parses calls
  dsimp only at facts
  refine ⟨rfl, rfl, faultless, parses, apart, ?_⟩
  -- The counters are known by now, and the calls need not be made to see them.
  generalize countersOf ((host.resolver after).2.cache (host.resolver after).1.cache) = counters
    at facts ⊢
  obtain ⟨size, revalidations, total, -, -, once, -⟩ := facts
  have misses := once apart
  rw [walked] at size total
  simp only [List.flatMap_cons, List.flatMap_nil, List.map_cons, List.map_nil, existing] at size total
  have distinct : counters.size = 2 := size.trans (by decide +kernel)
  have lookups : counters.hits + counters.misses = 6 := total
  obtain ⟨size, hits, misses, revalidations⟩ := counters
  simp only [CacheStatus.mk.injEq] at *
  omega

end TemplateTree.Session
