import TemplateTree.Proofs.Host.View
import TemplateTree.Proofs.Session.Stillness

/-!
# Caches cannot be noticed

While a session is still, every directive file that a resolver answers with is the one in the
storage, whatever has been cached under way. So the resolver in use answers like a new one, and the
host like one whose caches are empty.
-/

namespace TemplateTree

namespace Workspace

variable {Store Agenda : Type}

/-- The workspace with all its caches cleared. -/
def emptied (workspace : Workspace Store Agenda) : Workspace Store Agenda :=
  { workspace with caches := workspace.caches.map Cache.clear }

theorem find?_cache_emptied (workspace : Workspace Store Agenda) (number : Nat) (path : Path) :
    (workspace.emptied.cache number).find? path = none := by
  simp only [cache, emptied, List.getD_eq_getElem?_getD, List.getElem?_map]
  cases workspace.caches[number]? <;> rfl

end Workspace

namespace Host

variable {Store Agenda : Type} (host : Host)

/-- The resolver in use does not depend on what is cached. -/
theorem resolver_emptied (workspace : Workspace Store Agenda) :
    host.resolver workspace.emptied =
      ((host.resolver workspace).1, (host.resolver workspace).2.emptied) := by
  cases installed : workspace.installed with
  | some resolver => simp [Host.resolver, Workspace.emptied, installed]
  | none =>
    have cleared : Cache.empty.clear = Cache.empty := rfl
    simp [Host.resolver, Workspace.emptied, Workspace.addResolver, installed, cleared]

end Host

namespace Session.Recorded

variable (host : Host) (depth : Nat) {recorded : Recorded}

theorem Still.emptied (still : Still recorded) : Still recorded.emptied :=
  still.stays (advances_of_unchanged rfl rfl fun number path entry found => by
    rw [Workspace.find?_cache_emptied] at found
    cases found) rfl rfl

theorem Still.resolver (still : Still recorded) : Still (host.resolver recorded).2 :=
  still.stays (advances_of_moves (advancing_interruption host 0)
    (Host.moves_of_steadily (Host.steadily_resolver host (interruption host 0) recorded)))
    (host.resolver_frame recorded).1 (host.resolver_frame recorded).2

theorem Still.addResolver (still : Still recorded) (root : Path) (directiveFilename : String) :
    Still (recorded.addResolver root directiveFilename).2 :=
  still.stays (advances_of_unchanged rfl rfl fun number path entry found => by
    rwa [Workspace.cache_addResolver] at found) rfl rfl

/-- Lookups in a still session answer with the directive files of the storage. -/
theorem Still.lookUpAll_eq (number : Nat) (paths : List Path) (still : Still recorded) :
    (Resolver.lookUpAll (interruption host depth) number recorded paths).1.map
        (List.map DirectiveFile.located) =
      (recorded.storage.directiveFiles paths).map (List.map DirectiveFile.located) := by
  induction paths generalizing recorded with
  | nil => rfl
  | cons path rest inductionHypothesis =>
    have others := inductionHypothesis (still.lookUp host depth number path)
    rw [(still.lookUp_frame host depth number path).1] at others
    rw [lookUpAll_eq_listed, Memory.directiveFiles, map_listed, map_listed, others,
      still.lookUp_eq host depth number path]

/-- A resolver answers with the directive files of the storage while the session is still. -/
theorem Still.chain_eq (still : Still recorded) (resolver : Resolver) (template : Path) :
    (resolver.chain (interruption host depth) template recorded).1.map
        (List.map DirectiveFile.located) =
      match resolver.directivePaths template with
      | .error error => .error error
      | .ok paths =>
        (recorded.storage.directiveFiles paths.reverse).map (List.map DirectiveFile.located) := by
  rw [Resolver.chain_eq]
  cases resolver.directivePaths template with
  | error error => rfl
  | ok paths => exact still.lookUpAll_eq host depth resolver.cache paths.reverse

/-- In two still sessions over the same storage, resolvers that look in the same places answer
alike. -/
theorem Still.chain_eq_chain {other : Recorded} (still : Still recorded) (quiet : Still other)
    (storage : other.storage = recorded.storage) {resolver twin : Resolver} {template : Path}
    (places : twin.directivePaths template = resolver.directivePaths template) :
    (twin.chain (interruption host depth) template other).1.map (List.map DirectiveFile.located) =
      (resolver.chain (interruption host depth) template recorded).1.map
        (List.map DirectiveFile.located) := by
  rw [still.chain_eq, quiet.chain_eq, storage, places]

/-- In two still sessions over the same storage, a resolver configures a template alike. -/
theorem Still.configure_eq {other : Recorded} (still : Still recorded) (quiet : Still other)
    (storage : other.storage = recorded.storage) (resolver : Resolver) (relative : Path)
    (template : Template) :
    (host.configure (interruption host depth) resolver relative template other).1 =
      (host.configure (interruption host depth) resolver relative template recorded).1 := by
  have chains := still.chain_eq_chain host depth quiet storage
    (rfl : resolver.directivePaths relative = resolver.directivePaths relative)
  -- A configuration is made of the declarations, which every view of the files shows.
  have seen (workspace : Recorded) :
      (host.configure (interruption host depth) resolver relative template workspace).1 =
        ((resolver.chain (interruption host depth) relative workspace).1.map
          (List.map DirectiveFile.located)).map fun files =>
            .merge (files.map (·.2.2)) (.ofDirectives template.directives) host.defaults := by
    rw [Host.configure_eq]
    rcases resolver.chain (interruption host depth) relative workspace with ⟨_ | files, after⟩
    · rfl
    · simp [Except.map, Function.comp_def, DirectiveFile.located]
  rw [seen, seen, chains]

theorem Still.openFile_eq (still : Still recorded) (path : Path) :
    Workspace.openFile (interruption host depth) path recorded =
      (Storage.stream recorded.storage path, recorded) := by
  rw [Workspace.openFile, idle_of_settled host depth still.settled path recorded rfl]

theorem Still.openFile_emptied (still : Still recorded) (path : Path) :
    Workspace.openFile (interruption host depth) path recorded.emptied =
      (Storage.stream recorded.storage path, recorded.emptied) :=
  still.emptied.openFile_eq host depth path

/-- A still session compiles the text of a template alike when its caches are cleared. -/
theorem Still.compileAt_emptied (still : Still recorded) (path : Path) (text : List Char) :
    (host.compileAt (interruption host depth) path text recorded.emptied).1 =
      (host.compileAt (interruption host depth) path text recorded).1 := by
  have ready := still.resolver host
  rcases taken : host.resolver recorded with ⟨resolver, built⟩
  rw [taken] at ready
  simp only [Host.compileAt_eq, Host.resolver_emptied, taken]
  split
  · rfl
  · next relative _ =>
    split
    · rfl
    · next template _ =>
      have configured := ready.configure_eq host depth ready.emptied rfl resolver relative template
      rcases first : host.configure (interruption host depth) resolver relative template
        (Workspace.emptied built) with ⟨result, _⟩
      rcases second : host.configure (interruption host depth) resolver relative template built with
        ⟨other, _⟩
      rw [first, second] at configured
      obtain rfl : result = other := configured
      cases result <;> rfl

/-- A still session compiles a template of the storage alike when its caches are cleared. -/
theorem Still.compileFile_emptied (still : Still recorded) (path : Path) :
    (host.compileFile (interruption host depth) path recorded.emptied).1 =
      (host.compileFile (interruption host depth) path recorded).1 := by
  rw [Host.compileFile_eq, Host.compileFile_eq]
  split
  · rfl
  · next relative _ =>
    rw [still.openFile_eq, still.openFile_emptied]
    cases Storage.stream recorded.storage relative with
    | error error => rfl
    | ok source =>
      simp only [Host.compile_eq]
      split
      · rfl
      · exact still.compileAt_emptied host depth relative _

/-- A still session configures a template of the storage alike when its caches are cleared. -/
theorem Still.resolve_emptied (still : Still recorded) (path : Path) :
    (host.resolve (interruption host depth) path recorded.emptied).1 =
      (host.resolve (interruption host depth) path recorded).1 := by
  have ready := still.resolver host
  rcases taken : host.resolver recorded with ⟨resolver, built⟩
  rw [taken] at ready
  simp only [Host.resolve, Host.resolver_emptied, taken]
  split
  · rfl
  · next relative _ =>
    rw [ready.openFile_eq, ready.openFile_emptied]
    cases Storage.stream built.storage relative with
    | error error => rfl
    | ok source =>
      dsimp only
      split
      · rfl
      · split
        · rfl
        · exact ready.configure_eq host depth ready.emptied rfl resolver relative _

end Session.Recorded

namespace Session

open Recorded in
/-- At every point of every session at which no fault is set and nothing has been put off, the
resolver in use finds the directive files that a new resolver for the same tree finds, and the host
configures and compiles every template as if nothing had been cached. Every script comes to such
points. -/
theorem resolver_answers_like_new (host : Host) {files : List (Path × List UInt8)}
    {recorded : Recorded} (reached : Reached host files recorded)
    (faultless : recorded.storage.Faultless) (settled : (forget recorded).agenda.pending = [])
    (distinct : Set.InjOn Digest.fingerprint (Memory.contents recorded.agenda.past))
    (depth : Nat) (template : Path) :
    let state := forget recorded
    let others := Session.interruption host depth
    let current := host.resolver state
    let new := state.addResolver current.1.root current.1.directiveFilename
    (current.1.chain others template current.2).1.map (List.map DirectiveFile.located) =
        (new.1.chain others template new.2).1.map (List.map DirectiveFile.located) ∧
      (host.resolve others template state).1 = (host.resolve others template state.emptied).1 ∧
      (host.compileFile others template state).1 =
        (host.compileFile others template state.emptied).1 ∧
      ∀ former further, ∃ point, Reached host files point ∧
        run host (former ++ further) (start files false) =
          run host former (start files false) ++ run host further (forget point) := by
  intro state others current new
  have alike := alike_interruption host depth
  have still : Still recorded := ⟨sound_of_reached reached, faultless, settled, distinct⟩
  refine ⟨?_, ?_, ?_, exists_reached_of_run host files⟩
  · have taken : current = Workspace.mapResult Chronicle.toAgenda (host.resolver recorded) :=
      Host.resolver_mapAgenda host _ recorded
    have used : current.1.chain others template current.2 =
        Workspace.mapResult Chronicle.toAgenda
          (current.1.chain (Recorded.interruption host depth) template
            (host.resolver recorded).2) := by
      rw [taken]
      exact Host.chain_mapAgenda alike ..
    have built : new.1.chain others template new.2 =
        Workspace.mapResult Chronicle.toAgenda
          (new.1.chain (Recorded.interruption host depth) template
            (recorded.addResolver current.1.root current.1.directiveFilename).2) :=
      Host.chain_mapAgenda alike new.1 template
        (recorded.addResolver current.1.root current.1.directiveFilename).2
    have added := still.addResolver current.1.root current.1.directiveFilename
    rw [used, built]
    exact added.chain_eq_chain host depth (still.resolver host) (host.resolver_frame recorded).1 rfl
  · have full := Host.resolve_mapAgenda host alike template recorded
    have bare := Host.resolve_mapAgenda host alike template recorded.emptied
    have same := still.resolve_emptied host depth template
    exact (congrArg Prod.fst full).trans (same.symm.trans (congrArg Prod.fst bare).symm)
  · have full := Host.compileFile_mapAgenda host alike template recorded
    have bare := Host.compileFile_mapAgenda host alike template recorded.emptied
    have same := still.compileFile_emptied host depth template
    exact (congrArg Prod.fst full).trans (same.symm.trans (congrArg Prod.fst bare).symm)

open Rehearsal in
/-- After the directive file was rewritten during a lookup, a resolver that has kept it under the
stamp of the old one answers like a new one. -/
theorem resolver_answers_like_new_after_rewrite :
    let state := forget after
    let others := Session.interruption host 1
    let current := host.resolver state
    let new := state.addResolver current.1.root current.1.directiveFilename
    (current.1.chain others page current.2).1.map (List.map DirectiveFile.located) =
        (new.1.chain others page new.2).1.map (List.map DirectiveFile.located) ∧
      (host.resolve others page state).1 = (host.resolve others page state.emptied).1 ∧
      (host.compileFile others page state).1 = (host.compileFile others page state.emptied).1 ∧
      ∀ former further, ∃ point, Reached host files point ∧
        run host (former ++ further) (start files false) =
          run host former (start files false) ++ run host further (forget point) :=
  resolver_answers_like_new host
    (reached_before.tail (.move (.steady (.lookUp 0 imports before))))
    faultless.2 (List.isEmpty_iff.1 (by decide +kernel)) distinct 1 page

end Session

end TemplateTree
