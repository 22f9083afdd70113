import TemplateTree.Proofs.Host.Work
import TemplateTree.Proofs.Path.Within
import TemplateTree.Proofs.Session.EntryPoints

/-!
# Where entry points place a template

A template of the storage is compiled under the root of the host, but configured, or compiled from
its source, under that of the resolver in use. `PlacedAlike` says of a path that this makes no
difference. Main statement: `placed_alike_where_roots_agree`.
-/

namespace TemplateTree

namespace Host

variable {Store Agenda : Type} [Storage Store] (host : Host)

/-- All entry points reject a path, or all of them work on the template at one normal path: this is
the file that they open, for which they look up directive files, and after which they name the
class. -/
inductive PlacedAlike (interrupt : Interrupt Store Agenda) (path : Path)
    (workspace : Workspace Store Agenda) : Prop where
  | rejected (file : rejects (host.compileFile interrupt path workspace).1 = true)
      (source : ∀ bytes text, Text.Utf8.decode? bytes = some text →
        rejects (host.compile interrupt (some path) (some ⟨bytes, none⟩) workspace).1 = true)
      (configuration : rejects (host.resolve interrupt path workspace).1 = true)
  | placed (relative : Path) (normal : relative.IsNormal)
      (file : host.compileFile interrupt path workspace =
        reading interrupt relative (host.codeAt interrupt relative) workspace)
      (source : ∀ bytes text, Text.Utf8.decode? bytes = some text →
        host.compile interrupt (some path) (some ⟨bytes, none⟩) workspace =
          host.codeAt interrupt relative text workspace)
      (configuration : host.resolve interrupt path workspace =
        reading interrupt relative
          (host.work interrupt (host.resolver workspace).1 (fun configuration _ => configuration)
            relative)
          (host.resolver workspace).2)

variable {interrupt : Interrupt Store Agenda} {workspace : Workspace Store Agenda}
  {path relative : Path}

/-- The path of a template that is to be compiled from the storage is rejected exactly if it names
no file below the root of the host. -/
theorem rejects_compileFile_iff :
    rejects (host.compileFile interrupt path workspace).1 = true ↔
      Path.within? host.root path = none := by
  cases inside : Path.within? host.root path with
  | none =>
    obtain ⟨rejection, rejected⟩ := Path.within?_eq_none_iff.1 inside
    simp [compileFile_eq, rejected, rejects, CompileError.isRejection]
  | some relative =>
    rw [host.compileFile_eq_reading (Path.within?_eq_some_iff.1 inside),
      rejects_reading (host.rejects_codeAt relative)]
    simp

/-- The path of a template with a source is rejected exactly if it names no file below the root of
the resolver in use. -/
theorem rejects_compile_iff {bytes : List UInt8} {text : List Char}
    (decoded : Text.Utf8.decode? bytes = some text) :
    rejects (host.compile interrupt (some path) (some ⟨bytes, none⟩) workspace).1 = true ↔
      Path.within? (host.resolver workspace).1.root path = none := by
  cases inside : Path.within? (host.resolver workspace).1.root path with
  | none =>
    obtain ⟨rejection, rejected⟩ := Path.within?_eq_none_iff.1 inside
    simp [compile_eq, readSource_eq_ok decoded, compileAt_eq, Resolver.normalize, rejected, rejects,
      CompileError.isRejection]
  | some relative =>
    have normal := Resolver.normalize_eq_ok_iff.2 (Path.within?_eq_some_iff.1 inside)
    rw [host.compile_eq_codeAt normal decoded, host.rejects_codeAt]
    simp

/-- The path of a template that is to be configured is rejected exactly if it names no file below
the root of the resolver in use. -/
theorem rejects_resolve_iff :
    rejects (host.resolve interrupt path workspace).1 = true ↔
      Path.within? (host.resolver workspace).1.root path = none := by
  cases inside : Path.within? (host.resolver workspace).1.root path with
  | none =>
    obtain ⟨rejection, rejected⟩ := Path.within?_eq_none_iff.1 inside
    simp [resolve, Resolver.normalize, rejected, rejects, CompileError.isRejection]
  | some relative =>
    have normal := Resolver.normalize_eq_ok_iff.2 (Path.within?_eq_some_iff.1 inside)
    rw [host.resolve_eq_reading normal, rejects_reading (host.rejects_work _ _ relative)]
    simp

/-- Where the two roots agree on a path, the entry points do. -/
theorem placedAlike_of_within?_eq
    (agree : Path.within? host.root path =
      Path.within? (host.resolver workspace).1.root path) :
    host.PlacedAlike interrupt path workspace := by
  cases inside : Path.within? host.root path with
  | none =>
    have nowhere := agree.symm.trans inside
    exact .rejected (host.rejects_compileFile_iff.2 inside)
      (fun bytes text decoded => (host.rejects_compile_iff decoded).2 nowhere)
      (host.rejects_resolve_iff.2 nowhere)
  | some relative =>
    have named := Path.within?_eq_some_iff.1 inside
    have normal := Resolver.normalize_eq_ok_iff.2
      (Path.within?_eq_some_iff.1 (agree.symm.trans inside))
    exact .placed relative (Path.isNormal_of_normalize named) (host.compileFile_eq_reading named)
      (fun bytes text decoded => host.compile_eq_codeAt normal decoded)
      (host.resolve_eq_reading normal)

/-- Where the entry points agree on a path, it names no file below one root exactly if it names none
below the other. -/
theorem PlacedAlike.eq_none_iff {host : Host} (alike : host.PlacedAlike interrupt path workspace) :
    Path.within? host.root path = none ↔
      Path.within? (host.resolver workspace).1.root path = none := by
  cases alike with
  | rejected file source configuration =>
    exact iff_of_true (host.rejects_compileFile_iff.1 file)
      (host.rejects_resolve_iff.1 configuration)
  | placed relative normal file source configuration =>
    rw [← @rejects_compileFile_iff _ _ _ host interrupt workspace path,
      ← @rejects_resolve_iff _ _ _ host interrupt workspace path, file, configuration,
      rejects_reading (host.rejects_codeAt relative),
      rejects_reading (host.rejects_work _ _ relative)]

/-- If no file can be opened, the failure tells which one was to be read. -/
theorem exists_fst_reading {Result : Type} (idle : interrupt.Idle workspace.agenda)
    (empty : ∀ place, ∃ error, Storage.stream workspace.storage place = .error error)
    (goOn : List Char → Workspace Store Agenda →
      Except CompileError Result × Workspace Store Agenda) (relative : Path) :
    ∃ error, (reading interrupt relative goOn workspace).1 = .error (.storage relative error) := by
  obtain ⟨error, missing⟩ := empty relative
  refine ⟨error, ?_⟩
  simp only [reading, Workspace.openFile, idle relative workspace rfl, missing]

/-- If no file can be opened, it makes a difference which one is to be read. -/
theorem reading_inj {Result : Type} (idle : interrupt.Idle workspace.agenda)
    (empty : ∀ place, ∃ error, Storage.stream workspace.storage place = .error error)
    {first second : List Char → Workspace Store Agenda →
      Except CompileError Result × Workspace Store Agenda} {other : Path}
    (same : reading interrupt relative first workspace = reading interrupt other second workspace) :
    relative = other := by
  obtain ⟨error, here⟩ := exists_fst_reading idle empty first relative
  obtain ⟨failure, there⟩ := exists_fst_reading idle empty second other
  rw [same, there] at here
  cases here
  rfl

/-- If no file can be opened, the entry points agree on a path only where the two roots do.
Otherwise two files with the same content could be taken for one. -/
theorem PlacedAlike.within?_eq {host : Host} (idle : interrupt.Idle workspace.agenda)
    (empty : ∀ place, ∃ error, Storage.stream workspace.storage place = .error error)
    (alike : host.PlacedAlike interrupt path workspace) :
    Path.within? host.root path = Path.within? (host.resolver workspace).1.root path := by
  have together := alike.eq_none_iff
  cases below : Path.within? host.root path with
  | none => exact (together.1 below).symm
  | some first =>
    cases under : Path.within? (host.resolver workspace).1.root path with
    | none => cases below.symm.trans (together.2 under)
    | some second =>
      cases alike with
      | rejected file source configuration =>
        cases below.symm.trans (host.rejects_compileFile_iff.1 file)
      | placed relative normal file source configuration =>
        obtain ⟨storage, agenda⟩ := host.resolver_frame workspace
        have named := Resolver.normalize_eq_ok_iff.2 (Path.within?_eq_some_iff.1 under)
        rw [host.compileFile_eq_reading (Path.within?_eq_some_iff.1 below)] at file
        rw [host.resolve_eq_reading named] at configuration
        rw [reading_inj idle empty file,
          reading_inj (agenda.symm ▸ idle) (storage.symm ▸ empty) configuration]

end Host

namespace Session

/-- After a script that replaces the resolver, there is a new one for the other tree in use. -/
theorem finish_replaceResolver (host : Host) (root : Path) (directiveFilename : String)
    (state : State) :
    finish host [.ask (.replaceResolver root directiveFilename)] state =
      { state with
        caches := state.caches ++ [.empty]
        installed := some ⟨root, directiveFilename, state.caches.length⟩
        aside := state.installed
        warnings := []
        agenda := { state.agenda with answers := [] } } := by
  rw [finish, finish, step, perform_ask]
  rfl

/-- At every point of every session, all entry points place a path alike if the root of the host and
that of the resolver in use agree on the file that it names. Where they do not, there is a session
after which the path is not placed alike. The roots agree on relative paths; on all paths they agree
only if they mean the same, or are both relative. -/
theorem placed_alike_where_roots_agree (host : Host) (root : Path) :
    (∀ path, Path.within? host.root path = Path.within? root path →
      ∀ (depth : Nat) (state : State), (host.resolver state).1.root = root →
        host.PlacedAlike (interruption host depth) path state) ∧
    (∀ path, Path.within? host.root path ≠ Path.within? root path →
      ∃ script, let state := finish host script (start [] false)
        (host.resolver state).1.root = root ∧
          ∀ depth, ¬ host.PlacedAlike (interruption host depth) path state) ∧
    (∀ path, path.isAbsolute = false →
      Path.within? host.root path = Path.within? root path) ∧
    ((∀ path, Path.within? host.root path = Path.within? root path) ↔
      host.root.components = root.components ∨
        host.root.isAbsolute = false ∧ root.isAbsolute = false) := by
  refine ⟨fun path agree depth state inUse => ?_, fun path differ => ?_,
    fun path relative => Path.within?_of_relative relative host.root root,
    Path.forall_within?_eq_iff host.root root⟩
  · exact host.placedAlike_of_within?_eq (inUse ▸ agree)
  · refine ⟨[.ask (.replaceResolver root standardDirectiveFilename)], ?_⟩
    intro state
    have replaced : state = _ := finish_replaceResolver host root standardDirectiveFilename _
    have inUse : (host.resolver state).1.root = root := by rw [replaced]; rfl
    have settled : state.agenda.pending = [] := by rw [replaced]; rfl
    have empty (place : Path) : ∃ error, Storage.stream state.storage place = .error error := by
      rw [replaced]
      exact ⟨Memory.missing place, rfl⟩
    refine ⟨inUse, fun depth alike => differ ?_⟩
    rw [alike.within?_eq (idle_of_settled host depth settled) empty, inUse]

/-- Once the resolver has been replaced by one for another tree, a template below the root of this
tree can be configured, and compiled from its source, but not from the storage. Under its relative
path there is no difference. -/
theorem placed_alike_where_roots_agree_after_replacement :
    let host : Host := { root := ⟨"/views"⟩ }
    let absolute : Path := ⟨"/other/page.tmpl"⟩
    let relative : Path := ⟨"./page.tmpl"⟩
    let state := finish host [.ask (.replaceResolver ⟨"/other"⟩ "_imports.tmpl")]
      (start [(⟨"page.tmpl"⟩, [120])] false)
    (host.resolver state).1.root = ⟨"/other"⟩ ∧
      rejects (host.compileFile .none absolute state).1 = true ∧
      rejects (host.compile .none (some absolute) (some ⟨[120], none⟩) state).1 = false ∧
      rejects (host.resolve .none absolute state).1 = false ∧
      ¬ host.PlacedAlike .none absolute state ∧
      (∃ script, let state := finish host script (start [] false)
        ¬ host.PlacedAlike .none absolute state) ∧
      host.PlacedAlike .none relative state := by
  intro host absolute relative state
  have agreement := placed_alike_where_roots_agree host ⟨"/other"⟩
  have inUse : (host.resolver state).1.root = ⟨"/other"⟩ := by decide +kernel
  have outside : Path.within? host.root absolute = none := by decide +kernel
  have inside : Path.within? ⟨"/other"⟩ absolute = some ⟨"page.tmpl"⟩ := by decide +kernel
  have apart : ¬ host.PlacedAlike .none absolute state := by
    intro alike
    have nowhere := alike.eq_none_iff.1 outside
    rw [inUse, inside] at nowhere
    cases nowhere
  obtain ⟨script, -, differs⟩ := agreement.2.1 absolute (by simp [outside, inside])
  have relativeAgrees := agreement.2.2.1 relative (by decide +kernel)
  exact ⟨inUse, by decide +kernel, by decide +kernel, by decide +kernel, apart,
    ⟨script, differs 0⟩, agreement.1 relative relativeAgrees 0 state inUse⟩

end Session

end TemplateTree
