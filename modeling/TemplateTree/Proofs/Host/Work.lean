import TemplateTree.Proofs.Host.View

/-!
# What entry points have in common

Once the normal path of a template is known, it makes no difference how it was found: the text is
read, the directive files that apply are looked up, and what they declare is merged. `work` is this
common part, and the lemmas that end in `_eq_codeAt` and `_eq_reading` say what each entry point
adds to it. Main statements about it: `rejects_work`, and `fst_work_of_absent` for templates to
which no directive file applies.
-/

namespace TemplateTree

variable {Store Agenda Result : Type} [Storage Store] {interrupt : Interrupt Store Agenda}

/-- Whether an error says that the path of the template names no file of the tree. -/
def CompileError.isRejection : CompileError → Bool
  | .invalidArgument (.rejected ..) => true
  | _ => false

/-- Whether a path has been rejected with this result. -/
def rejects : Except CompileError Result → Bool
  | .error error => error.isRejection
  | .ok _ => false

theorem DirectiveFile.rejects_directivesIn (path : Path) (content : List UInt8) :
    rejects (directivesIn path content) = false := by
  fun_cases directivesIn path content <;> rfl

/-- A lookup rejects no path. -/
theorem Workspace.rejects_lookUp (number : Nat) (path : Path)
    (workspace : Workspace Store Agenda) :
    rejects (lookUp interrupt number path workspace).1 = false := by
  have courses := lookUp_courses interrupt number path workspace
  generalize (lookUp interrupt number path workspace).1 = result at courses
  generalize (lookUp interrupt number path workspace).2 = after at courses
  cases courses with
  | unanswered | absent | hit | vanished | unreadable => rfl
  | @read _ content _ _ _ _ _ taken =>
    cases taken with
    | revalidated | parsed => rfl
    | malformed other read =>
      have sound := DirectiveFile.rejects_directivesIn path content
      rw [read] at sound
      exact sound

theorem Workspace.lookUp_of_absent {workspace : Workspace Store Agenda} {place : Path}
    (absent : Storage.stamp workspace.storage place = .ok none) (number : Nat) :
    lookUp interrupt number place workspace =
      (.ok none, workspace.updateCache number (·.evict place)) := by
  simp only [lookUp_eq, absent]

namespace Resolver

/-- Lookups reject no path. -/
theorem rejects_lookUpAll (number : Nat) (workspace : Workspace Store Agenda)
    (places : List Path) :
    rejects (lookUpAll interrupt number workspace places).1 = false := by
  induction places generalizing workspace with
  | nil => rfl
  | cons place rest inductionHypothesis =>
    have here := @Workspace.rejects_lookUp _ _ _ interrupt number place workspace
    have later := inductionHypothesis (Workspace.lookUp interrupt number place workspace).2
    rw [lookUpAll_eq_listed]
    generalize (Workspace.lookUp interrupt number place workspace).1 = found at here
    generalize (lookUpAll interrupt number _ rest).1 = files at later
    cases found with
    | error error => exact here
    | ok found =>
      cases files with
      | error error => exact later
      | ok files => rfl

/-- Where there are no files, none are found. -/
theorem lookUpAll_of_absent {workspace : Workspace Store Agenda} {places : List Path}
    (absent : ∀ place ∈ places, Storage.stamp workspace.storage place = .ok none) (number : Nat) :
    (lookUpAll interrupt number workspace places).1 = .ok [] := by
  induction places generalizing workspace with
  | nil => rfl
  | cons place rest inductionHypothesis =>
    obtain ⟨here, others⟩ := List.forall_mem_cons.1 absent
    -- Only the cache changes, so that the other files are still absent.
    have later := @inductionHypothesis (workspace.updateCache number (·.evict place)) others
    rw [lookUpAll_eq_listed, Workspace.lookUp_of_absent here, later]
    rfl

/-- The directive files that apply to a template with a normal path are looked up in its places. -/
theorem chain_of_isNormal {relative : Path} (normal : relative.IsNormal) (resolver : Resolver)
    (workspace : Workspace Store Agenda) :
    resolver.chain interrupt relative workspace =
      lookUpAll interrupt resolver.cache workspace
        (candidates resolver.directiveFilename relative).reverse := by
  have same : resolver.normalize relative = .ok relative := by
    rw [normalize, normal.normalize_eq]
  simp only [chain_eq, directivePaths, same]

end Resolver

namespace Host

variable (host : Host)

/-- The work on the text of the template at a normal path: it is read, the directive files that
apply to it are looked up, and `make` has the result under the configuration merged from them. -/
def work (interrupt : Interrupt Store Agenda) (resolver : Resolver)
    (make : Configuration → Template → Result) (relative : Path) (text : List Char)
    (workspace : Workspace Store Agenda) :
    Except CompileError Result × Workspace Store Agenda :=
  match parse relative text with
  | .error error => (.error error, workspace)
  | .ok template =>
    match Resolver.lookUpAll interrupt resolver.cache workspace
      (Resolver.candidates resolver.directiveFilename relative).reverse with
    | (.error error, after) => (.error error, after)
    | (.ok files, after) =>
      (.ok (make (.merge (files.map (·.declarations)) (.ofDirectives template.directives)
          host.defaults) template),
        after.warn (Directive.warnings relative.text template.directives))

/-- The work on a template that is to be compiled, by the resolver in use. -/
def codeAt (interrupt : Interrupt Store Agenda) (relative : Path) (text : List Char)
    (workspace : Workspace Store Agenda) :
    Except CompileError Code × Workspace Store Agenda :=
  host.work interrupt (host.resolver workspace).1
    (fun configuration template => host.generate configuration (host.className relative) template)
    relative text (host.resolver workspace).2

/-- Opens the file at a normal path and goes on with its text. -/
def reading (interrupt : Interrupt Store Agenda) (relative : Path)
    (goOn : List Char → Workspace Store Agenda →
      Except CompileError Result × Workspace Store Agenda)
    (workspace : Workspace Store Agenda) :
    Except CompileError Result × Workspace Store Agenda :=
  match Workspace.openFile interrupt relative workspace with
  | (.error error, after) => (.error (.storage relative error), after)
  | (.ok source, after) =>
    match readSource relative source with
    | .error error => (.error error, after)
    | .ok text => goOn text after

variable {workspace : Workspace Store Agenda} {path relative : Path}

theorem readSource_eq_ok {bytes : List UInt8} {text : List Char}
    (decoded : Text.Utf8.decode? bytes = some text) (label : Path) :
    readSource label ⟨bytes, none⟩ = .ok text := by
  simp only [readSource, Stream.content, decoded]

/-- The text of a template is compiled by working on it. -/
theorem compileAt_eq_codeAt (normal : (host.resolver workspace).1.normalize path = .ok relative)
    (text : List Char) :
    host.compileAt interrupt path text workspace =
      host.codeAt interrupt relative text workspace := by
  have named := Path.isNormal_of_normalize (Resolver.normalize_eq_ok_iff.1 normal)
  simp only [compileAt_eq, normal, codeAt, work, configure_eq, Resolver.chain_of_isNormal named]
  cases parse relative text with
  | error error => rfl
  | ok template =>
    rcases Resolver.lookUpAll interrupt (host.resolver workspace).1.cache
      (host.resolver workspace).2 _ with ⟨_ | files, after⟩ <;> rfl

theorem compile_eq_codeAt (normal : (host.resolver workspace).1.normalize path = .ok relative)
    {bytes : List UInt8} {text : List Char} (decoded : Text.Utf8.decode? bytes = some text) :
    host.compile interrupt (some path) (some ⟨bytes, none⟩) workspace =
      host.codeAt interrupt relative text workspace := by
  simp only [compile_eq, readSource_eq_ok decoded]
  exact host.compileAt_eq_codeAt normal text

/-- A template of the storage is compiled by reading the file and working on the text of it. -/
theorem compileFile_eq_reading (normal : Path.normalize host.root path = .ok relative) :
    host.compileFile interrupt path workspace =
      reading interrupt relative (host.codeAt interrupt relative) workspace := by
  have named := Path.isNormal_of_normalize normal
  have again (after : Workspace Store Agenda) :
      (host.resolver after).1.normalize relative = .ok relative := by
    rw [Resolver.normalize, named.normalize_eq]
  simp only [compileFile_eq, normal, reading]
  rcases Workspace.openFile interrupt relative workspace with ⟨error | source, after⟩
  · rfl
  · simp only [compile_eq, Option.getD_some]
    cases readSource relative source with
    | error error => rfl
    -- The resolver is only taken now, and others may have replaced it by then.
    | ok text => exact host.compileAt_eq_codeAt (again after) text

/-- A template of the storage is configured by reading the file and working on the text of it. -/
theorem resolve_eq_reading (normal : (host.resolver workspace).1.normalize path = .ok relative) :
    host.resolve interrupt path workspace =
      reading interrupt relative
        (host.work interrupt (host.resolver workspace).1 (fun configuration _ => configuration)
          relative)
        (host.resolver workspace).2 := by
  have named := Path.isNormal_of_normalize (Resolver.normalize_eq_ok_iff.1 normal)
  simp only [resolve, normal, reading]
  rcases Workspace.openFile interrupt relative (host.resolver workspace).2 with
    ⟨error | source, after⟩
  · rfl
  · dsimp only
    cases readSource relative source with
    | error error => rfl
    | ok text =>
      dsimp only [work]
      cases parse relative text with
      | error error => rfl
      | ok template =>
        have walked :=
          @Resolver.chain_of_isNormal _ _ _ interrupt _ named (host.resolver workspace).1 after
        dsimp only
        rcases looked : Resolver.lookUpAll interrupt (host.resolver workspace).1.cache after
          (Resolver.candidates (host.resolver workspace).1.directiveFilename relative).reverse with
          ⟨_ | files, last⟩ <;>
        simp only [configure_eq, walked, looked]

/-- The work on a template rejects no path. -/
theorem rejects_work (resolver : Resolver) (make : Configuration → Template → Result)
    (relative : Path) (text : List Char) (workspace : Workspace Store Agenda) :
    rejects (host.work interrupt resolver make relative text workspace).1 = false := by
  rw [work, parse]
  cases Template.parse text with
  | error error => rfl
  | ok template =>
    have found := @Resolver.rejects_lookUpAll _ _ _ interrupt resolver.cache workspace
      (Resolver.candidates resolver.directiveFilename relative).reverse
    rcases looked : Resolver.lookUpAll interrupt resolver.cache workspace
      (Resolver.candidates resolver.directiveFilename relative).reverse with
      ⟨error | files, after⟩
    · rw [looked] at found
      exact found
    · rfl

theorem rejects_codeAt (relative : Path) (text : List Char) (workspace : Workspace Store Agenda) :
    rejects (host.codeAt interrupt relative text workspace).1 = false := by
  rw [codeAt, host.rejects_work]

/-- Reading a file rejects no path if what goes on with its text does not. -/
theorem rejects_reading {goOn : List Char → Workspace Store Agenda →
      Except CompileError Result × Workspace Store Agenda}
    (accepts : ∀ text after, rejects (goOn text after).1 = false) (relative : Path)
    (workspace : Workspace Store Agenda) :
    rejects (reading interrupt relative goOn workspace).1 = false := by
  rw [reading]
  rcases Workspace.openFile interrupt relative workspace with ⟨error | source, after⟩
  · rfl
  · dsimp only [readSource]
    cases source.content with
    | error error => rfl
    | ok content =>
      dsimp only
      cases Text.Utf8.decode? content with
      | none => rfl
      | some text => exact accepts text after

/-- A template to which no directive file applies inherits nothing. -/
theorem fst_work_of_absent {resolver : Resolver}
    (absent : ∀ place ∈ Resolver.candidates resolver.directiveFilename relative,
      Storage.stamp workspace.storage place = .ok none)
    (make : Configuration → Template → Result) (text : List Char) :
    (host.work interrupt resolver make relative text workspace).1 =
      (parse relative text).map fun template =>
        make (.merge [] (.ofDirectives template.directives) host.defaults) template := by
  have nothing := @Resolver.lookUpAll_of_absent _ _ _ interrupt _ _
    (fun place member => absent place (List.mem_reverse.1 member)) resolver.cache
  rw [work]
  cases parse relative text with
  | error error => rfl
  | ok template =>
    dsimp only
    split
    · next failed =>
      rw [failed] at nothing
      cases nothing
    · next found =>
      rw [found] at nothing
      cases nothing
      rfl

end Host

end TemplateTree
