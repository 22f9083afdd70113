import Mathlib.Logic.Relation
import TemplateTree.Proofs.Process.Schedules
import TemplateTree.Proofs.Workspace.LookUp
import TemplateTree.Request

/-!
# The moves of a host

Answering a request takes a workspace through a sequence of moves: a file is opened, a directive
file is looked up, an entry is dropped, warnings are given, the resolver in use changes, or the
members of a batch take their turns. `moves_answer` says that nothing else happens, so that whatever
every move keeps is kept by every request. Most requests exchange no resolver, and take steady moves
only; this is `steadily_answer`.
-/

namespace TemplateTree

/-- Whether a request is to put another resolver in use, or none. -/
def Request.exchanges : Request → Bool
  | .resetResolver | .replaceResolver .. | .restoreResolver => true
  | _ => false

namespace Host

variable {Store Agenda : Type} [Storage Store]

/-- A process that a host puts together. All that it does is to open files, look directive files up,
take the resolver in use, and give warnings. -/
inductive Assembled (host : Host) (interrupt : Interrupt Store Agenda) {Result : Type} :
    Process (Workspace Store Agenda) Result → Prop where
  | done (result) : Assembled host interrupt (pure result)
  | opening (path) {goOn} (rest : ∀ opened, Assembled host interrupt (goOn opened)) :
      Assembled host interrupt (.act (Workspace.openFile interrupt path) >>= goOn)
  | lookUp (number path) {goOn} (rest : ∀ found, Assembled host interrupt (goOn found)) :
      Assembled host interrupt (Workspace.lookUpSteps interrupt number path >>= goOn)
  | resolver {goOn} (rest : ∀ resolver, Assembled host interrupt (goOn resolver)) :
      Assembled host interrupt (.act host.resolver >>= goOn)
  | warn (warnings) {goOn} (rest : ∀ told, Assembled host interrupt (goOn told)) :
      Assembled host interrupt (.change (·.warn warnings) >>= goOn)

/-- A move that exchanges no resolver. If there is none in use, one may be built. A batch moves a
workspace as far as its schedule has been followed. -/
inductive Steady (host : Host) (interrupt : Interrupt Store Agenda) :
    Workspace Store Agenda → Workspace Store Agenda → Prop where
  | opening (path workspace) : Steady host interrupt workspace (interrupt path workspace)
  | lookUp (number path workspace) :
      Steady host interrupt workspace (Workspace.lookUp interrupt number path workspace).2
  | evict (number : Nat) (path workspace) :
      Steady host interrupt workspace (workspace.updateCache number (·.evict path))
  | clear (number workspace) :
      Steady host interrupt workspace (workspace.updateCache number Cache.clear)
  | warn (warnings workspace) : Steady host interrupt workspace (workspace.warn warnings)
  | build (workspace) (needed : workspace.installed = none) :
      Steady host interrupt workspace (host.resolver workspace).2
  | batch (schedule paths workspace) :
      Steady host interrupt workspace
        (Process.follow schedule (host.members interrupt paths) workspace).2

/-- Any number of steady moves, one after the other. -/
abbrev Steadily (host : Host) (interrupt : Interrupt Store Agenda) :
    Workspace Store Agenda → Workspace Store Agenda → Prop :=
  Relation.ReflTransGen (Steady host interrupt)

/-- One thing that a host does to a workspace in the course of a request. -/
inductive Move (host : Host) (interrupt : Interrupt Store Agenda) :
    Workspace Store Agenda → Workspace Store Agenda → Prop where
  | steady {before after} (taken : host.Steady interrupt before after) :
      Move host interrupt before after
  | reset (workspace) : Move host interrupt workspace { workspace with installed := none }
  | replace (root directiveFilename workspace) :
      Move host interrupt workspace
        { (workspace.addResolver root directiveFilename).2 with
          installed := some (workspace.addResolver root directiveFilename).1
          aside := workspace.installed }
  | restore (workspace) {resolver} (put : workspace.aside = some resolver) :
      Move host interrupt workspace { workspace with installed := some resolver, aside := none }

/-- Any number of moves, one after the other. -/
abbrev Moves (host : Host) (interrupt : Interrupt Store Agenda) :
    Workspace Store Agenda → Workspace Store Agenda → Prop :=
  Relation.ReflTransGen (Move host interrupt)

theorem moves_of_steadily {host : Host} {interrupt : Interrupt Store Agenda}
    {before after : Workspace Store Agenda} (steadily : host.Steadily interrupt before after) :
    host.Moves interrupt before after :=
  Relation.ReflTransGen.mono (fun _ _ => Move.steady) _ _ steadily

variable (host : Host) (interrupt : Interrupt Store Agenda)

/-- Taking the resolver in use builds it if there is none. -/
theorem steadily_resolver (workspace : Workspace Store Agenda) :
    Steadily host interrupt workspace (host.resolver workspace).2 := by
  cases installed : workspace.installed with
  | none => exact .single (.build workspace installed)
  | some found =>
    have same : (host.resolver workspace).2 = workspace := by simp [Host.resolver, installed]
    rw [same]

section Assembly

variable {host interrupt}

/-- What a host puts together can be put together further. -/
theorem Assembled.bind {Value Result : Type} {process : Process (Workspace Store Agenda) Value}
    {goOn : Value → Process (Workspace Store Agenda) Result}
    (first : host.Assembled interrupt process)
    (second : ∀ value, host.Assembled interrupt (goOn value)) :
    host.Assembled interrupt (process >>= goOn) := by
  induction first with
  | done value => exact second value
  | opening path _ inductionHypothesis => exact .opening path inductionHypothesis
  | lookUp number path _ inductionHypothesis =>
    rw [bind_assoc]
    exact .lookUp number path inductionHypothesis
  | resolver _ inductionHypothesis => exact .resolver inductionHypothesis
  | warn warnings _ inductionHypothesis => exact .warn warnings inductionHypothesis

/-- Left to itself, a process that a host has put together takes steady moves only. -/
theorem Assembled.steadily {Result : Type} {process : Process (Workspace Store Agenda) Result}
    (assembled : host.Assembled interrupt process) (workspace : Workspace Store Agenda) :
    Steadily host interrupt workspace (process.run workspace).2 := by
  induction assembled generalizing workspace with
  | done => exact .refl
  | opening path _ inductionHypothesis =>
    exact .head (.opening path workspace) (inductionHypothesis _ _)
  | lookUp number path _ inductionHypothesis =>
    rw [Process.run_bind]
    exact .head (.lookUp number path workspace) (inductionHypothesis _ _)
  | resolver _ inductionHypothesis =>
    exact (steadily_resolver host interrupt workspace).trans (inductionHypothesis _ _)
  | warn warnings _ inductionHypothesis =>
    exact .head (.warn warnings workspace) (inductionHypothesis _ _)

theorem assembled_lookUpAllSteps (number : Nat) (paths : List Path) :
    host.Assembled interrupt (Resolver.lookUpAllSteps interrupt number paths) := by
  induction paths with
  | nil => exact .done _
  | cons path rest inductionHypothesis =>
    refine .lookUp number path fun found => ?_
    cases found with
    | error error => exact .done _
    | ok found =>
      refine inductionHypothesis.bind fun files => ?_
      cases files <;> exact .done _

theorem assembled_chainSteps (resolver : Resolver) (path : Path) :
    host.Assembled interrupt (resolver.chainSteps interrupt path) := by
  rw [Resolver.chainSteps]
  split
  · exact .done _
  · exact assembled_lookUpAllSteps ..

theorem assembled_configureSteps (resolver : Resolver) (relative : Path) (template : Template) :
    host.Assembled interrupt (host.configureSteps interrupt resolver relative template) := by
  refine (assembled_chainSteps resolver relative).bind fun chain => ?_
  cases chain with
  | error error => exact .done _
  | ok chain => exact .warn _ fun _ => .done _

theorem assembled_compileInlineSteps (text : List Char) :
    host.Assembled interrupt (host.compileInlineSteps text) := by
  rw [compileInlineSteps]
  split
  · exact .done _
  · exact .warn _ fun _ => .done _

theorem assembled_compileAtSteps (path : Path) (text : List Char) :
    host.Assembled interrupt (host.compileAtSteps interrupt path text) := by
  refine .resolver fun resolver => ?_
  split
  · exact .done _
  · next relative _ =>
    split
    · exact .done _
    · next template _ =>
      refine (assembled_configureSteps resolver relative template).bind fun configured => ?_
      cases configured <;> exact .done _

theorem assembled_compileSteps (path : Option Path) (source : Option Stream) :
    host.Assembled interrupt (host.compileSteps interrupt path source) := by
  rw [compileSteps.eq_def]
  split
  · exact .done _
  · split
    · exact .done _
    · split
      · exact assembled_compileInlineSteps _
      · exact assembled_compileAtSteps ..

theorem assembled_compileFileSteps (path : Path) :
    host.Assembled interrupt (host.compileFileSteps interrupt path) := by
  rw [compileFileSteps]
  split
  · exact .done _
  · next relative _ =>
    refine .opening relative fun opened => ?_
    cases opened with
    | error error => exact .done _
    | ok source => exact assembled_compileSteps ..

end Assembly

/-- A batch is a steady move, at its end too. -/
theorem steady_compileBatch (schedule : List Nat) (paths : List Path)
    (workspace : Workspace Store Agenda) :
    Steady host interrupt workspace (host.compileBatch interrupt schedule paths workspace).2 := by
  obtain ⟨whole, done⟩ :=
    Process.exists_follow_eq_together workspace schedule (host.members interrupt paths)
  have moved : Steady host interrupt workspace _ := .batch whole paths workspace
  rwa [done] at moved

/-- Resolving a template takes the resolver, opens the template and configures it. -/
theorem steadily_resolve (path : Path) (workspace : Workspace Store Agenda) :
    Steadily host interrupt workspace (host.resolve interrupt path workspace).2 := by
  have built := steadily_resolver host interrupt workspace
  rcases taken : host.resolver workspace with ⟨resolver, ready⟩
  rw [taken] at built
  simp only [resolve, taken]
  split
  · exact built
  · next relative _ =>
    have opened := built.tail (.opening relative ready)
    simp only [Workspace.openFile]
    split
    · next failed =>
      obtain ⟨-, rfl⟩ := Prod.mk.inj failed
      exact opened
    · next succeeded =>
      obtain ⟨-, rfl⟩ := Prod.mk.inj succeeded
      split
      · exact opened
      · split
        · exact opened
        · exact opened.trans ((assembled_configureSteps ..).steadily _)

/-- Listing the levels of a template takes the resolver. -/
theorem steadily_levels (path : Path) (workspace : Workspace Store Agenda) :
    Steadily host interrupt workspace (host.levels path workspace).2 := by
  have built := steadily_resolver host interrupt workspace
  rcases taken : host.resolver workspace with ⟨resolver, ready⟩
  rw [taken] at built
  simp only [levels, taken]
  split <;> exact built

/-- A request that exchanges no resolver is answered by steady moves. -/
theorem steadily_answer {request : Request} (stays : request.exchanges = false)
    (workspace : Workspace Store Agenda) :
    Steadily host interrupt workspace (host.answer interrupt request workspace).2 := by
  have built := steadily_resolver host interrupt workspace
  cases request with
  | stamp path =>
    rw [answer]
    split <;> exact .refl
  | hasFile path => exact .refl
  | read path =>
    have opened : Steadily host interrupt workspace (interrupt path workspace) :=
      .single (.opening path workspace)
    simp only [answer, Workspace.readFile_eq]
    cases Storage.content (interrupt path workspace).storage path <;> exact opened
  | compile path source => exact (assembled_compileSteps path source).steadily workspace
  | compileFile path => exact (assembled_compileFileSteps path).steadily workspace
  | compileBatch paths schedule => exact .single (steady_compileBatch ..)
  | resolve path => exact steadily_resolve ..
  | chain path => exact built.trans ((assembled_chainSteps ..).steadily _)
  | directivePaths path => exact built
  | levels path => exact steadily_levels ..
  | normalize path => exact built
  | lookUp path => exact built.tail (.lookUp ..)
  | evict path => exact built.tail (.evict ..)
  | clearCache => exact built.tail (.clear ..)
  | resolver => exact built
  | resetResolver | replaceResolver | restoreResolver => cases stays
  | root => exact .refl
  | defaults => exact .refl
  | generate source className =>
    rw [answer]
    split <;> exact .refl

/-- Whatever is asked of a host, it answers by moves. -/
theorem moves_answer (request : Request) (workspace : Workspace Store Agenda) :
    Moves host interrupt workspace (host.answer interrupt request workspace).2 := by
  by_cases stays : request.exchanges = false
  · exact moves_of_steadily (steadily_answer host interrupt stays workspace)
  · cases request with
    | resetResolver => exact .single (.reset workspace)
    | replaceResolver root directiveFilename =>
      exact .single (.replace root directiveFilename workspace)
    | restoreResolver =>
      simp only [answer]
      split
      · next put => exact .single (.restore workspace put)
      · exact .refl
    | _ => exact absurd rfl stays

end Host

end TemplateTree
