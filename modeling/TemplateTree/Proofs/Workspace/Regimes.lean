import TemplateTree.Proofs.Workspace.Moves
import TemplateTree.Proofs.Workspace.Steps

/-!
# Regimes for hosts

A regime admits a host if it allows for each thing that the host does, a lookup at each of its
steps. Then whatever the host puts together keeps to the regime, and so does a batch, in whatever
order its members take their steps. Main statement: `Admits.steady`.
-/

namespace TemplateTree.Host

open Process

variable {Store Agenda World : Type} [Storage Store]

/-- A regime leaves room for a host and for those who act while a file is opened. -/
structure Admits (host : Host) (interrupt : Interrupt Store Agenda)
    (regime : Regime World (Workspace Store Agenda) Unit) : Prop where
  opening : ∀ path, regime.Allows (interrupt path)
  lookUp : ∀ number path world,
    Workspace.Serves interrupt regime number path (fun _ _ => True) 0 world
  evict : ∀ number path, regime.Allows (·.updateCache number (·.evict path))
  clear : ∀ number, regime.Allows (·.updateCache number Cache.clear)
  warn : ∀ warnings, regime.Allows (·.warn warnings)
  build : regime.Allows fun workspace => (host.resolver workspace).2

variable {host : Host} {interrupt : Interrupt Store Agenda}
  {regime : Regime World (Workspace Store Agenda) Unit} {world : World}

/-- Whatever a host puts together keeps to a regime that admits it. -/
theorem Assembled.ensures {Result : Type} {process : Process (Workspace Store Agenda) Result}
    (assembled : host.Assembled interrupt process) (admits : host.Admits interrupt regime) :
    process.Ensures regime (fun _ _ => True) 0 world := by
  induction assembled generalizing world with
  | done => exact .pure fun _ _ => trivial
  | opening path _ inductionHypothesis =>
    exact (Ensures.act_of_allows (admits.opening path)).andThen fun _ opened _ _ =>
      inductionHypothesis opened
  | lookUp number path _ inductionHypothesis =>
    exact (admits.lookUp number path world).ensures.andThen fun _ found _ _ =>
      inductionHypothesis found
  | resolver _ inductionHypothesis =>
    exact (Ensures.act_of_allows admits.build).andThen fun _ resolver _ _ =>
      inductionHypothesis resolver
  | warn warnings _ inductionHypothesis =>
    exact (Ensures.act_of_allows (admits.warn warnings)).andThen fun _ told _ _ =>
      inductionHypothesis told

/-- The members of a batch keep to a regime that admits their host. -/
theorem Admits.ensured_members (admits : host.Admits interrupt regime) (paths : List Path)
    (world : World) :
    Ensured regime world (paths.map fun _ _ _ => True) 0 (host.members interrupt paths) := by
  have each : ∀ path ∈ paths, ((path, ·) <$> host.compileFileSteps interrupt path).Ensures regime
      (fun _ _ => True) 0 world :=
    fun path _ => ((assembled_compileFileSteps path).ensures admits).map fun _ _ _ _ => trivial
  exact Ensured.of_forall each

/-- A host keeps to a regime that admits it at every steady move. -/
theorem Admits.steady (admits : host.Admits interrupt regime) {before after : Workspace Store Agenda}
    (taken : host.Steady interrupt before after) (seen : regime.seen world = before) :
    ∃ later, regime.Later world later ∧ regime.seen later = after := by
  subst seen
  have allowed {change : Workspace Store Agenda → Workspace Store Agenda}
      (allows : regime.Allows change) :
      ∃ later, regime.Later world later ∧ regime.seen later = change (regime.seen world) := by
    obtain ⟨later, adds, seen⟩ := allows world
    exact ⟨later, ⟨_, adds⟩, seen⟩
  cases taken with
  | opening path => exact allowed (admits.opening path)
  | lookUp number path =>
    obtain ⟨later, adds, seen, -⟩ := (admits.lookUp number path world).ensures.run
    exact ⟨later, ⟨_, adds⟩, seen⟩
  | evict number path => exact allowed (admits.evict number path)
  | clear number => exact allowed (admits.clear number)
  | warn warnings => exact allowed (admits.warn warnings)
  | build _ => exact allowed admits.build
  | batch schedule paths =>
    obtain ⟨_, _, later, -, adds, seen, -⟩ :=
      (admits.ensured_members paths world).follow schedule
    exact ⟨later, ⟨_, adds⟩, seen⟩

end TemplateTree.Host
