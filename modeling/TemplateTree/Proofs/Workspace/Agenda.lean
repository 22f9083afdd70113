import TemplateTree.Proofs.Workspace.Similar

/-!
# Workspaces and their agenda

Nothing that a host does looks at the agenda of a workspace; only those who act while a file is
opened may. So an agenda can be exchanged for a richer one: `answer_mapAgenda` says that, as long as
the others act alike under both, the answers are the same and the workspaces differ in the agenda
only.
-/

namespace TemplateTree

variable {Store First Second Result : Type}

/-- The workspace with its agenda changed. -/
def Workspace.mapAgenda (change : First → Second) (workspace : Workspace Store First) :
    Workspace Store Second :=
  { workspace with agenda := change workspace.agenda }

/-- What is the same under two agendas: an answer, and a workspace up to the agenda. -/
def Workspace.mapResult {Result : Type} (change : First → Second)
    (outcome : Result × Workspace Store First) : Result × Workspace Store Second :=
  (outcome.1, outcome.2.mapAgenda change)

/-- Others act alike under two agendas. -/
def Interrupt.Alike (change : First → Second) (first : Interrupt Store First)
    (second : Interrupt Store Second) : Prop :=
  ∀ path workspace,
    (first path workspace).mapAgenda change = second path (workspace.mapAgenda change)

theorem Interrupt.alike_none (change : First → Second) :
    Interrupt.Alike change (Interrupt.none : Interrupt Store First) .none :=
  fun _ _ => rfl

variable [Storage Store]

/-- Workspaces are alike if one is the other with its agenda changed. -/
def Likeness.ofChange (change : First → Second) : Likeness Store First Second where
  places _ := True
  storages := Eq
  agendas one two := change one = two
  normal _ := trivial
  stamp_eq same _ := same ▸ rfl
  stream_eq same _ := same ▸ rfl

namespace Likeness

variable {change : First → Second}

theorem covers_ofChange (change : First → Second) (directiveFilename : String) :
    (ofChange change : Likeness Store First Second).Covers directiveFilename :=
  fun _ _ => trivial

/-- The workspaces that are alike. -/
theorem similar_ofChange_iff {one : Workspace Store First} {two : Workspace Store Second} :
    (ofChange change).Similar one two ↔ two = one.mapAgenda change := by
  constructor
  · rintro ⟨storage, caches, installed, aside, builds, warnings, agenda, -⟩
    cases two
    cases storage
    cases caches
    cases installed
    cases aside
    cases builds
    cases warnings
    cases agenda
    rfl
  · rintro rfl
    exact ⟨rfl, rfl, rfl, rfl, rfl, rfl, rfl, fun _ _ => covers_ofChange change _⟩

theorem similar_mapAgenda (change : First → Second) (workspace : Workspace Store First) :
    (ofChange change).Similar workspace (workspace.mapAgenda change) :=
  similar_ofChange_iff.2 rfl

theorem Same.eq_mapResult {one : Result × Workspace Store First}
    {two : Result × Workspace Store Second} (same : (ofChange change).Same one two) :
    two = Workspace.mapResult change one := by
  obtain ⟨result, left, right, rfl, rfl, after⟩ := same
  rw [similar_ofChange_iff.1 after]
  rfl

theorem matches_of_alike {first : Interrupt Store First} {second : Interrupt Store Second}
    (alike : Interrupt.Alike change first second) :
    (ofChange change).Matches first second := by
  intro path _ one two similar
  rw [similar_ofChange_iff] at similar ⊢
  rw [similar, ← alike path one]

end Likeness

open Likeness

variable {change : First → Second} {first : Interrupt Store First}
  {second : Interrupt Store Second}

theorem Workspace.lookUp_mapAgenda (alike : Interrupt.Alike change first second) (number : Nat)
    (path : Path) (workspace : Workspace Store First) :
    lookUp second number path (workspace.mapAgenda change) =
      mapResult change (lookUp first number path workspace) :=
  Same.eq_mapResult ((alike_lookUpSteps (matches_of_alike alike) number trivial).run
    (similar_mapAgenda change workspace))

namespace Host

variable (host : Host)

omit [Storage Store] in
theorem resolver_mapAgenda (change : First → Second) (workspace : Workspace Store First) :
    host.resolver (workspace.mapAgenda change) =
      Workspace.mapResult change (host.resolver workspace) := by
  cases installed : workspace.installed <;>
    simp [Host.resolver, Workspace.mapAgenda, Workspace.mapResult, Workspace.addResolver, installed]

theorem chain_mapAgenda (alike : Interrupt.Alike change first second) (resolver : Resolver)
    (path : Path) (workspace : Workspace Store First) :
    resolver.chain second path (workspace.mapAgenda change) =
      Workspace.mapResult change (resolver.chain first path workspace) :=
  Same.eq_mapResult ((alike_chainSteps (matches_of_alike alike) (covers_ofChange change _) path).run
    (similar_mapAgenda change workspace))

/-- Compiling a template of the storage is the same under both agendas. -/
theorem compileFile_mapAgenda (alike : Interrupt.Alike change first second) (path : Path)
    (workspace : Workspace Store First) :
    host.compileFile second path (workspace.mapAgenda change) =
      Workspace.mapResult change (host.compileFile first path workspace) :=
  Same.eq_mapResult
    ((alike_compileFileSteps (covers_ofChange change _) (matches_of_alike alike) path).run
      (similar_mapAgenda change workspace))

theorem resolve_mapAgenda (alike : Interrupt.Alike change first second) (path : Path)
    (workspace : Workspace Store First) :
    host.resolve second path (workspace.mapAgenda change) =
      Workspace.mapResult change (host.resolve first path workspace) :=
  ((similar_mapAgenda change workspace).resolve (covers_ofChange change _)
    (matches_of_alike alike) path).eq_mapResult

/-- Every request is answered alike under both agendas, and leaves the same workspace apart from the
agenda. -/
theorem answer_mapAgenda (alike : Interrupt.Alike change first second) (request : Request)
    (workspace : Workspace Store First) :
    host.answer second request (workspace.mapAgenda change) =
      Workspace.mapResult change (host.answer first request workspace) := by
  have asks : (ofChange change : Likeness Store First Second).Asks request := by
    cases request with
    | replaceResolver => exact covers_ofChange change _
    | _ => exact trivial
  exact ((similar_mapAgenda change workspace).answer (covers_ofChange change _)
    (matches_of_alike alike) asks).eq_mapResult

end Host

end TemplateTree
