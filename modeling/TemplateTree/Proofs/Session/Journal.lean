import TemplateTree.Proofs.Session.Chronicle

/-!
# Sessions with a journal

A journal lists every step that a session has done, with the answer to it, in the order in which
they were completed; those done while a file was opened are among them. It is an addition to the
agenda that nothing looks at: `forget_script` says that a session comes to the same state without
it.
-/

namespace TemplateTree.Session

/-- An agenda with the steps done so far and the answers to them. -/
structure Journal extends Agenda where
  entries : List (Step × Answer) := []

/-- A session with its journal. -/
abbrev Journaled := Workspace Memory Journal

namespace Journaled

/-- The session without its journal. -/
abbrev forget (journaled : Journaled) : State :=
  journaled.mapAgenda Journal.toAgenda

/-- The beginning of a session, with an empty journal. -/
def begin (files : List (Path × List UInt8)) (frozen : Bool) : Journaled :=
  (start files frozen).mapAgenda fun agenda => ⟨agenda, []⟩

/-- Enters a step and its answer into the journal. -/
def enter (step : Step) (outcome : Answer × Journaled) : Answer × Journaled :=
  (outcome.1, outcome.2.mapAgenda fun journal =>
    { journal with entries := journal.entries ++ [(step, outcome.1)] })

/-- Does a step while others act as given. -/
def act (host : Host) (interrupt : Interrupt Memory Journal) (step : Step)
    (journaled : Journaled) : Answer × Journaled :=
  match step with
  | .ask request => host.answer interrupt request journaled
  | _ =>
    let (answer, after) := perform host 0 step (forget journaled)
    (answer, after.mapAgenda fun agenda => ⟨agenda, journaled.agenda.entries⟩)

/-- Does a step while others act as given, and enters it into the journal. -/
def carryOut (host : Host) (interrupt : Interrupt Memory Journal) (step : Step)
    (journaled : Journaled) : Answer × Journaled :=
  enter step (act host interrupt step journaled)

/-- Does a step that was put off, and keeps the answer. -/
def catchUp (carryOut : Step → Journaled → Answer × Journaled) (journaled : Journaled)
    (step : Step) : Journaled :=
  let (answer, after) := carryOut step journaled
  { after with agenda := { after.agenda with answers := after.agenda.answers ++ [answer] } }

/-- The steps that wait on a path happen when it is opened. -/
def interruptBy (carryOut : Step → Journaled → Answer × Journaled) : Interrupt Memory Journal :=
  fun path journaled =>
    match Agenda.due path.components journaled.agenda.pending with
    | none => journaled
    | some (steps, pending) =>
      steps.foldl (catchUp carryOut) { journaled with agenda := { journaled.agenda with pending } }

/-- Steps put off happen when a file is opened, inside one another up to this often. -/
def interruption (host : Host) : Nat → Interrupt Memory Journal
  | 0 => .none
  | depth + 1 => interruptBy (carryOut host (interruption host depth))

/-- Makes ready for the next step of a script. -/
def ready (journaled : Journaled) : Journaled :=
  { journaled with warnings := [], agenda := { journaled.agenda with answers := [] } }

/-- Does the steps of a script. -/
def script (host : Host) : List Step → Journaled → Journaled
  | [], journaled => journaled
  | next :: rest, journaled =>
    script host rest
      (carryOut host (interruption host (next.deferrals + journaled.agenda.deferrals)) next
        journaled.ready).2

/-- A step is the same without the journal if others act alike. -/
theorem forget_carryOut (host : Host) {depth : Nat} {interrupt : Interrupt Memory Journal}
    (alike : Interrupt.Alike Journal.toAgenda interrupt (Session.interruption host depth))
    (step : Step) (journaled : Journaled) :
    perform host depth step (forget journaled) =
      Workspace.mapResult Journal.toAgenda (carryOut host interrupt step journaled) := by
  cases step with
  | ask request =>
    have answered := Host.answer_mapAgenda host alike request journaled
    cases depth <;> exact answered
  | insert | touch | remove | addFault | clearFaults | onNextOpen => cases depth <;> rfl

/-- Others act alike without the journal, however deep. -/
theorem alike_interruption (host : Host) (depth : Nat) :
    Interrupt.Alike Journal.toAgenda (interruption host depth)
      (Session.interruption host depth) := by
  induction depth with
  | zero => exact Interrupt.alike_none _
  | succ depth inductionHypothesis =>
    intro path journaled
    have steps (steps : List Step) (journaled : Journaled) :
        forget (steps.foldl (catchUp (carryOut host (interruption host depth))) journaled) =
          steps.foldl (fun state step =>
            let (answer, after) := perform host depth step state
            { after with agenda :=
              { after.agenda with answers := after.agenda.answers ++ [answer] } })
            (forget journaled) := by
      refine (List.foldl_hom forget fun journaled step => ?_).symm
      simp only [forget_carryOut host inductionHypothesis]
      rfl
    have waiting : (forget journaled).agenda.pending = journaled.agenda.pending := rfl
    rw [interruption, Session.interruption, interruptBy, Session.interruptBy, waiting]
    cases Agenda.due path.components journaled.agenda.pending with
    | none => rfl
    | some found => exact steps found.1 _

/-- What holds along each step holds along all that others do while a file is opened, however deep
they act inside one another, if it does not depend on what is put off or has been answered. -/
theorem related_interruption {host : Host} {related : Journaled → Journaled → Prop}
    (refl : ∀ journaled, related journaled journaled)
    (trans : ∀ {before between after}, related before between → related between after →
      related before after)
    (waiting : ∀ journaled pending answers, related journaled
      { journaled with agenda := { journaled.agenda with pending, answers } })
    (along : ∀ interrupt, (∀ path journaled, related journaled (interrupt path journaled)) →
      ∀ step journaled, related journaled (carryOut host interrupt step journaled).2)
    (depth : Nat) (path : Path) (journaled : Journaled) :
    related journaled (interruption host depth path journaled) := by
  induction depth generalizing path journaled with
  | zero => exact refl journaled
  | succ depth inductionHypothesis =>
    have steps (steps : List Step) (journaled : Journaled) :
        related journaled
          (steps.foldl (catchUp (carryOut host (interruption host depth))) journaled) := by
      induction steps generalizing journaled with
      | nil => exact refl journaled
      | cons step rest others =>
        have done := along _ inductionHypothesis step journaled
        have answered : related (carryOut host (interruption host depth) step journaled).2
            (catchUp (carryOut host (interruption host depth)) journaled step) := waiting _ _ _
        exact trans (trans done answered) (others _)
    rw [interruption, interruptBy]
    split
    · exact refl journaled
    · next due pending _ =>
      have later : related journaled
          { journaled with agenda := { journaled.agenda with pending } } := waiting _ _ _
      exact trans later (steps due _)

/-- A script comes to the same state without the journal. -/
theorem forget_script (host : Host) (steps : List Step) (journaled : Journaled) :
    forget (script host steps journaled) = finish host steps (forget journaled) := by
  induction steps generalizing journaled with
  | nil => rfl
  | cons next rest inductionHypothesis =>
    have first := forget_carryOut host
      (alike_interruption host (next.deferrals + journaled.agenda.deferrals)) next journaled.ready
    rw [script, finish, inductionHypothesis]
    exact congrArg (finish host rest) (congrArg Prod.snd first).symm

end Journaled

end TemplateTree.Session
