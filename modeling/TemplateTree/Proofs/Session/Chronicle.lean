import TemplateTree.Proofs.Workspace.Agenda
import TemplateTree.Proofs.Workspace.Moves
import TemplateTree.Session

/-!
# Sessions with a chronicle

A chronicle lists the storages that a session has had, those between the request for a file and the
answer included. It is an addition to the agenda that nothing looks at: `forget_carryOut` says that
a session does the same without it. `Reached` describes every point of every session, in the middle
of requests too.
-/

namespace TemplateTree.Session

/-- Steps put off happen when a file is opened, inside one another up to this often. -/
def interruption (host : Host) : Nat → Interrupt Memory Agenda
  | 0 => .none
  | depth + 1 => interruptBy (perform host depth)

theorem perform_ask (host : Host) (depth : Nat) (request : Request) (state : State) :
    perform host depth (.ask request) state =
      host.answer (interruption host depth) request state := by
  cases depth <;> rfl

/-- The state after the steps of a script. -/
def finish (host : Host) : List Step → State → State
  | [], state => state
  | next :: rest, state =>
    finish host rest
      (step host next { state with warnings := [], agenda := { state.agenda with answers := [] } }).2

/-- A script goes on from the state in which its first part ends. -/
theorem run_append (host : Host) (first second : List Step) (state : State) :
    run host (first ++ second) state =
      run host first state ++ run host second (finish host first state) := by
  induction first generalizing state with
  | nil => rfl
  | cons next rest inductionHypothesis =>
    simp only [List.cons_append, run, finish, inductionHypothesis]

/-- An agenda with the storages there have been. -/
structure Chronicle extends Agenda where
  past : List Memory := []

/-- A session with its chronicle. -/
abbrev Recorded := Workspace Memory Chronicle

/-- The session without its chronicle. -/
abbrev forget (recorded : Recorded) : State :=
  recorded.mapAgenda Chronicle.toAgenda

/-- The beginning of a session, with its storage as the first there has been. -/
def begin (files : List (Path × List UInt8)) : Recorded :=
  (start files false).mapAgenda fun agenda => ⟨agenda, [(start files false).storage]⟩

namespace Recorded

/-- The session goes on to this state, whose storage is noted. -/
def note (recorded : Recorded) (state : State) : Recorded :=
  state.mapAgenda fun agenda => ⟨agenda, recorded.agenda.past ++ [state.storage]⟩

/-- Does a step while others act as given. A request changes the storage only through them, so only
the other steps are noted. -/
def carryOut (host : Host) (interrupt : Interrupt Memory Chronicle) (step : Step)
    (recorded : Recorded) : Answer × Recorded :=
  match step with
  | .ask request => host.answer interrupt request recorded
  | _ =>
    let (answer, after) := perform host 0 step (forget recorded)
    (answer, recorded.note after)

/-- Does a step that was put off, and keeps the answer. -/
def catchUp (carryOut : Step → Recorded → Answer × Recorded) (recorded : Recorded) (step : Step) :
    Recorded :=
  let (answer, after) := carryOut step recorded
  { after with agenda := { after.agenda with answers := after.agenda.answers ++ [answer] } }

/-- The steps that wait on a path happen when it is opened. -/
def interruptBy (carryOut : Step → Recorded → Answer × Recorded) : Interrupt Memory Chronicle :=
  fun path recorded =>
    match Agenda.due path.components recorded.agenda.pending with
    | none => recorded
    | some (steps, pending) =>
      steps.foldl (catchUp carryOut) { recorded with agenda := { recorded.agenda with pending } }

/-- Steps put off happen when a file is opened, inside one another up to this often. -/
def interruption (host : Host) : Nat → Interrupt Memory Chronicle
  | 0 => .none
  | depth + 1 => interruptBy (carryOut host (interruption host depth))

/-- Makes ready for the next step of a script. -/
def ready (recorded : Recorded) : Recorded :=
  { recorded with warnings := [], agenda := { recorded.agenda with answers := [] } }

/-- Does the steps of a script. -/
def script (host : Host) : List Step → Recorded → Recorded
  | [], recorded => recorded
  | next :: rest, recorded =>
    script host rest
      (carryOut host (interruption host (next.deferrals + recorded.agenda.deferrals)) next
        recorded.ready).2

end Recorded

/-- Steps that others do are the same without the chronicle if each of them is. -/
theorem alike_interruptBy {carryOut : Step → Recorded → Answer × Recorded}
    {perform : Step → State → Answer × State}
    (alike : ∀ step recorded, perform step (forget recorded) =
      Workspace.mapResult Chronicle.toAgenda (carryOut step recorded)) :
    Interrupt.Alike Chronicle.toAgenda (Recorded.interruptBy carryOut)
      (Session.interruptBy perform) := by
  intro path recorded
  have steps (steps : List Step) (recorded : Recorded) :
      forget (steps.foldl (Recorded.catchUp carryOut) recorded) =
        steps.foldl (fun state step =>
          let (answer, after) := perform step state
          { after with agenda :=
            { after.agenda with answers := after.agenda.answers ++ [answer] } })
          (forget recorded) := by
    refine (List.foldl_hom forget fun recorded step => ?_).symm
    simp only [alike]
    rfl
  have waiting : (forget recorded).agenda.pending = recorded.agenda.pending := rfl
  rw [Recorded.interruptBy, Session.interruptBy, waiting]
  cases Agenda.due path.components recorded.agenda.pending with
  | none => rfl
  | some found => exact steps found.1 _

/-- A step is the same without the chronicle if others act alike. -/
theorem forget_carryOut (host : Host) {depth : Nat} {interrupt : Interrupt Memory Chronicle}
    (alike : Interrupt.Alike Chronicle.toAgenda interrupt (interruption host depth)) (step : Step)
    (recorded : Recorded) :
    perform host depth step (forget recorded) =
      Workspace.mapResult Chronicle.toAgenda (Recorded.carryOut host interrupt step recorded) := by
  cases step with
  | ask request =>
    have answered := Host.answer_mapAgenda host alike request recorded
    cases depth <;> exact answered
  | insert | touch | remove | addFault | clearFaults | onNextOpen => cases depth <;> rfl

/-- Others act alike without the chronicle, however deep. -/
theorem alike_interruption (host : Host) (depth : Nat) :
    Interrupt.Alike Chronicle.toAgenda (Recorded.interruption host depth)
      (interruption host depth) := by
  induction depth with
  | zero => exact Interrupt.alike_none _
  | succ depth inductionHypothesis =>
    exact alike_interruptBy (forget_carryOut host inductionHypothesis)

/-- A script comes to the same state without the chronicle. -/
theorem forget_script (host : Host) (steps : List Step) (recorded : Recorded) :
    forget (Recorded.script host steps recorded) = finish host steps (forget recorded) := by
  induction steps generalizing recorded with
  | nil => rfl
  | cons next rest inductionHypothesis =>
    have first := forget_carryOut host
      (alike_interruption host (next.deferrals + recorded.agenda.deferrals)) next recorded.ready
    rw [Recorded.script, finish, inductionHypothesis]
    exact congrArg (finish host rest) (congrArg Prod.snd first).symm

/-- One thing that happens in a session. -/
inductive Happens (host : Host) : Recorded → Recorded → Prop where
  | step (depth step recorded) :
      Happens host recorded
        (Recorded.carryOut host (Recorded.interruption host depth) step recorded).2
  | move {depth before after} (moved : host.Move (Recorded.interruption host depth) before after) :
      Happens host before after
  | due {steps pending} (path : Path) (recorded : Recorded)
      (waiting : Agenda.due path.components recorded.agenda.pending = some (steps, pending)) :
      Happens host recorded { recorded with agenda := { recorded.agenda with pending } }
  | answered (answer) (recorded : Recorded) :
      Happens host recorded { recorded with
        agenda := { recorded.agenda with answers := recorded.agenda.answers ++ [answer] } }
  | ready (recorded) : Happens host recorded recorded.ready

/-- A point of a session that begins with these files: between two steps of its script, between two
moves of a request, or while a file is opened. -/
abbrev Reached (host : Host) (files : List (Path × List UInt8)) : Recorded → Prop :=
  Relation.ReflTransGen (Happens host) (begin files)

/-- The end of every script is reached. -/
theorem reached_script {host : Host} {files : List (Path × List UInt8)} {recorded : Recorded}
    (reached : Reached host files recorded) (steps : List Step) :
    Reached host files (Recorded.script host steps recorded) := by
  induction steps generalizing recorded with
  | nil => exact reached
  | cons next rest inductionHypothesis =>
    exact inductionHypothesis ((reached.tail (.ready _)).tail (.step ..))

/-- Whatever a script answers after its first part, it answers from a point that is reached. -/
theorem exists_reached_of_run (host : Host) (files : List (Path × List UInt8))
    (former further : List Step) :
    ∃ point, Reached host files point ∧
      run host (former ++ further) (start files false) =
        run host former (start files false) ++ run host further (forget point) := by
  refine ⟨Recorded.script host former (begin files), reached_script .refl former, ?_⟩
  rw [run_append, forget_script]
  rfl

end TemplateTree.Session
