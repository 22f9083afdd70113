/-!
# Processes

A process acts on a state in steps, between which others may act on it. Left to itself it is a
function of the state. Several processes share a state in whatever order a schedule lets them take
their steps.
-/

namespace TemplateTree

/-- Steps that lead to a result. A step changes the state at once, and what comes after it depends
on the state that it found. -/
inductive Process (State Result : Type) where
  | done (result : Result)
  | step (change : State → State) (next : State → Process State Result)

namespace Process

variable {State Value Result : Type}

/-- One step, with a value as its result. -/
def act (action : State → Value × State) : Process State Value :=
  .step (fun state => (action state).2) fun state => .done (action state).1

/-- One step that leaves the state alone. -/
def ask (question : State → Value) : Process State Value :=
  .act fun state => (question state, state)

/-- One step that has nothing to tell. -/
def change (change : State → State) : Process State Unit :=
  .act fun state => ((), change state)

/-- A process that goes on with the result of another. -/
def bind (process : Process State Value) (goOn : Value → Process State Result) :
    Process State Result :=
  match process with
  | .done value => goOn value
  | .step change next => .step change fun state => (next state).bind goOn

instance : Monad (Process State) where
  pure := .done
  bind := bind

/-- The result of a process that is left to itself, and the state afterwards. -/
def run : Process State Result → State → Result × State
  | .done result, state => (result, state)
  | .step change next, state => (next state).run (change state)

/-- The next step of a process, if it has one left. -/
def advance : Process State Result → State → Process State Result × State
  | .done result, state => (.done result, state)
  | .step change next, state => (next state, change state)

/-- Lets the process in this position take its next step. -/
def turn : Nat → List (Process State Result) → State → List (Process State Result) × State
  | _, [], state => ([], state)
  | 0, process :: rest, state =>
    let (process, state) := process.advance state
    (process :: rest, state)
  | position + 1, process :: rest, state =>
    let (rest, state) := turn position rest state
    (process :: rest, state)

/-- Lets processes take their steps in the order of a schedule, which lists positions. -/
def follow : List Nat → List (Process State Result) → State → List (Process State Result) × State
  | [], members, state => (members, state)
  | position :: schedule, members, state =>
    let (members, state) := turn position members state
    follow schedule members state

/-- Leaves one process after the other to itself. -/
def runAll : List (Process State Result) → State → List Result × State
  | [], state => ([], state)
  | process :: rest, state =>
    let (result, state) := process.run state
    let (results, state) := runAll rest state
    (result :: results, state)

/-- Runs processes together: as the schedule has it at first, and then one after the other. -/
def together (schedule : List Nat) (members : List (Process State Result)) (state : State) :
    List Result × State :=
  let (members, state) := follow schedule members state
  runAll members state

theorem bind_assoc {Last : Type} (process : Process State Value)
    (goOn : Value → Process State Result) (last : Result → Process State Last) :
    (process.bind goOn).bind last = process.bind fun value => (goOn value).bind last := by
  induction process with
  | done value => rfl
  | step change next inductionHypothesis => simp only [bind, inductionHypothesis]

theorem bind_done (process : Process State Result) : process.bind .done = process := by
  induction process with
  | done result => rfl
  | step change next inductionHypothesis => simp only [bind, inductionHypothesis]

instance : LawfulMonad (Process State) :=
  LawfulMonad.mk' _ bind_done (fun _ _ => rfl) bind_assoc

variable (state : State)

@[simp]
theorem run_pure (result : Result) :
    (pure result : Process State Result).run state = (result, state) :=
  rfl

@[simp]
theorem run_act (action : State → Value × State) : (act action).run state = action state :=
  rfl

@[simp]
theorem run_ask (question : State → Value) : (ask question).run state = (question state, state) :=
  rfl

@[simp]
theorem run_change (change : State → State) :
    (Process.change change).run state = ((), change state) :=
  rfl

@[simp]
theorem run_bind (process : Process State Value) (goOn : Value → Process State Result) :
    (process >>= goOn).run state = (goOn (process.run state).1).run (process.run state).2 := by
  induction process generalizing state with
  | done value => rfl
  | step change next inductionHypothesis => exact inductionHypothesis state (change state)

@[simp]
theorem run_map (view : Value → Result) (process : Process State Value) :
    (view <$> process).run state = (view (process.run state).1, (process.run state).2) := by
  rw [map_eq_pure_bind, run_bind, run_pure]

end Process

end TemplateTree
