import Mathlib.Algebra.Group.Basic
import Mathlib.Algebra.Order.PUnit
import Mathlib.Data.List.Forall2
import TemplateTree.Process

/-!
# Processes among others

What a process comes to while others act between its steps. All who act keep to a `Regime`, and each
may rely on it: the process does if it does at every step, wherever the others have led by then. A
regime can also measure what is done, so that the amounts of processes that run together are added.
Main statement: `Ensured.together`.
-/

namespace TemplateTree.Process

/-- What those who act keep to. They see a part of the world only, the state of the processes; the
rest of it is an account of what has been done. -/
structure Regime (World State Amount : Type) [AddCommMonoid Amount] where
  seen : World → State
  adds : Amount → World → World → Prop
  nothing : ∀ world, adds 0 world world
  more : ∀ {first second before between after}, adds first before between →
    adds second between after → adds (first + second) before after

variable {World State Amount Value Result : Type} [AddCommMonoid Amount]

namespace Regime

/-- One world comes from another while all keep to the regime. -/
def Later (regime : Regime World State Amount) (before after : World) : Prop :=
  ∃ amount, regime.adds amount before after

variable {regime : Regime World State Amount} {before between after : World}

theorem Later.refl (world : World) : regime.Later world world :=
  ⟨0, regime.nothing world⟩

theorem Later.trans (first : regime.Later before between) (second : regime.Later between after) :
    regime.Later before after := by
  obtain ⟨amount, adds⟩ := first
  obtain ⟨more, further⟩ := second
  exact ⟨amount + more, regime.more adds further⟩

/-- From here the regime lets someone come to a state, and something holds from then on. -/
def Reaches (regime : Regime World State Amount) (amount : Amount) (now : World) (state : State)
    (fact : World → Prop) : Prop :=
  ∃ after, regime.adds amount now after ∧ regime.seen after = state ∧
    ∀ further, regime.Later after further → fact further

theorem Reaches.weaken {amount : Amount} {now : World} {state : State} {fact weaker : World → Prop}
    (reaches : regime.Reaches amount now state fact)
    (follows : ∀ further, fact further → weaker further) :
    regime.Reaches amount now state weaker := by
  obtain ⟨after, adds, seen, holds⟩ := reaches
  exact ⟨after, adds, seen, fun further later => follows further (holds further later)⟩

/-- A change that anyone may make at any time, and that amounts to nothing. -/
def Allows (regime : Regime World State Amount) (change : State → State) : Prop :=
  ∀ now, ∃ after, regime.adds 0 now after ∧ regime.seen after = change (regime.seen now)

theorem Allows.reaches {change : State → State} (allows : regime.Allows change) (now : World)
    {fact : World → Prop} (holds : ∀ further, regime.Later now further → fact further) :
    regime.Reaches 0 now (change (regime.seen now)) fact := by
  obtain ⟨after, adds, seen⟩ := allows now
  exact ⟨after, adds, seen, fun further later => holds further (.trans ⟨0, adds⟩ later)⟩

/-- A regime under which nothing is measured and no account is kept. -/
def ofLater (later : State → State → Prop) (refl : ∀ state, later state state)
    (trans : ∀ {before between after}, later before between → later between after →
      later before after) : Regime State State Unit where
  seen := id
  adds _ := later
  nothing := refl
  more := trans

/-- A regime under which something goes on to hold. -/
def ofInvariant (invariant : State → Prop) : Regime {state // invariant state} State Unit where
  seen := Subtype.val
  adds _ _ _ := True
  nothing _ := trivial
  more _ _ := trivial

theorem allows_ofInvariant {invariant : State → Prop} {change : State → State}
    (keeps : ∀ state, invariant state → invariant (change state)) :
    (ofInvariant invariant).Allows change :=
  fun now => ⟨⟨change now.1, keeps now.1 now.2⟩, trivial, rfl⟩

end Regime

/-- From this world on the process keeps to the regime, and what it does comes to the amount. When
it is done something holds of its result, and goes on to hold. -/
def Ensures (regime : Regime World State Amount) (holds : World → Result → Prop) :
    Process State Result → Amount → World → Prop
  | .done result, amount, world =>
    amount = 0 ∧ ∀ now, regime.Later world now → holds now result
  | .step change next, amount, world =>
    ∀ now, regime.Later world now →
      ∃ first rest after, amount = first + rest ∧ regime.adds first now after ∧
        regime.seen after = change (regime.seen now) ∧
        (next (regime.seen now)).Ensures regime holds rest after

namespace Ensures

variable {regime : Regime World State Amount} {holds : World → Result → Prop} {amount rest : Amount}
  {world now : World}

theorem later {process : Process State Result} (ensures : process.Ensures regime holds amount world)
    (later : regime.Later world now) : process.Ensures regime holds amount now := by
  cases process with
  | done result =>
    exact ⟨ensures.1, fun further still => ensures.2 further (later.trans still)⟩
  | step change next => exact fun further still => ensures further (later.trans still)

theorem pure {result : Result} (fact : ∀ now, regime.Later world now → holds now result) :
    (pure result : Process State Result).Ensures regime holds 0 world :=
  ⟨rfl, fact⟩

/-- A single step, wherever others have led before it and lead after it. -/
theorem act {action : State → Result × State}
    (acts : ∀ now, regime.Later world now → regime.Reaches amount now (action (regime.seen now)).2
      fun further => holds further (action (regime.seen now)).1) :
    (Process.act action).Ensures regime holds amount world := by
  intro now later
  obtain ⟨after, adds, seen, fact⟩ := acts now later
  exact ⟨amount, 0, after, (add_zero amount).symm, adds, seen, rfl, fact⟩

theorem act_bind {action : State → Value × State} {goOn : Value → Process State Result}
    (acts : ∀ now, regime.Later world now → ∃ first rest after, amount = first + rest ∧
      regime.adds first now after ∧ regime.seen after = (action (regime.seen now)).2 ∧
      (goOn (action (regime.seen now)).1).Ensures regime holds rest after) :
    (Process.act action >>= goOn).Ensures regime holds amount world :=
  acts

theorem act_of_allows {action : State → Result × State}
    (allows : regime.Allows fun state => (action state).2) :
    (Process.act action).Ensures regime (fun _ _ => True) 0 world :=
  act fun now _ => allows.reaches now fun _ _ => trivial

theorem act_invariant {invariant : State → Prop} {fact : Result → Prop}
    {action : State → Result × State} {start : {state // invariant state}}
    (acts : ∀ now, invariant now → fact (action now).1 ∧ invariant (action now).2) :
    (Process.act action).Ensures (.ofInvariant invariant) (fun _ => fact) 0 start :=
  act fun now _ => ⟨⟨(action now.1).2, (acts now.1 now.2).2⟩, trivial, rfl,
    fun _ _ => (acts now.1 now.2).1⟩

theorem ask {question : State → Result}
    (answers : ∀ now, regime.Later world now → ∀ further, regime.Later now further →
      holds further (question (regime.seen now))) :
    (Process.ask question).Ensures regime holds 0 world :=
  act fun now later => ⟨now, regime.nothing now, rfl, answers now later⟩

/-- A process that goes on from what another has ensured. -/
theorem bind {fact : World → Value → Prop} {process : Process State Value}
    {goOn : Value → Process State Result} (first : process.Ensures regime fact amount world)
    (second : ∀ now value, regime.Later world now →
      (∀ further, regime.Later now further → fact further value) →
      (goOn value).Ensures regime holds rest now) :
    (process >>= goOn).Ensures regime holds (amount + rest) world := by
  induction process generalizing amount world with
  | done value =>
    obtain ⟨rfl, known⟩ := first
    rw [zero_add]
    exact second world value (.refl world) known
  | step change next inductionHypothesis =>
    intro now later
    obtain ⟨part, others, after, rfl, adds, seen, ensures⟩ := first now later
    refine ⟨part, others + rest, after, add_assoc .., adds, seen, ?_⟩
    exact inductionHypothesis _ ensures fun further value still =>
      second further value ((later.trans ⟨part, adds⟩).trans still)

/-- A process that goes on from what another has ensured and amounts to nothing. -/
theorem andThen {fact : World → Value → Prop} {process : Process State Value}
    {goOn : Value → Process State Result} (first : process.Ensures regime fact 0 world)
    (second : ∀ now value, regime.Later world now →
      (∀ further, regime.Later now further → fact further value) →
      (goOn value).Ensures regime holds amount now) :
    (process >>= goOn).Ensures regime holds amount world :=
  zero_add amount ▸ first.bind second

/-- A process whose further steps amount to nothing. -/
theorem finish {fact : World → Value → Prop} {process : Process State Value}
    {goOn : Value → Process State Result} (first : process.Ensures regime fact amount world)
    (second : ∀ now value, regime.Later world now →
      (∀ further, regime.Later now further → fact further value) →
      (goOn value).Ensures regime holds 0 now) :
    (process >>= goOn).Ensures regime holds amount world :=
  add_zero amount ▸ first.bind second

/-- What is made of the result of a process. -/
theorem map {fact : World → Value → Prop} {process : Process State Value} {view : Value → Result}
    (ensures : process.Ensures regime fact amount world)
    (viewed : ∀ now value, regime.Later world now → fact now value → holds now (view value)) :
    (view <$> process).Ensures regime holds amount world := by
  rw [map_eq_pure_bind]
  exact ensures.finish fun now value later known => pure fun further still =>
    viewed further value (later.trans still) (known further still)

/-- A process that is left to itself does what it ensures. -/
theorem run {process : Process State Result}
    (ensures : process.Ensures regime holds amount world) :
    regime.Reaches amount world (process.run (regime.seen world)).2
      fun further => holds further (process.run (regime.seen world)).1 := by
  induction process generalizing amount world with
  | done result =>
    obtain ⟨rfl, fact⟩ := ensures
    exact ⟨world, regime.nothing world, rfl, fact⟩
  | step change next inductionHypothesis =>
    obtain ⟨part, rest, after, rfl, adds, seen, later⟩ := ensures world (.refl world)
    obtain ⟨last, further, final, fact⟩ := inductionHypothesis _ later
    rw [seen] at final fact
    exact ⟨last, regime.more adds further, final, fact⟩

theorem run_invariant {invariant : State → Prop} {fact : Result → Prop}
    {process : Process State Result} {start : {state // invariant state}}
    (ensures : process.Ensures (.ofInvariant invariant) (fun _ => fact) 0 start) :
    fact (process.run start.1).1 ∧ invariant (process.run start.1).2 := by
  obtain ⟨after, -, seen, known⟩ := ensures.run
  exact ⟨known after (.refl after), seen ▸ after.2⟩

/-- The next step of a process leaves it to do the rest. -/
theorem advance {process : Process State Result}
    (ensures : process.Ensures regime holds amount world) :
    ∃ first rest after, amount = first + rest ∧ regime.adds first world after ∧
      regime.seen after = (process.advance (regime.seen world)).2 ∧
      (process.advance (regime.seen world)).1.Ensures regime holds rest after := by
  cases process with
  | done result =>
    exact ⟨0, amount, world, (zero_add amount).symm, regime.nothing world, rfl, ensures⟩
  | step change next => exact ensures world (.refl world)

end Ensures

/-- Each process of a group ensures something of its own, and their amounts come to the total. -/
inductive Ensured (regime : Regime World State Amount) (world : World) :
    List (World → Result → Prop) → Amount → List (Process State Result) → Prop where
  | nil : Ensured regime world [] 0 []
  | cons {holds amount process demands total members}
      (first : process.Ensures regime holds amount world)
      (others : Ensured regime world demands total members) :
      Ensured regime world (holds :: demands) (amount + total) (process :: members)

namespace Ensured

variable {regime : Regime World State Amount} {world now : World}
  {demands : List (World → Result → Prop)} {total : Amount} {members : List (Process State Result)}

theorem later (ensured : Ensured regime world demands total members)
    (later : regime.Later world now) : Ensured regime now demands total members := by
  induction ensured with
  | nil => exact .nil
  | cons first _ inductionHypothesis => exact .cons (first.later later) inductionHypothesis

/-- A group in which each process ensures something of its own. -/
theorem of_forall {Item : Type} {items : List Item} {holds : Item → World → Result → Prop}
    {amount : Item → Amount} {process : Item → Process State Result}
    (each : ∀ item ∈ items, (process item).Ensures regime (holds item) (amount item) world) :
    Ensured regime world (items.map holds) (items.map amount).sum (items.map process) := by
  induction items with
  | nil => exact .nil
  | cons item rest inductionHypothesis =>
    obtain ⟨here, others⟩ := List.forall_mem_cons.1 each
    rw [List.map_cons, List.map_cons, List.map_cons, List.sum_cons]
    exact .cons here (inductionHypothesis others)

theorem map (view : Result → Value) (ensured : Ensured regime world demands total members) :
    Ensured regime world (demands.map fun _ _ _ => True) total (members.map (view <$> ·)) := by
  induction ensured with
  | nil => exact .nil
  | cons first _ inductionHypothesis =>
    exact .cons (first.map fun _ _ _ _ => trivial) inductionHypothesis

/-- A turn leaves the group to do the rest. -/
theorem turn (position : Nat) (ensured : Ensured regime world demands total members) :
    ∃ first rest after, total = first + rest ∧ regime.adds first world after ∧
      regime.seen after = (Process.turn position members (regime.seen world)).2 ∧
      Ensured regime after demands rest (Process.turn position members (regime.seen world)).1 := by
  induction position generalizing demands total members with
  | zero =>
    cases ensured with
    | nil => exact ⟨0, 0, world, (zero_add 0).symm, regime.nothing world, rfl, .nil⟩
    | @cons _ _ _ _ others _ here ensured =>
      obtain ⟨first, rest, after, rfl, adds, seen, left⟩ := here.advance
      exact ⟨first, rest + others, after, add_assoc .., adds, seen,
        .cons left (ensured.later ⟨first, adds⟩)⟩
  | succ position inductionHypothesis =>
    cases ensured with
    | nil => exact ⟨0, 0, world, (zero_add 0).symm, regime.nothing world, rfl, .nil⟩
    | @cons _ amount _ _ _ _ here ensured =>
      obtain ⟨first, rest, after, rfl, adds, seen, left⟩ := inductionHypothesis ensured
      exact ⟨first, amount + rest, after, add_left_comm .., adds, seen,
        .cons (here.later ⟨first, adds⟩) left⟩

/-- So does a schedule, however far it has been followed. -/
theorem follow (schedule : List Nat) (ensured : Ensured regime world demands total members) :
    ∃ first rest after, total = first + rest ∧ regime.adds first world after ∧
      regime.seen after = (Process.follow schedule members (regime.seen world)).2 ∧
      Ensured regime after demands rest
        (Process.follow schedule members (regime.seen world)).1 := by
  induction schedule generalizing world total members with
  | nil => exact ⟨0, total, world, (zero_add total).symm, regime.nothing world, rfl, ensured⟩
  | cons position schedule inductionHypothesis =>
    obtain ⟨first, rest, between, rfl, adds, seen, left⟩ := ensured.turn position
    obtain ⟨second, last, after, rfl, further, final, still⟩ := inductionHypothesis left
    rw [seen] at final still
    exact ⟨first + second, last, after, (add_assoc ..).symm, regime.more adds further, final, still⟩

/-- Whatever the processes of a group ensure comes about if one after the other is left to itself.
-/
theorem runAll (ensured : Ensured regime world demands total members) :
    ∃ after, regime.adds total world after ∧
      regime.seen after = (Process.runAll members (regime.seen world)).2 ∧
      List.Forall₂ (fun holds result => ∀ now, regime.Later after now → holds now result) demands
        (Process.runAll members (regime.seen world)).1 := by
  induction members generalizing world demands total with
  | nil =>
    cases ensured
    exact ⟨world, regime.nothing world, rfl, .nil⟩
  | cons process rest inductionHypothesis =>
    cases ensured with
    | cons here others =>
      obtain ⟨between, adds, seen, fact⟩ := here.run
      obtain ⟨after, further, final, facts⟩ := inductionHypothesis (others.later ⟨_, adds⟩)
      rw [seen] at final facts
      exact ⟨after, regime.more adds further, final,
        .cons (fun now later => fact now (.trans ⟨_, further⟩ later)) facts⟩

/-- Whatever the processes of a group ensure comes about if they run together, under every
schedule. -/
theorem together (schedule : List Nat) (ensured : Ensured regime world demands total members) :
    ∃ after, regime.adds total world after ∧
      regime.seen after = (Process.together schedule members (regime.seen world)).2 ∧
      List.Forall₂ (fun holds result => ∀ now, regime.Later after now → holds now result) demands
        (Process.together schedule members (regime.seen world)).1 := by
  obtain ⟨first, rest, between, rfl, adds, seen, left⟩ := ensured.follow schedule
  obtain ⟨after, further, final, facts⟩ := left.runAll
  rw [seen] at final facts
  exact ⟨after, regime.more adds further, final, facts⟩

/-- Processes that keep an invariant, and whose results are known from it, have these results
together too. -/
theorem together_invariant {Item : Type} {items : List Item} {invariant : State → Prop}
    {process : Item → Process State Result} {result : Item → Result}
    (start : {state // invariant state}) (schedule : List Nat)
    (each : ∀ item ∈ items, (process item).Ensures (.ofInvariant invariant)
      (fun _ found => found = result item) 0 start) :
    (Process.together schedule (items.map process) start.1).1 = items.map result ∧
      invariant (Process.together schedule (items.map process) start.1).2 := by
  obtain ⟨after, -, seen, facts⟩ := (of_forall each).together schedule
  have found : List.Forall₂ (fun item found => found = result item) items
      (Process.together schedule (items.map process) start.1).1 :=
    (List.forall₂_map_left_iff.1 facts).imp fun _ _ fact => fact after (.refl after)
  refine ⟨?_, seen ▸ after.2⟩
  rw [← List.forall₂_eq_eq_eq, List.forall₂_map_right_iff]
  exact found.flip

end Ensured

end TemplateTree.Process
