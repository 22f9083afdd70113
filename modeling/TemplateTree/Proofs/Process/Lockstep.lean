import Mathlib.Data.List.Forall2
import TemplateTree.Process

/-!
# Processes in lockstep

Two processes, each on a state of its own, that cannot be told apart by their results: as long as
the states are related, so are those after a step of both. What holds of two processes holds of two
groups of them under the same schedule; this is `Alike.together`.
-/

namespace TemplateTree.Process

variable {First Second Value Result : Type}

/-- From related states, two processes take steps that lead to related states, and end with the same
result. -/
inductive Alike (related : First → Second → Prop) :
    Process First Result → Process Second Result → Prop where
  | done (result) : Alike related (.done result) (.done result)
  | step {change change' next next'}
      (changes : ∀ {one two}, related one two → related (change one) (change' two))
      (rest : ∀ {one two}, related one two → Alike related (next one) (next' two)) :
      Alike related (.step change next) (.step change' next')

/-- Two outcomes have the same result and related states. -/
def Same (related : First → Second → Prop) (one : Result × First) (two : Result × Second) : Prop :=
  ∃ result left right, one = (result, left) ∧ two = (result, right) ∧ related left right

theorem Same.map {related : First → Second → Prop} {one : Value × First} {two : Value × Second}
    (same : Same related one two) (view : Value → Result) :
    Same related (view one.1, one.2) (view two.1, two.2) := by
  obtain ⟨value, left, right, rfl, rfl, after⟩ := same
  exact ⟨view value, left, right, rfl, rfl, after⟩

namespace Alike

variable {related : First → Second → Prop}

/-- Two processes that begin with a step are alike if the steps have the same value and leave
related states, and the processes go on alike from there. -/
theorem act_bind {first : First → Value × First} {second : Second → Value × Second}
    {goOn : Value → Process First Result} {goOn' : Value → Process Second Result}
    (acts : ∀ {one two}, related one two → ∃ value left right, first one = (value, left) ∧
      second two = (value, right) ∧ related left right ∧ Alike related (goOn value) (goOn' value)) :
    Alike related (.act first >>= goOn) (.act second >>= goOn') := by
  refine .step (fun similar => ?_) fun similar => ?_
  · obtain ⟨value, left, right, one, two, after, -⟩ := acts similar
    rw [one, two]
    exact after
  · obtain ⟨value, left, right, one, two, -, rest⟩ := acts similar
    simp only [one, two]
    exact rest

/-- Processes that go on alike are alike if those are that they go on from. -/
theorem bind {first : Process First Value} {second : Process Second Value}
    {goOn : Value → Process First Result} {goOn' : Value → Process Second Result}
    (alike : Alike related first second)
    (rest : ∀ value, Alike related (goOn value) (goOn' value)) :
    Alike related (first >>= goOn) (second >>= goOn') := by
  induction alike with
  | done value => exact rest value
  | step changes _ inductionHypothesis => exact .step changes inductionHypothesis

theorem map {first : Process First Value} {second : Process Second Value}
    (alike : Alike related first second) (view : Value → Result) :
    Alike related (view <$> first) (view <$> second) := by
  rw [map_eq_pure_bind, map_eq_pure_bind]
  exact alike.bind fun value => .done (view value)

variable {one : First} {two : Second}

theorem run {first : Process First Result} {second : Process Second Result}
    (alike : Alike related first second) (similar : related one two) :
    Same related (first.run one) (second.run two) := by
  induction alike generalizing one two with
  | done result => exact ⟨result, one, two, rfl, rfl, similar⟩
  | step changes _ inductionHypothesis => exact inductionHypothesis similar (changes similar)

variable {firsts : List (Process First Result)} {seconds : List (Process Second Result)}

/-- A turn leads groups that are alike to groups that are alike. -/
theorem turn (position : Nat) (alike : List.Forall₂ (Alike related) firsts seconds)
    (similar : related one two) :
    List.Forall₂ (Alike related) (Process.turn position firsts one).1
        (Process.turn position seconds two).1 ∧
      related (Process.turn position firsts one).2 (Process.turn position seconds two).2 := by
  induction position generalizing firsts seconds with
  | zero =>
    cases alike with
    | nil => exact ⟨.nil, similar⟩
    | cons here others =>
      cases here with
      | done result => exact ⟨.cons (.done result) others, similar⟩
      | step changes rest => exact ⟨.cons (rest similar) others, changes similar⟩
  | succ position inductionHypothesis =>
    cases alike with
    | nil => exact ⟨.nil, similar⟩
    | cons here others =>
      obtain ⟨still, after⟩ := inductionHypothesis others
      exact ⟨.cons here still, after⟩

/-- So does a schedule. -/
theorem follow (schedule : List Nat) (alike : List.Forall₂ (Alike related) firsts seconds)
    (similar : related one two) :
    List.Forall₂ (Alike related) (Process.follow schedule firsts one).1
        (Process.follow schedule seconds two).1 ∧
      related (Process.follow schedule firsts one).2 (Process.follow schedule seconds two).2 := by
  induction schedule generalizing firsts seconds one two with
  | nil => exact ⟨alike, similar⟩
  | cons position rest inductionHypothesis =>
    obtain ⟨still, after⟩ := turn position alike similar
    exact inductionHypothesis still after

/-- Groups that are alike have the same results, one process after the other. -/
theorem runAll (alike : List.Forall₂ (Alike related) firsts seconds) (similar : related one two) :
    Same related (Process.runAll firsts one) (Process.runAll seconds two) := by
  induction alike generalizing one two with
  | nil => exact ⟨[], one, two, rfl, rfl, similar⟩
  | cons here _ inductionHypothesis =>
    obtain ⟨result, left, right, left_eq, right_eq, after⟩ := here.run similar
    obtain ⟨results, last, last', last_eq, last_eq', final⟩ := inductionHypothesis after
    refine ⟨result :: results, last, last', ?_, ?_, final⟩
    · simp only [Process.runAll, left_eq, last_eq]
    · simp only [Process.runAll, right_eq, last_eq']

/-- Groups that are alike have the same results under the same schedule. -/
theorem together (schedule : List Nat) (alike : List.Forall₂ (Alike related) firsts seconds)
    (similar : related one two) :
    Same related (Process.together schedule firsts one) (Process.together schedule seconds two) := by
  obtain ⟨still, after⟩ := follow schedule alike similar
  exact runAll still after

end Alike

end TemplateTree.Process
