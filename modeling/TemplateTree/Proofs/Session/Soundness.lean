import TemplateTree.Proofs.Session.Explained
import TemplateTree.Proofs.Workspace.Regimes

/-!
# Soundness of recorded sessions

Everything that happens in a session keeps to the regime of its sound points, so that all its points
are sound; this is `sound_of_reached`. Those who act while a file is opened may do whatever a
session does: `advancing_interruption` is the induction on how deep they act inside one another.
-/

namespace TemplateTree.Session.Recorded

variable {before after recorded : Recorded} {interrupt : Interrupt Memory Chronicle}

/-- A session advances when a resolver is built, because its cache is empty. -/
theorem advances_addResolver (root : Path) (directiveFilename : String) {after : Recorded}
    (storage : after.storage = before.storage) (past : after.agenda.past = before.agenda.past)
    (caches : after.caches = (before.addResolver root directiveFilename).2.caches) :
    Advances before after := by
  refine advances_of_unchanged storage past fun number path entry found => ?_
  have same : after.cache number = (before.addResolver root directiveFilename).2.cache number :=
    congrArg (·.getD number .empty) caches
  rwa [← Workspace.cache_addResolver before root directiveFilename number, ← same]

/-- The regime admits a host if others advance. -/
theorem admits_of_advancing (host : Host) (advancing : Advancing interrupt) :
    host.Admits interrupt regime where
  opening path := allows_of_advances (advancing path)
  lookUp number path start := (serves_lookUp advancing number path start).weaken fun _ _ _ => trivial
  evict number path := allows_of_advances (advances_evict number path)
  clear number := allows_of_advances fun recorded => by
    refine advances_of_unchanged rfl rfl fun other place entry found => ?_
    rcases Workspace.find?_of_find?_updateCache found with found | ⟨-, found⟩
    · exact found
    · cases found
  warn warnings := allows_of_advances fun recorded => advances_of_caches rfl rfl rfl
  build := allows_of_advances fun recorded => by
    rw [Host.resolver]
    split
    · exact .refl recorded
    · exact advances_addResolver host.root host.directiveFilename rfl rfl rfl

theorem advances_of_steady {host : Host} (advancing : Advancing interrupt)
    (taken : host.Steady interrupt before after) : Advances before after := by
  intro sound
  obtain ⟨⟨final, stays⟩, ⟨_, past⟩, rfl⟩ :=
    (admits_of_advancing host advancing).steady taken (rfl : regime.seen ⟨before, sound⟩ = before)
  exact ⟨stays, past⟩

/-- A session advances by everything that a host does to it. -/
theorem advances_of_move {host : Host} (advancing : Advancing interrupt)
    (moved : host.Move interrupt before after) : Advances before after := by
  cases moved with
  | steady taken => exact advances_of_steady advancing taken
  | reset => exact advances_of_caches rfl rfl rfl
  | replace root directiveFilename => exact advances_addResolver root directiveFilename rfl rfl rfl
  | restore _ put => exact advances_of_caches rfl rfl rfl

theorem advances_of_moves {host : Host} (advancing : Advancing interrupt)
    (moves : host.Moves interrupt before after) : Advances before after := by
  induction moves with
  | refl => exact .refl before
  | tail _ moved inductionHypothesis =>
    exact inductionHypothesis.trans (advances_of_move advancing moved)

/-- A session advances by a step of a script. -/
theorem advances_carryOut (host : Host) (advancing : Advancing interrupt) (step : Step)
    (recorded : Recorded) : Advances recorded (carryOut host interrupt step recorded).2 := by
  cases step with
  | insert path content => exact advances_note rfl (.insert ..)
  | touch path => exact advances_note rfl (.touch ..)
  | remove path => exact advances_note rfl (.remove ..)
  | addFault path point error => exact advances_note rfl (.addFault ..)
  | clearFaults => exact advances_note rfl (.clearFaults _)
  | onNextOpen path steps => exact advances_note rfl (.refl _)
  | ask request => exact advances_of_moves advancing (Host.moves_answer ..)

/-- Those who act while a file is opened advance if each of their steps does. -/
theorem advancing_interruptBy {carryOut : Step → Recorded → Answer × Recorded}
    (advances : ∀ step recorded, Advances recorded (carryOut step recorded).2) :
    Advancing (interruptBy carryOut) := by
  intro path recorded
  have fold (steps : List Step) (recorded : Recorded) :
      Advances recorded (steps.foldl (catchUp carryOut) recorded) := by
    induction steps generalizing recorded with
    | nil => exact .refl recorded
    | cons step rest inductionHypothesis =>
      refine (advances step recorded).trans (Advances.trans ?_ (inductionHypothesis _))
      exact advances_of_caches rfl rfl rfl
  rw [interruptBy]
  split
  · exact .refl recorded
  · next steps pending _ =>
    refine Advances.trans ?_ (fold steps _)
    exact advances_of_caches rfl rfl rfl

/-- Those who act while a file is opened advance, however deep they act inside one another. -/
theorem advancing_interruption (host : Host) (depth : Nat) : Advancing (interruption host depth) := by
  induction depth with
  | zero => exact fun _ recorded => .refl recorded
  | succ depth inductionHypothesis =>
    exact advancing_interruptBy fun step recorded =>
      advances_carryOut host inductionHypothesis step recorded

/-- A session advances by everything that happens in it. -/
theorem advances_of_happens {host : Host} (happened : Happens host before after) :
    Advances before after := by
  cases happened with
  | step depth step => exact advances_carryOut host (advancing_interruption host depth) step before
  | move moved => exact advances_of_move (advancing_interruption host _) moved
  | due path waiting => exact advances_of_caches rfl rfl rfl
  | answered answer => exact advances_of_caches rfl rfl rfl
  | ready => exact advances_of_caches rfl rfl rfl

/-- A session is sound at its beginning. -/
theorem sound_begin (files : List (Path × List UInt8)) : Sound (begin files) := by
  have later := Memory.Later.foldl_insert files {}
  refine ⟨later.frozen, rfl, ?_, ?_, ?_⟩
  · intro earlier member
    obtain rfl := List.mem_singleton.1 member
    exact .refl _
  · intro path file there
    rcases later.files path file there with nothing | ⟨-, below⟩
    · cases nothing
    · exact below
  · intro number path entry found
    cases found

/-- A session is sound at all its points. -/
theorem sound_of_reached {host : Host} {files : List (Path × List UInt8)}
    (reached : Reached host files recorded) : Sound recorded := by
  induction reached with
  | refl => exact sound_begin files
  | tail _ happened inductionHypothesis =>
    exact (advances_of_happens happened inductionHypothesis).1

end TemplateTree.Session.Recorded
