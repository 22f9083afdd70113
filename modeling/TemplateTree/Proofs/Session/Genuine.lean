import TemplateTree.Proofs.Cache.Genuine
import TemplateTree.Proofs.Session.Lifecycle

/-!
# Genuine sessions

Whatever happens in a session, frozen or not, its caches keep only files that were read. Main
statement: `genuine_of_later`, for every point of every session, also while files are opened.
-/

namespace TemplateTree.Session.Journaled

variable {host : Host} {interrupt : Interrupt Memory Journal} {before after : Journaled}

/-- A step leaves a session genuine if those do who act meanwhile. -/
theorem genuine_carryOut
    (others : ∀ path (journaled : Journaled), journaled.Genuine →
      (interrupt path journaled).Genuine)
    (step : Step) (genuine : before.Genuine) :
    (carryOut host interrupt step before).2.Genuine := by
  cases step with
  | insert | touch | remove | addFault | clearFaults | onNextOpen => exact genuine.of_caches rfl
  | ask request => exact (host.genuine_answer others genuine request).of_caches rfl

theorem genuine_interruption (host : Host) (depth : Nat) (path : Path) (journaled : Journaled)
    (genuine : journaled.Genuine) : (interruption host depth path journaled).Genuine :=
  @related_interruption host (fun before after => before.Genuine → after.Genuine)
    (fun _ => id) (fun first second => second ∘ first)
    (fun _ _ _ genuine => genuine.of_caches rfl)
    (fun _ others step _ => genuine_carryOut others step) depth path journaled genuine

/-- Whatever happens in a session leaves it genuine. -/
theorem genuine_happens (happens : Happens host before after) (genuine : before.Genuine) :
    after.Genuine := by
  cases happens with
  | step depth step => exact genuine_carryOut (genuine_interruption host depth) step genuine
  | @steady depth _ _ taken =>
    exact Host.genuine_steady (genuine_interruption host depth) taken genuine
  | due | answered | ready => exact genuine.of_caches rfl

/-- Every point of every session is genuine. -/
theorem genuine_of_later {files : List (Path × List UInt8)} {frozen : Bool} {point : Journaled}
    (later : Later host (begin files frozen) point) : point.Genuine := by
  induction later with
  | refl => exact Workspace.genuine_of_no_caches rfl
  | tail _ happens inductionHypothesis => exact genuine_happens happens inductionHypothesis

end TemplateTree.Session.Journaled
