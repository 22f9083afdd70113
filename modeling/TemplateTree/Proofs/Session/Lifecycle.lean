import TemplateTree.Proofs.Session.Journal
import TemplateTree.Proofs.Workspace.Regimes

/-!
# The resolvers that a session has had

A resolver comes into use when it is built, which happens where one is needed and there is none, or
when it is put in place of another or of none. It goes out of use when it is replaced or dropped.
`resolvers_accounted` balances the builds and the placements at every point of every session, while
files are opened too, and says that an installed resolver stays until a step exchanges it.
-/

namespace TemplateTree

/-- The number of resolvers in use, which is one or none. -/
def Workspace.inUse {Store Agenda : Type} (workspace : Workspace Store Agenda) : Nat :=
  if workspace.installed.isSome then 1 else 0

/-- Whether a stream can be read to its end and is text. -/
def Stream.IsText (source : Stream) : Prop :=
  ∃ content text, source.content = .ok content ∧ Text.Utf8.decode? content = some text

/-- What is no text is no template. -/
theorem Host.exists_error_of_not_isText {source : Stream} (unreadable : ¬source.IsText)
    (label : Path) : ∃ error, readSource label source = .error error := by
  rw [readSource]
  split
  · exact ⟨_, rfl⟩
  · next content read =>
    split
    · next text decoded => exact absurd ⟨content, text, read, decoded⟩ unreadable
    · exact ⟨_, rfl⟩

/-- Where there is no text to compile, compiling fails before anything is done. -/
theorem Host.compile_of_unreadable {Store Agenda : Type} [Storage Store] (host : Host)
    (interrupt : Interrupt Store Agenda) (path : Option Path) {source : Option Stream}
    (unreadable : ∀ given, source = some given → ¬given.IsText)
    (workspace : Workspace Store Agenda) :
    ∃ error, host.compile interrupt path source workspace = (.error error, workspace) := by
  cases source with
  | none => exact ⟨_, rfl⟩
  | some given =>
    obtain ⟨error, failed⟩ := exists_error_of_not_isText (unreadable given rfl) (path.getD inlineLabel)
    exact ⟨error, by simp only [compile_eq, failed]⟩

/-- Where there is no template to open, or no text in it, compiling it does no more than open it. -/
theorem Host.compileFile_of_unreadable {Store Agenda : Type} [Storage Store] (host : Host)
    (interrupt : Interrupt Store Agenda) {path relative : Path}
    (placed : Path.normalize host.root path = .ok relative) (workspace : Workspace Store Agenda)
    (unreadable : ∀ source,
      Storage.stream (interrupt relative workspace).storage relative = .ok source →
        ¬source.IsText) :
    ∃ error, host.compileFile interrupt path workspace =
      (.error error, interrupt relative workspace) := by
  simp only [compileFile_eq, placed, Workspace.openFile]
  split
  · next error after opened =>
    obtain ⟨-, rfl⟩ := Prod.mk.inj opened
    exact ⟨_, rfl⟩
  · next source after opened =>
    obtain ⟨found, rfl⟩ := Prod.mk.inj opened
    exact compile_of_unreadable host interrupt _
      (fun given same => Option.some.inj same ▸ unreadable source found) _

namespace Session

namespace Journal

/-- Whether a step put a resolver where none was in use. -/
def fills : Step × Answer → Bool
  | (.ask (.replaceResolver ..), .resolver none) | (.ask .restoreResolver, .resolver none) => true
  | _ => false

/-- Whether a step dropped the resolver in use. -/
def drops : Step × Answer → Bool
  | (.ask .resetResolver, .flag true) => true
  | _ => false

/-- Whether a step was to put another resolver in use, or none. -/
def exchanges : Step × Answer → Bool
  | (.ask request, _) => request.exchanges
  | _ => false

/-- Only an exchange puts a resolver where none was. -/
theorem fills_of_not_exchanges {entry : Step × Answer} (stays : exchanges entry = false) :
    fills entry = false := by
  rw [fills.eq_def]
  split
  · cases stays
  · cases stays
  · rfl

theorem drops_of_not_exchanges {entry : Step × Answer} (stays : exchanges entry = false) :
    drops entry = false := by
  rw [drops.eq_def]
  split
  · cases stays
  · rfl

end Journal

namespace Journaled

open Journal

/-- What leads from one point of a session to a later one: the steps completed in between balance
the builds, and an installed resolver stays if none of them exchanges it. -/
structure Accounts (before : Journaled) (completed : List (Step × Answer)) (after : Journaled) :
    Prop where
  entered : after.agenda.entries = before.agenda.entries ++ completed
  balanced : after.builds + completed.countP fills + before.inUse =
    before.builds + completed.countP drops + after.inUse
  kept : ∀ resolver, before.installed = some resolver →
    (∀ entry ∈ completed, exchanges entry = false) → after.installed = some resolver

namespace Accounts

variable {before between after : Journaled} {completed more : List (Step × Answer)}

theorem of_same (installed : after.installed = before.installed)
    (builds : after.builds = before.builds)
    (entries : after.agenda.entries = before.agenda.entries) : Accounts before [] after where
  entered := by simpa using entries
  balanced := by simp only [Workspace.inUse, installed, builds, List.countP_nil]
  kept resolver found _ := installed.trans found

theorem refl (journaled : Journaled) : Accounts journaled [] journaled :=
  of_same rfl rfl rfl

theorem trans (first : Accounts before completed between) (second : Accounts between more after) :
    Accounts before (completed ++ more) after where
  entered := by rw [second.entered, first.entered, List.append_assoc]
  balanced := by
    have left := first.balanced
    have right := second.balanced
    rw [List.countP_append, List.countP_append]
    omega
  kept resolver found stays :=
    second.kept resolver
      (first.kept resolver found fun entry member => stays entry (List.mem_append_left _ member))
      fun entry member => stays entry (List.mem_append_right _ member)

/-- A step that exchanges nothing is entered without effect on the balance. -/
theorem enter {step : Step} {outcome : Answer × Journaled}
    (accounts : Accounts before completed outcome.2)
    (stays : exchanges (step, outcome.1) = false) :
    Accounts before (completed ++ [(step, (Journaled.enter step outcome).1)])
      (Journaled.enter step outcome).2 where
  entered := by
    rw [← List.append_assoc, ← accounts.entered]
    rfl
  balanced := by
    have balanced := accounts.balanced
    simp only [List.countP_append, List.countP_singleton, Journaled.enter,
      fills_of_not_exchanges stays, drops_of_not_exchanges stays]
    exact balanced
  kept resolver found stay :=
    accounts.kept resolver found fun entry member => stay entry (List.mem_append_left _ member)

end Accounts

variable {host : Host} {interrupt : Interrupt Memory Journal} {before after : Journaled}

/-- Whatever is accounted for may happen. -/
def regime : Process.Regime Journaled Journaled Unit :=
  .ofLater (fun before after => ∃ completed, Accounts before completed after)
    (fun journaled => ⟨[], .refl journaled⟩)
    fun ⟨_, first⟩ ⟨_, second⟩ => ⟨_, first.trans second⟩

/-- The regime allows for a host if what others do is accounted for. -/
theorem admits_of_accounts
    (others : ∀ path journaled, ∃ completed, Accounts journaled completed (interrupt path journaled)) :
    host.Admits interrupt regime := by
  have opening (path : Path) : regime.Allows (interrupt path) := fun journaled =>
    ⟨_, others path journaled, rfl⟩
  have same {change : Journaled → Journaled}
      (accounts : ∀ journaled, Accounts journaled [] (change journaled)) : regime.Allows change :=
    fun journaled => ⟨_, ⟨[], accounts journaled⟩, rfl⟩
  have unchanged (change : Cache → Cache) (number : Nat) :
      regime.Allows (·.updateCache number change) :=
    same fun _ => .of_same rfl rfl rfl
  refine ⟨opening, fun number path start => ⟨opening path, fun _ _ => ⟨rfl, fun _ _ => trivial⟩,
      fun _ _ _ => (unchanged _ number).reaches _ fun _ _ => trivial,
      fun _ _ _ _ => (unchanged _ number).reaches _ fun _ _ => trivial,
      fun _ _ _ _ _ _ _ _ => (unchanged _ number).reaches _ fun _ _ => trivial,
      fun _ _ _ _ _ _ _ => ⟨rfl, fun _ _ => trivial⟩, ?_⟩,
    fun number path => unchanged _ number, fun number => unchanged _ number,
    fun _ => same fun _ => .of_same rfl rfl rfl, same fun journaled => ?_⟩
  · intro _ _ _ now _ _ _ after _ _ _ _ _ _ _ taken
    have accounts : Accounts now [] after := by cases taken <;> exact .of_same rfl rfl rfl
    exact ⟨after, ⟨[], accounts⟩, rfl, fun _ _ => trivial⟩
  · rw [Host.resolver]
    split
    · exact .refl journaled
    · next needed =>
      refine ⟨(List.append_nil _).symm, ?_, fun resolver found => ?_⟩
      · simp [Workspace.inUse, needed, Workspace.addResolver]
      · rw [needed] at found
        cases found

theorem accounts_steady
    (others : ∀ path journaled, ∃ completed, Accounts journaled completed (interrupt path journaled))
    (steady : host.Steady interrupt before after) : ∃ completed, Accounts before completed after := by
  obtain ⟨_, ⟨_, accounts⟩, rfl⟩ :=
    (admits_of_accounts others).steady steady (rfl : regime.seen before = before)
  exact accounts

/-- Steady moves are accounted for, however many. -/
theorem accounts_steadily
    (others : ∀ path journaled, ∃ completed, Accounts journaled completed (interrupt path journaled))
    (steadily : host.Steadily interrupt before after) :
    ∃ completed, Accounts before completed after := by
  induction steadily with
  | refl => exact ⟨[], .refl before⟩
  | tail _ taken inductionHypothesis =>
    obtain ⟨completed, accounts⟩ := inductionHypothesis
    obtain ⟨more, next⟩ := accounts_steady others taken
    exact ⟨completed ++ more, accounts.trans next⟩

/-- A step is accounted for if what others do meanwhile is. It is the last one to be completed. -/
theorem accounts_carryOut
    (others : ∀ path journaled, ∃ completed, Accounts journaled completed (interrupt path journaled))
    (step : Step) (journaled : Journaled) :
    ∃ meanwhile, Accounts journaled
      (meanwhile ++ [(step, (carryOut host interrupt step journaled).1)])
      (carryOut host interrupt step journaled).2 := by
  cases step with
  | insert | touch | remove | addFault | clearFaults | onNextOpen =>
    refine ⟨[], Accounts.enter ?_ rfl⟩
    exact .of_same rfl rfl rfl
  | ask request =>
    by_cases stays : request.exchanges = false
    · obtain ⟨completed, accounts⟩ :=
        accounts_steadily others (host.steadily_answer interrupt stays journaled)
      exact ⟨_, accounts.enter stays⟩
    · -- An exchange is entered as the one step there is: whether it fills the slot or empties it
      -- is in the answer to it.
      refine ⟨[], ?_, ?_, ?_⟩
      · cases request with
        | resetResolver | replaceResolver => rfl
        | restoreResolver => cases put : journaled.aside <;>
            simp [carryOut, act, enter, Host.answer, put, Workspace.mapAgenda]
        | _ => exact absurd rfl stays
      · cases request with
        | resetResolver => cases slot : journaled.installed <;>
            simp [carryOut, act, enter, Host.answer, slot, Workspace.mapAgenda, Workspace.inUse,
              fills, drops]
        | replaceResolver => cases slot : journaled.installed <;>
            simp [carryOut, act, enter, Host.answer, slot, Workspace.mapAgenda, Workspace.inUse,
              Workspace.addResolver, fills, drops]
        | restoreResolver => cases put : journaled.aside <;> cases slot : journaled.installed <;>
            simp [carryOut, act, enter, Host.answer, put, slot, Workspace.mapAgenda, Workspace.inUse,
              fills, drops]
        | _ => exact absurd rfl stays
      · intro _ _ none
        exact absurd (none _ (List.mem_singleton_self _)) stays

/-- Steps that others do while a file is opened are accounted for, however deep. -/
theorem accounts_interruption (host : Host) (depth : Nat) (path : Path) (journaled : Journaled) :
    ∃ completed, Accounts journaled completed (interruption host depth path journaled) := by
  refine @related_interruption host (fun before after => ∃ completed, Accounts before completed after)
    (fun journaled => ⟨[], .refl journaled⟩) ?_ (fun _ _ _ => ⟨[], .of_same rfl rfl rfl⟩) ?_ depth
    path journaled
  · rintro before between after ⟨first, one⟩ ⟨second, two⟩
    exact ⟨first ++ second, one.trans two⟩
  · intro interrupt others step journaled
    obtain ⟨meanwhile, accounts⟩ := accounts_carryOut others step journaled
    exact ⟨_, accounts⟩

/-- One thing that happens in a session: a step is completed, a move is taken in the course of a
request that exchanges no resolver, steps that waited come due, or an answer is put down. -/
inductive Happens (host : Host) : Journaled → Journaled → Prop where
  | step (depth step journaled) :
      Happens host journaled (carryOut host (interruption host depth) step journaled).2
  | steady {depth before after} (taken : host.Steady (interruption host depth) before after) :
      Happens host before after
  | due {steps pending} (path : Path) (journaled : Journaled)
      (waiting : Agenda.due path.components journaled.agenda.pending = some (steps, pending)) :
      Happens host journaled { journaled with agenda := { journaled.agenda with pending } }
  | answered (answer) (journaled : Journaled) :
      Happens host journaled { journaled with
        agenda := { journaled.agenda with answers := journaled.agenda.answers ++ [answer] } }
  | ready (journaled) : Happens host journaled journaled.ready

/-- A point of a session that is the same as another or comes after it. -/
abbrev Later (host : Host) : Journaled → Journaled → Prop :=
  Relation.ReflTransGen (Happens host)

/-- Whatever happens in a session is accounted for. -/
theorem accounts_happens (happens : Happens host before after) :
    ∃ completed, Accounts before completed after := by
  cases happens with
  | step depth step =>
    obtain ⟨meanwhile, accounts⟩ := accounts_carryOut (accounts_interruption host depth) step before
    exact ⟨_, accounts⟩
  | @steady depth _ _ taken => exact accounts_steady (accounts_interruption host depth) taken
  | due | answered | ready => exact ⟨[], .of_same rfl rfl rfl⟩

/-- What lies between two points of a session is accounted for. -/
theorem accounts_later (later : Later host before after) :
    ∃ completed, Accounts before completed after := by
  induction later with
  | refl => exact ⟨[], .refl before⟩
  | tail _ happens inductionHypothesis =>
    obtain ⟨completed, accounts⟩ := inductionHypothesis
    obtain ⟨more, next⟩ := accounts_happens happens
    exact ⟨completed ++ more, accounts.trans next⟩

/-- The end of a script comes after its beginning. -/
theorem later_script (host : Host) (steps : List Step) (journaled : Journaled) :
    Later host journaled (script host steps journaled) := by
  induction steps generalizing journaled with
  | nil => exact .refl
  | cons next rest inductionHypothesis =>
    exact (((Relation.ReflTransGen.single (.ready journaled)).tail (.step ..))).trans
      (inductionHypothesis _)

/-- At every point of every session, the resolvers built, and those put where none was in use, make
up for those that were dropped and the one that is in use. An installed resolver stays in use while
no step exchanges it. A compilation that finds no text leaves the workspace alone, and so does one
that finds no template, apart from what others do while the template is opened. -/
theorem resolvers_accounted (host : Host) (files : List (Path × List UInt8)) (frozen : Bool) :
    (∀ steps, Later host (begin files frozen) (script host steps (begin files frozen)) ∧
      forget (script host steps (begin files frozen)) = finish host steps (start files frozen)) ∧
    (∀ depth step point, ∃ meanwhile,
      (carryOut host (interruption host depth) step point).2.agenda.entries =
        point.agenda.entries ++
          (meanwhile ++ [(step, (carryOut host (interruption host depth) step point).1)])) ∧
    (∀ point, Later host (begin files frozen) point →
      point.builds + point.agenda.entries.countP fills =
        point.agenda.entries.countP drops + point.inUse) ∧
    (∀ point later, Later host (begin files frozen) point → Later host point later →
      ∃ completed, later.agenda.entries = point.agenda.entries ++ completed ∧
        ∀ resolver, point.installed = some resolver →
          (∀ entry ∈ completed, exchanges entry = false) → later.installed = some resolver) ∧
    (∀ (interrupt : Interrupt Memory Journal) path (source : Option Stream) point,
      (∀ given, source = some given → ¬given.IsText) →
        ∃ error, host.compile interrupt path source point = (.error error, point)) ∧
    (∀ (interrupt : Interrupt Memory Journal) path point,
      (∀ rejection, Path.normalize host.root path = .error rejection →
        ∃ error, host.compileFile interrupt path point = (.error error, point)) ∧
      ∀ relative, Path.normalize host.root path = .ok relative →
        (∀ source, Storage.stream (interrupt relative point).storage relative = .ok source →
          ¬source.IsText) →
        ∃ error, host.compileFile interrupt path point =
          (.error error, interrupt relative point)) := by
  refine ⟨fun steps => ⟨later_script host steps _, forget_script host steps _⟩,
    fun depth step point => ?_, fun point reached => ?_, fun point later _ next => ?_,
    fun interrupt path source point unreadable =>
      host.compile_of_unreadable interrupt path unreadable point,
    fun interrupt path point => ⟨fun rejection rejected => ?_, fun relative placed unreadable =>
      host.compileFile_of_unreadable interrupt placed point unreadable⟩⟩
  · obtain ⟨meanwhile, accounts⟩ := accounts_carryOut (accounts_interruption host depth) step point
    exact ⟨meanwhile, accounts.entered⟩
  · obtain ⟨completed, accounts⟩ := accounts_later reached
    have entries : point.agenda.entries = completed := accounts.entered
    have empty : (begin files frozen).builds = 0 ∧ (begin files frozen).inUse = 0 := ⟨rfl, rfl⟩
    have balanced := accounts.balanced
    rw [entries]
    omega
  · obtain ⟨completed, accounts⟩ := accounts_later next
    exact ⟨completed, accounts.entered, accounts.kept⟩
  · exact ⟨_, by rw [Host.compileFile_eq, rejected]⟩

/-- While a template is opened to be configured, for which a resolver was built, this is dropped and
one for another tree is put in use. The resolver put in use then stays, through the rest of the
configuration and a compilation, and is left alone where a source is no text. -/
theorem resolvers_accounted_while_exchanged :
    let host : Host := { root := ⟨"views"⟩ }
    let page : Path := ⟨"page.tmpl"⟩
    let files : List (Path × List UInt8) := [(page, [120])]
    let exchange : List Step :=
      [.onNextOpen page [.ask .resetResolver, .ask (.replaceResolver ⟨"other"⟩ "_imports.tmpl")],
        .ask (.resolve page)]
    let point := script host exchange (begin files false)
    point.builds = 1 ∧ point.agenda.entries.countP fills = 1 ∧
      point.agenda.entries.countP drops = 1 ∧
      point.installed = some ⟨⟨"other"⟩, "_imports.tmpl", 1⟩ ∧
      point.builds + point.agenda.entries.countP fills =
        point.agenda.entries.countP drops + point.inUse ∧
      (script host [.ask (.compileFile page)] point).installed = point.installed ∧
      ∃ error, host.compile .none (some page) (some ⟨[255], none⟩) point = (.error error, point) := by
  intro host page files exchange point
  obtain ⟨scripts, -, balanced, kept, unread, -⟩ := resolvers_accounted host files false
  have installed : point.installed = some ⟨⟨"other"⟩, "_imports.tmpl", 1⟩ := by decide +kernel
  have reached := (scripts exchange).1
  refine ⟨by decide +kernel, by decide +kernel, by decide +kernel, installed, balanced _ reached,
    ?_, unread .none (some page) (some ⟨[255], none⟩) point ?_⟩
  · obtain ⟨completed, entered, stays⟩ :=
      kept point _ reached (later_script host [.ask (.compileFile page)] point)
    have compiled : completed = (script host [.ask (.compileFile page)] point).agenda.entries.drop
        point.agenda.entries.length := by rw [entered, List.drop_left]
    rw [installed]
    refine stays _ installed ?_
    rw [compiled]
    decide +kernel
  · rintro given same ⟨content, text, read, decoded⟩
    obtain rfl := Option.some.inj same
    obtain rfl : [255] = content := Except.ok.inj read
    cases decoded

end Journaled

end Session

end TemplateTree
