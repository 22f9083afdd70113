import TemplateTree.Proofs.Process.Interference
import TemplateTree.Proofs.Workspace.LookUp

/-!
# Lookups among others

A lookup takes its stamp, consults the cache, reads the file and takes it in at different moments,
and others may act between them. `Serves` lists what a regime has to allow for this, and what is
known of those moments when the lookup is done. Main statement: `Serves.ensures`.
-/

namespace TemplateTree.Workspace

open Process

variable {Store Agenda World Amount : Type} [AddCommMonoid Amount] [Storage Store]

/-- A regime allows for a lookup that begins in a world, and something holds of its result, wherever
others have led between its steps. -/
structure Serves (interrupt : Interrupt Store Agenda)
    (regime : Regime World (Workspace Store Agenda) Amount) (number : Nat) (path : Path)
    (holds : World → Except CompileError (Option DirectiveFile) → Prop) (amount : Amount)
    (start : World) : Prop where
  opening : regime.Allows (interrupt path)
  unanswered {asked error} : regime.Later start asked →
    Storage.stamp (regime.seen asked).storage path = .error error →
    amount = 0 ∧ ∀ now, regime.Later asked now → holds now (.error (.storage path error))
  absent {asked now} : regime.Later start asked → regime.Later asked now →
    Storage.stamp (regime.seen asked).storage path = .ok none →
    regime.Reaches amount now ((regime.seen now).updateCache number (·.evict path))
      (holds · (.ok none))
  hit {asked now entry} : regime.Later start asked → regime.Later asked now →
    Storage.stamp (regime.seen asked).storage path = .ok (some entry.stamp) →
    ((regime.seen now).cache number).find? path = some entry →
    regime.Reaches amount now ((regime.seen now).updateCache number Cache.countHit)
      (holds · (.ok (some entry.file)))
  vanished {asked consulted opened now stamp error} : regime.Later start asked →
    regime.Later asked consulted → regime.Later consulted opened → regime.Later opened now →
    Storage.stamp (regime.seen asked).storage path = .ok (some stamp) →
    (∀ entry, ((regime.seen consulted).cache number).find? path = some entry →
      entry.stamp ≠ stamp) →
    Storage.content (regime.seen opened).storage path = .error error → error.kind = .notFound →
    regime.Reaches amount now ((regime.seen now).updateCache number (·.evict path))
      (holds · (.ok none))
  unreadable {asked consulted opened stamp error} : regime.Later start asked →
    regime.Later asked consulted → regime.Later consulted opened →
    Storage.stamp (regime.seen asked).storage path = .ok (some stamp) →
    (∀ entry, ((regime.seen consulted).cache number).find? path = some entry →
      entry.stamp ≠ stamp) →
    Storage.content (regime.seen opened).storage path = .error error → error.kind ≠ .notFound →
    amount = 0 ∧ ∀ now, regime.Later opened now → holds now (.error (.storage path error))
  read {asked consulted opened now stamp content result after} : regime.Later start asked →
    regime.Later asked consulted → regime.Later consulted opened → regime.Later opened now →
    Storage.stamp (regime.seen asked).storage path = .ok (some stamp) →
    (∀ entry, ((regime.seen consulted).cache number).find? path = some entry →
      entry.stamp ≠ stamp) →
    Storage.content (regime.seen opened).storage path = .ok content →
    TakesIn number path stamp (((regime.seen consulted).cache number).find? path) content
      (regime.seen now) result after →
    regime.Reaches amount now after (holds · (result.map some))

variable {interrupt : Interrupt Store Agenda}
  {regime : Regime World (Workspace Store Agenda) Amount} {number : Nat} {path : Path}
  {holds : World → Except CompileError (Option DirectiveFile) → Prop} {amount : Amount}
  {start : World}

/-- What is allowed for a lookup allows for it, whatever follows from it. -/
theorem Serves.weaken {weaker : World → Except CompileError (Option DirectiveFile) → Prop}
    (serves : Serves interrupt regime number path holds amount start)
    (follows : ∀ now result, holds now result → weaker now result) :
    Serves interrupt regime number path weaker amount start where
  opening := serves.opening
  unanswered begun stamped :=
    (serves.unanswered begun stamped).imp_right fun fact now later => follows _ _ (fact now later)
  absent begun later stamped := (serves.absent begun later stamped).weaken fun _ => follows _ _
  hit begun later stamped kept :=
    (serves.hit begun later stamped kept).weaken fun _ => follows _ _
  vanished begun ready reading later stamped stale read kind :=
    (serves.vanished begun ready reading later stamped stale read kind).weaken fun _ => follows _ _
  unreadable begun ready reading stamped stale read kind :=
    (serves.unreadable begun ready reading stamped stale read kind).imp_right
      fun fact now later => follows _ _ (fact now later)
  read begun ready reading later stamped stale read taken :=
    (serves.read begun ready reading later stamped stale read taken).weaken fun _ => follows _ _

/-- Reading a file finds what the storage has at some point. -/
theorem ensures_readFile (opening : regime.Allows (interrupt path)) :
    (Process.act (readFile interrupt path)).Ensures regime (fun now read =>
      ∃ opened, regime.Later start opened ∧ regime.Later opened now ∧
        read = Storage.content (regime.seen opened).storage path) 0 start := by
  refine .act fun now begun => ?_
  obtain ⟨opened, adds, seen⟩ := opening now
  rw [readFile_eq]
  exact ⟨opened, adds, seen, fun further later =>
    ⟨opened, begun.trans ⟨0, adds⟩, later, by rw [seen]⟩⟩

omit [Storage Store] in
/-- Dropping the entry under a path answers that there is no file. -/
theorem ensures_evict
    (evicts : ∀ now, regime.Later start now →
      regime.Reaches amount now ((regime.seen now).updateCache number (·.evict path))
        (holds · (.ok none))) :
    (do Process.change (·.updateCache number (·.evict path)); return .ok none :
      Process (Workspace Store Agenda) (Except CompileError (Option DirectiveFile))).Ensures regime
        holds amount start := by
  have changes : (Process.change (·.updateCache number (·.evict path))).Ensures regime
      (fun now _ => holds now (.ok none)) amount start :=
    .act evicts
  exact changes.finish fun _ _ _ known => .pure known

/-- A regime that serves a lookup is kept to by it, and the result is as it has it. -/
theorem Serves.ensures
    (serves : Serves interrupt regime number path holds amount start) :
    (lookUpSteps interrupt number path).Ensures regime holds amount start := by
  have asks : (Process.ask fun workspace : Workspace Store Agenda =>
      Storage.stamp workspace.storage path).Ensures regime (fun now stamped =>
        ∃ asked, regime.Later start asked ∧ regime.Later asked now ∧
          stamped = Storage.stamp (regime.seen asked).storage path) 0 start :=
    .ask fun asked begun now later => ⟨asked, begun, later, rfl⟩
  refine asks.andThen fun now stamped _ known => ?_
  obtain ⟨asked, begun, later, rfl⟩ := known now (.refl now)
  cases stamped : Storage.stamp (regime.seen asked).storage path with
  | error error =>
    obtain ⟨rfl, fact⟩ := serves.unanswered begun stamped
    exact .pure fun final further => fact final (later.trans further)
  | ok found =>
    cases found with
    | none =>
      exact ensures_evict fun now' waiting => serves.absent begun (later.trans waiting) stamped
    | some stamp =>
      -- Consulting the cache is the last step of a hit, and the second of every other lookup.
      refine .act_bind fun consulted waiting => ?_
      have ready := later.trans waiting
      cases fresh : (((regime.seen consulted).cache number).find? path).filter (·.stamp = stamp) with
      | some entry =>
        obtain ⟨kept, same⟩ := Option.filter_eq_some_iff.1 fresh
        obtain rfl : entry.stamp = stamp := by simpa using same
        obtain ⟨after, adds, seen, fact⟩ := serves.hit begun ready stamped kept
        refine ⟨amount, 0, after, (add_zero amount).symm, adds, ?_⟩
        simp only [consult, fresh]
        exact ⟨seen, .pure fact⟩
      | none =>
        refine ⟨0, amount, consulted, (zero_add amount).symm, regime.nothing consulted, ?_⟩
        have stale (entry : Cache.Entry)
            (kept : ((regime.seen consulted).cache number).find? path = some entry) :
            entry.stamp ≠ stamp := by
          simpa using Option.filter_eq_none_iff.1 fresh entry kept
        simp only [consult, fresh]
        refine ⟨trivial, (ensures_readFile serves.opening).andThen fun now' read _ known => ?_⟩
        obtain ⟨opened, reading, later', rfl⟩ := known now' (.refl now')
        cases read : Storage.content (regime.seen opened).storage path with
        | error error =>
          by_cases kind : error.kind = .notFound
          · simp only [kind, if_true]
            exact ensures_evict fun now further => serves.vanished begun ready reading
              (later'.trans further) stamped stale read kind
          · obtain ⟨rfl, fact⟩ := serves.unreadable begun ready reading stamped stale read kind
            simp only [kind, if_false]
            exact .pure fun final further => fact final (later'.trans further)
        | ok content =>
          have takes : (Process.act (takeIn number path stamp
              (((regime.seen consulted).cache number).find? path) content)).Ensures regime
                (fun now result => holds now (result.map some)) amount now' :=
            .act fun now further => serves.read begun ready reading (later'.trans further)
              stamped stale read (takeIn_courses number path stamp _ content (regime.seen now))
          refine takes.finish fun _ taken _ known => ?_
          cases taken <;> exact .pure known

end TemplateTree.Workspace
