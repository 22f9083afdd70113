import TemplateTree.Proofs.Cache.Faithful
import TemplateTree.Proofs.Workspace.Steps
import TemplateTree.Resolver

/-!
# Lookups while nobody acts

While nobody acts, a lookup answers by what the storage says and holds and by what its cache has
kept under the path; `AnswersAlone` says so, and what else becomes of the workspace. A lookup
changes no later answer as long as each place is spelled in one way, even from caches that are out
of date and from storages that fail, and even between the steps of another lookup. So
`Calm.ensures_lookUpAll` has all lookups answered by one workspace, whatever else is looked up
meanwhile.
-/

namespace TemplateTree

/-- Lists what was found behind what was found afterwards, unless there was a failure. -/
def listed {File : Type} :
    Except CompileError (Option File) → Except CompileError (List File) →
      Except CompileError (List File)
  | .error error, _ => .error error
  | .ok _, .error error => .error error
  | .ok found, .ok files => .ok (files ++ found.toList)

/-- Lists the files that are the answers for these paths, up to the first failure, in the opposite
order. -/
def listedAll {File : Type} (answer : Path → Except CompileError (Option File)) :
    List Path → Except CompileError (List File)
  | [] => .ok []
  | path :: rest => listed (answer path) (listedAll answer rest)

/-- The same answers give the same list. -/
theorem listedAll_congr {File : Type} {first second : Path → Except CompileError (Option File)}
    {paths : List Path} (same : ∀ path ∈ paths, first path = second path) :
    listedAll first paths = listedAll second paths := by
  induction paths with
  | nil => rfl
  | cons path rest inductionHypothesis =>
    obtain ⟨here, others⟩ := List.forall_mem_cons.1 same
    rw [listedAll, listedAll, here, inductionHypothesis others]

variable {Store Agenda : Type}

/-- Nothing happens while files are opened, as long as this is the agenda. -/
def Interrupt.Idle (interrupt : Interrupt Store Agenda) (agenda : Agenda) : Prop :=
  ∀ path (workspace : Workspace Store Agenda), workspace.agenda = agenda →
    interrupt path workspace = workspace

theorem Interrupt.idle_none (agenda : Agenda) :
    (Interrupt.none : Interrupt Store Agenda).Idle agenda :=
  fun _ _ _ => rfl

namespace Cache

/-- The answer of a lookup, by what the storage says of the file, what can be read from it, and what
is kept under its path. -/
def answer (path : Path) (stamped : Except IoError (Option Stamp))
    (content : Except IoError (List UInt8)) (earlier : Option Entry) :
    Except CompileError (Option DirectiveFile) :=
  match stamped with
  | .error error => .error (.storage path error)
  | .ok none => .ok none
  | .ok (some stamp) =>
    match earlier.filter (·.stamp = stamp), content with
    | some entry, _ => .ok (some entry.file)
    | none, .error error =>
      if error.kind = .notFound then .ok none else .error (.storage path error)
    | none, .ok content =>
      match earlier.filter (·.file.contentHash = Digest.fingerprint content) with
      | some entry => .ok (some entry.file)
      | none => (DirectiveFile.ofContent path content).map some

/-- What can be kept under a path after a lookup that has changed it: nothing if there was nothing
to find, or else the file found, under the stamp it has. -/
inductive Leaves (stamped : Except IoError (Option Stamp)) :
    Except CompileError (Option DirectiveFile) → Option Entry → Prop where
  | dropped : Leaves stamped (.ok none) none
  | kept {stamp file} (fresh : stamped = .ok (some stamp)) :
      Leaves stamped (.ok (some file)) (some ⟨stamp, file⟩)

/-- What a lookup leaves under its path leads to the same answer again. -/
theorem Leaves.answer_eq {path : Path} {stamped : Except IoError (Option Stamp)}
    {content : Except IoError (List UInt8)} {earlier later : Option Entry}
    (leaves : Leaves stamped (answer path stamped content earlier) later) :
    answer path stamped content later = answer path stamped content earlier := by
  generalize result : answer path stamped content earlier = answered at leaves ⊢
  cases leaves with
  | kept fresh =>
    subst fresh
    simp [answer, Option.filter]
  | dropped =>
    cases stamped with
    | error error => cases result
    | ok stamp =>
      cases stamp with
      | none => rfl
      | some stamp =>
        simp only [answer] at result ⊢
        split at result
        · cases result
        · next error _ => simpa using result
        · split at result
          · cases result
          · next content _ _ _ =>
            cases made : DirectiveFile.ofContent path content <;> rw [made] at result <;>
              cases result

end Cache

/-- A resolver lists what it looks up. -/
theorem lookUpAll_eq_listed [Storage Store] (interrupt : Interrupt Store Agenda) (number : Nat)
    (workspace : Workspace Store Agenda) (path : Path) (rest : List Path) :
    (Resolver.lookUpAll interrupt number workspace (path :: rest)).1 =
      listed (Workspace.lookUp interrupt number path workspace).1
        (Resolver.lookUpAll interrupt number
          (Workspace.lookUp interrupt number path workspace).2 rest).1 := by
  rw [Resolver.lookUpAll_cons]
  rcases Workspace.lookUp interrupt number path workspace with ⟨_ | found, after⟩
  · rfl
  · dsimp only
    rcases Resolver.lookUpAll interrupt number after rest with ⟨_ | files, last⟩ <;> rfl

/-- A resolver that has looked up one path looks up the others, unless that failed. -/
theorem snd_lookUpAll_cons [Storage Store] (interrupt : Interrupt Store Agenda) (number : Nat)
    (workspace : Workspace Store Agenda) (path : Path) (rest : List Path) :
    (Resolver.lookUpAll interrupt number workspace (path :: rest)).2 =
      match (Workspace.lookUp interrupt number path workspace).1 with
      | .error _ => (Workspace.lookUp interrupt number path workspace).2
      | .ok _ => (Resolver.lookUpAll interrupt number
          (Workspace.lookUp interrupt number path workspace).2 rest).2 := by
  rw [Resolver.lookUpAll_cons]
  rcases Workspace.lookUp interrupt number path workspace with ⟨_ | found, after⟩
  · rfl
  · dsimp only
    rcases Resolver.lookUpAll interrupt number after rest with ⟨_ | files, last⟩ <;> rfl

namespace Workspace

variable [Storage Store]

/-- The answer of a lookup while nobody acts. -/
def answer (workspace : Workspace Store Agenda) (number : Nat) (path : Path) :
    Except CompileError (Option DirectiveFile) :=
  Cache.answer path (Storage.stamp workspace.storage path) (Storage.content workspace.storage path)
    ((workspace.cache number).find? path)

/-- A lookup while nobody acts: its answer, and everything that it may change. -/
structure AnswersAlone (number : Nat) (path : Path) (workspace : Workspace Store Agenda)
    (result : Except CompileError (Option DirectiveFile)) (after : Workspace Store Agenda) :
    Prop where
  answered : result = workspace.answer number path
  storage : after.storage = workspace.storage
  agenda : after.agenda = workspace.agenda
  installed : after.installed = workspace.installed
  kept : ∀ other place,
    (after.cache other).find? place = (workspace.cache other).find? place ∨
      other = number ∧ place.components = path.components ∧
        Cache.Leaves (Storage.stamp workspace.storage path) result ((after.cache other).find? place)

variable {number : Nat} {path : Path} {workspace : Workspace Store Agenda}

omit [Storage Store] in
/-- After a cache has kept a file, it keeps the one kept then under the path, and everything else as
before. Counting beforehand makes no difference. -/
theorem leaves_keep {counted : Workspace Store Agenda}
    (counts : ∀ other place,
      (counted.cache other).find? place = (workspace.cache other).find? place)
    {stamped : Except IoError (Option Stamp)} {stamp : Stamp} (reported : stamped = .ok (some stamp))
    (file : DirectiveFile) (other : Nat) (place : Path) :
    ((counted.updateCache number (·.keep path stamp file)).cache other).find? place =
        (workspace.cache other).find? place ∨
      other = number ∧ place.components = path.components ∧
        Cache.Leaves stamped (.ok (some ((workspace.cache number).kept path stamp file)))
          (((counted.updateCache number (·.keep path stamp file)).cache other).find? place) := by
  rw [cache_updateCache]
  split
  · next here =>
    obtain ⟨rfl, -⟩ := here
    have same : (counted.cache number).kept path stamp file =
        (workspace.cache number).kept path stamp file := by
      rw [Cache.kept, Cache.kept, counts]
    rw [Cache.find?_keep, same]
    split
    · next there => exact .inr ⟨rfl, there, .kept reported⟩
    · exact .inl (counts _ _)
  · exact .inl (counts _ _)

omit [Storage Store] in
/-- After a cache has dropped a path, it keeps nothing there, and everything else as before. -/
theorem leaves_evict (number : Nat) (path : Path) (workspace : Workspace Store Agenda)
    (stamped : Except IoError (Option Stamp)) (other : Nat) (place : Path) :
    ((workspace.updateCache number (·.evict path)).cache other).find? place =
        (workspace.cache other).find? place ∨
      other = number ∧ place.components = path.components ∧
        Cache.Leaves stamped (.ok none)
          (((workspace.updateCache number (·.evict path)).cache other).find? place) := by
  refine (find?_updateCache_evict other place).imp_right ?_
  rintro ⟨here, there, nothing⟩
  exact ⟨here, there, nothing ▸ .dropped⟩

omit [Storage Store] in
/-- After content was taken in, everything is kept as before but what is kept under the path, which
is the answer. -/
theorem TakesIn.leaves {stamped : Except IoError (Option Stamp)} {stamp : Stamp}
    (reported : stamped = .ok (some stamp)) {earlier : Option Cache.Entry} {content : List UInt8}
    {result : Except CompileError DirectiveFile} {after : Workspace Store Agenda}
    (taken : TakesIn number path stamp earlier content workspace result after) (other : Nat)
    (place : Path) :
    (after.cache other).find? place = (workspace.cache other).find? place ∨
      other = number ∧ place.components = path.components ∧
        Cache.Leaves stamped (result.map some) ((after.cache other).find? place) := by
  have revalidating (other : Nat) (place : Path) :=
    find?_updateCache place (Cache.find?_countRevalidation · place) workspace number other
  have missing (other : Nat) (place : Path) :=
    find?_updateCache place (Cache.find?_countMiss · place) workspace number other
  cases taken with
  | revalidated => exact leaves_keep revalidating reported _ other place
  | malformed => exact .inl (missing other place)
  | @parsed directives =>
    have counts (other : Nat) (place : Path) :
        (((workspace.updateCache number Cache.countMiss).warn
          (Directive.warnings path.text directives)).cache other).find? place =
            (workspace.cache other).find? place :=
      missing other place
    exact leaves_keep counts reported _ other place

theorem answer_of_unanswered {error : IoError}
    (stamped : Storage.stamp workspace.storage path = .error error) :
    workspace.answer number path = .error (.storage path error) := by
  rw [answer, stamped, Cache.answer]

theorem answer_of_absent (stamped : Storage.stamp workspace.storage path = .ok none) :
    workspace.answer number path = .ok none := by
  rw [answer, stamped, Cache.answer]

theorem answer_of_fresh {entry : Cache.Entry}
    (stamped : Storage.stamp workspace.storage path = .ok (some entry.stamp))
    (held : (workspace.cache number).find? path = some entry) :
    workspace.answer number path = .ok (some entry.file) := by
  simp [answer, stamped, held, Cache.answer, Option.filter]

/-- A lookup of a file that is not kept under its present stamp answers by what can be read. -/
theorem answer_of_stale {stamp : Stamp}
    (stamped : Storage.stamp workspace.storage path = .ok (some stamp))
    (stale : ∀ entry, (workspace.cache number).find? path = some entry → entry.stamp ≠ stamp) :
    workspace.answer number path =
      match Storage.content workspace.storage path with
      | .error error => if error.kind = .notFound then .ok none else .error (.storage path error)
      | .ok content =>
        match ((workspace.cache number).find? path).filter
          (·.file.contentHash = Digest.fingerprint content) with
        | some entry => .ok (some entry.file)
        | none => (DirectiveFile.ofContent path content).map some := by
  have unfit : ((workspace.cache number).find? path).filter (·.stamp = stamp) = none := by
    rw [Option.filter_eq_none_iff]
    simpa using stale
  rw [answer, stamped]
  simp only [Cache.answer, unfit]
  cases Storage.content workspace.storage path <;> rfl

/-- It answers that there is no file if the file has vanished by then. -/
theorem answer_of_unread {stamp : Stamp} {error : IoError}
    (stamped : Storage.stamp workspace.storage path = .ok (some stamp))
    (stale : ∀ entry, (workspace.cache number).find? path = some entry → entry.stamp ≠ stamp)
    (read : Storage.content workspace.storage path = .error error) :
    workspace.answer number path =
      if error.kind = .notFound then .ok none else .error (.storage path error) := by
  rw [answer_of_stale stamped stale, read]

/-- A file with which a lookup answers is the one that a cache goes on to keep. -/
theorem kept_of_answer_eq {stamp : Stamp} {file : DirectiveFile}
    (stamped : Storage.stamp workspace.storage path = .ok (some stamp))
    (answered : workspace.answer number path = .ok (some file)) :
    (workspace.cache number).kept path stamp file = file := by
  rcases (workspace.cache number).kept_cases path stamp file with same | ⟨entry, held, same, kept⟩
  · exact same
  · subst same
    rw [kept]
    simpa using (answer_of_fresh stamped held).symm.trans answered

/-- Content is taken in with the answer that there was when the cache was consulted, if the answer
is still the same. -/
theorem TakesIn.result_eq {consulted now after : Workspace Store Agenda} {stamp : Stamp}
    {content : List UInt8} {result : Except CompileError DirectiveFile}
    (stamped : Storage.stamp consulted.storage path = .ok (some stamp))
    (stale : ∀ entry, (consulted.cache number).find? path = some entry → entry.stamp ≠ stamp)
    (read : Storage.content consulted.storage path = .ok content)
    (storage : now.storage = consulted.storage)
    (same : now.answer number path = consulted.answer number path)
    (taken : TakesIn number path stamp ((consulted.cache number).find? path) content now result
      after) :
    result.map some = consulted.answer number path := by
  have answered := answer_of_stale stamped stale
  rw [read] at answered
  have keeps {file : DirectiveFile} (here : consulted.answer number path = .ok (some file)) :
      (Except.ok ((now.cache number).kept path stamp file)).map some =
        consulted.answer number path := by
    rw [kept_of_answer_eq (storage ▸ stamped) (same.trans here), here]
    rfl
  have changed (other : ∀ entry, (consulted.cache number).find? path = some entry →
      entry.file.contentHash ≠ Digest.fingerprint content) :
      consulted.answer number path = (DirectiveFile.ofContent path content).map some := by
    have none : ((consulted.cache number).find? path).filter
        (·.file.contentHash = Digest.fingerprint content) = none := by
      rw [Option.filter_eq_none_iff]
      simpa using other
    simp only [answered, none]
  cases taken with
  | @revalidated entry held same =>
    have fit : ((consulted.cache number).find? path).filter
        (·.file.contentHash = Digest.fingerprint content) = some entry := by
      simp [held, same]
    simp only [fit] at answered
    exact keeps answered
  | malformed other malformed =>
    rw [changed other, DirectiveFile.ofContent_of_malformed malformed]
  | @parsed directives file other parsed made =>
    refine keeps ?_
    rw [changed other, DirectiveFile.ofContent_of_directivesIn parsed, made]
    rfl

omit [Storage Store] in
theorem TakesIn.frame {stamp : Stamp} {earlier : Option Cache.Entry} {content : List UInt8}
    {result : Except CompileError DirectiveFile} {after : Workspace Store Agenda}
    (taken : TakesIn number path stamp earlier content workspace result after) :
    after.storage = workspace.storage ∧ after.agenda = workspace.agenda ∧
      after.installed = workspace.installed ∧ after.caches.length = workspace.caches.length := by
  cases taken <;> simp [updateCache, warn]

variable {interrupt : Interrupt Store Agenda}

theorem lookUp_of_fresh {entry : Cache.Entry}
    (stamped : Storage.stamp workspace.storage path = .ok (some entry.stamp))
    (held : (workspace.cache number).find? path = some entry) :
    lookUp interrupt number path workspace =
      (.ok (some entry.file), workspace.updateCache number Cache.countHit) := by
  simp [lookUp_eq, stamped, held, Option.filter]

/-- While nobody acts, a lookup answers by the storage and by what is kept. -/
theorem lookUp_alone (idle : interrupt.Idle workspace.agenda) (number : Nat) (path : Path) :
    AnswersAlone number path workspace (lookUp interrupt number path workspace).1
      (lookUp interrupt number path workspace).2 := by
  have opened : interrupt path workspace = workspace := idle path workspace rfl
  -- That a file could not be read does not say whether its entry was still good, so this comes first.
  by_cases fresh : ∃ entry, (workspace.cache number).find? path = some entry ∧
      Storage.stamp workspace.storage path = .ok (some entry.stamp)
  · obtain ⟨entry, held, stamped⟩ := fresh
    have counts (other : Nat) (place : Path) :=
      find?_updateCache place (Cache.find?_countHit · place) workspace number other
    rw [lookUp_of_fresh stamped held]
    exact ⟨(answer_of_fresh stamped held).symm, rfl, rfl, rfl,
      fun other place => .inl (counts other place)⟩
  · have stale {stamp : Stamp} (stamped : Storage.stamp workspace.storage path = .ok (some stamp))
        (entry : Cache.Entry) (held : (workspace.cache number).find? path = some entry) :
        entry.stamp ≠ stamp := by
      rintro rfl
      exact fresh ⟨entry, held, stamped⟩
    have courses := lookUp_courses interrupt number path workspace
    generalize (lookUp interrupt number path workspace).1 = result at courses
    generalize (lookUp interrupt number path workspace).2 = after at courses
    cases courses with
    | unanswered stamped =>
      exact ⟨(answer_of_unanswered stamped).symm, rfl, rfl, rfl, fun _ _ => .inl rfl⟩
    | absent stamped =>
      exact ⟨(answer_of_absent stamped).symm, rfl, rfl, rfl, leaves_evict _ _ _ _⟩
    | hit stamped held => exact absurd ⟨_, held, stamped⟩ fresh
    | vanished stamped read kind =>
      rw [opened] at read ⊢
      have answered := answer_of_unread stamped (stale stamped) read
      rw [if_pos kind] at answered
      exact ⟨answered.symm, rfl, rfl, rfl, leaves_evict _ _ _ _⟩
    | unreadable stamped read kind =>
      rw [opened] at read ⊢
      have answered := answer_of_unread stamped (stale stamped) read
      rw [if_neg kind] at answered
      exact ⟨answered.symm, rfl, rfl, rfl, fun _ _ => .inl rfl⟩
    | read stamped stale read taken =>
      rw [opened] at read taken
      obtain ⟨storage, agenda, installed, -⟩ := taken.frame
      exact ⟨taken.result_eq stamped stale read rfl rfl, storage, agenda, installed,
        taken.leaves stamped⟩

/-- From one workspace to a later one, nothing has changed but what caches keep, and lookups of
these places in the cache of this number are answered as before. -/
structure Undisturbed (number : Nat) (places : Path → Prop)
    (before after : Workspace Store Agenda) : Prop where
  storage : after.storage = before.storage
  agenda : after.agenda = before.agenda
  installed : after.installed = before.installed
  caches : after.caches.length = before.caches.length
  answers : ∀ place, places place → after.answer number place = before.answer number place

variable {places : Path → Prop}

theorem Undisturbed.refl (number : Nat) (places : Path → Prop)
    (workspace : Workspace Store Agenda) : Undisturbed number places workspace workspace :=
  ⟨rfl, rfl, rfl, rfl, fun _ _ => rfl⟩

/-- What stays undisturbed twice stays so altogether. -/
theorem Undisturbed.trans {before middle after : Workspace Store Agenda}
    (first : Undisturbed number places before middle)
    (second : Undisturbed number places middle after) : Undisturbed number places before after where
  storage := second.storage.trans first.storage
  agenda := second.agenda.trans first.agenda
  installed := second.installed.trans first.installed
  caches := second.caches.trans first.caches
  answers place inside := (second.answers place inside).trans (first.answers place inside)

theorem undisturbed_warn (warnings : List String) (workspace : Workspace Store Agenda) :
    Undisturbed number places workspace (workspace.warn warnings) :=
  ⟨rfl, rfl, rfl, rfl, fun _ _ => rfl⟩

/-- Each of these places is spelled in one way. -/
def SpeltOnce (places : Path → Prop) : Prop :=
  ∀ place other, places place → places other → place.components = other.components → place = other

/-- A cache that has changed under one place only, as a lookup does it, answers as before. -/
theorem undisturbed_of_leaves {result : Except CompileError (Option DirectiveFile)}
    {after : Workspace Store Agenda} (once : SpeltOnce places) (inside : places path)
    (answered : workspace.answer number path = result) (storage : after.storage = workspace.storage)
    (agenda : after.agenda = workspace.agenda) (installed : after.installed = workspace.installed)
    (caches : after.caches.length = workspace.caches.length)
    (kept : ∀ other place,
      (after.cache other).find? place = (workspace.cache other).find? place ∨
        other = number ∧ place.components = path.components ∧
          Cache.Leaves (Storage.stamp workspace.storage path) result
            ((after.cache other).find? place)) :
    Undisturbed number places workspace after := by
  refine ⟨storage, agenda, installed, caches, fun place member => ?_⟩
  rw [answer, answer, storage]
  rcases kept number place with same | ⟨-, there, leaves⟩
  · rw [same]
  · obtain rfl := once place path member inside there
    rw [← answered] at leaves
    exact leaves.answer_eq

/-- An invariant under which nobody acts, one workspace answers for these places, and every change
is allowed that does not disturb them. -/
structure Calm (interrupt : Interrupt Store Agenda) (number : Nat) (places : Path → Prop)
    (base : Workspace Store Agenda) (invariant : Workspace Store Agenda → Prop) : Prop where
  idle : interrupt.Idle base.agenda
  once : SpeltOnce places
  agenda : ∀ {now}, invariant now → now.agenda = base.agenda
  storage : ∀ {now}, invariant now → now.storage = base.storage
  answers : ∀ {now}, invariant now → ∀ place, places place →
    now.answer number place = base.answer number place
  undisturbed : ∀ {now after}, invariant now → Undisturbed number places now after →
    invariant after

variable {base : Workspace Store Agenda} {invariant : Workspace Store Agenda → Prop}

/-- Where nobody acts but by lookups, every lookup is answered by the same workspace, whichever
workspaces there are between its steps. -/
theorem Calm.serves (calm : Calm interrupt number places base invariant) (inside : places path)
    (start : {now // invariant now}) :
    Serves interrupt (.ofInvariant invariant) number path
      (fun _ result => result = base.answer number path) 0 start := by
  have answers (now : {now // invariant now}) := calm.answers now.2 path inside
  have stamps {asked : {now // invariant now}} {reported : Except IoError (Option Stamp)}
      (stamped : Storage.stamp asked.1.storage path = reported) (now : {now // invariant now}) :
      Storage.stamp now.1.storage path = reported := by
    rw [calm.storage now.2, ← calm.storage asked.2, stamped]
  have contents {opened : {now // invariant now}} {content : Except IoError (List UInt8)}
      (read : Storage.content opened.1.storage path = content) (now : {now // invariant now}) :
      Storage.content now.1.storage path = content := by
    rw [calm.storage now.2, ← calm.storage opened.2, read]
  have reaches (now : {now // invariant now}) {after : Workspace Store Agenda}
      {result : Except CompileError (Option DirectiveFile)}
      (undisturbed : Undisturbed number places now.1 after)
      (answered : result = base.answer number path) :
      (Process.Regime.ofInvariant invariant).Reaches 0 now after
        fun _ => result = base.answer number path :=
    ⟨⟨after, calm.undisturbed now.2 undisturbed⟩, trivial, rfl, fun _ _ => answered⟩
  have evicts (now : {now // invariant now}) (answered : .ok none = base.answer number path) :
      (Process.Regime.ofInvariant invariant).Reaches 0 now
        (now.1.updateCache number (·.evict path)) fun _ => .ok none = base.answer number path := by
    have caches : (now.1.updateCache number (·.evict path)).caches.length =
        now.1.caches.length := by
      simp [updateCache]
    exact reaches now (undisturbed_of_leaves calm.once inside ((answers now).trans answered.symm)
      rfl rfl rfl caches (leaves_evict number path now.1 _)) answered
  constructor
  case opening =>
    refine Process.Regime.allows_ofInvariant fun now holds => ?_
    rw [calm.idle path now (calm.agenda holds)]
    exact holds
  case unanswered =>
    intro asked error _ stamped
    exact ⟨rfl, fun _ _ => (answer_of_unanswered stamped).symm.trans (answers asked)⟩
  case absent =>
    intro asked now _ _ stamped
    exact evicts now ((answer_of_absent stamped).symm.trans (answers asked))
  case hit =>
    intro asked now entry _ _ stamped held
    have caches : (now.1.updateCache number Cache.countHit).caches.length =
        now.1.caches.length := by
      simp [updateCache]
    refine reaches now ⟨rfl, rfl, rfl, caches, fun place _ => ?_⟩
      ((answer_of_fresh (stamps stamped now) held).symm.trans (answers now))
    rw [answer, answer, find?_updateCache place (Cache.find?_countHit · place)]
    rfl
  case vanished =>
    intro asked consulted opened now stamp error _ _ _ _ stamped stale read kind
    have answered := answer_of_unread (stamps stamped consulted) stale (contents read consulted)
    rw [if_pos kind] at answered
    exact evicts now (answered.symm.trans (answers consulted))
  case unreadable =>
    intro asked consulted opened stamp error _ _ _ stamped stale read kind
    have answered := answer_of_unread (stamps stamped consulted) stale (contents read consulted)
    rw [if_neg kind] at answered
    exact ⟨rfl, fun _ _ => answered.symm.trans (answers consulted)⟩
  case read =>
    intro asked consulted opened now stamp content result after _ _ _ _ stamped stale read taken
    have answered : result.map some = base.answer number path :=
      (taken.result_eq (stamps stamped consulted) stale (contents read consulted)
        ((calm.storage now.2).trans (calm.storage consulted.2).symm)
        ((answers now).trans (answers consulted).symm)).trans (answers consulted)
    obtain ⟨storage, agenda, installed, caches⟩ := taken.frame
    exact reaches now (undisturbed_of_leaves calm.once inside ((answers now).trans answered.symm)
      storage agenda installed caches (taken.leaves (stamps stamped now))) answered

/-- Several lookups among others are all answered by the same workspace. -/
theorem Calm.ensures_lookUpAll (calm : Calm interrupt number places base invariant)
    {paths : List Path} (inside : ∀ path ∈ paths, places path) (start : {now // invariant now}) :
    (Resolver.lookUpAllSteps interrupt number paths).Ensures (.ofInvariant invariant)
      (fun _ result => result = listedAll (base.answer number) paths) 0 start := by
  induction paths generalizing start with
  | nil => exact .pure fun _ _ => rfl
  | cons path rest inductionHypothesis =>
    obtain ⟨here, others⟩ := List.forall_mem_cons.1 inside
    rw [Resolver.lookUpAllSteps, listedAll]
    refine (calm.serves here start).ensures.andThen fun now result _ known => ?_
    obtain rfl := known now (.refl now)
    cases base.answer number path with
    | error error => exact .pure fun _ _ => rfl
    | ok found =>
      refine (inductionHypothesis others now).andThen fun now result _ known => ?_
      obtain rfl := known now (.refl now)
      cases listedAll (base.answer number) rest <;> exact .pure fun _ _ => rfl

/-- Nobody disturbs a workspace while it is only looked up in. -/
theorem calm_undisturbed (idle : interrupt.Idle workspace.agenda) (number : Nat)
    (once : SpeltOnce places) :
    Calm interrupt number places workspace (Undisturbed number places workspace) where
  idle := idle
  once := once
  agenda := Undisturbed.agenda
  storage := Undisturbed.storage
  answers := Undisturbed.answers
  undisturbed := Undisturbed.trans

/-- While nobody acts, lookups of places that are spelled in one way each are all answered by the
workspace that they start from, and do not disturb one another. -/
theorem lookUpAll_alone {paths : List Path} (idle : interrupt.Idle workspace.agenda) (number : Nat)
    (once : SpeltOnce places) (inside : ∀ path ∈ paths, places path) :
    (Resolver.lookUpAll interrupt number workspace paths).1 =
        listedAll (workspace.answer number) paths ∧
      Undisturbed number places workspace
        (Resolver.lookUpAll interrupt number workspace paths).2 :=
  ((calm_undisturbed idle number once).ensures_lookUpAll inside ⟨workspace, .refl ..⟩).run_invariant

end Workspace

end TemplateTree
