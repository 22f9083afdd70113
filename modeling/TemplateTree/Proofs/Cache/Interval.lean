import TemplateTree.Proofs.Session.Soundness

/-!
# Lookups while files change

Between the moment at which a lookup asks for the stamp of a file and the moment at which it
answers, others may change the file and use the cache. The answer is nevertheless right for one of
the moments in between: whatever the cache hands out was made from a content that the path held
then, and nothing is answered only if the path held nothing then. Main statement:
`lookUp_answers_for_a_moment`.
-/

namespace TemplateTree

/-- A lookup that joins a batch after its members have taken some turns. It comes first among the
results; the others are left out. -/
def Host.lookUpBeside {Store Agenda : Type} [Storage Store] (host : Host)
    (interrupt : Interrupt Store Agenda) (number : Nat) (path : Path) (sooner later : List Nat)
    (paths : List Path) (workspace : Workspace Store Agenda) :
    List (Option (Except CompileError (Option DirectiveFile))) × Workspace Store Agenda :=
  let (members, begun) := Process.follow sooner (host.members interrupt paths) workspace
  Process.together later ((some <$> Workspace.lookUpSteps interrupt number path) ::
    members.map ((fun _ => none) <$> ·)) begun

/-- A lookup that joins a batch is the same under two agendas. -/
theorem Host.lookUpBeside_mapAgenda {Store First Second : Type} [Storage Store] (host : Host)
    {change : First → Second} {first : Interrupt Store First} {second : Interrupt Store Second}
    (alike : Interrupt.Alike change first second) (number : Nat) (path : Path)
    (sooner later : List Nat) (paths : List Path) (workspace : Workspace Store First) :
    host.lookUpBeside second number path sooner later paths (workspace.mapAgenda change) =
      Workspace.mapResult change
        (host.lookUpBeside first number path sooner later paths workspace) := by
  have others := Likeness.matches_of_alike alike
  have covers : (Likeness.ofChange change : Likeness Store First Second).Covers
      host.directiveFilename := Likeness.covers_ofChange change _
  obtain ⟨members, similar⟩ := Process.Alike.follow sooner
    (Likeness.alike_members covers others paths) (Likeness.similar_mapAgenda change workspace)
  refine Likeness.Same.eq_mapResult (Process.Alike.together later (.cons ?_ ?_) similar)
  · exact (Likeness.alike_lookUpSteps others number trivial).map some
  · rw [List.forall₂_map_left_iff, List.forall₂_map_right_iff]
    exact members.imp fun _ _ member => member.map _

end TemplateTree

namespace TemplateTree.Session

/-- The answer of a lookup that joins a batch is explained by one of the moments from then on. -/
theorem Recorded.explained_of_lookUpBeside {interrupt : Interrupt Memory Chronicle} (host : Host)
    (advancing : Advancing interrupt) {before : Recorded} (sound : Sound before) (number : Nat)
    (path : Path) (sooner later : List Nat) (paths : List Path) :
    let begun := (Process.follow sooner (host.members interrupt paths) before).2
    let ended := host.lookUpBeside interrupt number path sooner later paths before
    ∃ result rest, ended.1 = some result :: rest ∧
      ((∀ storage ∈ moments begun ended.2, storage.Faultless) →
        Set.InjOn Digest.fingerprint (Memory.contents ended.2.agenda.past) →
        Explained (moments begun ended.2) path result) := by
  intro begun ended
  have batch := (admits_of_advancing host advancing).ensured_members paths ⟨before, sound⟩
  obtain ⟨-, _, start, -, -, seen, members⟩ := batch.follow sooner
  have lookUp : (some <$> Workspace.lookUpSteps interrupt number path).Ensures regime
      (fun now found => ∃ result, found = some result ∧
        ((∀ storage ∈ moments start.1 now.1, storage.Faultless) →
          Set.InjOn Digest.fingerprint (Memory.contents now.1.agenda.past) →
          Explained (moments start.1 now.1) path result)) () start :=
    (serves_lookUp advancing number path start).ensures.map fun _ result _ explained =>
      ⟨result, rfl, explained⟩
  obtain ⟨final, -, last, facts⟩ :=
    (Process.Ensured.cons lookUp (members.map fun _ => none)).together later
  rw [seen] at last facts
  change final.1 = ended.2 at last
  change List.Forall₂ _ _ ended.1 at facts
  change start.1 = begun at seen
  generalize ended.1 = results at facts
  cases facts with
  | cons fact _ =>
    obtain ⟨result, rfl, explained⟩ := fact final (.refl final)
    rw [seen, last] at explained
    exact ⟨result, _, rfl, explained⟩

open Recorded in
/-- At every point of every session, and whatever is put off until the file is opened, a lookup
answers what is right for a storage between its first question and its answer: a file is what the
directives in a content come to that the path held then, an error is that of such a content, and
nothing is answered where the path held nothing. The same is true of a lookup that joins a batch,
however the turns are taken. Every script comes to such points. -/
theorem lookUp_answers_for_a_moment (host : Host) {files : List (Path × List UInt8)}
    {before after : Recorded} (reached : Reached host files before) (depth number : Nat)
    (path : Path)
    (looked : after = (Workspace.lookUp (Recorded.interruption host depth) number path before).2)
    (first : before.storage.Faultless) (last : after.storage.Faultless)
    (distinct : Set.InjOn Digest.fingerprint (Memory.contents after.agenda.past)) :
    Explained (moments before after) path
        (Workspace.lookUp (Session.interruption host depth) number path (forget before)).1 ∧
      (Workspace.lookUp (Session.interruption host depth) number path (forget before)).2 =
        forget after ∧
      (∀ sooner later paths begun ended,
        begun = (Process.follow sooner
          (host.members (Recorded.interruption host depth) paths) before).2 →
        ended = host.lookUpBeside (Recorded.interruption host depth) number path sooner later paths
          before →
        (∀ storage ∈ moments begun ended.2, storage.Faultless) →
        Set.InjOn Digest.fingerprint (Memory.contents ended.2.agenda.past) →
          ∃ result rest, Explained (moments begun ended.2) path result ∧
            host.lookUpBeside (Session.interruption host depth) number path sooner later paths
              (forget before) = (some result :: rest, forget ended.2)) ∧
      ∀ former further, ∃ point, Reached host files point ∧
        run host (former ++ further) (start files false) =
          run host former (start files false) ++ run host further (forget point) := by
  subst looked
  have alike := alike_interruption host depth
  have sound := sound_of_reached reached
  have advancing := advancing_interruption host depth
  rw [Workspace.lookUp_mapAgenda alike]
  refine ⟨?_, rfl, ?_, exists_reached_of_run host files⟩
  · exact explained_of_looksUp advancing (Workspace.lookUp_courses ..) sound first last distinct
  · rintro sooner later paths _ _ rfl rfl faultless distinct
    obtain ⟨result, rest, found, explained⟩ :=
      explained_of_lookUpBeside host advancing sound number path sooner later paths
    refine ⟨result, rest, explained faultless distinct, ?_⟩
    rw [host.lookUpBeside_mapAgenda alike, ← found]
    rfl

namespace Rehearsal

/-- A directive file that imports `A`. -/
def old : List UInt8 := [64, 117, 115, 105, 110, 103, 32, 65]

/-- A directive file that imports `B`. -/
def new : List UInt8 := [64, 117, 115, 105, 110, 103, 32, 66]

/-- Where the directive file of the root is. -/
def imports : Path := ⟨standardDirectiveFilename⟩

/-- Where a template is. -/
def page : Path := ⟨"page.tmpl"⟩

def host : Host := { root := ⟨"templates"⟩ }

def files : List (Path × List UInt8) := [(imports, old), (page, old)]

/-- A session in which the directive file is rewritten and looked up when it is next opened. -/
def before : Recorded :=
  Recorded.script host
    [.ask .resolver, .onNextOpen imports [.insert imports new, .ask (.lookUp imports)]] (begin files)

/-- The session after the directive file was opened by a lookup. -/
def after : Recorded :=
  (Workspace.lookUp (Recorded.interruption host 1) 0 imports before).2

/-- The session in the middle of a batch that is about to open the directive file. -/
def begun : Recorded :=
  (Process.follow [0, 0, 0, 0] (host.members (Recorded.interruption host 1) [page]) before).2

/-- A lookup that has the old stamp when the batch opens the file, and consults the cache when the
batch has kept the new content there. -/
def beside : List (Option (Except CompileError (Option DirectiveFile))) ×
    Workspace Memory Chronicle :=
  host.lookUpBeside (Recorded.interruption host 1) 0 imports [0, 0, 0, 0] [0, 1, 1, 0] [page] before

theorem reached_before : Reached host files before :=
  reached_script .refl _

theorem faultless : before.storage.Faultless ∧ after.storage.Faultless :=
  ⟨Memory.faultless_of_entries (by decide +kernel), Memory.faultless_of_entries (by decide +kernel)⟩

theorem faultless_beside : ∀ storage ∈ Recorded.moments begun beside.2, storage.Faultless := by
  have nothing : ∀ storage ∈ Recorded.moments begun beside.2, storage.faults.entries = [] := by
    decide +kernel
  exact fun storage member => Memory.faultless_of_entries (nothing storage member)

/-- The fingerprints of the two contents differ. -/
theorem distinct_of_stored {past : List Memory}
    (stored : ∀ storage ∈ past, ∀ entry ∈ storage.files.entries, entry.2.content ∈ [old, new]) :
    Set.InjOn Digest.fingerprint (Memory.contents past) := by
  have unequal : Digest.fingerprint old ≠ Digest.fingerprint new := by decide +kernel
  refine Set.InjOn.mono (Memory.contents_subset stored) ?_
  intro first (member : first ∈ [old, new]) second (other : second ∈ [old, new]) same
  simp only [List.mem_cons, List.not_mem_nil, or_false] at member other
  rcases member with rfl | rfl <;> rcases other with rfl | rfl
  · rfl
  · exact absurd same unequal
  · exact absurd same.symm unequal
  · rfl

theorem distinct : Set.InjOn Digest.fingerprint (Memory.contents after.agenda.past) :=
  distinct_of_stored (by decide +kernel)

theorem distinct_beside : Set.InjOn Digest.fingerprint (Memory.contents beside.2.agenda.past) :=
  distinct_of_stored (by decide +kernel)

end Rehearsal

open Rehearsal in
/-- The lookup that has stamped the old file and reads the new one answers for one of the two, and
so does the one that finds what a batch has kept. -/
theorem lookUp_answers_while_rewritten :
    Explained (Recorded.moments before after) imports
        (Workspace.lookUp (interruption host 1) 0 imports (forget before)).1 ∧
      (Workspace.lookUp (interruption host 1) 0 imports (forget before)).2 = forget after ∧
      ∃ result rest, Explained (Recorded.moments begun beside.2) imports result ∧
        host.lookUpBeside (interruption host 1) 0 imports [0, 0, 0, 0] [0, 1, 1, 0] [page]
          (forget before) = (some result :: rest, forget beside.2) :=
  have looked : after = (Workspace.lookUp (Recorded.interruption host 1) 0 imports before).2 := rfl
  have answers := lookUp_answers_for_a_moment host reached_before 1 0 imports looked faultless.1
    faultless.2 distinct
  ⟨answers.1, answers.2.1, answers.2.2.1 [0, 0, 0, 0] [0, 1, 1, 0] [page] begun beside rfl rfl
    faultless_beside distinct_beside⟩

end TemplateTree.Session
