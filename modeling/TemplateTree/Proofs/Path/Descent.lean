import TemplateTree.Proofs.Path.Within

/-!
# Steps that lead to a file

Which paths name a file of a tree, and which one. Steps may go up as often as those before them have
gone down, and in the end they must have gone down more often; each step up takes back the last step
down that has not been taken back yet. Main statement: `normalize_descends`.
-/

namespace TemplateTree

namespace Path

/-- The name in a step. -/
def name? : Component → Option String
  | .name name => some name
  | _ => none

/-- The names among steps, in order. -/
def namesIn (steps : Location) : List String :=
  steps.filterMap name?

/-- Steps that never lead above where they start, and end below it. -/
structure Descends (steps : Location) : Prop where
  inside : ∀ front, front <+: steps → front.count .parent ≤ (namesIn front).length
  below : steps.count .parent < (namesIn steps).length

/-- The names that are left when every step up has been cancelled, each together with the name right
before it at that time. A single dot is no step. -/
inductive CancelsTo : Location → List String → Prop where
  | names (names : List String) : CancelsTo (names.map .name) names
  | current {before after names} (rest : CancelsTo (before ++ after) names) :
      CancelsTo (before ++ .current :: after) names
  | parent {before name after names} (rest : CancelsTo (before ++ after) names) :
      CancelsTo (before ++ .name name :: .parent :: after) names

/-- The steps of a path below a root: all of them if it is relative, and otherwise those behind the
steps of the root. -/
def StepsBelow (root path : Path) (steps : Location) : Prop :=
  path.components = (if path.isAbsolute then root.components else []) ++ steps

variable {steps first second : Location} {names reversed : List String} {root path found : Path}

@[simp] theorem namesIn_name (name : String) (steps : Location) :
    namesIn (.name name :: steps) = name :: namesIn steps := rfl

@[simp] theorem namesIn_parent (steps : Location) : namesIn (.parent :: steps) = namesIn steps := rfl

@[simp] theorem namesIn_current (steps : Location) : namesIn (.current :: steps) = namesIn steps := rfl

theorem namesIn_map_name (names : List String) : namesIn (names.map .name) = names := by
  induction names with
  | nil => rfl
  | cons name rest inductionHypothesis => exact congrArg (name :: ·) inductionHypothesis

theorem namesIn_append (first second : Location) :
    namesIn (first ++ second) = namesIn first ++ namesIn second :=
  List.filterMap_append

/-- A walk goes on where its first part has ended. -/
theorem walk_append (reversed : List String) (first second : Location) :
    walk reversed (first ++ second) =
      match walk reversed first with
      | .error rejection => .error rejection
      | .ok names => walk names.reverse second := by
  fun_induction walk reversed first with
  | case1 reversed => simp
  | case2 reversed name rest inductionHypothesis => exact inductionHypothesis
  | case3 reversed rest inductionHypothesis => exact inductionHypothesis
  | case4 => rfl
  | case5 rest left outer inductionHypothesis => exact inductionHypothesis
  | case6 => rfl

/-- What a walk ends with is left of the names that it starts below and of its steps. -/
theorem cancelsTo_of_walk (walked : walk reversed steps = .ok names) :
    CancelsTo (reversed.reverse.map .name ++ steps) names := by
  fun_induction walk reversed steps with
  | case1 reversed =>
    cases walked
    rw [List.append_nil]
    exact .names reversed.reverse
  | case2 reversed name rest inductionHypothesis =>
    have further := inductionHypothesis walked
    rwa [List.reverse_cons, List.map_append, List.append_assoc] at further
  | case3 reversed rest inductionHypothesis => exact .current (inductionHypothesis walked)
  | case4 => cases walked
  | case5 rest left outer inductionHypothesis =>
    rw [List.reverse_cons, List.map_append, List.append_assoc]
    exact .parent (inductionHypothesis walked)
  | case6 => cases walked

theorem CancelsTo.walk_eq (cancels : CancelsTo steps names) : walk [] steps = .ok names := by
  induction cancels with
  | names names => exact walk_map_name [] names
  | current _ inductionHypothesis | parent _ inductionHypothesis =>
    rw [walk_append] at inductionHypothesis ⊢
    exact inductionHypothesis

theorem walk_eq_ok_iff : walk [] steps = .ok names ↔ CancelsTo steps names :=
  ⟨cancelsTo_of_walk, CancelsTo.walk_eq⟩

/-- The names that are left are some of those that there were, in the same order. -/
theorem CancelsTo.sublist (cancels : CancelsTo steps names) : names.Sublist (namesIn steps) := by
  induction cancels with
  | names names => rw [namesIn_map_name]
  | current _ inductionHypothesis =>
    rw [namesIn_append] at inductionHypothesis ⊢
    exact inductionHypothesis
  | @parent before name after names _ inductionHypothesis =>
    rw [namesIn_append] at inductionHypothesis ⊢
    exact inductionHypothesis.trans ((List.sublist_cons_self name _).append_left _)

/-- A walk ends below as many names as it has gone down and not up again. -/
theorem length_of_walk (walked : walk reversed steps = .ok names) :
    names.length + steps.count .parent = reversed.length + (namesIn steps).length := by
  fun_induction walk reversed steps with
  | case1 reversed =>
    cases walked
    simp [namesIn]
  | case2 reversed name rest inductionHypothesis =>
    have further := inductionHypothesis walked
    simp only [List.length_cons, ne_eq, reduceCtorEq, not_false_eq_true, List.count_cons_of_ne,
      namesIn_name] at further ⊢
    omega
  | case3 reversed rest inductionHypothesis => simpa using inductionHypothesis walked
  | case4 => cases walked
  | case5 rest left outer inductionHypothesis =>
    have further := inductionHypothesis walked
    simp only [List.count_cons_self, List.length_cons, namesIn_parent] at further ⊢
    omega
  | case6 => cases walked

/-- Whatever is followed of steps is nothing, or the first of them and then some of the others. -/
theorem forall_prefix_cons_iff {holds : Location → Prop} (start : holds []) (step : Component)
    (rest : Location) :
    (∀ front, front <+: step :: rest → holds front) ↔
      ∀ front, front <+: rest → holds (step :: front) := by
  simp only [List.prefix_cons_iff]
  constructor
  · intro all front inside
    exact all _ (.inr ⟨front, rfl, inside⟩)
  · rintro all front (rfl | ⟨front, rfl, inside⟩)
    · exact start
    · exact all front inside

/-- A walk comes to its end if it never goes up more often than down, the names counted that it
starts below. -/
theorem exists_walk_iff :
    (∃ names, walk reversed steps = .ok names) ↔
      .root ∉ steps ∧
        ∀ front, front <+: steps →
          front.count .parent ≤ reversed.length + (namesIn front).length := by
  fun_induction walk reversed steps with
  | case1 reversed => simp
  | case2 reversed name rest inductionHypothesis =>
    refine inductionHypothesis.trans ?_
    rw [forall_prefix_cons_iff (Nat.zero_le _)]
    simp [Nat.add_assoc, Nat.add_comm]
  | case3 reversed rest inductionHypothesis =>
    refine inductionHypothesis.trans ?_
    rw [forall_prefix_cons_iff (Nat.zero_le _)]
    simp
  | case4 rest =>
    -- The first step up is one too many already.
    have above : ¬∀ front, front <+: Component.parent :: rest →
        front.count .parent ≤ ([] : List String).length + (namesIn front).length :=
      fun inside => absurd (inside [.parent] ⟨rest, rfl⟩) (by decide)
    simp only [reduceCtorEq, exists_false, above, and_false]
  | case5 rest left outer inductionHypothesis =>
    refine inductionHypothesis.trans ?_
    rw [forall_prefix_cons_iff (Nat.zero_le _)]
    simp [Nat.succ_add]
  | case6 => simp

/-- Steps lead to a file if they descend and do not start at the root directory. -/
theorem exists_cancelsTo_iff :
    (∃ names, CancelsTo steps names ∧ names ≠ []) ↔ .root ∉ steps ∧ Descends steps := by
  constructor
  · rintro ⟨names, cancels, filled⟩
    have walked := cancels.walk_eq
    obtain ⟨relative, inside⟩ := exists_walk_iff.1 ⟨names, walked⟩
    have balance := length_of_walk walked
    have some := List.length_pos_iff.2 filled
    refine ⟨relative, fun front followed => by simpa using inside front followed, ?_⟩
    simp only [List.length_nil] at balance
    omega
  · rintro ⟨relative, inside, below⟩
    obtain ⟨names, walked⟩ : ∃ names, walk [] steps = .ok names :=
      exists_walk_iff.2 ⟨relative, fun front followed => by simpa using inside front followed⟩
    have balance := length_of_walk walked
    refine ⟨names, walk_eq_ok_iff.1 walked, ?_⟩
    rintro rfl
    simp only [List.length_nil] at balance
    omega

theorem relativeTo?_eq_ok_iff : relativeTo? root path = .ok steps ↔ StepsBelow root path steps := by
  rw [relativeTo?, StepsBelow]
  split
  · rw [← Text.after?_eq_some_iff]
    cases Text.after? root.components path.components <;> simp
  · rw [List.nil_append, Except.ok.injEq]

/-- A path is normalized to what is left of its steps below the root, if that is not nothing. -/
theorem normalize_eq_ok_iff :
    normalize root path = .ok found ↔
      ∃ steps names, StepsBelow root path steps ∧ CancelsTo steps names ∧ names ≠ [] ∧
        found = ofNames names := by
  simp only [← relativeTo?_eq_ok_iff, ← walk_eq_ok_iff]
  rw [normalize, normalNames]
  cases relativeTo? root path with
  | error rejection => simp
  | ok steps =>
    cases walked : walk [] steps with
    | error rejection => simp [walked]
    | ok names => cases names <;> simp [walked, eq_comm]

/-- A normal path below a root leads on from it. -/
theorem IsNormal.components_join {file : Path} (normal : file.IsNormal) (root : Path) :
    (root.join file).components = root.components ++ file.components := by
  obtain ⟨names, -, named, rfl⟩ := normal
  have relative : (ofNames names).isAbsolute = false := isRooted_ofNames named
  by_cases top : root.text = ""
  · have empty : root = ofNames [] := congrArg Path.mk top
    rw [empty, join_ofNames_nil]
    rfl
  · rw [Path.components_join top relative]
    rcases components_eq_or (ofNames names) relative with plain | dotted
    · rw [← plain]
    · rw [components_ofNames named] at dotted
      cases names <;> simp at dotted

/-- A path names a file below a root if its steps below the root descend; for a relative path these
are all of its steps, whatever the root is, and an absolute path has to lead through the root first.
The file has the names that are left when each step up is cancelled together with the last name
before it that has not been cancelled. It is its own normal form below every root, and lies below
its own. Where there is no such file, a resolver says that the path is an invalid argument. -/
theorem normalize_descends (root path : Path) :
    (path.isAbsolute = false →
      ((∃ found, normalize root path = .ok found) ↔ Descends path.components) ∧
        ∀ other, normalize other path = normalize root path) ∧
    (path.isAbsolute = true →
      ((∃ found, normalize root path = .ok found) ↔
        ∃ steps, path.components = root.components ++ steps ∧ .root ∉ steps ∧ Descends steps)) ∧
    (∀ found, normalize root path = .ok found ↔
      ∃ steps names, StepsBelow root path steps ∧ CancelsTo steps names ∧ names ≠ [] ∧
        found = ofNames names) ∧
    (∀ found, normalize root path = .ok found →
      ∃ names, names ≠ [] ∧ found.components = names.map .name ∧
        names.Sublist (namesIn path.components) ∧
        (∀ other, normalize other found = .ok found) ∧
        root.components <+: (root.join found).components) ∧
    ∀ resolver : Resolver, resolver.root = root →
      (∀ found, resolver.normalize path = .ok found ↔ normalize root path = .ok found) ∧
        ((¬∃ found, normalize root path = .ok found) →
          ∃ argument, resolver.normalize path = .error (.invalidArgument argument)) := by
  have accepted : (∃ found, normalize root path = .ok found) ↔
      ∃ steps, StepsBelow root path steps ∧ .root ∉ steps ∧ Descends steps := by
    simp only [normalize_eq_ok_iff, ← exists_cancelsTo_iff]
    constructor
    · rintro ⟨found, steps, names, below, cancels, filled, -⟩
      exact ⟨steps, below, names, cancels, filled⟩
    · rintro ⟨steps, below, names, cancels, filled⟩
      exact ⟨_, steps, names, below, cancels, filled, rfl⟩
  refine ⟨fun relative => ⟨?_, fun other => ?_⟩, fun absolute => ?_, fun _ => normalize_eq_ok_iff,
    fun found named => ?_, fun resolver placed => ⟨fun found => ?_, fun nothing => ?_⟩⟩
  · have unrooted : .root ∉ path.components := by
      rw [root_mem_components_iff, relative]
      exact Bool.false_ne_true
    rw [accepted]
    simp [StepsBelow, relative, unrooted]
  · simp only [normalize, normalNames, relativeTo?, relative, Bool.false_eq_true, if_false]
  · rw [accepted]
    simp only [StepsBelow, absolute, if_true]
  · have normal := isNormal_of_normalize named
    obtain ⟨steps, names, below, cancels, filled, rfl⟩ := normalize_eq_ok_iff.1 named
    have inside : steps <:+ path.components := ⟨_, below.symm⟩
    have passed : names.Sublist (namesIn path.components) :=
      cancels.sublist.trans (inside.sublist.filterMap name?)
    have entries : ∀ name ∈ names, IsName name := by
      intro name member
      obtain ⟨step, there, read⟩ := List.mem_filterMap.1 (passed.subset member)
      cases step <;> cases read
      exact isName_of_mem_components there
    refine ⟨names, filled, components_ofNames entries, passed, normal.normalize_eq, ?_⟩
    rw [normal.components_join]
    exact List.prefix_append _ _
  · subst placed
    exact Resolver.normalize_eq_ok_iff
  · subst placed
    rw [Resolver.normalize]
    split
    · next found named => exact absurd ⟨found, named⟩ nothing
    · exact ⟨_, rfl⟩

/-- Below `/views`, an absolute path that goes up twice names a file, and so does the same path
without the root below every root; one step up more leads out of the tree. -/
theorem normalize_descends_and_leaves :
    let root : Path := ⟨"/views"⟩
    let path : Path := ⟨"/views/a/../b//c/.././d/"⟩
    let short : Path := ⟨"./a/../b//c/.././d/"⟩
    let outer : Path := ⟨"a/../../b/c"⟩
    (∃ steps, path.components = root.components ++ steps ∧ .root ∉ steps ∧ Descends steps) ∧
      Descends short.components ∧ normalize ⟨"elsewhere"⟩ short = .ok ⟨"b/d"⟩ ∧
      (root.join ⟨"b/d"⟩).components = [.root, .name "views", .name "b", .name "d"] ∧
      (∃ steps names, StepsBelow root path steps ∧ CancelsTo steps names ∧ names ≠ [] ∧
        Path.mk "b/d" = ofNames names) ∧
      ¬Descends outer.components := by
  intro root path short outer
  have named : normalize root path = .ok ⟨"b/d"⟩ := by decide +kernel
  have again : normalize root short = .ok ⟨"b/d"⟩ := by decide +kernel
  have rejected : ¬∃ found, normalize root outer = .ok found := by
    rintro ⟨found, made⟩
    have escapes : normalize root outer = .error .escapes := by decide +kernel
    cases escapes.symm.trans made
  obtain ⟨-, below, files, -⟩ := normalize_descends root path
  obtain ⟨lower, -⟩ := normalize_descends root short
  obtain ⟨higher, -⟩ := normalize_descends root outer
  have relative : short.isAbsolute = false := by decide +kernel
  obtain ⟨descends, everywhere⟩ := lower relative
  refine ⟨(below (by decide +kernel)).1 ⟨_, named⟩, descends.1 ⟨_, again⟩,
    (everywhere _).trans again, by decide +kernel, (files _).1 named,
    fun descends => rejected ((higher (by decide +kernel)).1.2 descends)⟩

end Path

end TemplateTree
