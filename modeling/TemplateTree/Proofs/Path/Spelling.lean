import Mathlib.Logic.Relation
import TemplateTree.Proofs.Path.Descent

/-!
# Spellings of a path

One file of a tree can be named in many ways: from the root of the tree or from that of the machine,
with single dots, with steps down that are taken back, with more slashes than are needed.
`Respelled` says that two paths differ in one such place. Main statement:
`normalize_eq_of_respelled`.
-/

namespace TemplateTree.Path

/-- The steps that a text stands for behind a slash. -/
def stepsOf (text : String) : Location :=
  (pieces text.toList).filterMap component?

/-- A text behind which another step may be written: it ends in a slash, or it is empty and what
follows is a relative path. -/
def Opens (front rest : String) : Prop :=
  (∃ outer, front = outer ++ "/") ∨ front = "" ∧ (Path.mk rest).isAbsolute = false

/-- Two spellings that differ in one place. Below an absolute root, the path from the root of the
machine stands for the one from the root of the tree. Elsewhere a slash, a dot, or a step down with
one up behind it is written where the other spelling has nothing; a step can only be taken back in
front of which the path is in the tree already. -/
inductive Respelled (root : Path) : Path → Path → Prop where
  | absolute {path} (rooted : root.isAbsolute = true) (relative : path.isAbsolute = false) :
      Respelled root (root.join path) path
  | slash (front rest : String) : Respelled root ⟨front ++ "/" ++ ("/" ++ rest)⟩ ⟨front ++ "/" ++ rest⟩
  | trailing {front : String} (filled : front ≠ "") : Respelled root ⟨front ++ "/"⟩ ⟨front⟩
  | dot {front rest : String} (opens : Opens front rest) :
      Respelled root ⟨front ++ ("./" ++ rest)⟩ ⟨front ++ rest⟩
  | back {front name rest : String} (opens : Opens front rest) (entry : IsName name)
      (inside : ∃ steps, StepsBelow root ⟨front⟩ steps) :
      Respelled root ⟨front ++ (name ++ "/../" ++ rest)⟩ ⟨front ++ rest⟩

variable {root path other : Path} {front rest name : String} {steps others : Location}

@[simp] theorem stepsOf_slash (rest : String) : stepsOf ("/" ++ rest) = stepsOf rest := by
  have written : ("/" ++ rest).toList = '/' :: rest.toList := by simp
  rw [stepsOf, written]
  rfl

@[simp] theorem stepsOf_dot (rest : String) : stepsOf ("./" ++ rest) = stepsOf rest := by
  have written : ("./" ++ rest).toList = '.' :: '/' :: rest.toList := by simp
  rw [stepsOf, written]
  rfl

/-- A step down and one up. -/
theorem stepsOf_back (entry : IsName name) (rest : String) :
    stepsOf (name ++ "/../" ++ rest) = .name name :: .parent :: stepsOf rest := by
  have written : (name ++ "/../" ++ rest).toList =
      name.toList ++ '/' :: '.' :: '.' :: '/' :: rest.toList := by simp
  have read : (name.toList :: pieces ('.' :: '.' :: '/' :: rest.toList)).filterMap component? =
      .name name :: .parent :: stepsOf rest := by
    rw [List.filterMap_cons_some entry.step]
    rfl
  rw [stepsOf, written, pieces_append_slash, pieces_of_unbroken entry.unbroken, ← read]
  rfl

theorem components_append_slash (front rest : String) :
    (Path.mk (front ++ "/" ++ rest)).components =
      (Path.mk (front ++ "/")).components ++ stepsOf rest := by
  have steps := componentsOf_append_cons front.toList rest.toList
  simpa [components, stepsOf] using steps

theorem components_trailing (filled : front ≠ "") :
    (Path.mk (front ++ "/")).components = (Path.mk front).components := by
  have some : front.toList ≠ [] := by simpa using filled
  have steps := componentsOf_append_slash some []
  rw [show (pieces []).filterMap component? = [] from rfl, List.append_nil] at steps
  simpa [components] using steps

theorem normalize_congr (same : path.components = other.components) (root : Path) :
    normalize root path = normalize root other := by
  have absolute : path.isAbsolute = other.isAbsolute := by
    rw [Bool.eq_iff_iff, ← root_mem_components_iff, ← root_mem_components_iff, same]
  simp only [normalize, normalNames, relativeTo?, absolute, same]

theorem normalize_eq_of_walk_eq (here : StepsBelow root path steps)
    (there : StepsBelow root other others) (same : walk [] steps = walk [] others) :
    normalize root path = normalize root other := by
  rw [← relativeTo?_eq_ok_iff] at here there
  simp only [normalize, normalNames, here, there, same]

/-- The steps of a path below an absolute root, from the root of the machine. -/
theorem stepsBelow_join (rooted : root.isAbsolute = true) (relative : path.isAbsolute = false) :
    StepsBelow root (root.join path) (stepsOf path.text) := by
  have filled : root.text ≠ "" := by
    intro empty
    rw [isAbsolute, empty] at rooted
    cases rooted
  have steps := components_join filled relative
  have absolute : (root.join path).isAbsolute = true := by
    rw [← root_mem_components_iff, steps]
    exact List.mem_append_left _ (root_mem_components_iff.2 rooted)
  rw [StepsBelow, absolute, if_pos rfl, steps, stepsOf]

theorem walk_components (relative : path.isAbsolute = false) (reversed : List String) :
    walk reversed path.components = walk reversed (stepsOf path.text) := by
  rcases components_eq_or path relative with plain | dotted
  · rw [plain, stepsOf]
  · rw [dotted, walk, stepsOf]

/-- Behind a text that leads into the tree, a path goes on with the steps of what stands there. -/
theorem exists_stepsBelow_append (opens : Opens front rest)
    (below : StepsBelow root ⟨front⟩ steps) :
    ∃ others, StepsBelow root ⟨front ++ rest⟩ others ∧
      walk [] others = walk [] (steps ++ stepsOf rest) := by
  rcases opens with ⟨outer, rfl⟩ | ⟨rfl, relative⟩
  · have unrooted : .root ∉ stepsOf rest := by simp [stepsOf, component?_ne_root]
    have absolute : (Path.mk (outer ++ "/" ++ rest)).isAbsolute =
        (Path.mk (outer ++ "/")).isAbsolute := by
      rw [Bool.eq_iff_iff, ← root_mem_components_iff, ← root_mem_components_iff,
        components_append_slash]
      simp [unrooted]
    refine ⟨steps ++ stepsOf rest, ?_, rfl⟩
    rw [StepsBelow, absolute, components_append_slash, below, List.append_assoc]
  · obtain rfl : [] = steps := below
    refine ⟨(Path.mk rest).components, ?_, walk_components relative []⟩
    rw [String.empty_append, StepsBelow, relative]
    rfl

/-- Paths that begin alike, in the tree already, are normalized alike if what stands behind the
beginning leads to the same place from there. -/
theorem normalize_append (below : StepsBelow root ⟨front⟩ steps) {more : String}
    (here : Opens front more) (there : Opens front rest)
    (same : walk [] (steps ++ stepsOf more) = walk [] (steps ++ stepsOf rest)) :
    normalize root ⟨front ++ more⟩ = normalize root ⟨front ++ rest⟩ := by
  obtain ⟨first, above, leads⟩ := exists_stepsBelow_append here below
  obtain ⟨second, under, follows⟩ := exists_stepsBelow_append there below
  exact normalize_eq_of_walk_eq above under (leads.trans (same.trans follows.symm))

theorem Opens.of_relative (opens : Opens front rest) {more : String}
    (relative : (Path.mk more).isAbsolute = false) : Opens front more :=
  opens.imp_right fun ⟨empty, _⟩ => ⟨empty, relative⟩

/-- Two spellings that differ in one place are normalized alike. -/
theorem Respelled.normalize_eq (respelled : Respelled root path other) :
    normalize root path = normalize root other := by
  cases respelled with
  | absolute rooted relative =>
    have below : StepsBelow root other other.components := by
      rw [StepsBelow, relative]
      rfl
    exact normalize_eq_of_walk_eq (stepsBelow_join rooted relative) below
      (walk_components relative []).symm
  | slash front rest =>
    refine normalize_congr ?_ root
    rw [components_append_slash, components_append_slash, stepsOf_slash]
  | trailing filled => exact normalize_congr (components_trailing filled) root
  | @dot front rest opens =>
    rcases opens with ⟨outer, rfl⟩ | ⟨rfl, relative⟩
    · refine normalize_congr ?_ root
      rw [components_append_slash, components_append_slash, stepsOf_dot]
    · have opens : Opens "" rest := .inr ⟨rfl, relative⟩
      have here : Opens "" ("./" ++ rest) := opens.of_relative (by simp [isAbsolute, isRooted])
      exact @normalize_append root "" rest [] rfl _ here opens (by rw [stepsOf_dot])
  | @back front name rest opens entry inside =>
    obtain ⟨steps, below⟩ := inside
    obtain ⟨c, more, spelled, other⟩ := entry.exists_cons
    have here : Opens front (name ++ "/../" ++ rest) :=
      opens.of_relative (by simp [isAbsolute, isRooted, spelled, other])
    refine normalize_append below here opens ?_
    rw [stepsOf_back entry, walk_append, walk_append]
    cases walk [] steps <;> rfl

/-- Paths that can be respelled into one another, in one place after the other, are normalized
alike. -/
theorem normalize_eq_of_respelled (respelled : Relation.EqvGen (Respelled root) path other) :
    normalize root path = normalize root other := by
  induction respelled with
  | rel _ _ once => exact once.normalize_eq
  | refl _ => rfl
  | symm _ _ _ inductionHypothesis => exact inductionHypothesis.symm
  | trans _ _ _ _ _ first second => exact first.trans second

end TemplateTree.Path
