import TemplateTree.Proofs.Path.Within

/-!
# Paths that stay below where they start

A path is confined if it is relative and, read step by step, never goes above the directory that it
starts from. `isConfined_of_isPlace_iff` says when all places for a directive file are confined:
when the name that it has is a confined path, which is not so of every text.
-/

namespace TemplateTree.Path

/-- Whether these steps, taken `depth` directories below another one, stay inside of this. -/
def staysInside : Nat → Location → Bool
  | _, [] => true
  | depth, .name _ :: rest => staysInside (depth + 1) rest
  | depth, .current :: rest => staysInside depth rest
  | 0, .parent :: _ => false
  | depth + 1, .parent :: rest => staysInside depth rest
  | _, .root :: _ => false

/-- A relative path that never goes above the directory that it starts from. -/
def IsConfined (path : Path) : Prop :=
  staysInside 0 path.components = true

instance (path : Path) : Decidable path.IsConfined :=
  inferInstanceAs (Decidable (_ = true))

/-- Steps that stay inside do so from further below, too. -/
theorem staysInside_succ {depth : Nat} {location : Location}
    (inside : staysInside depth location = true) : staysInside (depth + 1) location = true := by
  fun_induction staysInside depth location with
  | case1 => rfl
  | case2 depth name rest inductionHypothesis => exact inductionHypothesis inside
  | case3 depth rest inductionHypothesis => exact inductionHypothesis inside
  | case4 => cases inside
  | case5 depth rest inductionHypothesis => exact inductionHypothesis inside
  | case6 => cases inside

/-- Names lead further below. -/
theorem staysInside_names_append (names : List String) (depth : Nat) (rest : Location) :
    staysInside depth (names.map .name ++ rest) = staysInside (depth + names.length) rest := by
  induction names generalizing depth with
  | nil => rfl
  | cons name more inductionHypothesis =>
    rw [List.map_cons, List.cons_append, staysInside, inductionHypothesis, List.length_cons]
    congr 1
    omega

theorem staysInside_of_zero {location : Location} (inside : staysInside 0 location = true)
    (depth : Nat) : staysInside depth location = true := by
  induction depth with
  | zero => exact inside
  | succ depth inductionHypothesis => exact staysInside_succ inductionHypothesis

/-- Steps that stay inside do not start at the root directory. -/
theorem root_not_mem_of_staysInside {depth : Nat} {location : Location}
    (inside : staysInside depth location = true) : .root ∉ location := by
  fun_induction staysInside depth location with
  | case1 => exact List.not_mem_nil
  | case2 depth name rest inductionHypothesis => simpa using inductionHypothesis inside
  | case3 depth rest inductionHypothesis => simpa using inductionHypothesis inside
  | case4 => cases inside
  | case5 depth rest inductionHypothesis => simpa using inductionHypothesis inside
  | case6 => cases inside

theorem IsConfined.isAbsolute_eq {path : Path} (confined : path.IsConfined) :
    path.isAbsolute = false := by
  by_contra absolute
  exact root_not_mem_of_staysInside confined
    (root_mem_components_iff.2 (by simpa using absolute))

theorem isConfined_ofNames {names : List String} (named : ∀ name ∈ names, IsName name) :
    (ofNames names).IsConfined := by
  have inside := staysInside_names_append names 0 []
  rw [List.append_nil] at inside
  rw [IsConfined, components_ofNames named, inside]
  rfl

theorem IsNormal.isConfined {path : Path} (normal : path.IsNormal) : path.IsConfined := by
  obtain ⟨names, -, named, rfl⟩ := normal
  exact isConfined_ofNames named

/-- A confined path is confined below names, too. -/
theorem IsConfined.join_ofNames {file : Path} (confined : file.IsConfined) {names : List String}
    (named : ∀ name ∈ names, IsName name) : ((ofNames names).join file).IsConfined := by
  by_cases top : names = []
  · rwa [top, join_ofNames_nil]
  · have relative := confined.isAbsolute_eq
    have steps : staysInside 0 ((pieces file.text.toList).filterMap component?) = true := by
      rcases components_eq_or file relative with plain | dotted
      · rwa [IsConfined, plain] at confined
      · rwa [IsConfined, dotted] at confined
    rw [IsConfined, components_join_ofNames top named relative, staysInside_names_append]
    exact staysInside_of_zero steps _

/-- The places for directive files are confined if and only if the name that these have is. -/
theorem isConfined_of_isPlace_iff {directiveFilename : String} :
    (∀ place, IsPlace directiveFilename place → place.IsConfined) ↔
      (Path.mk directiveFilename).IsConfined := by
  constructor
  · intro confined
    exact confined _ ⟨[], by simp, (join_ofNames_nil _).symm⟩
  · rintro confined place ⟨names, named, rfl⟩
    exact confined.join_ofNames named

end TemplateTree.Path
