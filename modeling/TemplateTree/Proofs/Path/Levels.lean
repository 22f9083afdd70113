import TemplateTree.Proofs.Path.Places

/-!
# The levels of a template

If directive files have an ordinary name, the places where they may apply to a template are one for
each directory that it lies in. Main statements: `candidates_eq_levels` lists these places, and
`pairwise_levels` says that each lies deeper than those before it.
-/

namespace TemplateTree

namespace Path

variable {names : List String} {file : String}

theorem IsName.isAbsolute_eq {name : String} (named : IsName name) :
    (Path.mk name).isAbsolute = false := by
  obtain ⟨c, rest, spelled, other⟩ := named.exists_cons
  rw [isAbsolute, spelled, isRooted]
  rintro text ⟨⟩
  exact other rfl

/-- A name below others is the last of them. -/
theorem join_ofNames (named : ∀ name ∈ names, IsName name) (plain : IsName file) :
    (ofNames names).join ⟨file⟩ = ofNames (names ++ [file]) := by
  by_cases top : names = []
  · rw [top, join_ofNames_nil, List.nil_append, ofNames_singleton]
  · have spelled := text_join_ofNames top named plain.isAbsolute_eq
    rw [← ofNames_singleton, ← toList_ofNames_append top (List.cons_ne_nil file []),
      ofNames_singleton, String.toList_inj] at spelled
    exact congrArg Path.mk spelled

/-- Paths of names that mean the same are spelled the same. -/
theorem ofNames_inj {others : List String} (named : ∀ name ∈ names, IsName name)
    (titled : ∀ name ∈ others, IsName name) :
    (ofNames names).components = (ofNames others).components ↔ ofNames names = ofNames others := by
  refine ⟨fun same => ?_, congrArg components⟩
  have injective : Function.Injective Component.name := fun _ _ => Component.name.inj
  rw [components_ofNames named, components_ofNames titled] at same
  rw [List.map_injective_iff.2 injective same]

theorem dropLast_inits (names : List String) :
    names.inits.dropLast = (List.range names.length).map names.take :=
  List.ext_getElem (by simp) (by simp)

theorem isName_of_mem_level (named : ∀ name ∈ names, IsName name) (plain : IsName file) (k : Nat) :
    ∀ name ∈ names.take k ++ [file], IsName name := by
  intro name member
  rcases List.mem_append.1 member with above | last
  · exact named name (List.mem_of_mem_take above)
  · exact List.mem_singleton.1 last ▸ plain

/-- The file of this name in each of the directories that lead to a template, apart from the
template itself. -/
def levels (names : List String) (file : String) : List Path :=
  ((List.range names.length).map fun k => ofNames (names.take k ++ [file])).filter
    (· ≠ ofNames names)

/-- Each level lies one step deeper than the one before it. -/
theorem pairwise_levels (named : ∀ name ∈ names, IsName name) (plain : IsName file) :
    (levels names file).Pairwise fun above below =>
      above.components.length < below.components.length := by
  have depth (k : Nat) (inside : k ∈ List.range names.length) :
      (ofNames (names.take k ++ [file])).components.length = k + 1 := by
    rw [components_ofNames (isName_of_mem_level named plain k)]
    simp [(List.mem_range.1 inside).le]
  refine List.Pairwise.filter _ (List.pairwise_map.2 ?_)
  refine List.pairwise_lt_range.imp_of_mem fun {first second} before after lower => ?_
  rw [depth first before, depth second after]
  exact Nat.succ_lt_succ lower

/-- The names that a normal path is made of are those that it leads through. -/
theorem IsNormal.eq_ofNames {path : Path} (normal : path.IsNormal)
    (steps : path.components = names.map .name) :
    path = ofNames names ∧ ∀ name ∈ names, IsName name := by
  obtain ⟨others, -, named, rfl⟩ := normal
  have injective : Function.Injective Component.name := fun _ _ => Component.name.inj
  rw [components_ofNames named] at steps
  obtain rfl := List.map_injective_iff.2 injective steps
  exact ⟨rfl, named⟩

end Path

namespace Resolver

/-- Directive files of an ordinary name may apply to a template from each of its levels. -/
theorem candidates_eq_levels {names : List String} {file : String}
    (named : ∀ name ∈ names, Path.IsName name) (plain : Path.IsName file) :
    candidates file (Path.ofNames names) = Path.levels names file := by
  have joined (k : Nat) : (Path.ofNames (names.take k)).join ⟨file⟩ =
      Path.ofNames (names.take k ++ [file]) :=
    Path.join_ofNames (fun name member => named name (List.mem_of_mem_take member)) plain
  rw [candidates_ofNames named, Path.dropLast_inits, List.map_map, Path.levels]
  simp only [Function.comp_def, joined]
  refine List.filter_congr fun place member => ?_
  obtain ⟨k, -, rfl⟩ := List.mem_map.1 member
  rw [← Path.components_ofNames named, decide_eq_decide, not_iff_not]
  exact Path.ofNames_inj (Path.isName_of_mem_level named plain k) named

end Resolver

end TemplateTree
