import Mathlib.Data.List.Induction
import TemplateTree.Directive.Declarations

/-!
# What directives declare

`Declarations.ofDirectives` reads directives one by one. Seen as a whole, `ofDirectives_eq` says
that of each kind that stands alone the last argument counts, and that of repeated imports the first
one does. `layer_ofDirectives` says that laying the declarations of a file over others is the same
as reading on into its directives.
-/

namespace TemplateTree

/-- The arguments of the directives of one kind, in order. -/
def Directive.argumentsOf (kind : Kind) (directives : List Directive) : List String :=
  (directives.filter fun directive => directive.kind = kind).map (·.argument)

/-- A list without repetitions stays one when a name is added. -/
theorem nodup_addName {names : List String} (nodup : names.Nodup) (name : String) :
    (addName names name).Nodup := by
  unfold addName
  split
  · exact nodup
  · next absent =>
    refine List.nodup_append.2 ⟨nodup, by simp, ?_⟩
    rintro other member last singleton rfl
    exact absent (List.mem_singleton.1 singleton ▸ member)

theorem nodup_addNames {names : List String} (nodup : names.Nodup) (more : List String) :
    (addNames names more).Nodup := by
  induction more generalizing names with
  | nil => exact nodup
  | cons name rest inductionHypothesis => exact inductionHypothesis (nodup_addName nodup name)

theorem addNames_append (names first second : List String) :
    addNames names (first ++ second) = addNames (addNames names first) second :=
  List.foldl_append

/-- A name is in a list after additions if it was there or is one of those added. -/
theorem mem_addNames {names more : List String} {name : String} :
    name ∈ addNames names more ↔ name ∈ names ∨ name ∈ more := by
  induction more generalizing names with
  | nil => simp [addNames]
  | cons other rest inductionHypothesis =>
    have step : addNames names (other :: rest) = addNames (addName names other) rest := rfl
    have added : name ∈ addName names other ↔ name ∈ names ∨ name = other := by
      unfold addName
      split
      · next present => exact ⟨Or.inl, fun either => either.elim id fun same => same ▸ present⟩
      · simp
    rw [step, inductionHypothesis, added, List.mem_cons, or_assoc]

theorem eraseDups_concat (names : List String) (name : String) :
    (names ++ [name]).eraseDups = addName names.eraseDups name := by
  rw [List.eraseDups_append, addName]
  by_cases present : name ∈ names
  · simp [present, List.removeAll]
  · simp [present, List.removeAll, List.eraseDups_cons]

/-- Names added to those of a list without its repetitions: the first occurrences in both. -/
theorem addNames_eraseDups (names more : List String) :
    addNames names.eraseDups more = (names ++ more).eraseDups := by
  induction more generalizing names with
  | nil => simp [addNames]
  | cons name rest inductionHypothesis =>
    have step : addNames names.eraseDups (name :: rest) =
        addNames (addName names.eraseDups name) rest := rfl
    rw [step, ← eraseDups_concat, inductionHypothesis, List.append_assoc, List.singleton_append]

theorem addNames_nil (names : List String) : addNames [] names = names.eraseDups := by
  simpa using addNames_eraseDups [] names

theorem nodup_eraseDups (names : List String) : names.eraseDups.Nodup := by
  rw [← addNames_nil]
  exact nodup_addNames List.nodup_nil names

theorem addName_of_mem {names : List String} {name : String} (present : name ∈ names) :
    addName names name = names := by
  rw [addName, if_pos present]

/-- Repetitions among the names added do not matter. -/
theorem addNames_of_eraseDups (names more : List String) :
    addNames names more.eraseDups = addNames names more := by
  induction more using List.reverseRecOn with
  | nil => rfl
  | append_singleton rest name inductionHypothesis =>
    rw [eraseDups_concat, addNames_append]
    by_cases present : name ∈ rest
    · have there : name ∈ addNames names rest := mem_addNames.2 (Or.inr present)
      rw [addName_of_mem (List.mem_eraseDups.2 present), inductionHypothesis]
      exact (addName_of_mem there).symm
    · rw [addName, if_neg (fun member => present (List.mem_eraseDups.1 member)), addNames_append,
        inductionHypothesis]

namespace Declarations

/-- What further directives make of declarations: the last argument of each kind that stands alone
takes over, and new imports are added. -/
theorem foldl_add (outer : Declarations) (directives : List Directive) :
    directives.foldl add outer =
      { baseType := (Directive.argumentsOf .baseType directives).getLast?.or outer.baseType
        modelType := (Directive.argumentsOf .modelType directives).getLast?.or outer.modelType
        namespaces :=
          addNames outer.namespaces (Directive.argumentsOf .namespaceImport directives) } := by
  induction directives using List.reverseRecOn with
  | nil => simp [Directive.argumentsOf, addNames]
  | append_singleton rest directive inductionHypothesis =>
    rw [List.foldl_append, List.foldl_cons, List.foldl_nil, inductionHypothesis]
    obtain ⟨kind, argument⟩ := directive
    cases kind <;> simp [add, Directive.argumentsOf, addNames]

/-- The declarations of a list of directives: the last base type, the last model type and the first
occurrence of every import. -/
theorem ofDirectives_eq (directives : List Directive) :
    ofDirectives directives =
      { baseType := (Directive.argumentsOf .baseType directives).getLast?
        modelType := (Directive.argumentsOf .modelType directives).getLast?
        namespaces := (Directive.argumentsOf .namespaceImport directives).eraseDups } := by
  rw [ofDirectives, foldl_add, ← addNames_nil]
  simp [empty]

/-- Laying what directives declare over other declarations is reading them after those. -/
theorem layer_ofDirectives (outer : Declarations) (directives : List Directive) :
    outer.layer (ofDirectives directives) = directives.foldl add outer := by
  rw [foldl_add, ofDirectives_eq, layer, addNames_of_eraseDups]

/-- Laying the declarations of several files over others, one after the other, is reading the
directives of all of them in order. -/
theorem foldl_layer_ofDirectives (outer : Declarations) (files : List (List Directive)) :
    (files.map ofDirectives).foldl layer outer = files.flatten.foldl add outer := by
  induction files generalizing outer with
  | nil => rfl
  | cons directives rest inductionHypothesis =>
    rw [List.map_cons, List.foldl_cons, layer_ofDirectives, inductionHypothesis,
      List.flatten_cons, List.foldl_append]

end Declarations

end TemplateTree
