import TemplateTree.Configuration
import TemplateTree.Proofs.Directive.Declared

/-!
# What a configuration inherits

The configuration of a template further down a tree is merged from the files that apply further up,
and then from others. Main statements: `namespaces_prefix_merge` says that what has been imported
above stays at the front, and `modelType_merge` and `baseTypeTemplate_merge` say that types are
passed on by files that declare none.
-/

namespace TemplateTree

theorem prefix_addName (names : List String) (name : String) : names <+: addName names name := by
  rw [addName]
  split
  · exact List.prefix_rfl
  · exact List.prefix_append _ _

theorem prefix_addNames (names more : List String) : names <+: addNames names more := by
  induction more generalizing names with
  | nil => exact List.prefix_rfl
  | cons name rest inductionHypothesis =>
    exact (prefix_addName names name).trans (inductionHypothesis _)

namespace Declarations

/-- Layers over others import their namespaces behind those of the others. -/
theorem namespaces_prefix_foldl_layer (outer : Declarations) (layers : List Declarations) :
    outer.namespaces <+: (layers.foldl layer outer).namespaces := by
  induction layers generalizing outer with
  | nil => exact List.prefix_rfl
  | cons inner rest inductionHypothesis =>
    exact (prefix_addNames outer.namespaces inner.namespaces).trans
      (inductionHypothesis (outer.layer inner))

/-- A setting for which the inner declaration counts shows through layers that do not declare it. -/
theorem foldl_layer_of_silent {setting : Declarations → Option String}
    (inner : ∀ first second, setting (layer first second) = (setting second).or (setting first))
    (outer : Declarations) {layers : List Declarations}
    (silent : ∀ declared ∈ layers, setting declared = none) :
    setting (layers.foldl layer outer) = setting outer := by
  induction layers generalizing outer with
  | nil => rfl
  | cons declared rest inductionHypothesis =>
    obtain ⟨here, others⟩ := List.forall_mem_cons.1 silent
    rw [List.foldl_cons, inductionHypothesis _ others, inner, here, Option.none_or]

/-- So it is the same below one silent layer and below any number of them. -/
theorem foldl_layer_eq_of_silent {setting : Declarations → Option String}
    (inner : ∀ first second, setting (layer first second) = (setting second).or (setting first))
    (outer : Declarations) {upper lower : Declarations} {between : List Declarations}
    (above : setting upper = none) (below : setting lower = none)
    (silent : ∀ declared ∈ between, setting declared = none) :
    setting ((between ++ [lower]).foldl layer outer) = setting ([upper].foldl layer outer) := by
  have all : ∀ declared ∈ between ++ [lower], setting declared = none := by
    simpa [or_imp, forall_and] using ⟨silent, below⟩
  rw [foldl_layer_of_silent inner outer all,
    foldl_layer_of_silent inner outer (List.forall_mem_singleton.2 above)]

theorem baseType_ofDirectives {directives : List Directive}
    (absent : Directive.argumentsOf .baseType directives = []) :
    (ofDirectives directives).baseType = none := by
  simp [ofDirectives_eq, absent]

theorem modelType_ofDirectives {directives : List Directive}
    (absent : Directive.argumentsOf .modelType directives = []) :
    (ofDirectives directives).modelType = none := by
  simp [ofDirectives_eq, absent]

theorem namespaces_ofDirectives {directives : List Directive}
    (absent : Directive.argumentsOf .namespaceImport directives = []) :
    (ofDirectives directives).namespaces = [] := by
  simp [ofDirectives_eq, absent]

end Declarations

namespace Configuration

variable {chain below : List Declarations} {upper lower : Declarations} {defaults : Defaults}

/-- The declarations that a template below these files starts from. -/
private def inherited (chain : List Declarations) (defaults : Defaults) : Declarations :=
  chain.foldl .layer { namespaces := addNames [] defaults.namespaces }

private theorem merge_append (chain below : List Declarations) (own : Declarations)
    (defaults : Defaults) :
    merge (chain ++ below) own defaults =
      ofDeclarations ((below ++ [own]).foldl .layer (inherited chain defaults)) defaults := by
  rw [merge, inherited, List.append_assoc, List.foldl_append]

private theorem merge_eq (chain : List Declarations) (own : Declarations) (defaults : Defaults) :
    merge chain own defaults =
      ofDeclarations ([own].foldl .layer (inherited chain defaults)) defaults := by
  simpa using merge_append chain [] own defaults

/-- What a template imports that has no imports of its own is imported first by every template below
its directory. -/
theorem namespaces_prefix_merge (silent : upper.namespaces = []) :
    (merge chain upper defaults).namespaces <+: (merge (chain ++ below) lower defaults).namespaces := by
  have same : (merge chain upper defaults).namespaces = (inherited chain defaults).namespaces := by
    simp [merge_eq, ofDeclarations, Declarations.layer, silent, addNames]
  rw [same, merge_append]
  exact Declarations.namespaces_prefix_foldl_layer _ _

/-- The model type is passed on by files that declare none. -/
theorem modelType_merge (above : upper.modelType = none) (own : lower.modelType = none)
    (between : ∀ file ∈ below, file.modelType = none) :
    (merge (chain ++ below) lower defaults).modelType = (merge chain upper defaults).modelType := by
  have same := Declarations.foldl_layer_eq_of_silent (fun _ _ => rfl) (inherited chain defaults)
    above own between
  rw [merge_append, merge_eq]
  exact congrArg (·.getD defaults.modelType) same

/-- The base type is passed on by files that declare none. -/
theorem baseTypeTemplate_merge (above : upper.baseType = none) (own : lower.baseType = none)
    (between : ∀ file ∈ below, file.baseType = none) :
    (merge (chain ++ below) lower defaults).baseTypeTemplate =
      (merge chain upper defaults).baseTypeTemplate := by
  have same := Declarations.foldl_layer_eq_of_silent (fun _ _ => rfl) (inherited chain defaults)
    above own between
  rw [merge_append, merge_eq]
  exact congrArg (·.getD defaults.baseType.template) same

end Configuration

end TemplateTree
