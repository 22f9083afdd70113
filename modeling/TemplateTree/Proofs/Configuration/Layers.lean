import TemplateTree.Configuration
import TemplateTree.DirectiveFile
import TemplateTree.Proofs.Directive.Declared

/-!
# Layers of a configuration

A configuration is merged from the defaults, the directive files from the root down, and the
template's own directives. `merge_ofDirectives` says what comes of it in terms of all directives in
order; `merge_eq_merge_concatenation` adds that it does not matter how they are cut into files.
-/

namespace TemplateTree.Configuration

/-- The declarations below all directives: the namespaces of the defaults, each once. -/
private def ground (defaults : Defaults) : Declarations :=
  { namespaces := addNames [] defaults.namespaces }

/-- Merging files and a template's own directives reads all of them in order on the ground of the
defaults. -/
private theorem merge_eq_ofDeclarations_foldl (files : List (List Directive))
    (own : List Directive) (defaults : Defaults) :
    merge (files.map .ofDirectives) (.ofDirectives own) defaults =
      ofDeclarations ((files.flatten ++ own).foldl .add (ground defaults)) defaults := by
  have layers : files.map Declarations.ofDirectives ++ [Declarations.ofDirectives own] =
      (files ++ [own]).map Declarations.ofDirectives := by simp
  rw [merge, layers, Declarations.foldl_layer_ofDirectives]
  simp [ground]

/-- The configuration that files and a template's own directives give rise to, in terms of all their
directives in order. -/
theorem merge_ofDirectives (files : List (List Directive)) (own : List Directive)
    (defaults : Defaults) :
    merge (files.map .ofDirectives) (.ofDirectives own) defaults =
      let all := files.flatten ++ own
      let template := (Directive.argumentsOf .baseType all).getLast?.getD defaults.baseType.template
      let modelType := (Directive.argumentsOf .modelType all).getLast?.getD defaults.modelType
      { baseTypeTemplate := template
        modelType
        baseClass := BaseTypeTemplate.substitute ⟨template, defaults.baseType.placeholder⟩ modelType
        namespaces :=
          (defaults.namespaces ++ Directive.argumentsOf .namespaceImport all).eraseDups } := by
  rw [merge_eq_ofDeclarations_foldl, Declarations.foldl_add]
  simp [ofDeclarations, ground, addNames_nil, addNames_eraseDups]

/-- Only the directives of the files and of the template one after the other matter, not how they
are cut into files: the last model type and the last base type count, or else those of the defaults,
the base class is that base type with that model type put in, and the namespaces are the first
occurrences among those of the defaults and all imports in order. -/
theorem merge_eq_merge_concatenation (files : List (Path × String × List Directive))
    (own : List Directive) (defaults : Defaults) :
    let chain := files.map fun file => DirectiveFile.ofDirectives file.1 file.2.1 file.2.2
    let merged := merge (chain.map (·.declarations)) (.ofDirectives own) defaults
    let all := files.flatMap (·.2.2) ++ own
    merged = merge [] (.ofDirectives all) defaults ∧
      merged.modelType =
        (Directive.argumentsOf .modelType all).getLast?.getD defaults.modelType ∧
      merged.baseTypeTemplate =
        (Directive.argumentsOf .baseType all).getLast?.getD defaults.baseType.template ∧
      merged.baseClass =
        BaseTypeTemplate.substitute ⟨merged.baseTypeTemplate, defaults.baseType.placeholder⟩
          merged.modelType ∧
      merged.namespaces.Nodup ∧
      merged.namespaces =
        (defaults.namespaces ++ Directive.argumentsOf .namespaceImport all).eraseDups := by
  intro chain merged all
  have cut : chain.map (·.declarations) = (files.map (·.2.2)).map .ofDirectives := by
    simp only [chain, List.map_map]
    rfl
  have value : merge [] (.ofDirectives all) defaults = _ := merge_ofDirectives [] all defaults
  rw [List.flatten_nil, List.nil_append] at value
  have joined : merged = merge [] (.ofDirectives all) defaults := by
    rw [value, show all = (files.map (·.2.2)).flatten ++ own by rw [← List.flatMap_def],
      ← merge_ofDirectives, ← cut]
  refine ⟨joined, ?_⟩
  rw [joined, value]
  exact ⟨rfl, rfl, rfl, nodup_eraseDups _, rfl⟩

end TemplateTree.Configuration
