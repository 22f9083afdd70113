import TemplateTree.Directive.Declarations
import TemplateTree.Template
import TemplateTree.Text.Search

/-!
# Configurations

The settings under which code is generated for one template. They come from the defaults of the
host, over which lie the declarations of the directive files from the root down, and over these the
template's own: of base types and model types the innermost counts, and namespaces add up.
-/

namespace TemplateTree

/-- The base type where neither a directive nor the host names one. -/
def standardBaseType : String := "TemplatePage<TModel>"

/-- The text in base types that stands for the model type unless the host says otherwise. -/
def standardPlaceholder : String := "TModel"

def standardModelType : String := "dynamic"

def standardClassName : String := "__GeneratedTemplate"

/-- A base type in which a placeholder stands for the model type. -/
structure BaseTypeTemplate where
  template : String := standardBaseType
  placeholder : String := standardPlaceholder
  deriving DecidableEq, Repr

/-- The base type with every occurrence of the placeholder replaced by the model type. An empty
placeholder occurs nowhere. -/
def BaseTypeTemplate.substitute (base : BaseTypeTemplate) (modelType : String) : String :=
  if base.placeholder.isEmpty then base.template
  else String.ofList
    (Text.replace base.placeholder.toList modelType.toList base.template.toList)

/-- The members of the base class that generated code uses. -/
structure MethodNames where
  execute : String := "ExecuteAsync"
  write : String := "Write"
  writeLiteral : String := "WriteLiteral"
  writeTo : String := "WriteTo"
  writeLiteralTo : String := "WriteLiteralTo"
  deriving DecidableEq, Repr

def standardNamespaces : List String :=
  ["System", "System.Linq", "System.Collections.Generic", "System.Threading.Tasks"]

/-- The settings that lie below all directives. -/
structure Defaults where
  namespaces : List String := standardNamespaces
  modelType : String := standardModelType
  baseType : BaseTypeTemplate := {}
  className : String := standardClassName
  methods : MethodNames := {}
  deriving DecidableEq, Repr

/-- The settings that apply to one template. -/
structure Configuration where
  baseTypeTemplate : String
  modelType : String
  baseClass : String
  namespaces : List String
  deriving DecidableEq, Repr

namespace Configuration

/-- The configuration that declarations give rise to. Their namespaces contain those of the
defaults. -/
def ofDeclarations (declarations : Declarations) (defaults : Defaults) : Configuration :=
  let template := declarations.baseType.getD defaults.baseType.template
  let modelType := declarations.modelType.getD defaults.modelType
  { baseTypeTemplate := template
    modelType
    baseClass := { defaults.baseType with template }.substitute modelType
    namespaces := declarations.namespaces }

/-- The configuration of a template: `chain` holds the declarations of the directive files from the
root down, `own` those of the template. -/
def merge (chain : List Declarations) (own : Declarations) (defaults : Defaults) : Configuration :=
  let outermost : Declarations := { namespaces := addNames [] defaults.namespaces }
  ofDeclarations ((chain ++ [own]).foldl Declarations.layer outermost) defaults

def ofDefaults (defaults : Defaults) : Configuration :=
  merge [] .empty defaults

/-- The configuration as directives: its imports, then its base class, then its model type. -/
def directives (configuration : Configuration) : List Directive :=
  configuration.namespaces.map (⟨.namespaceImport, ·⟩) ++
    [⟨.baseType, configuration.baseClass⟩, ⟨.modelType, configuration.modelType⟩]

/-- The template with the directives of the configuration in the place of its own. -/
def apply (configuration : Configuration) (template : Template) : Template :=
  ⟨configuration.directives.map .directive ++ template.body⟩

end Configuration

end TemplateTree
