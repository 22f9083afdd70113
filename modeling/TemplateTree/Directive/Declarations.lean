import TemplateTree.Directive

/-!
# Declarations

What a list of directives comes to: the base type and the model type declared last, and the
namespaces in the order in which they were first imported. Declarations lie over one another as the
files of a directory tree do: `layer` lets the inner ones win and adds their namespaces.
-/

namespace TemplateTree

/-- Adds a name to a list of different names, at the end, unless it stands there already. -/
def addName (names : List String) (name : String) : List String :=
  if name ∈ names then names else names ++ [name]

def addNames (names more : List String) : List String :=
  more.foldl addName names

/-- The settings that directives declare. -/
structure Declarations where
  baseType : Option String := none
  modelType : Option String := none
  namespaces : List String := []
  deriving DecidableEq, Repr

namespace Declarations

def empty : Declarations := {}

/-- The declarations after one more directive. -/
def add (declarations : Declarations) (directive : Directive) : Declarations :=
  match directive.kind with
  | .baseType => { declarations with baseType := some directive.argument }
  | .modelType => { declarations with modelType := some directive.argument }
  | .namespaceImport =>
    { declarations with namespaces := addName declarations.namespaces directive.argument }

/-- What directives declare in the order given. -/
def ofDirectives (directives : List Directive) : Declarations :=
  directives.foldl add empty

/-- The declarations as directives without redundancy: the imports, then the base type, then the
model type. -/
def toDirectives (declarations : Declarations) : List Directive :=
  declarations.namespaces.map (⟨.namespaceImport, ·⟩) ++
    declarations.baseType.toList.map (⟨.baseType, ·⟩) ++
    declarations.modelType.toList.map (⟨.modelType, ·⟩)

/-- The directive that a further one overrides. -/
def overridden? (declarations : Declarations) (directive : Directive) : Option Directive :=
  match directive.kind with
  | .baseType => declarations.baseType.map (⟨.baseType, ·⟩)
  | .modelType => declarations.modelType.map (⟨.modelType, ·⟩)
  | .namespaceImport => none

/-- The directives that further ones override, in the order in which that happens. -/
def overridden (declarations : Declarations) : List Directive → List Directive
  | [] => []
  | directive :: rest =>
    (declarations.overridden? directive).toList ++ (declarations.add directive).overridden rest

/-- Inner declarations laid over outer ones. -/
def layer (outer inner : Declarations) : Declarations where
  baseType := inner.baseType.or outer.baseType
  modelType := inner.modelType.or outer.modelType
  namespaces := addNames outer.namespaces inner.namespaces

end Declarations

/-- The warning that a directive of the file at `path` is overridden in that file. -/
def Directive.overrideWarning (path : String) (directive : Directive) : String :=
  let subject := match directive.kind with
    | .baseType => "base type"
    | .modelType => "model type"
    | .namespaceImport => "namespace"
  s!"'{path}' declares more than one {subject}; '{directive.argument}' is overridden."

def Directive.warnings (path : String) (directives : List Directive) : List String :=
  (Declarations.empty.overridden directives).map (Directive.overrideWarning path)

end TemplateTree
