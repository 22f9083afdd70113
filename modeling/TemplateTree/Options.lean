import TemplateTree.Host
import TemplateTree.Options.Expansion
import TemplateTree.Storage.Directory
import TemplateTree.Toml.Document

/-!
# Options

What a host over a directory is configured with. Options are read from a TOML document, in which any
of them may be missing, or are the defaults; the root may name the home directory and environment
variables, and is relative to the directory of the document.
-/

namespace TemplateTree

def optionsFilename : String := "cascade.toml"

/-- What a host over a directory is configured with. -/
structure Options where
  root : Path := ⟨"."⟩
  directiveFilename : String := standardDirectiveFilename
  templateExtension : String := "tmpl"
  defaultModel : String := standardModelType
  baseClass : String := standardBaseType
  modelPlaceholder : String := standardPlaceholder
  defaultClassName : String := standardClassName
  defaultNamespaces : List String := standardNamespaces
  methods : MethodNames := {}
  deriving DecidableEq, Repr

/-- Why there are no options, or no host for them. -/
inductive OptionsError where
  | unreadable (error : IoError)
  | malformed (path : Path)
  | unexpanded (root : Path) (unset : Expansion.Unset)
  | noRoot (path : Path)
  deriving DecidableEq, Repr

/-- What stands in a message in the place of a TOML error, about which nothing more is said. -/
def tomlProblem : String := "<toml>"

def OptionsError.message : OptionsError → String
  | .unreadable error => s!"I/O error while reading configuration: {error.message}"
  | .malformed path => s!"Failed to parse TOML file at '{path}': {tomlProblem}"
  | .unexpanded root unset => s!"Template root '{root}' could not be expanded: {unset.message}"
  | .noRoot path => s!"Template root '{path}' does not exist or is not a directory."

def OptionsError.cause? : OptionsError → Option String
  | .unreadable error => some error.message
  | .malformed _ => some tomlProblem
  | .unexpanded _ _ | .noRoot _ => none

namespace MethodNames

/-- The names with the method of this key changed. -/
def set? (methods : MethodNames) (key : String) (name : String) : Option MethodNames :=
  match key with
  | "execute" => some { methods with execute := name }
  | "write" => some { methods with write := name }
  | "write_literal" => some { methods with writeLiteral := name }
  | "write_to" => some { methods with writeTo := name }
  | "write_literal_to" => some { methods with writeLiteralTo := name }
  | _ => none

/-- The keys of the methods in the order in which an array gives them. -/
def keys : List String :=
  ["execute", "write", "write_literal", "write_to", "write_literal_to"]

/-- The names with those of a table or array changed. -/
def setAll? (methods : MethodNames) : List (String × Toml.Value) → Option MethodNames
  | [] => some methods
  | (key, .string name) :: rest =>
    match methods.set? key name with
    | some methods => setAll? methods rest
    | none => none
  | _ :: _ => none

/-- The names that a TOML value gives: a table by key, an array in order. What an array holds beyond
the last method is ignored. -/
def ofToml? : Toml.Value → Option MethodNames
  | .table _ entries => setAll? {} entries
  | .array items => setAll? {} (keys.zip items)
  | .tables tables => setAll? {} (keys.zip (tables.map (.table .header)))
  | .string _ | .scalar => none

end MethodNames

namespace Options

def texts? (items : List Toml.Value) : Option (List String) :=
  items.mapM fun
    | .string text => some text
    | _ => none

/-- The options with the one of this key changed. -/
def set? (options : Options) (key : String) (value : Toml.Value) : Option Options :=
  match key, value with
  | "root", .string text => some { options with root := ⟨text⟩ }
  | "directive_filename", .string text => some { options with directiveFilename := text }
  | "template_extension", .string text => some { options with templateExtension := text }
  | "default_model", .string text => some { options with defaultModel := text }
  | "base_class", .string text => some { options with baseClass := text }
  | "model_placeholder", .string text => some { options with modelPlaceholder := text }
  | "default_class_name", .string text => some { options with defaultClassName := text }
  | "default_namespaces", .array items =>
    (texts? items).map fun texts => { options with defaultNamespaces := texts }
  | "methods", value => (MethodNames.ofToml? value).map fun methods => { options with methods }
  | _, _ => none

/-- The options with those of a table changed. -/
def setAll? (options : Options) : Toml.Entries → Option Options
  | [] => some options
  | (key, value) :: rest =>
    match options.set? key value with
    | some options => setAll? options rest
    | none => none

def ofText? (text : List Char) : Option Options :=
  match Toml.parse? text with
  | some entries => setAll? {} entries
  | none => none

/-- A root with the home directory and the environment variables that it names. -/
def expandRoot (environment : Environment) (root : Path) : Except OptionsError Path :=
  match Expansion.expand environment root.text.toList with
  | .ok text => .ok ⟨String.ofList text⟩
  | .error unset => .error (.unexpanded root unset)

/-- The text of a document. -/
def readDocument (disk : Disk) (path : Path) : Except OptionsError (List Char) :=
  match disk.stream path with
  | .error error => .error (.unreadable error)
  | .ok stream =>
    match stream.content with
    | .error error => .error (.unreadable error)
    | .ok bytes =>
      match Text.Utf8.decode? bytes with
      | some text => .ok text
      | none => .error (.unreadable ⟨.invalidData, "stream did not contain valid UTF-8"⟩)

/-- The options in the document at a path. Their root is expanded and, if it is relative, taken from
the directory of the document. -/
def load (environment : Environment) (disk : Disk) (path : Path) : Except OptionsError Options :=
  match readDocument disk path with
  | .error error => .error error
  | .ok text =>
    match ofText? text with
    | none => .error (.malformed path)
    | some options =>
      match expandRoot environment options.root with
      | .error error => .error error
      | .ok root =>
        match path.parent? with
        | some directory =>
          .ok { options with root := if root.isAbsolute then root else directory.join root }
        | none => .ok { options with root }

/-- The options of the tree at a root: those of the document there, or else the defaults. -/
def discover (environment : Environment) (disk : Disk) (root : Path) :
    Except OptionsError Options :=
  let document := root.join ⟨optionsFilename⟩
  if disk.isFile document then load environment disk document else .ok { root }

/-- The settings of a host that lie below all directives. -/
def defaults (options : Options) : Defaults where
  namespaces := options.defaultNamespaces
  modelType := options.defaultModel
  baseType := ⟨options.baseClass, options.modelPlaceholder⟩
  className := options.defaultClassName
  methods := options.methods

/-- The host over the directory that the root leads to once it is expanded. -/
def host (environment : Environment) (disk : Disk) (options : Options) :
    Except OptionsError (Host × Directory) :=
  match expandRoot environment options.root with
  | .error error => .error error
  | .ok root =>
    match Directory.at? disk root with
    | .error _ => .error (.noRoot root)
    | .ok directory =>
      .ok ({ defaults := options.defaults
             root := directory.root
             directiveFilename := options.directiveFilename }, directory)

end Options

/-- A workspace over a directory, in which nothing happens by itself. -/
def Workspace.ofDirectory (directory : Directory) : Workspace Directory Unit where
  storage := directory
  agenda := ()

end TemplateTree
