import TemplateTree.Configuration
import TemplateTree.Text.Blank

/-!
# Generated code

A template becomes a class that derives from its base class, has a property for its model, and
overrides one method, which writes the template's body chunk by chunk. Whatever is wrong with the
class is reported beside it and never stops the generation.
-/

namespace TemplateTree

/-- How serious a diagnostic is. -/
inductive Severity where
  | warning
  | error
  deriving DecidableEq, Repr

/-- A remark on generated code. -/
structure Diagnostic where
  severity : Severity
  message : String
  deriving DecidableEq, Repr

/-- The code generated from one template. -/
structure Code where
  className : String
  source : String
  diagnostics : List Diagnostic
  deriving DecidableEq, Repr

namespace Code

def hasErrors (code : Code) : Bool :=
  code.diagnostics.any (·.severity = .error)

/-- A character as it stands between the quotes of a literal. -/
def escapeChar : Char → List Char
  | '\x5c' => ['\x5c', '\x5c']
  | '\x22' => ['\x5c', '\x22']
  | '\n' => ['\x5c', 'n']
  | '\r' => ['\x5c', 'r']
  | '\t' => ['\x5c', 't']
  | c => [c]

/-- Text as it stands between the quotes of a literal. -/
def escape (text : List Char) : List Char :=
  text.flatMap escapeChar

def quote (text : String) : String :=
  "\x22" ++ String.ofList (escape text.toList) ++ "\x22"

/-- The imports at the head of the code, with an empty line below them if there are any. -/
def importLines (template : Template) : String :=
  let imports := template.directives.filterMap fun directive =>
    match directive.kind with
    | .namespaceImport => some s!"using {directive.argument};\n"
    | _ => none
  if imports.isEmpty then "" else String.join imports ++ "\n"

/-- The base class that a template declares last, or else the one of the configuration. -/
def baseClass (configuration : Configuration) (template : Template) : String :=
  template.directives.foldl (fun found directive =>
    match directive.kind with
    | .baseType => directive.argument
    | _ => found) configuration.baseClass

def isBlankName (name : String) : Bool :=
  name.toList.all Text.isBlank

def classLine (className baseClass : String) : String :=
  if isBlankName baseClass then s!"public class {className}\n"
  else s!"public class {className} : {baseClass}\n"

/-- The statement that writes a chunk of the body. -/
def statement (methods : MethodNames) : Chunk → String
  | .literal text => "        " ++ methods.writeLiteral ++ "(" ++ quote text ++ ");\n"
  | .expression name => "        " ++ methods.write ++ "(" ++ name ++ ");\n"
  | .directive _ => ""

/-- What is to be remarked on a class: that it derives from nothing, and that it writes nothing. -/
def remarks (className baseClass : String) (template : Template) : List Diagnostic :=
  (if isBlankName baseClass then
    [⟨.error, s!"'{className}' has no base class to derive from."⟩] else []) ++
  (if template.body.isEmpty then [⟨.warning, s!"'{className}' has an empty body."⟩] else [])

/-- The code of a template under a configuration. The imports and the base class are those that the
template declares; the model type is the one of the configuration. -/
def generate (configuration : Configuration) (methods : MethodNames) (className : String)
    (template : Template) : Code :=
  let base := baseClass configuration template
  { className
    source :=
      importLines template ++ classLine className base ++ "\x7b\n" ++
      s!"    public {configuration.modelType} Model \x7b get; set; \x7d\n\n" ++
      s!"    public override async Task {methods.execute}()\n" ++ "    \x7b\n" ++
      String.join (template.body.map (statement methods)) ++
      "    \x7d\n\x7d\n"
    diagnostics := remarks className base template }

end Code

end TemplateTree
