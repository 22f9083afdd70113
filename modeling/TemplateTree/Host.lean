import TemplateTree.Code
import TemplateTree.Path.ClassName
import TemplateTree.Resolver
import TemplateTree.Template.Parser

/-!
# Hosts

A host compiles templates: it reads a template, finds the directive files that apply to it, merges
what they declare with the template's own directives, and generates code under the resulting
configuration. Its resolver is built when it is first needed. A template without a path inherits
nothing.
-/

namespace TemplateTree

/-- The name that directive files have unless the host says otherwise. -/
def standardDirectiveFilename : String := "_imports.tmpl"

/-- The settings of a compilation host, which never change. Class names are made from the paths of
templates. -/
structure Host where
  defaults : Defaults := {}
  root : Path
  directiveFilename : String := standardDirectiveFilename
  className : Path → String := Path.className

namespace Host

/-- The text of a template, which `label` stands for in errors. -/
def readSource (label : Path) (source : Stream) : Except CompileError (List Char) :=
  match source.content with
  | .error error => .error (.storage label error)
  | .ok content =>
    match Text.Utf8.decode? content with
    | some text => .ok text
    | none => .error (.invalidArgument (.notUtf8 label))

/-- Reads a template, which `label` stands for in errors. -/
def parse (label : Path) (text : List Char) : Except CompileError Template :=
  match Template.parse text with
  | .ok template => .ok template
  | .error error => .error (.malformed label error)

def generate (host : Host) (configuration : Configuration) (className : String)
    (template : Template) : Code :=
  Code.generate configuration host.defaults.methods className (configuration.apply template)

variable {Store Agenda : Type}

/-- The resolver in use, which is built if there is none. -/
def resolver (host : Host) (workspace : Workspace Store Agenda) :
    Resolver × Workspace Store Agenda :=
  match workspace.installed with
  | some resolver => (resolver, workspace)
  | none =>
    let (resolver, after) := workspace.addResolver host.root host.directiveFilename
    (resolver, { after with installed := some resolver, builds := after.builds + 1 })

variable [Storage Store]

/-- The steps in which a template that has been read is configured: the directive files that apply
to it are found, and its own directives are merged over them. -/
def configureSteps (host : Host) (interrupt : Interrupt Store Agenda) (resolver : Resolver)
    (relative : Path) (template : Template) :
    Process (Workspace Store Agenda) (Except CompileError Configuration) := do
  match ← resolver.chainSteps interrupt relative with
  | .error error => return .error error
  | .ok chain =>
    .change (·.warn (Directive.warnings relative.text template.directives))
    return .ok
      (.merge (chain.map (·.declarations)) (.ofDirectives template.directives) host.defaults)

def configure (host : Host) (interrupt : Interrupt Store Agenda) (resolver : Resolver)
    (relative : Path) (template : Template) :
    Workspace Store Agenda → Except CompileError Configuration × Workspace Store Agenda :=
  (host.configureSteps interrupt resolver relative template).run

/-- The steps in which the text of a template that has no path is compiled. -/
def compileInlineSteps (host : Host) (text : List Char) :
    Process (Workspace Store Agenda) (Except CompileError Code) :=
  match parse inlineLabel text with
  | .error error => return .error error
  | .ok template => do
    let configuration := Configuration.merge [] (.ofDirectives template.directives) host.defaults
    .change (·.warn (Directive.warnings inlineLabel.text template.directives))
    return .ok (host.generate configuration host.defaults.className template)

def compileInline (host : Host) (text : List Char) :
    Workspace Store Agenda → Except CompileError Code × Workspace Store Agenda :=
  (host.compileInlineSteps text).run

/-- The steps in which the text of the template at a path is compiled. -/
def compileAtSteps (host : Host) (interrupt : Interrupt Store Agenda) (path : Path)
    (text : List Char) : Process (Workspace Store Agenda) (Except CompileError Code) := do
  let resolver ← .act host.resolver
  match resolver.normalize path with
  | .error error => return .error error
  | .ok relative =>
    match parse relative text with
    | .error error => return .error error
    | .ok template =>
      match ← host.configureSteps interrupt resolver relative template with
      | .error error => return .error error
      | .ok configuration =>
        return .ok (host.generate configuration (host.className relative) template)

def compileAt (host : Host) (interrupt : Interrupt Store Agenda) (path : Path) (text : List Char) :
    Workspace Store Agenda → Except CompileError Code × Workspace Store Agenda :=
  (host.compileAtSteps interrupt path text).run

/-- The steps in which a template is compiled from its source. -/
def compileSteps (host : Host) (interrupt : Interrupt Store Agenda) (path : Option Path)
    (source : Option Stream) : Process (Workspace Store Agenda) (Except CompileError Code) :=
  match source with
  | none => return .error (.invalidArgument .missingSource)
  | some source =>
    match readSource (path.getD inlineLabel) source with
    | .error error => return .error error
    | .ok text =>
      match path with
      | none => host.compileInlineSteps text
      | some path => host.compileAtSteps interrupt path text

def compile (host : Host) (interrupt : Interrupt Store Agenda) (path : Option Path)
    (source : Option Stream) :
    Workspace Store Agenda → Except CompileError Code × Workspace Store Agenda :=
  (host.compileSteps interrupt path source).run

/-- The steps in which the template at a path of the storage is compiled. -/
def compileFileSteps (host : Host) (interrupt : Interrupt Store Agenda) (path : Path) :
    Process (Workspace Store Agenda) (Except CompileError Code) :=
  match Path.normalize host.root path with
  | .error rejection => return .error (.invalidArgument (.rejected rejection host.root path))
  | .ok relative => do
    match ← .act (Workspace.openFile interrupt relative) with
    | .error error => return .error (.storage relative error)
    | .ok source => host.compileSteps interrupt (some relative) (some source)

def compileFile (host : Host) (interrupt : Interrupt Store Agenda) (path : Path) :
    Workspace Store Agenda → Except CompileError Code × Workspace Store Agenda :=
  (host.compileFileSteps interrupt path).run

/-- The members of a batch: each compiles the template at one of the paths. -/
def members (host : Host) (interrupt : Interrupt Store Agenda) (paths : List Path) :
    List (Process (Workspace Store Agenda) (Path × Except CompileError Code)) :=
  paths.map fun path => (path, ·) <$> host.compileFileSteps interrupt path

/-- Compiles the templates at several paths together, as a schedule has it. -/
def compileBatch (host : Host) (interrupt : Interrupt Store Agenda) (schedule : List Nat)
    (paths : List Path) (workspace : Workspace Store Agenda) :
    List (Path × Except CompileError Code) × Workspace Store Agenda :=
  Process.together schedule (host.members interrupt paths) workspace

section

variable (host : Host) (interrupt : Interrupt Store Agenda) (workspace : Workspace Store Agenda)

theorem configure_eq (resolver : Resolver) (relative : Path) (template : Template) :
    host.configure interrupt resolver relative template workspace =
      match resolver.chain interrupt relative workspace with
      | (.error error, after) => (.error error, after)
      | (.ok chain, after) =>
        (.ok (.merge (chain.map (·.declarations)) (.ofDirectives template.directives)
            host.defaults),
          after.warn (Directive.warnings relative.text template.directives)) := by
  simp only [configure, configureSteps, Process.run_bind, Resolver.chain]
  rcases (resolver.chainSteps interrupt relative).run workspace with ⟨error | chain, after⟩ <;> rfl

omit [Storage Store] in
theorem compileInline_eq (text : List Char) :
    host.compileInline text workspace =
      match parse inlineLabel text with
      | .error error => (.error error, workspace)
      | .ok template =>
        let configuration :=
          Configuration.merge [] (.ofDirectives template.directives) host.defaults
        (.ok (host.generate configuration host.defaults.className template),
          workspace.warn (Directive.warnings inlineLabel.text template.directives)) := by
  rw [compileInline, compileInlineSteps]
  cases parse inlineLabel text <;> rfl

theorem compileAt_eq (path : Path) (text : List Char) :
    host.compileAt interrupt path text workspace =
      let (resolver, workspace) := host.resolver workspace
      match resolver.normalize path with
      | .error error => (.error error, workspace)
      | .ok relative =>
        match parse relative text with
        | .error error => (.error error, workspace)
        | .ok template =>
          match host.configure interrupt resolver relative template workspace with
          | (.error error, after) => (.error error, after)
          | (.ok configuration, after) =>
            (.ok (host.generate configuration (host.className relative) template), after) := by
  simp only [compileAt, compileAtSteps, Process.run_bind, Process.run_act, configure]
  rcases host.resolver workspace with ⟨resolver, ready⟩
  simp only
  cases resolver.normalize path with
  | error error => rfl
  | ok relative =>
    simp only
    cases parse relative text with
    | error error => rfl
    | ok template =>
      simp only [Process.run_bind]
      rcases (host.configureSteps interrupt resolver relative template).run ready with
        ⟨error | configuration, after⟩ <;> rfl

theorem compile_eq (path : Option Path) (source : Option Stream) :
    host.compile interrupt path source workspace =
      match source with
      | none => (.error (.invalidArgument .missingSource), workspace)
      | some source =>
        match readSource (path.getD inlineLabel) source with
        | .error error => (.error error, workspace)
        | .ok text =>
          match path with
          | none => host.compileInline text workspace
          | some path => host.compileAt interrupt path text workspace := by
  cases source with
  | none => rfl
  | some source =>
    simp only [compile, compileSteps]
    cases readSource (path.getD inlineLabel) source with
    | error error => rfl
    | ok text => cases path <;> rfl

theorem compileFile_eq (path : Path) :
    host.compileFile interrupt path workspace =
      match Path.normalize host.root path with
      | .error rejection =>
        (.error (.invalidArgument (.rejected rejection host.root path)), workspace)
      | .ok relative =>
        match Workspace.openFile interrupt relative workspace with
        | (.error error, after) => (.error (.storage relative error), after)
        | (.ok source, after) => host.compile interrupt (some relative) (some source) after := by
  rw [compileFile, compileFileSteps]
  cases Path.normalize host.root path with
  | error rejection => rfl
  | ok relative =>
    simp only [Process.run_bind, Process.run_act]
    rcases Workspace.openFile interrupt relative workspace with ⟨error | source, after⟩ <;> rfl

end

/-- The configuration of the template at a path of the storage. -/
def resolve (host : Host) (interrupt : Interrupt Store Agenda) (path : Path)
    (workspace : Workspace Store Agenda) :
    Except CompileError Configuration × Workspace Store Agenda :=
  let (resolver, workspace) := host.resolver workspace
  match resolver.normalize path with
  | .error error => (.error error, workspace)
  | .ok relative =>
    match Workspace.openFile interrupt relative workspace with
    | (.error error, after) => (.error (.storage relative error), after)
    | (.ok source, after) =>
      match readSource relative source with
      | .error error => (.error error, after)
      | .ok text =>
        match parse relative text with
        | .error error => (.error error, after)
        | .ok template => host.configure interrupt resolver relative template after

/-- Where directive files may apply to the template at a path, each with whether there is one. -/
def levels (host : Host) (path : Path) (workspace : Workspace Store Agenda) :
    Except CompileError (List (Path × Bool)) × Workspace Store Agenda :=
  let (resolver, workspace) := host.resolver workspace
  match resolver.directivePaths path with
  | .error error => (.error error, workspace)
  | .ok paths =>
    (.ok (paths.map fun path => (path, Storage.hasFile workspace.storage path)), workspace)

end Host

end TemplateTree
