import TemplateTree.CommandLine.Invocation
import TemplateTree.Path

/-!
# Arguments by command

What each command can be told.
-/

namespace TemplateTree.CommandLine

/-- Which tree a command works on: the root of it and the document with its options, if they are
given. -/
structure TreeArguments where
  root : Option Path := none
  config : Option Path := none
  deriving DecidableEq, Repr

def Reading.path? (reading : Reading) (name : String) : Option Path :=
  (reading.option? name).map Path.mk

def Reading.firstPath (reading : Reading) : Path :=
  ⟨reading.operands.headD ""⟩

def TreeArguments.ofReading (reading : Reading) : TreeArguments where
  root := reading.path? "root"
  config := reading.path? "config"

/-- What to compile, where nothing stands for all templates of the tree, and the directory for the
code, which is printed if there is none. -/
structure CompileArguments where
  paths : List Path := []
  tree : TreeArguments := {}
  out : Option Path := none
  stats : Bool := false
  deriving DecidableEq, Repr

def CompileArguments.grammar : Grammar where
  options := ["root", "config", "out"]
  flags := ["stats"]
  operands := .many

def CompileArguments.parse (arguments : List String) : Except UsageError CompileArguments :=
  (grammar.parse arguments).map fun reading =>
    { paths := reading.operands.map Path.mk
      tree := .ofReading reading
      out := reading.path? "out"
      stats := reading.hasFlag "stats" }

/-- Which configuration to show, and how. -/
structure ResolveArguments where
  path : Path
  tree : TreeArguments := {}
  json : Bool := false
  deriving DecidableEq, Repr

def ResolveArguments.grammar : Grammar where
  options := ["root", "config"]
  flags := ["json"]
  operands := .one

def ResolveArguments.parse (arguments : List String) : Except UsageError ResolveArguments :=
  (grammar.parse arguments).map fun reading =>
    { path := reading.firstPath
      tree := .ofReading reading
      json := reading.hasFlag "json" }

/-- The template whose directive files to show. -/
structure ChainArguments where
  path : Path
  tree : TreeArguments := {}
  deriving DecidableEq, Repr

def ChainArguments.grammar : Grammar where
  options := ["root", "config"]
  flags := []
  operands := .one

def ChainArguments.parse (arguments : List String) : Except UsageError ChainArguments :=
  (grammar.parse arguments).map fun reading =>
    { path := reading.firstPath, tree := .ofReading reading }

end TemplateTree.CommandLine
