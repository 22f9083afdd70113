import TemplateTree.CommandLine.Grammar

/-!
# Invocations

The first argument that is not a request for help or for the version names a command. All that
follows it belongs to the command, which reads it by a grammar of its own.
-/

namespace TemplateTree.CommandLine

/-- What the program can do. -/
inductive Command where
  | chain
  | compile
  | resolve
  deriving DecidableEq, Repr

namespace Command

def all : List Command := [.chain, .compile, .resolve]

def name : Command → String
  | .chain => "chain"
  | .compile => "compile"
  | .resolve => "resolve"

def aliases : Command → List String
  | .chain => []
  | .compile => ["c"]
  | .resolve => ["config"]

def named? (name : String) : Option Command :=
  all.find? fun command => command.name = name || command.aliases.contains name

theorem mem_all (command : Command) : command ∈ all := by
  cases command <;> simp [all]

end Command

/-- What the program is called with. -/
structure Invocation where
  command : Option String
  arguments : List String
  deriving DecidableEq, Repr

namespace Invocation

/-- What a long name asks for that every invocation may ask for. -/
def request? (name : String) : Option UsageError :=
  match name with
  | "help" => some .helpWanted
  | "version" => some .versionWanted
  | _ => none

/-- What a letter asks for that every invocation may ask for. -/
def letterRequest? (letter : Char) : Option UsageError :=
  match letter with
  | 'h' => some .helpWanted
  | 'V' => some .versionWanted
  | _ => none

/-- The invocation of a command with the arguments behind its name. A request right behind the name
goes to the program, and a divider there is dropped; all else goes to the command. -/
def ofCommand (command : String) (arguments : List String) : Except UsageError Invocation :=
  match arguments with
  | [] => .ok ⟨some command, []⟩
  | argument :: rest =>
    match Word.ofArgument argument with
    | .divider => .ok ⟨some command, rest⟩
    | .long name value =>
      match request? name with
      | some request => .error (if value.isSome then .unwantedValue else request)
      | none => .ok ⟨some command, arguments⟩
    | .short letter more =>
      match letterRequest? letter with
      | some request =>
        if more.all fun letter => (letterRequest? letter).isSome then .error request
        else .ok ⟨some command, arguments⟩
      | none => .ok ⟨some command, arguments⟩
    | .plain _ => .ok ⟨some command, arguments⟩

/-- The invocation that the arguments of the program make. -/
def ofArguments : List String → Except UsageError Invocation
  | [] => .ok ⟨none, []⟩
  | argument :: rest =>
    match Word.ofArgument argument with
    | .divider =>
      match rest with
      | [] => .ok ⟨none, []⟩
      | command :: arguments => .ok ⟨some command, arguments⟩
    | .long name value =>
      match request? name with
      | some request => .error (if value.isSome then .unwantedValue else request)
      | none => .error .unknownArgument
    | .short letter _ => .error ((letterRequest? letter).getD .unknownArgument)
    | .plain command => ofCommand command rest

end Invocation

end TemplateTree.CommandLine
