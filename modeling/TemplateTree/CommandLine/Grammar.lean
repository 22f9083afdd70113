/-!
# Arguments of a command

The grammar of the arguments that a command takes: options, which have a value, flags, which have
none, and operands. Arguments are read from left to right. A value is judged only once the next
argument is known to be one that the command takes, so that of two faults in a row the later one may
be reported.
-/

namespace TemplateTree.CommandLine

/-- Why arguments do not make a run of a command. -/
inductive UsageError where
  | unknownArgument
  | missingOperand
  | missingValue
  | unwantedValue
  | repeatedArgument
  | helpWanted
  | versionWanted
  deriving DecidableEq, Repr

/-- The form of an argument: two dashes, behind which all are operands, a name behind two dashes and
what follows an equals sign, letters behind one dash, or anything else, a single dash included. -/
inductive Word where
  | divider
  | long (name : String) (value : Option String)
  | short (letter : Char) (more : List Char)
  | plain (text : String)
  deriving DecidableEq, Repr

/-- The form of an argument. -/
def Word.ofArgument (argument : String) : Word :=
  match argument.toList with
  | ['-', '-'] => .divider
  | '-' :: '-' :: text =>
    let name := text.takeWhile (· ≠ '=')
    match text.drop name.length with
    | [] => .long (String.ofList name) none
    | _ :: value => .long (String.ofList name) (some (String.ofList value))
  | '-' :: letter :: more => .short letter more
  | _ => .plain argument

/-- How many operands a command takes. -/
inductive Operands where
  | one
  | many
  deriving DecidableEq, Repr

/-- The arguments that a command takes. -/
structure Grammar where
  options : List String
  flags : List String
  operands : Operands
  deriving DecidableEq, Repr

/-- What has been read and not yet judged. -/
inductive Pending where
  | nothing
  | option (name : String) (value : Option String)
  | operands (texts : List String)
  deriving DecidableEq, Repr

/-- Arguments read. -/
structure Reading where
  options : List (String × String) := []
  flags : List String := []
  operands : List String := []
  pending : Pending := .nothing
  divided : Bool := false
  deriving DecidableEq, Repr

namespace Reading

def option? (reading : Reading) (name : String) : Option String :=
  reading.options.lookup name

def hasFlag (reading : Reading) (name : String) : Bool :=
  reading.flags.contains name

/-- Judges what is pending. An option has a value, which is not empty, and is given once; operands
are not empty. -/
def settle (reading : Reading) : Except UsageError Reading :=
  match reading.pending with
  | .nothing => .ok reading
  | .option _ none => .error .missingValue
  | .option name (some value) =>
    if (reading.option? name).isSome then .error .repeatedArgument
    else if value.isEmpty then .error .missingValue
    else .ok { reading with options := reading.options ++ [(name, value)], pending := .nothing }
  | .operands texts =>
    if texts.any String.isEmpty then .error .missingValue
    else .ok { reading with operands := reading.operands ++ texts, pending := .nothing }

/-- Judges what is pending and gives up with an error of its own if nothing is wrong. -/
def settleThen (reading : Reading) (error : UsageError) : Except UsageError Reading :=
  match reading.settle with
  | .ok _ => .error error
  | .error earlier => .error earlier

def hasOperand (reading : Reading) : Bool :=
  match reading.pending with
  | .operands _ => true
  | _ => !reading.operands.isEmpty

end Reading

namespace Grammar

/-- Reads an operand. -/
def readOperand (grammar : Grammar) (reading : Reading) (text : String) :
    Except UsageError Reading :=
  match grammar.operands, reading.pending with
  | .many, .operands texts => .ok { reading with pending := .operands (texts ++ [text]) }
  | operands, _ =>
    if operands = .one && reading.hasOperand then .error .unknownArgument
    else match reading.settle with
      | .error error => .error error
      | .ok settled => .ok { settled with pending := .operands [text] }

/-- Reads an argument with a name. -/
def readNamed (grammar : Grammar) (reading : Reading) (name : String) (value : Option String) :
    Except UsageError Reading :=
  if name = "help" then
    if value.isSome then .error .unwantedValue else reading.settleThen .helpWanted
  else if grammar.options.contains name then
    match reading.settle, value with
    | .error error, _ => .error error
    | .ok settled, none => .ok { settled with pending := .option name none }
    | .ok settled, some value => { settled with pending := .option name (some value) }.settle
  else if grammar.flags.contains name then
    if value.isSome then .error .unwantedValue
    else match reading.settle with
      | .error error => .error error
      | .ok settled =>
        if settled.hasFlag name then .error .repeatedArgument
        else .ok { settled with flags := settled.flags ++ [name] }
  else .error .unknownArgument

/-- Reads an argument. -/
def read (grammar : Grammar) (reading : Reading) (argument : String) :
    Except UsageError Reading :=
  if reading.divided then grammar.readOperand reading argument
  else match Word.ofArgument argument, reading.pending with
    | .divider, _ => .ok { reading with divided := true }
    | .long name value, _ => grammar.readNamed reading name value
    | .short letter _, _ =>
      if letter = 'h' then reading.settleThen .helpWanted else .error .unknownArgument
    | .plain text, .option name none =>
      .ok { reading with pending := .option name (some text) }
    | .plain text, _ => grammar.readOperand reading text

/-- Reads arguments one after the other. -/
def readAll (grammar : Grammar) (reading : Reading) : List String → Except UsageError Reading
  | [] => .ok reading
  | argument :: rest =>
    match grammar.read reading argument with
    | .error error => .error error
    | .ok next => grammar.readAll next rest

/-- Reads the arguments of a command. -/
def parse (grammar : Grammar) (arguments : List String) : Except UsageError Reading :=
  match grammar.readAll {} arguments with
  | .error error => .error error
  | .ok reading =>
    match reading.settle with
    | .error error => .error error
    | .ok settled =>
      if grammar.operands = .one && settled.operands.isEmpty then .error .missingOperand
      else .ok settled

end Grammar

end TemplateTree.CommandLine
