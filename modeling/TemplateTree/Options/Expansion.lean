import TemplateTree.Text.Alphanumeric
import TemplateTree.Text.Search

/-!
# Expansion

Text in which `~` stands for the home directory and `$NAME` for an environment variable. A variable
can be written `$NAME`, `${NAME}` or, with a default, `${NAME:-default}`; `$$` stands for one `$`.
What a variable expands to is not expanded again, and a `~` that comes out of one stays.
-/

namespace TemplateTree

/-- What the system knows of the user that a program runs for. -/
class Account where
  home? : Option String := none
  deriving Repr

/-- Unless it is said otherwise, nothing is known. -/
instance : Account := {}

/-- The variables that a program finds set, with their values, and the user that it runs for. -/
structure Environment where
  bindings : List (String × String) := []
  [account : Account]
  deriving Repr

/-- The value of a variable. A variable is written as its name, an equals sign and its value, and
the value that goes with a name is what follows the name and an equals sign in the first variable
that starts so. No variable goes with the empty name. -/
def Environment.get? (environment : Environment) (name : String) : Option String :=
  if name.isEmpty then none
  else environment.bindings.findSome? fun (key, value) =>
    (Text.after? (name.toList ++ ['=']) (key.toList ++ '=' :: value.toList)).map String.ofList

/-- As long as no equals sign stands in a name, the value of a variable is the one bound to it. -/
theorem Environment.get?_eq_lookup {environment : Environment} {name : String} (named : name ≠ "")
    (plain : '=' ∉ name.toList)
    (bound : ∀ binding ∈ environment.bindings, '=' ∉ binding.1.toList) :
    environment.get? name = environment.bindings.lookup name := by
  obtain ⟨bindings⟩ := environment
  simp only [get?, String.isEmpty_iff, named, if_false]
  induction bindings with
  | nil => rfl
  | cons binding bindings hypothesis =>
    obtain ⟨key, value⟩ := binding
    simp only [List.mem_cons, forall_eq_or_imp] at bound
    rw [List.findSome?_cons, List.lookup_cons, hypothesis bound.2]
    by_cases same : name = key
    · subst same
      have taken : Text.after? (name.toList ++ ['=']) (name.toList ++ '=' :: value.toList) =
          some value.toList := Text.after?_eq_some_iff.2 (by simp)
      simp [taken]
    · have missed : Text.after? (name.toList ++ ['=']) (key.toList ++ '=' :: value.toList) =
          none := by
        refine Text.after?_eq_none_iff.2 fun rest equal => same ?_
        rw [List.append_assoc, List.singleton_append,
          Text.append_cons_inj_of_not_mem bound.1 plain] at equal
        exact (String.toList_inj.1 equal.1).symm
      have apart : (name == key) = false := beq_eq_false_iff_ne.2 same
      simp [missed, apart]

/-- The home directory: the one that a variable names, or else that of the user. -/
def Environment.home? (environment : Environment) : Option String :=
  ((environment.get? "HOME").filter fun home => !home.isEmpty).or environment.account.home?

namespace Expansion

/-- Text needs a variable that is not set. -/
structure Unset where
  name : String
  deriving DecidableEq, Repr

def isNamePart (c : Char) : Bool :=
  Text.isAlphanumeric c || c == '_'

/-- The text before a separator and the text behind it, if there is one. -/
def splitAt? (separator : List Char) : List Char → Option (List Char × List Char)
  | [] => if separator.isEmpty then some ([], []) else none
  | c :: rest =>
    match Text.after? separator (c :: rest) with
    | some behind => some ([], behind)
    | none => (splitAt? separator rest).map fun (before, behind) => (c :: before, behind)

/-- The name and the default in a reference in braces. A colon and a dash at the very beginning
belong to the name. -/
def nameAndDefault (body : List Char) : List Char × Option (List Char) :=
  match splitAt? [':', '-'] body with
  | some (c :: name, default) => (c :: name, some default)
  | _ => (body, none)

/-- What a reference in braces stands for. A variable that is not set gives way to the default; one
that is set to nothing does not. -/
def braced (environment : Environment) (body : List Char) : Except Unset (List Char) :=
  let (name, default) := nameAndDefault body
  match environment.get? (String.ofList name), default with
  | some value, _ => .ok value.toList
  | none, some default => .ok default
  | none, none => .error ⟨String.ofList name⟩

/-- What a `$` stands for before this text, and the number of characters of the text that belong to
the reference. -/
def reference (environment : Environment) (text : List Char) :
    Except Unset (List Char × Nat) :=
  match text with
  | '$' :: _ => .ok (['$'], 1)
  | '\x7b' :: inner =>
    match splitAt? ['\x7d'] inner with
    | none => .ok (['$', '\x7b'], 1)
    | some (body, _) =>
      match braced environment body with
      | .ok value => .ok (value, body.length + 2)
      | .error unset => .error unset
  | text =>
    match text.takeWhile isNamePart with
    | [] => .ok (['$'], 0)
    | name =>
      match environment.get? (String.ofList name) with
      | some value => .ok (value.toList, name.length)
      | none => .error ⟨String.ofList name⟩

/-- The name of the variable that a `$` before this text speaks of, if it speaks of one. -/
def nameIn? : List Char → Option (List Char)
  | '\x7b' :: inner => (splitAt? ['\x7d'] inner).map fun parts => (nameAndDefault parts.1).1
  | text => some (text.takeWhile isNamePart)

/-- The names of variables that a text may need to be expanded. -/
def namesIn : List Char → List String
  | [] => []
  | c :: rest =>
    if c = '$' then ((nameIn? rest).map String.ofList).toList ++ namesIn rest else namesIn rest

/-- Expands the variables in a text after its next `skip` characters, which belong to a reference
expanded already. -/
def expandVariablesAfter (environment : Environment) : Nat → List Char → Except Unset (List Char)
  | _, [] => .ok []
  | skip + 1, _ :: rest => expandVariablesAfter environment skip rest
  | 0, c :: rest =>
    if c = '$' then
      match reference environment rest with
      | .error unset => .error unset
      | .ok (value, taken) =>
        match expandVariablesAfter environment taken rest with
        | .ok expanded => .ok (value ++ expanded)
        | .error unset => .error unset
    else
      match expandVariablesAfter environment 0 rest with
      | .ok expanded => .ok (c :: expanded)
      | .error unset => .error unset

def expandVariables (environment : Environment) (text : List Char) : Except Unset (List Char) :=
  expandVariablesAfter environment 0 text

/-- Expands a `~` at the beginning of a text, if it is the whole text or a slash follows. -/
def home (environment : Environment) (text : List Char) : List Char :=
  match environment.home?, text with
  | some home, ['~'] => home.toList
  | some home, '~' :: '/' :: rest => home.toList ++ '/' :: rest
  | _, text => text

/-- Expands a text. -/
def expand (environment : Environment) (text : List Char) : Except Unset (List Char) :=
  match expandVariables environment text with
  | .error unset => .error unset
  | .ok expanded =>
    .ok (if text.head? = some '~' then home environment expanded else expanded)

def Unset.message (unset : Unset) : String :=
  s!"error looking key '{unset.name}' up: environment variable not found"

end Expansion

end TemplateTree
