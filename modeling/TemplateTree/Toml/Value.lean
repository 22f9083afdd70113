/-!
# TOML values

What a TOML document says: a table of keys and values, which may be tables again. A table remembers
how it was written, because that decides whether the document may add to it later.
-/

namespace TemplateTree.Toml

/-- How a table was written: in braces, and then it is complete; by a key with dots in it, and then
keys of the same section may add to it; by a header that only leads through it, and then a header of
its own may follow; or by that. -/
inductive Origin where
  | inline
  | dotted
  | implied
  | header
  deriving DecidableEq, Repr

/-- A value. Of booleans, numbers, dates and times nothing is kept; tables under headers in double
brackets make a list. -/
inductive Value where
  | string (text : String)
  | scalar
  | array (items : List Value)
  | table (origin : Origin) (entries : List (String × Value))
  | tables (tables : List (List (String × Value)))

/-- The keys of a table with their values. -/
abbrev Entries := List (String × Value)

/-- Puts a value in the place of the one that a key has. -/
def Entries.change (entries : Entries) (key : String) (value : Value) : Entries :=
  entries.map fun entry => if entry.1 = key then (key, value) else entry

/-- Gives a value to a key, which must not have one. Further keys lead into tables that are made for
them on the way. -/
def Entries.assign (entries : Entries) (value : Value) : List String → Option Entries
  | [] => none
  | [key] =>
    if (entries.lookup key).isSome then none else some (entries ++ [(key, value)])
  | key :: keys =>
    match entries.lookup key with
    | none =>
      (assign [] value keys).map fun below => entries ++ [(key, .table .dotted below)]
    | some (.table .dotted table) =>
      (assign table value keys).map fun below => change entries key (.table .dotted below)
    | some _ => none

/-- Adds the keys of a section to a table that a header has implied, which must not have them. -/
def Entries.complete (table body : Entries) : Option Entries :=
  if body.any fun entry => (table.lookup entry.1).isSome then none
  else some (table ++ body)

/-- Adds the section under a header, in double brackets or in single ones. -/
def Entries.attach (entries : Entries) (double : Bool) (body : Entries) :
    List String → Option Entries
  | [] => none
  | [key] =>
    match entries.lookup key with
    | none =>
      some (entries ++ [(key, if double then .tables [body] else .table .header body)])
    | some (.table .implied table) =>
      if double then none
      else (complete table body).map fun below => change entries key (.table .header below)
    | some (.tables tables) =>
      if double then some (change entries key (.tables (tables ++ [body]))) else none
    | some _ => none
  | key :: keys =>
    match entries.lookup key with
    | none =>
      (attach [] double body keys).map fun below => entries ++ [(key, .table .implied below)]
    | some (.table .inline _) => none
    | some (.table origin table) =>
      (attach table double body keys).map fun below => change entries key (.table origin below)
    | some (.tables tables) =>
      match tables.getLast? with
      | some table =>
        (attach table double body keys).map fun below =>
          change entries key (.tables (tables.dropLast ++ [below]))
      | none => none
    | some _ => none

end TemplateTree.Toml
