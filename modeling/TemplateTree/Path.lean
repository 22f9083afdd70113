import TemplateTree.Text.Search

/-!
# Paths

A path keeps the text it was written as; what it means is in its components. Two spellings with the
same components name the same place. Joining, and going up to the directories above, work on the
text, so that a path is printed as it was built.
-/

namespace TemplateTree

/-- A path as it was written. -/
structure Path where
  text : String
  deriving DecidableEq, Repr

/-- A step of a path. -/
inductive Path.Component where
  | root
  | current
  | parent
  | name (name : String)
  deriving DecidableEq, Repr

namespace Path

/-- What a path means. -/
abbrev Location := List Component

/-- The parts of a text between its slashes. -/
def pieces : List Char → List (List Char)
  | [] => [[]]
  | c :: rest =>
    if c = '/' then [] :: pieces rest
    else match pieces rest with
      | [] => [[c]]
      | piece :: more => (c :: piece) :: more

/-- The component that a part between slashes stands for. Nothing and a single dot stand for
none. -/
def component? : List Char → Option Component
  | [] => none
  | ['.'] => none
  | ['.', '.'] => some .parent
  | piece => some (.name (String.ofList piece))

def isRooted : List Char → Bool
  | '/' :: _ => true
  | _ => false

/-- The component that a path begins with, according to whether it is rooted and to its first
part. -/
def start (rooted : Bool) (first : List Char) : List Component :=
  if rooted then [.root] else if first = ['.'] then [.current] else (component? first).toList

def componentsOf (text : List Char) : Location :=
  match pieces text with
  | [] => []
  | first :: rest => start (isRooted text) first ++ rest.filterMap component?

def components (path : Path) : Location :=
  componentsOf path.text.toList

def isAbsolute (path : Path) : Bool :=
  isRooted path.text.toList

/-- A path below another, which an absolute path replaces. A slash is put between them unless one
stands there or the first is empty. -/
def join (base path : Path) : Path :=
  if path.isAbsolute then path
  else if base.text.isEmpty || base.text.toList.getLast? = some '/' then ⟨base.text ++ path.text⟩
  else ⟨base.text ++ "/" ++ path.text⟩

def ofNames (names : List String) : Path :=
  ⟨String.intercalate "/" names⟩

/-- The texts up to the end of each component in `parts`, when `read` stands before them. -/
def endsOf (read : List Char) : List (List Char) → List (List Char)
  | [] => []
  | piece :: rest =>
    let upTo := read ++ '/' :: piece
    if (component? piece).isSome then upTo :: endsOf upTo rest else endsOf upTo rest

/-- The directories above a path, from the outermost one down to the one that holds it. For a
relative path the first of them is the empty path. -/
def ancestors (path : Path) : List Path :=
  let text := path.text.toList
  match pieces text with
  | [] => []
  | first :: rest =>
    let ends :=
      if isRooted text then ['/'] :: endsOf first rest
      else if (start false first).isEmpty then [] :: endsOf first rest
      else [] :: first :: endsOf first rest
    ends.dropLast.map fun text => ⟨String.ofList text⟩

/-- The directory that holds a path. -/
def parent? (path : Path) : Option Path :=
  path.ancestors.getLast?

/-- A path prints as it was written. -/
instance : ToString Path := ⟨Path.text⟩

end Path

end TemplateTree
