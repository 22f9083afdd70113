import TemplateTree.Storage.Disk

/-!
# Storage in a directory

A directory of a disk as a storage, and the templates found in it: the regular files below it with
the extension of templates, wherever they stand, in the order of their paths. Links are not looked
through.
-/

namespace TemplateTree

/-- A directory of a disk. -/
structure Directory where
  disk : Disk
  place : Disk.Place

namespace Directory

def root (directory : Directory) : Path :=
  Disk.pathOf directory.place

/-- The directory that a path leads to. -/
def at? (disk : Disk) (path : Path) : Except IoError Directory :=
  match disk.placeOf path with
  | .error error => .error error
  | .ok place =>
    if disk.isDirectory (Disk.pathOf place) then .ok ⟨disk, place⟩
    else .error ⟨.notADirectory, s!"'{Disk.pathOf place}' is not a directory"⟩

/-- A directory answers for the paths below it. -/
instance : Storage Directory where
  stamp directory path := directory.disk.stamp (directory.root.join path)
  stream directory path := directory.disk.stream (directory.root.join path)

/-- What follows the last dot of a name, unless that dot is the first character or there is none. -/
def extension? (name : List Char) : Option (List Char) :=
  let last := name.reverse.takeWhile (· ≠ '.')
  let before := name.take (name.length - last.length - 1)
  if last.length = name.length || before.isEmpty then none else some last.reverse

def isTemplate (extension exclude : String) (name : String) : Bool :=
  extension? name.toList = some extension.toList && name ≠ exclude

/-- Whether a place is not behind another in the order of places, which goes by the first name that
differs. -/
def isOrdered : (first second : Disk.Place) → Bool
  | [], _ => true
  | _ :: _, [] => false
  | name :: first, other :: second =>
    name < other || (name = other && isOrdered first second)

/-- The places of the templates below the directory, in order. -/
def templatePlaces (directory : Directory) (extension exclude : String) : List Disk.Place :=
  let places := (directory.disk.filesBelow directory.place).map Prod.fst
  (places.filter fun place =>
    match place.getLast? with
    | some name => isTemplate extension exclude name
    | none => false).mergeSort isOrdered

/-- The templates below the directory, by their paths relative to it. -/
def templates (directory : Directory) (extension exclude : String) : List Path :=
  (directory.templatePlaces extension exclude).map Path.ofNames

end Directory

end TemplateTree
