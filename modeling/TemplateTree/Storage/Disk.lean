import TemplateTree.Storage
import TemplateTree.Table

/-!
# Disks

A tree of directories, files and symbolic links, and the directory that relative paths start from.
Every entry stands under its place: the names that lead to it from the root directory without
passing through a link. `find` follows a path, and the links on it, to a place.
-/

namespace TemplateTree

/-- What can stand at a place. -/
inductive Disk.Entry where
  | file (content : List UInt8)
  | directory
  | link (target : String)
  deriving DecidableEq, Repr

/-- The names that lead to a place from the root directory. -/
abbrev Disk.Place := List String

/-- A tree of directories, files and links. -/
structure Disk where
  entries : Table Disk.Place Disk.Entry := .empty
  current : Disk.Place := []

namespace Disk

/-- There is nothing at a path. -/
def noEntry : IoError := ⟨.notFound, "No such file or directory (os error 2)"⟩

def entryExists : IoError := ⟨.alreadyExists, "File exists (os error 17)"⟩

def notADirectory : IoError := ⟨.notADirectory, "Not a directory (os error 20)"⟩

def isADirectory : IoError := ⟨.isADirectory, "Is a directory (os error 21)"⟩

def nameTooLong : IoError := ⟨.invalidFilename, "File name too long (os error 36)"⟩

def tooManyLinks : IoError := ⟨.filesystemLoop, "Too many levels of symbolic links (os error 40)"⟩

/-- A path holds a character that ends paths. -/
def brokenPath : IoError := ⟨.invalidInput, "file name contained an unexpected NUL byte"⟩

/-- The most links that a path may lead through. -/
def mostLinks : Nat := 40

def longestName : Nat := 255

def longestPath : Nat := 4095

/-- What stands at a place. -/
def entryAt (disk : Disk) (place : Place) : Option Entry :=
  if place.isEmpty then some .directory else disk.entries.get? place

/-- Where a path leads. -/
inductive Found where
  | entry (place : Place) (entry : Entry)
  | vacant (place : Place)
  deriving DecidableEq, Repr

/-- Follows the parts of a path from a directory up to the first link. A link at the end is followed
only if `follow` says so; where the parts lead from a link is up to `jump`. -/
def walk (disk : Disk) (follow : Bool) (jump : Place → List (List Char) → Except IoError Found)
    (place : Place) : List (List Char) → Except IoError Found
  | [] => .ok (.entry place .directory)
  | piece :: rest =>
    match Path.component? piece with
    | some .parent => walk disk follow jump place.dropLast rest
    | some (.name name) =>
      let next := place ++ [name]
      if longestName < name.utf8ByteSize then .error nameTooLong
      else match disk.entryAt next with
        | none => if rest.isEmpty then .ok (.vacant next) else .error noEntry
        | some .directory => walk disk follow jump next rest
        | some (.file content) =>
          if rest.isEmpty then .ok (.entry next (.file content)) else .error notADirectory
        | some (.link target) =>
          if rest.isEmpty && !follow then .ok (.entry next (.link target))
          else
            let target := target.toList
            jump (if Path.isRooted target then [] else place) (Path.pieces target ++ rest)
    | none | some .root | some .current => walk disk follow jump place rest

/-- Follows the parts of a path from a directory. A link at the end is followed only if `follow`
says so; `links` links may be followed. -/
def findFrom (disk : Disk) (follow : Bool) :
    (links : Nat) → Place → List (List Char) → Except IoError Found
  | 0 => disk.walk follow fun _ _ => .error tooManyLinks
  | links + 1 => disk.walk follow (findFrom disk follow links)

/-- Why a text is no path at all. -/
def fault? (path : Path) : Option IoError :=
  if path.text.isEmpty then some noEntry
  else if path.text.toList.contains '\x00' then some brokenPath
  else if longestPath < path.text.utf8ByteSize then some nameTooLong
  else none

def origin (disk : Disk) (path : Path) : Place :=
  if path.isAbsolute then [] else disk.current

/-- Where a path leads, following a link at its end only if `follow` says so. -/
def findWith (disk : Disk) (follow : Bool) (path : Path) : Except IoError Found :=
  match fault? path with
  | some error => .error error
  | none =>
    disk.findFrom follow mostLinks (disk.origin path) (Path.pieces path.text.toList)

/-- Where a path leads. -/
def find (disk : Disk) (path : Path) : Except IoError Found :=
  disk.findWith true path

def isFile (disk : Disk) (path : Path) : Bool :=
  match disk.find path with
  | .ok (.entry _ (.file _)) => true
  | _ => false

def isDirectory (disk : Disk) (path : Path) : Bool :=
  match disk.find path with
  | .ok (.entry _ .directory) => true
  | _ => false

def pathOf (place : Place) : Path :=
  ⟨"/" ++ String.intercalate "/" place⟩

/-- The place of an existing entry, links followed. -/
def placeOf (disk : Disk) (path : Path) : Except IoError Place :=
  match disk.find path with
  | .ok (.entry place _) => .ok place
  | .ok (.vacant _) => .error noEntry
  | .error error => .error error

/-- The content of a file. Opening a directory succeeds; reading it does not. -/
def stream (disk : Disk) (path : Path) : Except IoError Stream :=
  match disk.find path with
  | .ok (.entry _ (.file content)) => .ok ⟨content, none⟩
  | .ok (.entry _ _) => .ok ⟨[], some isADirectory⟩
  | .ok (.vacant _) => .error noEntry
  | .error error => .error error

/-- The stamp of a regular file. All files of a disk are of one version, because nothing changes
while a disk is compiled from. -/
def stamp (disk : Disk) (path : Path) : Except IoError (Option Stamp) :=
  match disk.find path with
  | .ok (.entry _ (.file content)) => .ok (some ⟨0, content.length⟩)
  | .ok _ => .ok none
  | .error error => if error.kind = .notFound then .ok none else .error error

def put (disk : Disk) (place : Place) (entry : Entry) : Disk :=
  { disk with entries := disk.entries.insert place entry }

/-- Writes a file, in place of the one there. -/
def write (disk : Disk) (path : Path) (content : List UInt8) : Except IoError Disk :=
  match disk.find path with
  | .ok (.entry place (.file _)) | .ok (.vacant place) => .ok (disk.put place (.file content))
  | .ok (.entry _ _) => .error isADirectory
  | .error error => .error error

/-- A path without the slashes at its end. -/
def withoutTrailingSlashes (path : Path) : Path :=
  let text := path.text.toList
  match (text.reverse.dropWhile (· = '/')).reverse with
  | [] => path
  | kept => ⟨String.ofList kept⟩

/-- Puts an entry where nothing stands. -/
def add (disk : Disk) (path : Path) (entry : Entry) : Except IoError Disk :=
  match fault? path, disk.findWith false (withoutTrailingSlashes path) with
  | some error, _ | none, .error error => .error error
  | none, .ok (.entry _ _) => .error entryExists
  | none, .ok (.vacant place) => .ok (disk.put place entry)

/-- Makes a directory along with the directories above it, of which `above` are given from the
innermost one up. What exists already is left as it is. -/
def makeDirectoriesBelow (disk : Disk) (path : Path) :
    (above : List Path) → Except IoError Disk
  | [] =>
    match disk.add path .directory with
    | .ok after => .ok after
    | .error error => if disk.isDirectory path then .ok disk else .error error
  | parent :: above =>
    match disk.add path .directory with
    | .ok after => .ok after
    | .error error =>
      if error.kind = .notFound then
        match if parent.text.isEmpty then .ok disk else makeDirectoriesBelow disk parent above with
        | .error error => .error error
        | .ok below =>
          match below.add path .directory with
          | .ok after => .ok after
          | .error error => if below.isDirectory path then .ok below else .error error
      else if disk.isDirectory path then .ok disk else .error error

/-- Makes a directory along with the directories above it, unless it exists. -/
def makeDirectories (disk : Disk) (path : Path) : Except IoError Disk :=
  if path.text.isEmpty then .ok disk
  else disk.makeDirectoriesBelow path path.ancestors.reverse

/-- Puts an entry at a path, and makes the directories above it. -/
def plant (disk : Disk) (path : Path) (entry : Entry) : Except IoError Disk :=
  match disk.makeDirectories (path.parent?.getD ⟨""⟩) with
  | .error error => .error error
  | .ok disk =>
    match entry with
    | .file content => disk.write path content
    | .directory => disk.makeDirectories path
    | .link _ => disk.add path entry

/-- The regular files at and below a place, each with the names that lead to it from there. -/
def filesBelow (disk : Disk) (place : Place) : List (Place × List UInt8) :=
  disk.entries.entries.filterMap fun entry =>
    match entry.2, Text.after? place entry.1 with
    | .file content, some below => some (below, content)
    | _, _ => none

end Disk

end TemplateTree
