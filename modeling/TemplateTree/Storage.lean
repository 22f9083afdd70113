import TemplateTree.Failure

/-!
# Storages

Where templates and directive files are kept. A storage says at little cost which revision of a file
it holds, and hands out the content. Nothing at a path is an answer to the first question and an
error to the second.
-/

namespace TemplateTree

/-- What tells the revisions of a file apart before any of its content is read. -/
structure Stamp where
  version : Nat
  length : Nat
  deriving DecidableEq, Repr

/-- Content as a reader meets it: bytes, and then possibly a failure instead of the end. -/
structure Stream where
  bytes : List UInt8
  failure : Option IoError := none
  deriving DecidableEq, Repr

/-- Everything that a stream holds, unless it fails. -/
def Stream.content (stream : Stream) : Except IoError (List UInt8) :=
  match stream.failure with
  | none => .ok stream.bytes
  | some error => .error error

/-- The two questions that a storage answers. -/
class Storage (Store : Type) where
  stamp : Store → Path → Except IoError (Option Stamp)
  stream : Store → Path → Except IoError Stream

namespace Storage

variable {Store : Type} [Storage Store]

/-- Whether there is a file at a path. A storage that fails has none. -/
def hasFile (store : Store) (path : Path) : Bool :=
  match stamp store path with
  | .ok (some _) => true
  | _ => false

end Storage

end TemplateTree
