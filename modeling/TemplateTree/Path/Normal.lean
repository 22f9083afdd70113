import TemplateTree.Path

/-!
# Normal paths

A template is known by its path relative to the root of the tree, written without `.` and `..`.
`normalize` brings any spelling into that form, or says why there is none: the path leaves the
root, or names no file below it.
-/

namespace TemplateTree.Path

/-- Why a path names no file of the tree: it is absolute and not below the root, it goes up from the
root, it starts at the root directory of the machine where the root does not, or it ends at the root
itself. -/
inductive Rejection where
  | outside
  | escapes
  | notInside
  | noFile
  deriving DecidableEq, Repr

/-- The wording of a rejection. -/
def Rejection.message (rejection : Rejection) (root path : Path) : String :=
  match rejection with
  | .outside => s!"'{path}' is outside the template root '{root}'"
  | .escapes => s!"'{path}' escapes the template root"
  | .notInside => s!"'{path}' is not a path inside the template root"
  | .noFile => s!"'{path}' does not name a file"

/-- Walks components below the names in `reversed`, the innermost of which comes first. -/
def walk (reversed : List String) : Location → Except Rejection (List String)
  | [] => .ok reversed.reverse
  | .name name :: rest => walk (name :: reversed) rest
  | .current :: rest => walk reversed rest
  | .parent :: rest =>
    match reversed with
    | [] => .error .escapes
    | _ :: outer => walk outer rest
  | .root :: _ => .error .notInside

/-- The components of a path below the root of the tree. -/
def relativeTo? (root path : Path) : Except Rejection Location :=
  if path.isAbsolute then
    match Text.after? root.components path.components with
    | some rest => .ok rest
    | none => .error .outside
  else .ok path.components

/-- The names that lead from the root of the tree to a file. -/
def normalNames (root path : Path) : Except Rejection (List String) :=
  match relativeTo? root path with
  | .error rejection => .error rejection
  | .ok rest =>
    match walk [] rest with
    | .error rejection => .error rejection
    | .ok [] => .error .noFile
    | .ok names => .ok names

/-- The path of a file relative to the root of the tree, in the one form that has only names. -/
def normalize (root path : Path) : Except Rejection Path :=
  match normalNames root path with
  | .error rejection => .error rejection
  | .ok names => .ok (ofNames names)

end TemplateTree.Path
