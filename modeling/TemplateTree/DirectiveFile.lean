import TemplateTree.Digest.Fingerprint
import TemplateTree.Directive.Declarations
import TemplateTree.Directive.File
import TemplateTree.Failure
import TemplateTree.Text.Utf8

/-!
# Directive files that have been read

What is kept of a directive file: where it is, a fingerprint of its content, and what its directives
come to.
-/

namespace TemplateTree

/-- A directive file that has been read, with the fingerprint of its content. -/
structure DirectiveFile where
  path : Path := ⟨""⟩
  contentHash : String := ""
  declarations : Declarations := {}
  deriving DecidableEq, Repr

namespace DirectiveFile

/-- The file at `path` with this fingerprint and these directives in it. -/
def ofDirectives (path : Path) (contentHash : String) (directives : List Directive) :
    DirectiveFile :=
  ⟨path, contentHash, .ofDirectives directives⟩

/-- The directives in the content of the file at `path`. -/
def directivesIn (path : Path) (content : List UInt8) : Except CompileError (List Directive) :=
  match Text.Utf8.decode? content with
  | none => .error (.malformed path ⟨Text.Utf8.lineOfFirstError content, .notUtf8⟩)
  | some text =>
    match Directive.parseFile text with
    | .error error => .error (.malformed path error)
    | .ok directives => .ok directives

/-- What is kept of the file at `path` with this content. -/
def ofContent (path : Path) (content : List UInt8) : Except CompileError DirectiveFile :=
  match directivesIn path content with
  | .error error => .error error
  | .ok directives => .ok (ofDirectives path (Digest.fingerprint content) directives)

end DirectiveFile

end TemplateTree
