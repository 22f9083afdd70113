import TemplateTree.Path

/-!
# Class names

The class generated from a template is named after the path of the template: every character that no
name can contain becomes an underscore.
-/

namespace TemplateTree.Path

def isClassNameChar (c : Char) : Bool :=
  c.isAlphanum || c == '_'

/-- Puts an underscore in front of a name that is empty or starts with a digit. -/
def guardName : List Char → List Char
  | [] => ['_']
  | c :: rest => if c.isDigit then '_' :: c :: rest else c :: rest

/-- The class name made from a text. Slashes and backslashes at its beginning are dropped. -/
def classNameOf (text : List Char) : List Char :=
  guardName <|
    (text.dropWhile fun c => c == '/' || c == '\x5c').map fun c =>
      if isClassNameChar c then c else '_'

def className (path : Path) : String :=
  String.ofList (classNameOf path.text.toList)

end TemplateTree.Path
