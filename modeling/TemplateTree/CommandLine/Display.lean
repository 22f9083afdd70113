import TemplateTree.CommandLine.Transcript
import TemplateTree.Configuration
import TemplateTree.Path
import TemplateTree.Text.Json

/-!
# Display of configurations and directive files

The lines in which a configuration and the places of directive files are shown.
-/

namespace TemplateTree.CommandLine.Display

/-- A line of a configuration: a label, filled up to twelve characters, and a value. -/
def labelled (label value : String) : String :=
  "  " ++ label ++ String.ofList (List.replicate (12 - label.length) ' ') ++ " " ++ value

/-- The lines for the configuration of a template. -/
def configuration (path : Path) (configuration : Configuration) : List String :=
  ["", path.text, labelled "base class" configuration.baseClass,
    labelled "template" configuration.baseTypeTemplate,
    labelled "model" configuration.modelType, "  namespaces"] ++
  configuration.namespaces.map ("    " ++ ·)

/-- A configuration as a value. -/
def json (configuration : Configuration) : Text.Json :=
  .record [
    ("base_type_template", .text configuration.baseTypeTemplate),
    ("model_type", .text configuration.modelType),
    ("base_class", .text configuration.baseClass),
    ("namespaces", .array (configuration.namespaces.map .text))]

/-- The lines for the places of directive files, each indented by the number of places above it. -/
def levelLines (depth : Nat) : List (Path × Bool) → List String
  | [] => []
  | (path, present) :: rest =>
    (Transcript.mark present ++ " " ++ String.ofList (List.replicate (2 * depth) ' ') ++ path.text)
      :: levelLines (depth + 1) rest

def levels (path : Path) (levels : List (Path × Bool)) : List String :=
  ["", path.text] ++ levelLines 0 levels

end TemplateTree.CommandLine.Display
