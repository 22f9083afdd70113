/-!
# Transcripts

What a command prints: the lines of its result, and the lines in which it tells how the run went.
-/

namespace TemplateTree.CommandLine

/-- What a command prints: its result, and remarks about the run. -/
structure Transcript where
  output : List String := []
  remarks : List String := []
  deriving DecidableEq, Repr

namespace Transcript

def print (transcript : Transcript) (lines : List String) : Transcript :=
  { transcript with output := transcript.output ++ lines }

def remark (transcript : Transcript) (lines : List String) : Transcript :=
  { transcript with remarks := transcript.remarks ++ lines }

/-- The text of lines, each of which is ended by a line feed. -/
def text (lines : List String) : String :=
  String.join (lines.map (· ++ "\n"))

/-- The mark before what succeeded or is there, and the one before what is not. -/
def mark (good : Bool) : String :=
  if good then "✔" else "✘"

end Transcript

end TemplateTree.CommandLine
