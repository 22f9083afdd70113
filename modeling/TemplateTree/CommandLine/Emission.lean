import TemplateTree.CommandLine.Failure
import TemplateTree.CommandLine.Verdict

/-!
# Emission of code

The code of the templates that are used is written into a directory, one file for each class, or
printed. The first file that cannot be written ends the emission; what was written before stays.
-/

namespace TemplateTree.CommandLine

def generatedExtension : String := "gen"

/-- How far an emission has come, with the files written so far. -/
structure Emission where
  disk : Disk
  transcript : Transcript := {}
  written : List Path := []

namespace Emission

def target (out : Path) (className : String) : Path :=
  out.join ⟨className ++ "." ++ generatedExtension⟩

def remark (emission : Emission) (lines : List String) : Emission :=
  { emission with transcript := emission.transcript.remark lines }

def print (emission : Emission) (path : Path) (code : Code) : Emission :=
  { emission with transcript := emission.transcript.print [s!"// {path}", code.source] }

/-- Writes the code of a template into a directory. -/
def write (emission : Emission) (out path : Path) (code : Code) : Except Failure Emission :=
  let target := target out code.className
  match emission.disk.write target code.source.toUTF8.toList with
  | .error error => .error (.notWritten target error)
  | .ok disk =>
    .ok { disk
          transcript :=
            emission.transcript.remark [s!"{Transcript.mark true} {path} -> {target}"]
          written := emission.written ++ [target] }

/-- Emits the templates judged one after the other. -/
def run (out : Option Path) (emission : Emission) :
    List (Path × Verdict) → Except Failure Unit × Emission
  | [] => (.ok (), emission)
  | (path, verdict) :: rest =>
    let emission := emission.remark (verdict.remarks path)
    match verdict.code?, out with
    | none, _ => run out emission rest
    | some code, none => run out (emission.print path code) rest
    | some code, some directory =>
      match emission.write directory path code with
      | .error failure => (.error failure, emission)
      | .ok next => run out next rest

end Emission

end TemplateTree.CommandLine
