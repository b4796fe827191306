import Converge.CommandLine
import Converge.Instance.Manifest
import Converge.Plan.Rendering

/-!
# The program

Renders what an instance amounts to. All that it does to the outside is to read the manifest and
to print; a cluster cannot be reached from here, so the command that plans only says so.
-/

namespace Converge

/-- How the program is called. -/
def usage : String :=
  "usage: converge [--log-json] render --file FILE [--namespace NAME] [--openshift] [--routes]\n" ++
  "                [--ingress] [--objects-only]\n" ++
  "       converge [--log-json] plan --file FILE [--namespace NAME] [--kubeconfig FILE] [--yaml]\n"

/-- Prints why nothing was done. -/
def complain (message : String) (code : UInt32) : IO UInt32 := do
  IO.eprintln message
  return code

/-- The text of a file, if it can be read. -/
def readText? (file : String) : IO (Option String) := do
  try
    return some (← IO.FS.readFile file)
  catch _ => return none

/-- Renders the instance of a manifest. -/
def renderFile (arguments : RenderArguments) : IO UInt32 := do
  match (← readText? arguments.file).bind (Instance.ofManifest? arguments.namespaceName) with
  | none => complain s!"failed to read {arguments.file}" 1
  | some declaration =>
    match declaration.render arguments.capabilities arguments.objectsOnly with
    | .error failure => complain failure.message 1
    | .ok text =>
      IO.print text
      return 0

end Converge

open Converge

/-- Carries out a command line. -/
def main (words : List String) : IO UInt32 := do
  match Arguments.parse words with
  | .error .displayHelp | .error .displayVersion =>
    IO.print usage
    return 0
  | .error _ => complain usage 2
  | .ok arguments =>
    match arguments.command with
    | .render arguments => renderFile arguments
    | .plan arguments => complain s!"no cluster to plan {arguments.file} for" 1
