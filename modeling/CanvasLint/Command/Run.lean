import CanvasLint.Command.Check
import CanvasLint.Command.Init
import CanvasLint.Command.Listing
import CanvasLint.Command.Swatch

/-!
Commands run on a file tree. A command line is misused, or the command fails, or it is done; a scan
that is done can still find what it was told to look for. The outcome tells this together with what
has been printed and written by the end, however the command ends.
-/
namespace CanvasLint.Command

inductive Ending where
  | misused (misuse : Misuse)
  | failed (failure : Failure)
  /-- The command is done; the mark tells whether a scan found something that counts. -/
  | done (found : Bool)

structure Outcome where
  ending : Ending
  world : World

namespace Outcome

def exit (outcome : Outcome) : Nat :=
  match outcome.ending with
  | .misused _ => 2
  | .failed _ => 1
  | .done found => if found then 1 else 0

def failure? (outcome : Outcome) : Option Failure :=
  match outcome.ending with
  | .failed failure => some failure
  | .misused _ | .done _ => none

def output (outcome : Outcome) : String :=
  outcome.world.output

/-- The files that were written, with what they then held. -/
def written (outcome : Outcome) : List (Path × String) :=
  outcome.world.written

end Outcome

/-- Where a command runs: among these files, with the user's own directory for configurations. -/
structure Place where
  files : FileTree
  personal : Option Path := none

def usage : String :=
  "Usage: spec-lint [-v] [-c CONFIG] COMMAND\n\n"
    ++ "  check DOCUMENT [-r RULES | -p PRESET] [--only IDS] [-f text|json|compact]\n"
    ++ "  contrast FOREGROUND BACKGROUND [--font-size PX] [--font-weight WEIGHT]\n"
    ++ "  list-rules\n"
    ++ "  init [--force]\n"

def version : String := "spec-lint 0.1.0\n"

/-- What is asked for, step by step. The mark tells whether a scan found something that counts. -/
def Invocation.run (i : Invocation) (personal : Option Path) : Step Bool := do
  match i.request with
  | .check request => request.run i.config personal
  | .contrast request =>
    Step.print (Swatch.text (← Step.attempt request.analysis))
    return false
  | .listRules =>
    Step.print Listing.text
    return false
  | .init force =>
    Init.run force
    return false
  | .help =>
    Step.print usage
    return false
  | .version =>
    Step.print version
    return false

/-- What the steps come to from here on. -/
def Outcome.ofSteps (steps : Step Bool) (start : World) : Outcome :=
  match steps.run start with
  | (.ok found, world) => ⟨.done found, world⟩
  | (.error failure, world) => ⟨.failed failure, world⟩

/-- The outcome of the command that the words ask for. -/
def run (place : Place) (words : List String) : Outcome :=
  let start : World := { files := place.files }
  match Invocation.ofWords words with
  | .ok invocation => .ofSteps (invocation.run place.personal) start
  | .error misuse => ⟨.misused misuse, start⟩

end CanvasLint.Command
