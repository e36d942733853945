import CanvasLint.Command.Failure
import CanvasLint.Files.Tree

/-!
What a command does step by step. A step works on the files and on what has been printed; it may
fail, and what has been printed and written by then stays so.
-/
namespace CanvasLint.Command

/-- The files, what has been printed, and what has been written with the paths that were given. -/
structure World where
  files : FileTree
  output : String := ""
  written : List (Path × String) := []

/-- Steps that yield a value unless they fail. -/
abbrev Step (α : Type) := ExceptT Failure (StateM World) α

namespace Step

/-- The files as they are by now. -/
def files : Step FileTree :=
  return (← get).files

/-- Something that works on nothing but values. -/
def attempt {α : Type} (result : Except Failure α) : Step α :=
  match result with
  | .ok a => return a
  | .error failure => throw failure

def print (output : String) : Step Unit :=
  modify fun w => { w with output := w.output ++ output }

def write (p : Path) (content : String) : Step Unit := do
  match (← files).write p content with
  | .ok files => modify fun w => { w with files, written := w.written ++ [(p, content)] }
  | .error fault => throw (.notWritten fault)

end Step

end CanvasLint.Command
