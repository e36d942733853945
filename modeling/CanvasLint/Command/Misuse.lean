/-!
Command lines that make no sense, and why.
-/
namespace CanvasLint.Command

inductive Misuse where
  | missingCommand
  | unknownCommand (name : String)
  | unknownOption (spelling : String)
  | missingValue (option : String)
  | unexpectedValue (option : String)
  | repeated (option : String)
  | badValue (name value : String)
  | conflicting (option other : String)
  | missingOperand (name : String)
  | unexpectedOperand (value : String)
deriving DecidableEq, Repr

def Misuse.message : Misuse → String
  | missingCommand => "a command is required"
  | unknownCommand name => s!"unknown command '{name}'"
  | unknownOption spelling => s!"unknown option '{spelling}'"
  | missingValue option => s!"a value is required for '--{option}'"
  | unexpectedValue option => s!"'--{option}' takes no value"
  | repeated option => s!"'--{option}' cannot be used multiple times"
  | badValue name value => s!"invalid value '{value}' for '{name}'"
  | conflicting option other => s!"'--{option}' cannot be used with '--{other}'"
  | missingOperand name => s!"<{name}> is required"
  | unexpectedOperand value => s!"unexpected argument '{value}'"

end CanvasLint.Command
