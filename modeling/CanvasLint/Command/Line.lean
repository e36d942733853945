import CanvasLint.Command.Misuse

/-!
Command lines as words: a verb with options before it and after it, and operands. An option is
spelled by its name after two dashes or by its letter after one. Letters can share a dash, and a
value stands in the same word or in the next one. After a word of two dashes alone every word is an
operand.
-/
namespace CanvasLint.Command

/-- What a user can switch on, or give a value to. -/
structure Switch where
  name : String
  letter : Option Char := none
  takesValue : Bool := false
deriving DecidableEq, Repr

inductive Verb where
  | check
  | contrast
  | listRules
  | init
  | help
deriving DecidableEq, Repr

namespace Verb

def name : Verb → String
  | check => "check"
  | contrast => "contrast"
  | listRules => "list-rules"
  | init => "init"
  | help => "help"

def all : List Verb := [check, contrast, listRules, init, help]

def ofName? (s : String) : Option Verb :=
  all.find? (·.name == s)

/-- The switches that belong to the verb alone. -/
def ownSwitches : Verb → List Switch
  | check =>
    [{ name := "rules", letter := some 'r', takesValue := true },
      { name := "preset", letter := some 'p', takesValue := true },
      { name := "only", takesValue := true },
      { name := "format", letter := some 'f', takesValue := true }]
  | contrast =>
    [{ name := "font-size", takesValue := true }, { name := "font-weight", takesValue := true }]
  | init => [{ name := "force" }]
  | listRules | help => []

end Verb

/-- The switches that may stand before the verb and after it. -/
def sharedSwitches : List Switch :=
  [{ name := "verbose", letter := some 'v' },
    { name := "config", letter := some 'c', takesValue := true },
    { name := "help", letter := some 'h' }]

/-- The switches that can be used once the verb is known, or before it. -/
def switches : Option Verb → List Switch
  | none => sharedSwitches ++ [{ name := "version", letter := some 'V' }]
  | some verb => sharedSwitches ++ verb.ownSwitches

/-- Switches that were used, each with its value; one that takes none has the empty text. -/
abbrev Uses := List (String × String)

/-- The words of a command line that have been read. -/
structure Line where
  verb : Option Verb := none
  /-- What was used before the verb. -/
  before : Uses := []
  /-- What was used after it. -/
  after : Uses := []
  operands : List String := []
  /-- A switch whose value has to be the next word. -/
  waiting : Option Switch := none
  /-- Only operands follow. -/
  literal : Bool := false

namespace Line

def uses (line : Line) : Uses :=
  match line.verb with
  | none => line.before
  | some _ => line.after

/-- Notes the use of a switch; before the verb and after it each can be used once. -/
def use (line : Line) (s : Switch) (value : String) : Except Misuse Line :=
  if (line.uses.lookup s.name).isSome then .error (.repeated s.name)
  else
    let line := { line with waiting := none }
    match line.verb with
    | none => .ok { line with before := line.before ++ [(s.name, value)] }
    | some _ => .ok { line with after := line.after ++ [(s.name, value)] }

/-- The word is spelled like a switch. A dash alone is not. -/
def looksLikeSwitch (word : List Char) : Bool :=
  match word with
  | '-' :: _ :: _ => true
  | _ => false

/-- A name after two dashes, possibly with a value after an equals sign. -/
def readName (line : Line) (word : List Char) : Except Misuse Line :=
  let name := String.ofList (word.takeWhile (· ≠ '='))
  let value? := match word.dropWhile (· ≠ '=') with
    | [] => none
    | _ :: value => some (String.ofList value)
  match (switches line.verb).find? (·.name == name), value? with
  | none, _ => .error (.unknownOption ("--" ++ name))
  | some s, some value => if s.takesValue then line.use s value else .error (.unexpectedValue name)
  | some s, none => if s.takesValue then .ok { line with waiting := some s } else line.use s ""

/-- Letters after one dash. The first that takes a value has the rest of the word for it. -/
def readLetters (line : Line) : List Char → Except Misuse Line
  | [] => .ok line
  | c :: rest =>
    match (switches line.verb).find? (·.letter == some c) with
    | none => .error (.unknownOption (String.ofList ['-', c]))
    | some s =>
      if s.takesValue then
        match rest with
        | [] => .ok { line with waiting := some s }
        | '=' :: value => line.use s (String.ofList value)
        | value => line.use s (String.ofList value)
      else do (← line.use s "").readLetters rest

/-- The verb, or an operand once there is one. -/
def readOperand (line : Line) (word : String) : Except Misuse Line :=
  match line.verb with
  | some _ => .ok { line with operands := line.operands ++ [word] }
  | none =>
    match Verb.ofName? word with
    | some verb => if line.literal then .error (.unknownCommand word)
      else .ok { line with verb := some verb }
    | none => .error (.unknownCommand word)

def readWord (line : Line) (word : String) : Except Misuse Line :=
  match line.waiting with
  | some s =>
    if looksLikeSwitch word.toList then .error (.missingValue s.name) else line.use s word
  | none =>
    if line.literal then line.readOperand word
    else match word.toList with
      | ['-', '-'] => .ok { line with literal := true }
      | '-' :: '-' :: rest => line.readName rest
      | '-' :: c :: rest => line.readLetters (c :: rest)
      | _ => line.readOperand word

/-- The command line of these words. -/
def ofWords (words : List String) : Except Misuse Line := do
  let line ← words.foldlM readWord {}
  match line.waiting with
  | some s => .error (.missingValue s.name)
  | none => return line

end Line

end CanvasLint.Command
