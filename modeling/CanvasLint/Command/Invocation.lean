import CanvasLint.Command.Line
import CanvasLint.Files.Path
import CanvasLint.Number.Parse
import CanvasLint.Report.Style

/-!
What a command line asks for. The words have to name a command and to give it what it needs: all
of its operands, values that it understands, and no two options that contradict each other.
-/
namespace CanvasLint.Command

/-- A scan that is asked for. -/
structure CheckRequest where
  document : Path
  rules : Option Path := none
  preset : Option String := none
  /-- The ids of the rules to keep, between commas. -/
  only : Option String := none
  style : Report.Style := .text

/-- A pair of colors to compare, and the text they are for. -/
structure ContrastRequest where
  foreground : String
  background : String
  fontSize : Float := 16
  fontWeight : Float := 400

inductive Request where
  | check (request : CheckRequest)
  | contrast (request : ContrastRequest)
  | listRules
  | init (force : Bool)
  | help
  | version

structure Invocation where
  request : Request
  config : Option Path := none
  verbose : Bool := false

/-- The value of a switch, if it was used. -/
def Uses.value? {α : Type} (uses : Uses) (name : String) (read : String → Option α) :
    Except Misuse (Option α) :=
  match uses.lookup name with
  | none => .ok none
  | some value =>
    match read value with
    | some a => .ok (some a)
    | none => .error (.badValue ("--" ++ name) value)

def Uses.contains (uses : Uses) (name : String) : Bool :=
  (uses.lookup name).isSome

/-- A path that is not empty. -/
def path? (s : String) : Option Path :=
  if s.isEmpty then none else some (.ofText s)

namespace Line

/-- The operands, which have to be as many as there are names for them. -/
def operandsFor (line : Line) (names : List String) : Except Misuse (List String) :=
  match line.operands[names.length]?, names[line.operands.length]? with
  | some extra, _ => .error (.unexpectedOperand extra)
  | none, some missing => .error (.missingOperand missing)
  | none, none => .ok line.operands

def checkRequest (line : Line) : Except Misuse CheckRequest := do
  let rules ← line.after.value? "rules" path?
  let preset ← line.after.value? "preset" some
  let only ← line.after.value? "only" some
  let style ← line.after.value? "format" Report.Style.ofName?
  if rules.isSome && preset.isSome then .error (.conflicting "preset" "rules")
  match ← line.operandsFor ["DOCUMENT"] with
  | [document] =>
    match path? document with
    | some document => return { document, rules, preset, only, style := style.getD .text }
    | none => .error (.badValue "DOCUMENT" document)
  | _ => .error (.missingOperand "DOCUMENT")

def contrastRequest (line : Line) : Except Misuse ContrastRequest := do
  let size ← line.after.value? "font-size" Number.ofText?
  let weight ← line.after.value? "font-weight" Number.ofText?
  match ← line.operandsFor ["FOREGROUND", "BACKGROUND"] with
  | [foreground, background] =>
    let usual : ContrastRequest := { foreground, background }
    return { usual with
      fontSize := size.getD usual.fontSize, fontWeight := weight.getD usual.fontWeight }
  | _ => .error (.missingOperand "FOREGROUND")

def request (line : Line) : Except Misuse Request := do
  if line.before.contains "help" || line.after.contains "help" then return .help
  if line.before.contains "version" then return .version
  match line.verb with
  | none => .error .missingCommand
  | some .help => return .help
  | some .check => return .check (← line.checkRequest)
  | some .contrast => return .contrast (← line.contrastRequest)
  | some .listRules =>
    let _ ← line.operandsFor []
    return .listRules
  | some .init =>
    let _ ← line.operandsFor []
    return .init (line.after.contains "force")

/-- The configuration that is asked for; one after the verb counts more. -/
def config (line : Line) : Except Misuse (Option Path) := do
  let before ← line.before.value? "config" path?
  let after ← line.after.value? "config" path?
  return after.or before

def invocation (line : Line) : Except Misuse Invocation := do
  return {
    request := ← line.request
    config := ← line.config
    verbose := line.before.contains "verbose" || line.after.contains "verbose" }

end Line

/-- What the words of a command line ask for. -/
def Invocation.ofWords (words : List String) : Except Misuse Invocation := do
  (← Line.ofWords words).invocation

end CanvasLint.Command
