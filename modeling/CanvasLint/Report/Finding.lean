import CanvasLint.Canvas.Node
import CanvasLint.Json.Record
import CanvasLint.Rule.Condition

/-!
Findings: how one rule turned out, what there is to say about it, and the elements that are
responsible for a failure. Findings are written as JSON and read back from it; details that an
element does not have are left out.
-/
namespace CanvasLint

open Canvas (Node NodeId NodeKind)
open Json (Mismatch Record Value)

/-- An element that a finding names, with the details that the rule brings out. -/
structure AffectedNode where
  id : NodeId
  name : String
  kind : NodeKind
  fontSize : Option Float := none
  characters : Option String := none
  text : Option String := none
  width : Option Float := none
  height : Option Float := none
  issue : Option String := none

namespace AffectedNode

/-- Names the element and nothing more. -/
def ofNode (n : Node) : AffectedNode where
  id := n.id
  name := n.name
  kind := n.kind

/-- Names the element, and for a text tells its size and what it says. -/
def describe (n : Node) (mixedSize : Float) : AffectedNode :=
  if n.isText then
    { ofNode n with fontSize := some (n.resolvedSize mixedSize), characters := n.characters }
  else ofNode n

def withIssue (a : AffectedNode) (issue : String) : AffectedNode :=
  { a with issue := some issue }

/-- The members of the written form, in the order in which they are written. -/
def members (a : AffectedNode) : List (String × Value) :=
  [("id", .string a.id), ("name", .string a.name), ("type", .string a.kind.name)]
    ++ Requirement.optional "fontSize" .float a.fontSize
    ++ Requirement.optional "characters" .string a.characters
    ++ Requirement.optional "text" .string a.text
    ++ Requirement.optional "width" .float a.width
    ++ Requirement.optional "height" .float a.height
    ++ Requirement.optional "issue" .string a.issue

def write (a : AffectedNode) : Value :=
  .object a.members

structure Draft where
  id : Option String := none
  name : Option String := none
  kind : Option NodeKind := none
  fontSize : Option (Option Float) := none
  characters : Option (Option String) := none
  text : Option (Option String) := none
  width : Option (Option Float) := none
  height : Option (Option Float) := none
  issue : Option (Option String) := none

def record : Record Draft where
  title := "AffectedNode"
  slots := [
    .of "id" [] (·.id) (fun a d => { d with id := some a }) Value.asText,
    .of "name" [] (·.name) (fun a d => { d with name := some a }) Value.asText,
    .of "type" [] (·.kind) (fun a d => { d with kind := some a })
      (Value.asName [] fun name => some (NodeKind.ofName name)),
    .of "fontSize" [] (·.fontSize) (fun a d => { d with fontSize := some a })
      (Value.orNull Value.asFloat),
    .of "characters" [] (·.characters) (fun a d => { d with characters := some a })
      (Value.orNull Value.asText),
    .of "text" [] (·.text) (fun a d => { d with text := some a }) (Value.orNull Value.asText),
    .of "width" [] (·.width) (fun a d => { d with width := some a }) (Value.orNull Value.asFloat),
    .of "height" [] (·.height) (fun a d => { d with height := some a })
      (Value.orNull Value.asFloat),
    .of "issue" [] (·.issue) (fun a d => { d with issue := some a }) (Value.orNull Value.asText)]
  empty := {}

def read (v : Value) : Except Mismatch AffectedNode := do
  let (d, form) ← record.read v
  return {
    id := ← record.need form 0 "id" d.id
    name := ← record.need form 1 "name" d.name
    kind := ← record.need form 2 "type" d.kind
    fontSize := d.fontSize.join
    characters := d.characters.join
    text := d.text.join
    width := d.width.join
    height := d.height.join
    issue := d.issue.join }

end AffectedNode

structure Finding where
  ruleId : String
  description : String
  status : Status
  message : String
  affected : List AffectedNode
  /-- The rule was accepted without being looked into. -/
  unverified : Bool := false

namespace Finding

def isPassed (f : Finding) : Bool :=
  f.status = .passed

def write (f : Finding) : Value :=
  .object ([("ruleId", .string f.ruleId), ("description", .string f.description),
    ("status", .string f.status.name), ("message", .string f.message),
    ("affectedNodes", .array (f.affected.map AffectedNode.write))]
      ++ if f.unverified then [("unverified", .bool true)] else [])

structure Draft where
  ruleId : Option String := none
  description : Option String := none
  status : Option Status := none
  message : Option String := none
  affected : Option (List AffectedNode) := none
  unverified : Option Bool := none

def record : Record Draft where
  title := "Finding"
  slots := [
    .of "ruleId" [] (·.ruleId) (fun a d => { d with ruleId := some a }) Value.asText,
    .of "description" [] (·.description) (fun a d => { d with description := some a })
      Value.asText,
    .of "status" [] (·.status) (fun a d => { d with status := some a })
      (Value.asName (Status.all.map Status.name) Status.ofName?),
    .of "message" [] (·.message) (fun a d => { d with message := some a }) Value.asText,
    .of "affectedNodes" [] (·.affected) (fun a d => { d with affected := some a })
      (fun v => do (← Value.asList v).mapM AffectedNode.read),
    .of "unverified" [] (·.unverified) (fun a d => { d with unverified := some a }) Value.asBool]
  empty := {}

def read (v : Value) : Except Mismatch Finding := do
  let (d, form) ← record.read v
  return {
    ruleId := ← record.need form 0 "ruleId" d.ruleId
    description := ← record.need form 1 "description" d.description
    status := ← record.need form 2 "status" d.status
    message := ← record.need form 3 "message" d.message
    affected := ← record.need form 4 "affectedNodes" d.affected
    unverified := d.unverified.getD false }

/-- Findings given as a list. -/
def readAll (v : Value) : Except Mismatch (List Finding) := do
  (← Value.asList v).mapM read

/-- One line for an element of a finding. -/
def nodeLine (a : AffectedNode) : String :=
  let issue := match a.issue with
    | some issue => ": " ++ issue
    | none => ""
  s!"  - {a.id} \"{a.name}\" ({a.kind.name}){issue}\n"

/-- The finding over several lines, with every element that is responsible. -/
def format (f : Finding) : String :=
  s!"{f.ruleId} [{f.status.name}] {f.description}\n  {f.message}\n"
    ++ String.join (f.affected.map nodeLine)
    ++ if f.unverified then "  = note: this check is not implemented yet\n" else ""

/-- The finding in one line, with the number of elements that are responsible. -/
def display (f : Finding) : String :=
  s!"{f.status.name}: {f.ruleId} {f.message}"
    ++ if f.affected.isEmpty then "" else s!" ({f.affected.length} node(s))"

end Finding

end CanvasLint
