import CanvasLint.Json.Reader
import CanvasLint.Json.Writer
import CanvasLint.Rule.Condition

/-!
Rule sets as JSON texts: a list of entries, each with an id, a description, a type, a condition and
possibly a severity. A rule set is accepted as a whole or not at all, and the first entry that
cannot be used is complained about. An unknown type or a condition that does not fit its type is no
reason to refuse an entry.
-/
namespace CanvasLint

open Json (Fault Mismatch Position Record Value)

/-- What is wrong with an entry of a rule set. -/
inductive EntryError where
  | notObject (found : String)
  | malformed (m : Mismatch)
  | missingField (name : String)
  | badCondition
  | unknownSeverity (name : String)

/-- The entry that is complained about, by its place and, once it is known, its id. -/
structure EntryName where
  index : Nat
  id : Option String

def EntryName.text (e : EntryName) : String :=
  match e.id with
  | none => s!"rules[{e.index}]"
  | some id => s!"rules[{e.index}] ({id})"

inductive RuleSetError where
  /-- The text of the named source is no JSON. -/
  | unreadable (source : String) (fault : Fault) (position : Position) (offset : Nat)
  | notList (found : String)
  | entry (name : EntryName) (error : EntryError)

namespace RuleSetError

def message : RuleSetError → String
  | unreadable _ fault position _ =>
    s!"Invalid JSON in rule set: {fault.cause.message} at line {position.line} column {position.column}"
  | notList found => s!"Rule set must be a JSON array of rules, found {found}"
  | entry name error =>
    name.text ++ match error with
      | .notObject found => s!": expected a rule object, found {found}"
      | .malformed m => ": " ++ m.message
      | .missingField field => s!": missing required field `{field}`"
      | .badCondition => ": `condition` must be an object"
      | .unknownSeverity value => s!": unknown severity `{value}`, expected: error, warning"

/-- The code of the diagnostic. -/
def code (e : RuleSetError) : String :=
  "spec_lint::rules::" ++ match e with
    | unreadable .. => "json"
    | notList _ => "not_an_array"
    | entry _ (.notObject _) => "not_an_object"
    | entry _ (.malformed _) => "malformed"
    | entry _ (.missingField _) => "missing_field"
    | entry _ .badCondition => "condition"
    | entry _ (.unknownSeverity _) => "severity"

/-- How to mend the rule set, where this can be said in general. -/
def help : RuleSetError → Option String
  | notList _ => some "wrap the rules in [ ... ]"
  | entry _ (.notObject _) =>
    some ("each entry looks like \x7b\"id\": ..., \"description\": ..., \"type\": ..., "
      ++ "\"condition\": \x7b...\x7d\x7d")
  | entry _ (.missingField _) =>
    some "`id`, `description` and `type` must be non-empty strings"
  | entry _ .badCondition => some "use \x7b\x7d for rule types without parameters"
  | _ => none

end RuleSetError

namespace Rule

/-- The members of an entry that have been read so far. -/
structure Draft where
  id : Option (Option String) := none
  description : Option (Option String) := none
  type : Option (Option String) := none
  condition : Option (Option Value) := none
  severity : Option (Option String) := none

def record : Record Draft where
  title := "Rule"
  slots := [
    .of "id" [] (·.id) (fun a d => { d with id := some a }) (Value.orNull Value.asText),
    .of "description" [] (·.description) (fun a d => { d with description := some a })
      (Value.orNull Value.asText),
    .of "type" [] (·.type) (fun a d => { d with type := some a }) (Value.orNull Value.asText),
    .of "condition" [] (·.condition) (fun a d => { d with condition := some a })
      (Value.orNull .ok),
    .of "severity" [] (·.severity) (fun a d => { d with severity := some a })
      (Value.orNull Value.asText)]
  empty := {}

/-- A text that has to be there and to say something. -/
def required (field : String) : Option String → Except EntryError String
  | some text => if Text.blank text then .error (.missingField field) else .ok text
  | none => .error (.missingField field)

/-- The rule of a draft whose id is known. -/
def ofDraft (id : String) (d : Draft) : Except EntryError Rule := do
  let description ← required "description" d.description.join
  let type ← required "type" d.type.join
  let condition ← match d.condition.join with
    | some (.object members) => .ok (Value.object members)
    | _ => .error .badCondition
  let severity ← match d.severity.join with
    | none => .ok none
    | some name =>
      match Severity.ofName? name with
      | some severity => .ok (some severity)
      | none => .error (.unknownSeverity name)
  return ⟨id, description, severity, .read type condition⟩

/-- The rule of an entry. The type is not looked into. -/
def ofEntry (index : Nat) (entry : Value) : Except RuleSetError Rule :=
  let fail {α : Type} (id : Option String) (e : EntryError) : Except RuleSetError α :=
    .error (.entry ⟨index, id⟩ e)
  match entry with
  | .object _ =>
    match record.read entry with
    | .error m => fail none (.malformed m)
    | .ok (d, _) =>
      match required "id" d.id.join with
      | .error e => fail none e
      | .ok id =>
        match ofDraft id d with
        | .error e => fail (some id) e
        | .ok rule => .ok rule
  | v => fail none (.notObject v.kind)

/-- The entry that gives the rule. -/
def entry (r : Rule) : Value :=
  .object ([("id", .string r.id), ("description", .string r.description),
    ("type", .string r.condition.typeName), ("condition", r.condition.write)]
      ++ Requirement.optional "severity" (fun s => .string (Severity.name s)) r.severity)

end Rule

namespace RuleSet

/-- The rules of consecutive entries, the first of which has this index. -/
def ofEntries (index : Nat) : List Value → Except RuleSetError (List Rule)
  | [] => .ok []
  | entry :: rest => do
    let rule ← Rule.ofEntry index entry
    return rule :: (← ofEntries (index + 1) rest)

def ofValue : Value → Except RuleSetError (List Rule)
  | .array entries => ofEntries 0 entries
  | v => .error (.notList v.kind)

/-- The name of a source that has none. -/
def usualSource : String := "rules.json"

/-- The rules of a text, whose source is named in complaints. -/
def ofText (source text : String) : Except RuleSetError (List Rule) :=
  match Value.ofText text with
  | .error fault =>
    let position := fault.position text
    .error (.unreadable source fault position (position.offset (Text.encode text.toList)))
  | .ok v => ofValue v

/-- The text of a rule set with these rules. -/
def toText (rules : List Rule) : String :=
  (Value.array (rules.map Rule.entry)).indented

end RuleSet

end CanvasLint
