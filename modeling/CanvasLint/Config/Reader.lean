import CanvasLint.Config.Basic
import CanvasLint.Toml.Reader

/-!
Reading configurations from TOML texts. A record is a table, or the list of its fields in order;
members that it does not know are passed over, and fields that are missing have their usual values.
A date counts as a record without any of the fields.
-/
namespace CanvasLint

open Toml (Value)

namespace Toml.Value

def asText : Value → Option String
  | .string s => some s
  | _ => none

def asFloat : Value → Option Float
  | .float x => some x
  | .integer n => some (Float.ofInt n)
  | _ => none

def asBool : Value → Option Bool
  | .boolean b => some b
  | _ => none

/-- A list or a table with nothing in it. -/
def isEmptyCollection : Value → Bool
  | .array items => items.isEmpty
  | .table members => members.isEmpty
  | _ => false

/-- A severity by its name, or as the only key of a table whose value is empty. -/
def asSeverity : Value → Option Severity
  | .string s => Severity.ofName? s
  | .table [(key, v)] => if v.isEmptyCollection then Severity.ofName? key else none
  | _ => none

/-- The fields of a record, by name and in order. -/
def fields (names : List String) : Value → Option (List (Option Value))
  | .table members => some (names.map fun name => members.lookup name)
  | .array items => some ((List.range names.length).map fun i => items[i]?)
  | .moment => some (names.map fun _ => none)
  | _ => none

/-- A field that may be missing. -/
def optionally {α : Type} (read : Value → Option α) : Option Value → Option (Option α)
  | none => some none
  | some v => (read v).map some

/-- A field with its usual value. -/
def orUsual {α : Type} (usual : α) (read : Value → Option α) (v : Option Value) : Option α :=
  (optionally read v).map (·.getD usual)

end Toml.Value

inductive ConfigError where
  | unreadable
  | threshold (e : ThresholdError)

namespace Window

/-- Both distances have to be given. -/
def ofToml (v : Value) : Option Window := do
  match ← v.fields ["horizontal", "vertical"] with
  | [horizontal, vertical] => return ⟨← (← horizontal).asFloat, ← (← vertical).asFloat⟩
  | _ => none

end Window

namespace Thresholds

def ofToml (v : Value) : Option Thresholds := do
  let usual : Thresholds := {}
  match ← v.fields ["mixed_font_size", "default_min_font_size", "heading_min_font_size",
    "placeholder_image_name", "label_proximity", "alt_text_proximity"] with
  | [mixed, least, heading, placeholder, label, altText] =>
    return {
      mixedFontSize := ← Value.orUsual usual.mixedFontSize Value.asFloat mixed
      defaultMinFontSize := ← Value.orUsual usual.defaultMinFontSize Value.asFloat least
      headingMinFontSize := ← Value.orUsual usual.headingMinFontSize Value.asFloat heading
      placeholderImageName := ← Value.orUsual usual.placeholderImageName Value.asText placeholder
      labelWindow := ← Value.orUsual usual.labelWindow Window.ofToml label
      altTextWindow := ← Value.orUsual usual.altTextWindow Window.ofToml altText }
  | _ => none

end Thresholds

namespace Override

def ofToml (v : Value) : Option Override := do
  match ← v.fields ["enabled", "severity"] with
  | [enabled, severity] =>
    return ⟨← Value.optionally Value.asBool enabled, ← Value.optionally Value.asSeverity severity⟩
  | _ => none

/-- The overrides of a table, sorted by the id of the rule. -/
def allOfToml : Value → Option (List (String × Override))
  | .table members => do
    let overrides ← members.mapM fun (id, v) => do return (id, ← ofToml v)
    return overrides.mergeSort fun a b => a.1 ≤ b.1
  | _ => none

end Override

namespace Config

def ofToml (v : Value) : Option Config := do
  match ← v.fields ["preset", "fail_on", "engine", "rules"] with
  | [preset, failOn, engine, rules] =>
    return {
      preset := ← Value.optionally Value.asText preset
      failOn := ← Value.optionally Value.asSeverity failOn
      thresholds := ← Value.orUsual {} Thresholds.ofToml engine
      overrides := ← Value.orUsual [] Override.allOfToml rules }
  | _ => none

/-- The configuration of a text; its thresholds have to make sense. -/
def ofText (text : String) : Except ConfigError Config :=
  match Value.ofText text with
  | .error _ => .error .unreadable
  | .ok v =>
    match ofToml v with
    | none => .error .unreadable
    | some config =>
      match config.thresholds.firstInvalid? with
      | some e => .error (.threshold e)
      | none => .ok config

end Config

end CanvasLint
