import CanvasLint.Json.Record
import CanvasLint.Rule.Requirement

/-!
The condition of a rule, as a rule set gives it. A condition of a known kind with parameters that
fit and make sense is a requirement; any other is kept as it was given, so that the rule can still
be reported and written down again. Reading therefore never fails.
-/
namespace CanvasLint

open Json (Mismatch Record Slot Value)

namespace Requirement

/-- A record with one field. -/
def oneField {α : Type} (title name : String) (aliases : List String)
    (read : Value → Except Mismatch α) : Record (Option α) where
  title := title
  slots := [.of name aliases id (fun a _ => some a) read]
  empty := none

/-- A record with two fields; each has its name, its other spellings and its reader. -/
def twoFields {α β : Type} (title : String)
    (first : String × List String × (Value → Except Mismatch α))
    (second : String × List String × (Value → Except Mismatch β)) :
    Record (Option α × Option β) where
  title := title
  slots := [
    .of first.1 first.2.1 (·.1) (fun a d => (some a, d.2)) first.2.2,
    .of second.1 second.2.1 (·.2) (fun b d => (d.1, some b)) second.2.2]
  empty := (none, none)

def textRecord : Record (Option String × Option Bool) :=
  twoFields "RequiredText" ("text", [], Value.asText) ("caseSensitive", [], Value.asBool)

def fontSizeRecord : Record (Option (Option Float) × Option (Option Float)) :=
  twoFields "FontSizeRange" ("minSize", ["min_px"], Value.orNull Value.asFloat)
    ("maxSize", ["max_px"], Value.orNull Value.asFloat)

def contrastRecord : Record (Option Float) :=
  oneField "ColorContrast" "minContrast" ["min_ratio"] Value.asFloat

def componentRecord : Record (Option String) :=
  oneField "RequiredComponent" "componentName" [] Value.asText

def presenceRecord : Record (Option String) :=
  oneField "ComponentPresence" "component_name" [] Value.asText

def sizeRecord : Record (Option Float × Option Float) :=
  twoFields "ElementSize" ("min_width", ["minWidth"], Value.asFloat)
    ("min_height", ["minHeight"], Value.asFloat)

def labelRecord : Record (Option (Option String)) :=
  oneField "LabelPresence" "target" [] (Value.orNull Value.asText)

def uniquenessRecord : Record (Option String) :=
  oneField "TextUniqueness" "target_text" [] Value.asText

def headingRecord : Record (Option (Option String)) :=
  oneField "HeadingPresence" "text_style" [] (Value.orNull Value.asText)

def altTextRecord : Record (Option (Option String)) :=
  oneField "AltTextPresence" "target" [] (Value.orNull Value.asText)

def alignmentRecord : Record (Option String × Option String) :=
  twoFields "ElementAlignment" ("target", [], Value.asText) ("alignment", [], Value.asText)

def spacingRecord : Record (Option Float × Option (Option Float)) :=
  twoFields "Spacing" ("minSpacing", [], Value.asFloat)
    ("maxSpacing", [], Value.orNull Value.asFloat)

def imageRecord : Record Unit where
  title := "ImageAlt"
  slots := []
  empty := ()

/-- The parameters of a kind of rule, with the usual values for those that may be left out. -/
def read (kind : RuleKind) (v : Value) : Except Mismatch Requirement :=
  match kind with
  | .requiredText => do
    let ((text, caseSensitive), form) ← textRecord.read v
    return .requiredText ⟨← textRecord.need form 0 "text" text, caseSensitive.getD false⟩
  | .fontSize => do
    let ((min, max), _) ← fontSizeRecord.read v
    return .fontSize ⟨min.join, max.join⟩
  | .colorContrast => do
    let (minContrast, _) ← contrastRecord.read v
    return .colorContrast ⟨minContrast.getD 4.5⟩
  | .requiredComponent => do
    let (name, form) ← componentRecord.read v
    return .requiredComponent ⟨← componentRecord.need form 0 "componentName" name⟩
  | .componentPresence => do
    let (name, form) ← presenceRecord.read v
    return .componentPresence ⟨← presenceRecord.need form 0 "component_name" name⟩
  | .elementSize => do
    let ((width, height), form) ← sizeRecord.read v
    return .elementSize
      ⟨← sizeRecord.need form 0 "min_width" width, ← sizeRecord.need form 1 "min_height" height⟩
  | .labelPresence => do
    let (target, _) ← labelRecord.read v
    return .labelPresence ⟨target.join⟩
  | .textUniqueness => do
    let (target, form) ← uniquenessRecord.read v
    return .textUniqueness ⟨← uniquenessRecord.need form 0 "target_text" target⟩
  | .headingPresence => do
    let (style, _) ← headingRecord.read v
    return .headingPresence ⟨style.join⟩
  | .altTextPresence => do
    let (target, _) ← altTextRecord.read v
    return .altTextPresence ⟨target.join⟩
  | .elementAlignment => do
    let ((target, alignment), form) ← alignmentRecord.read v
    return .elementAlignment
      ⟨← alignmentRecord.need form 0 "target" target,
        ← alignmentRecord.need form 1 "alignment" alignment⟩
  | .spacing => do
    let ((min, max), _) ← spacingRecord.read v
    return .spacing ⟨min.getD 8, max.join⟩
  | .imageAlt => do
    let _ ← imageRecord.read v
    return .imageAlt

/-- A member that is left out when there is nothing to write. -/
def optional {α : Type} (name : String) (write : α → Value) (a : Option α) :
    List (String × Value) :=
  match a with
  | some a => [(name, write a)]
  | none => []

/-- The parameters by their usual names, sorted by name. -/
def write : Requirement → Value
  | requiredText r => .object [("caseSensitive", .bool r.caseSensitive), ("text", .string r.text)]
  | fontSize r => .object (optional "maxSize" .float r.max ++ optional "minSize" .float r.min)
  | colorContrast r => .object [("minContrast", .float r.minContrast)]
  | requiredComponent r => .object [("componentName", .string r.componentName)]
  | componentPresence r => .object [("component_name", .string r.componentName)]
  | elementSize r =>
    .object [("min_height", .float r.minHeight), ("min_width", .float r.minWidth)]
  | labelPresence r => .object (optional "target" .string r.target)
  | textUniqueness r => .object [("target_text", .string r.targetText)]
  | headingPresence r => .object (optional "text_style" .string r.textStyle)
  | altTextPresence r => .object (optional "target" .string r.target)
  | elementAlignment r =>
    .object [("alignment", .string r.alignment), ("target", .string r.target)]
  | spacing r => .object (optional "maxSpacing" .float r.max ++ [("minSpacing", .float r.min)])
  | imageAlt => .object []

end Requirement

/-- Why the parameters of a known kind of rule cannot be used. -/
inductive ConditionError where
  | mismatch (m : Mismatch)
  | parameter (e : ParameterError)

def ConditionError.message : ConditionError → String
  | mismatch m => m.message
  | parameter e => e.message

instance : BEq ConditionError where
  beq a b := a.message == b.message

inductive Condition where
  | valid (r : Requirement)
  /-- No kind of rule has this name. -/
  | unknown (type : String) (raw : Value)
  | invalid (kind : RuleKind) (reason : ConditionError) (raw : Value)
deriving BEq

namespace Condition

/-- The requirement of a known kind, if its parameters fit and make sense. -/
def requirement (kind : RuleKind) (raw : Value) : Except ConditionError Requirement :=
  match Requirement.read kind raw with
  | .error m => .error (.mismatch m)
  | .ok r =>
    match r.validate with
    | .error e => .error (.parameter e)
    | .ok () => .ok r

/-- The condition of a known kind. -/
def readAs (kind : RuleKind) (raw : Value) : Condition :=
  match requirement kind raw with
  | .ok r => .valid r
  | .error reason => .invalid kind reason raw

/-- The condition that a rule of this type gives. -/
def read (type : String) (raw : Value) : Condition :=
  match type with
  | RequiredText.typeName => readAs .requiredText raw
  | FontSizeRange.typeName => readAs .fontSize raw
  | ColorContrast.typeName => readAs .colorContrast raw
  | RequiredComponent.typeName => readAs .requiredComponent raw
  | ComponentPresence.typeName => readAs .componentPresence raw
  | ElementSize.typeName => readAs .elementSize raw
  | LabelPresence.typeName => readAs .labelPresence raw
  | TextUniqueness.typeName => readAs .textUniqueness raw
  | HeadingPresence.typeName => readAs .headingPresence raw
  | AltTextPresence.typeName => readAs .altTextPresence raw
  | ElementAlignment.typeName => readAs .elementAlignment raw
  | Spacing.typeName => readAs .spacing raw
  | ImageAlt.typeName => readAs .imageAlt raw
  | _ => .unknown type raw

def typeName : Condition → String
  | valid r => r.kind.type.name
  | unknown type _ => type
  | invalid kind _ _ => kind.type.name

def write : Condition → Value
  | valid r => r.write
  | unknown _ raw => raw
  | invalid _ _ raw => raw

end Condition

/-- A rule: what it is called, what it asks for, and how serious a failure is. -/
structure Rule where
  id : String
  description : String
  severity : Option Severity
  condition : Condition
deriving BEq

end CanvasLint
