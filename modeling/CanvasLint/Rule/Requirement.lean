import CanvasLint.Number.Notation
import CanvasLint.Rule.RuleType
import CanvasLint.Text.Blank

/-!
What a rule asks for: its type with the parameters of the type. Parameters have to make sense before
a rule is judged: sizes are finite and not negative, ranges are not empty, texts to look for say
something.
-/
namespace CanvasLint

inductive Requirement where
  | requiredText (r : RequiredText)
  | fontSize (r : FontSizeRange)
  | colorContrast (r : ColorContrast)
  | requiredComponent (r : RequiredComponent)
  | componentPresence (r : ComponentPresence)
  | elementSize (r : ElementSize)
  | labelPresence (r : LabelPresence)
  | textUniqueness (r : TextUniqueness)
  | headingPresence (r : HeadingPresence)
  | altTextPresence (r : AltTextPresence)
  | elementAlignment (r : ElementAlignment)
  | spacing (r : Spacing)
  | imageAlt
deriving BEq

/-- Requirements by their types, without the parameters. -/
inductive RuleKind where
  | requiredText
  | fontSize
  | colorContrast
  | requiredComponent
  | componentPresence
  | elementSize
  | labelPresence
  | textUniqueness
  | headingPresence
  | altTextPresence
  | elementAlignment
  | spacing
  | imageAlt
deriving DecidableEq, Repr

def RuleKind.type : RuleKind → RuleType
  | requiredText => RequiredText.ruleType
  | fontSize => FontSizeRange.ruleType
  | colorContrast => ColorContrast.ruleType
  | requiredComponent => RequiredComponent.ruleType
  | componentPresence => ComponentPresence.ruleType
  | elementSize => ElementSize.ruleType
  | labelPresence => LabelPresence.ruleType
  | textUniqueness => TextUniqueness.ruleType
  | headingPresence => HeadingPresence.ruleType
  | altTextPresence => AltTextPresence.ruleType
  | elementAlignment => ElementAlignment.ruleType
  | spacing => Spacing.ruleType
  | imageAlt => ImageAlt.ruleType

/-- Parameters that make no sense. -/
inductive ParameterError where
  | negative (field : String) (value : Float)
  | emptyRange (min max : Float)
  | contrastOutOfRange (value : Float)
  | blankText (field : String)
  | spacingRange (min max : Float)

def ParameterError.message : ParameterError → String
  | negative field value =>
    s!"`{field}` must be a non-negative number, got {Number.plain value}"
  | emptyRange min max =>
    s!"`minSize` ({Number.plain min}) is greater than `maxSize` ({Number.plain max})"
  | contrastOutOfRange value =>
    s!"`minContrast` must be between 1 and 21, got {Number.plain value}"
  | blankText field => s!"`{field}` must not be empty"
  | spacingRange min max =>
    s!"`maxSpacing` ({Number.plain max}) must be at least `minSpacing` ({Number.plain min})"

namespace Requirement

def kind : Requirement → RuleKind
  | requiredText _ => .requiredText
  | fontSize _ => .fontSize
  | colorContrast _ => .colorContrast
  | requiredComponent _ => .requiredComponent
  | componentPresence _ => .componentPresence
  | elementSize _ => .elementSize
  | labelPresence _ => .labelPresence
  | textUniqueness _ => .textUniqueness
  | headingPresence _ => .headingPresence
  | altTextPresence _ => .altTextPresence
  | elementAlignment _ => .elementAlignment
  | spacing _ => .spacing
  | imageAlt => .imageAlt

/-- A size is finite and not negative. -/
def checkSize (field : String) (x : Float) : Except ParameterError Unit :=
  if x.isFinite && x ≥ 0 then .ok () else .error (.negative field x)

def checkSize? (field : String) : Option Float → Except ParameterError Unit
  | some x => checkSize field x
  | none => .ok ()

/-- The first parameter that makes no sense is complained about. -/
def validate : Requirement → Except ParameterError Unit
  | fontSize r => do
    checkSize? "minSize" r.min
    checkSize? "maxSize" r.max
    match r.min, r.max with
    | some min, some max => if min > max then .error (.emptyRange min max) else .ok ()
    | _, _ => .ok ()
  | colorContrast r =>
    if r.minContrast.isFinite && 1 ≤ r.minContrast && r.minContrast ≤ 21 then .ok ()
    else .error (.contrastOutOfRange r.minContrast)
  | componentPresence r =>
    if Text.blank r.componentName then .error (.blankText "component_name") else .ok ()
  | elementSize r => do
    checkSize "min_width" r.minWidth
    checkSize "min_height" r.minHeight
  | textUniqueness r =>
    if r.targetText.isEmpty then .error (.blankText "target_text") else .ok ()
  | spacing r => do
    checkSize "minSpacing" r.min
    match r.max with
    | some max =>
      if !max.isFinite || max < r.min then .error (.spacingRange r.min max) else .ok ()
    | none => .ok ()
  | requiredText _ | requiredComponent _ | labelPresence _ | headingPresence _ | altTextPresence _
  | elementAlignment _ | imageAlt => .ok ()

end Requirement

end CanvasLint
