import CanvasLint.Rule.Severity

/-!
The types of rules that can be judged, each with its parameters. A type has a name, by which rules
refer to it, a summary, the severity of a failure if a rule does not set one, and a mark that tells
whether it is judged at all or accepted without being looked into. Every type says this of itself;
the list of all types is for users.
-/
namespace CanvasLint

/-- What there is to say of a type of rules. -/
structure RuleType where
  name : String
  summary : String
  /-- How serious a failure is if the rule does not say so itself. -/
  defaultSeverity : Severity
  /-- Rules of this type are looked into. -/
  verified : Bool := true
deriving DecidableEq, Repr

/-- Some text contains the phrase. -/
structure RequiredText where
  text : String
  caseSensitive : Bool
deriving BEq

namespace RequiredText

@[match_pattern] def typeName : String := "required-text"

def ruleType : RuleType where
  name := typeName
  summary := "At least one text layer contains the given text"
  defaultSeverity := .error

end RequiredText

/-- The size of every text lies between the bounds that are given. -/
structure FontSizeRange where
  min : Option Float
  max : Option Float
deriving BEq

namespace FontSizeRange

@[match_pattern] def typeName : String := "font-size"

def ruleType : RuleType where
  name := typeName
  summary := "Every text layer's font size is within the allowed range"
  defaultSeverity := .error

end FontSizeRange

/-- Every text has a color that contrast can be computed for; the ratio is only mentioned. -/
structure ColorContrast where
  minContrast : Float
deriving BEq

namespace ColorContrast

@[match_pattern] def typeName : String := "color-contrast"

def ruleType : RuleType where
  name := typeName
  summary := "Every text layer has a solid color that contrast can be computed for"
  defaultSeverity := .warning

end ColorContrast

/-- An instance of the component with exactly this name is there. -/
structure RequiredComponent where
  componentName : String
deriving BEq

namespace RequiredComponent

@[match_pattern] def typeName : String := "required-component"

def ruleType : RuleType where
  name := typeName
  summary := "An instance of the named main component is present"
  defaultSeverity := .error

end RequiredComponent

/-- Something is named like the component, or is a button. -/
structure ComponentPresence where
  componentName : String
deriving BEq

namespace ComponentPresence

@[match_pattern] def typeName : String := "component-presence"

def ruleType : RuleType where
  name := typeName
  summary := "Some element is named like the component, or is a button component"
  defaultSeverity := .warning

end ComponentPresence

/-- Everything interactive is at least this large. -/
structure ElementSize where
  minWidth : Float
  minHeight : Float
deriving BEq

namespace ElementSize

@[match_pattern] def typeName : String := "element-size"

def ruleType : RuleType where
  name := typeName
  summary := "Frames, components, instances and buttons meet a minimum size"
  defaultSeverity := .warning

end ElementSize

/-- Every input has a label next to it; the target names further inputs. -/
structure LabelPresence where
  target : Option String
deriving BEq

namespace LabelPresence

@[match_pattern] def typeName : String := "label-presence"

def ruleType : RuleType where
  name := typeName
  summary := "Input fields have a text label positioned next to them"
  defaultSeverity := .warning

end LabelPresence

/-- The phrase is contained in one text at most. -/
structure TextUniqueness where
  targetText : String
deriving BEq

namespace TextUniqueness

@[match_pattern] def typeName : String := "text-uniqueness"

def ruleType : RuleType where
  name := typeName
  summary := "The given text appears in at most one text layer"
  defaultSeverity := .warning

end TextUniqueness

/-- Some text is a heading. The style is kept and not looked at. -/
structure HeadingPresence where
  textStyle : Option String
deriving BEq

namespace HeadingPresence

@[match_pattern] def typeName : String := "heading-presence"

def ruleType : RuleType where
  name := typeName
  summary := "Some text layer is named like a heading or is set large"
  defaultSeverity := .warning

end HeadingPresence

/-- Every image has a description; the target names further images. -/
structure AltTextPresence where
  target : Option String
deriving BEq

namespace AltTextPresence

@[match_pattern] def typeName : String := "alt-text-presence"

def ruleType : RuleType where
  name := typeName
  summary := "Shapes, icons and images carry a description or nearby text"
  defaultSeverity := .warning

end AltTextPresence

/-- The targets are aligned; this is not judged. -/
structure ElementAlignment where
  target : String
  alignment : String
deriving BEq

namespace ElementAlignment

@[match_pattern] def typeName : String := "element-alignment"

def ruleType : RuleType where
  name := typeName
  summary := "Target elements follow an alignment pattern (not verified)"
  defaultSeverity := .warning
  verified := false

end ElementAlignment

/-- Gaps lie between the bounds; this is not judged. -/
structure Spacing where
  min : Float
  max : Option Float
deriving BEq

namespace Spacing

@[match_pattern] def typeName : String := "spacing"

def ruleType : RuleType where
  name := typeName
  summary := "Gaps between elements stay within a range (not verified)"
  defaultSeverity := .warning
  verified := false

end Spacing

namespace ImageAlt

@[match_pattern] def typeName : String := "image-alt"

def ruleType : RuleType where
  name := typeName
  summary := "Rectangles with an image fill have a non-default name"
  defaultSeverity := .warning

end ImageAlt

namespace RuleType

/-- All types in the order in which they are listed. -/
def all : List RuleType :=
  [RequiredText.ruleType, FontSizeRange.ruleType, ColorContrast.ruleType,
    RequiredComponent.ruleType, ComponentPresence.ruleType, ElementSize.ruleType,
    LabelPresence.ruleType, TextUniqueness.ruleType, HeadingPresence.ruleType,
    AltTextPresence.ruleType, ElementAlignment.ruleType, Spacing.ruleType, ImageAlt.ruleType]

/-- The type of this name on the list. -/
def ofName? (s : String) : Option RuleType :=
  all.find? (·.name == s)

end RuleType

end CanvasLint
