import CanvasLint.Rule.Condition

/-!
Rule sets that come with the linter: a recommended one for whole screens and a basic one for
typography, contrast and the names of images.
-/
namespace CanvasLint

inductive Preset where
  | recommended
  | basic
deriving DecidableEq, Repr

namespace Preset

def all : List Preset := [recommended, basic]

def name : Preset → String
  | recommended => "recommended"
  | basic => "basic"

def ofName? (s : String) : Option Preset :=
  all.find? (·.name == s)

/-- Rules for whole screens, each with its own severity. -/
def recommendedRules : List Rule :=
  [⟨"req-primary-button", "Every screen must contain a clearly styled primary action button",
      some .error, .valid (.componentPresence ⟨"PrimaryButton"⟩)⟩,
    ⟨"text-contrast",
      "Text elements must have a minimum contrast ratio of 4.5:1 against the background",
      some .error, .valid (.colorContrast ⟨4.5⟩)⟩,
    ⟨"font-size-min", "Body text should be at least 14px for readability",
      some .warning, .valid (.fontSize ⟨some 14, none⟩)⟩,
    ⟨"tap-target-size",
      "Interactive elements must be at least 44x44 pixels for touch accessibility",
      some .warning, .valid (.elementSize ⟨44, 44⟩)⟩,
    ⟨"missing-label", "All input fields must have associated labels",
      some .error, .valid (.labelPresence ⟨some "input"⟩)⟩,
    ⟨"duplicate-cta", "Avoid using the same CTA text more than once on a screen",
      some .warning, .valid (.textUniqueness ⟨"Submit"⟩)⟩,
    ⟨"section-header-required", "Sections must include a heading element for clarity",
      some .warning, .valid (.headingPresence ⟨some "Heading"⟩)⟩,
    ⟨"icon-alt-text", "Icons and images must include alt text or a label for accessibility",
      some .warning, .valid (.altTextPresence ⟨some "icon"⟩)⟩,
    ⟨"btn-alignment", "Primary action buttons should be aligned consistently",
      some .warning, .valid (.elementAlignment ⟨"PrimaryButton", "bottom-right"⟩)⟩]

/-- Rules that leave the severity to their kind. -/
def basicRules : List Rule :=
  [⟨"min-font-size", "Text must be at least 12px for readability",
      none, .valid (.fontSize ⟨some 12, none⟩)⟩,
    ⟨"max-font-size", "Heading text should not exceed 72px",
      none, .valid (.fontSize ⟨none, some 72⟩)⟩,
    ⟨"color-contrast", "Text must meet WCAG AA contrast requirements (4.5:1)",
      none, .valid (.colorContrast ⟨4.5⟩)⟩,
    ⟨"image-alt", "Images should have descriptive names for accessibility",
      none, .valid .imageAlt⟩]

def rules : Preset → List Rule
  | recommended => recommendedRules
  | basic => basicRules

end Preset

end CanvasLint
