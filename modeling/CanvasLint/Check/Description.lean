import CanvasLint.Check.Scan

/-!
Checks of whether elements are described: inputs by a label next to them, images by their own name
or by text close by, and image fills by a name that somebody chose. What belongs together is found
by position, wherever it sits in the tree.
-/
namespace CanvasLint

open Canvas (Node NodeKind)

/-- The name contains the fragment that a rule adds, if it adds one. -/
def isTarget (target : Option String) (n : Node) : Bool :=
  match target with
  | some fragment => n.nameContains fragment
  | none => false

namespace LabelPresence

def inputNames : List String := ["input", "field", "textfield"]

def labelName : String := "label"

def isInput (r : LabelPresence) (n : Node) : Bool :=
  n.nameContainsAny inputNames || isTarget r.target n

/-- Another text that is called a label lies within reach. -/
def hasLabel (s : Scan) (input : Node) : Bool :=
  s.texts.any fun label =>
    label.id != input.id && label.nameContains labelName
      && s.thresholds.labelWindow.near label input

def judge (r : LabelPresence) (s : Scan) : Verdict :=
  let unlabeled := s.nodes.filter fun n => r.isInput n && !hasLabel s n
  if unlabeled.isEmpty then .passed "All input fields have associated labels"
  else
    .failed ruleType.defaultSeverity
      (countOf unlabeled.length "input field" ++ " missing labels")
      (unlabeled.map fun n => (AffectedNode.ofNode n).withIssue "No associated label found")

end LabelPresence

namespace AltTextPresence

def imageNames : List String := ["icon", "image", "img"]

def descriptiveNames : List String := ["alt", "desc"]

def isImage (r : AltTextPresence) (n : Node) : Bool :=
  n.kind = .rectangle || n.kind = .ellipse || n.nameContainsAny imageNames || isTarget r.target n

/-- The name says that it describes, or some text lies within reach. -/
def isDescribed (s : Scan) (image : Node) : Bool :=
  image.nameContainsAny descriptiveNames
    || s.texts.any fun text => s.thresholds.altTextWindow.near text image

def judge (r : AltTextPresence) (s : Scan) : Verdict :=
  let missing := s.nodes.filter fun n => r.isImage n && !isDescribed s n
  if missing.isEmpty then .passed "All icons and images have descriptive text"
  else
    .failed ruleType.defaultSeverity
      (countOf missing.length "image" ++ " missing alt text")
      (missing.map fun n =>
        (AffectedNode.ofNode n).withIssue "No alt text or descriptive label found")

end AltTextPresence

namespace ImageAlt

/-- A rectangle filled with an image. -/
def isImage (n : Node) : Bool :=
  n.kind = .rectangle && n.fills.has .image

/-- Nobody has chosen the name. -/
def isUnnamed (t : Thresholds) (n : Node) : Bool :=
  let name := Text.trim n.name
  name.isEmpty || name == t.placeholderImageName

def judge (s : Scan) : Verdict :=
  let failing := s.nodes.filter fun n => isImage n && isUnnamed s.thresholds n
  if failing.isEmpty then .passed "All images have descriptive names"
  else
    .failed ruleType.defaultSeverity
      (countOf failing.length "image" ++ " missing descriptive names")
      (failing.map fun n => (AffectedNode.ofNode n).withIssue "Image layer has no descriptive name")

end ImageAlt

end CanvasLint
