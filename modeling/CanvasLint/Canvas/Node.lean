import CanvasLint.Color.Rgb
import CanvasLint.Text.Occurrence

/-!
Elements of a canvas as plain values: what they are called, where they lie, and, for text, what
they say and how it is set. How elements are nested is not part of an element.
-/
namespace CanvasLint.Canvas

/-- Identifies an element within its document. -/
abbrev NodeId := String

inductive NodeKind where
  | text
  | frame
  | component
  | componentInstance
  | rectangle
  | ellipse
  | group
  | other
deriving DecidableEq, Repr

namespace NodeKind

def name : NodeKind → String
  | text => "TEXT"
  | frame => "FRAME"
  | component => "COMPONENT"
  | componentInstance => "INSTANCE"
  | rectangle => "RECTANGLE"
  | ellipse => "ELLIPSE"
  | group => "GROUP"
  | other => "OTHER"

def all : List NodeKind :=
  [text, frame, component, componentInstance, rectangle, ellipse, group, other]

/-- The kind with this name; every other name is some other kind. -/
def ofName (s : String) : NodeKind :=
  (all.find? (·.name == s)).getD other

end NodeKind

inductive PaintKind where
  | solid
  | image
  | other
deriving DecidableEq, Repr

namespace PaintKind

def name : PaintKind → String
  | solid => "SOLID"
  | image => "IMAGE"
  | other => "OTHER"

def ofName (s : String) : PaintKind :=
  (([solid, image] : List PaintKind).find? (·.name == s)).getD other

end PaintKind

/-- A color by its channels as fractions of the full intensity. -/
structure Tint where
  red : Float
  green : Float
  blue : Float

def Tint.rgb (t : Tint) : Rgb :=
  .ofFractions t.red t.green t.blue

structure Paint where
  kind : PaintKind
  color : Option Tint

/-- What an element is filled with: paints from the top down, or paints that differ between its
parts. -/
inductive Fills where
  | paints (ps : List Paint)
  | mixed

namespace Fills

def has (kind : PaintKind) : Fills → Bool
  | paints ps => ps.any (·.kind = kind)
  | mixed => false

/-- The color of the topmost solid paint, if it has one. Paints below it are not looked at. -/
def solidColor? : Fills → Option Rgb
  | paints ps => do
    let top ← ps.find? (·.kind = .solid)
    return (← top.color).rgb
  | mixed => none

end Fills

/-- The size of a text in pixels, or sizes that differ between its parts. -/
inductive FontSize where
  | px (size : Float)
  | mixed

structure Node where
  id : NodeId
  name : String := ""
  kind : NodeKind
  x : Float := 0
  y : Float := 0
  width : Float := 0
  height : Float := 0
  characters : Option String := none
  fontSize : Option FontSize := none
  fontWeight : Option Float := none
  fills : Fills := .paints []

namespace Node

def isText (n : Node) : Bool :=
  n.kind = .text

/-- What the element says, nothing if it has no characters. -/
def text (n : Node) : String :=
  n.characters.getD ""

/-- The size of the text, with a stand-in where there is no single one. -/
def resolvedSize (n : Node) (standIn : Float) : Float :=
  match n.fontSize with
  | some (.px size) => size
  | some .mixed | none => standIn

def resolvedWeight (n : Node) : Float :=
  n.fontWeight.getD 400

/-- The name contains the fragment, regardless of case. -/
def nameContains (n : Node) (fragment : String) : Bool :=
  Text.containsFolded n.name fragment

def nameContainsAny (n : Node) (fragments : List String) : Bool :=
  Text.containsAnyFolded n.name fragments

end Node

end CanvasLint.Canvas
