import CanvasLint.Canvas.Node

/-!
Snapshots of a canvas: the trees of elements as a host writes them down, with the selection if
there is one. A snapshot is a list of trees; whether their ids are distinct and their sizes make
sense is not settled here. An element without a list of children differs from one with an empty
list.
-/
namespace CanvasLint.Canvas

/-- A font size as it is written down: in pixels, or the word for mixed sizes. -/
inductive FontSizeEntry where
  | px (size : Float)
  | mixed

structure PaintEntry where
  kind : PaintKind
  color : Option Tint

/-- Fills as they are written down: paints, or the word for mixed fills. -/
inductive FillsEntry where
  | paints (ps : List PaintEntry)
  | mixed

def FontSizeEntry.fontSize : FontSizeEntry → FontSize
  | px size => .px size
  | mixed => .mixed

def PaintEntry.paint (p : PaintEntry) : Paint where
  kind := p.kind
  color := p.color

def FillsEntry.fills : FillsEntry → Fills
  | paints ps => .paints (ps.map PaintEntry.paint)
  | mixed => .mixed

/-- An element as a host writes it down, without what stands below it. -/
structure Element where
  id : NodeId
  name : String := ""
  kind : NodeKind
  x : Float := 0
  y : Float := 0
  width : Float := 0
  height : Float := 0
  characters : Option String := none
  fontSize : Option FontSizeEntry := none
  fontWeight : Option Float := none
  fills : Option FillsEntry := none

/-- The element as it lies in a document. One without fills has no paints. -/
def Element.toNode (e : Element) : Node where
  id := e.id
  name := e.name
  kind := e.kind
  x := e.x
  y := e.y
  width := e.width
  height := e.height
  characters := e.characters
  fontSize := e.fontSize.map FontSizeEntry.fontSize
  fontWeight := e.fontWeight
  fills :=
    match e.fills with
    | some written => written.fills
    | none => .paints []

/-- An element with its subtree and the id of the component it was made from. -/
inductive Tree where
  | node (content : Element) (children : Option (List Tree)) (mainComponent : Option NodeId)

namespace Tree

def content : Tree → Element
  | node e _ _ => e

def children : Tree → Option (List Tree)
  | node _ ts _ => ts

def mainComponent : Tree → Option NodeId
  | node _ _ m => m

end Tree

structure Snapshot where
  /-- The ids of the selected elements; without it every top-level element is selected. -/
  selection : Option (List NodeId)
  trees : List Tree

end CanvasLint.Canvas
