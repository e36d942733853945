import CanvasLint.Canvas.Document

/-!
What one can ask of whatever holds a canvas: which elements are selected, and for an id the element,
its children, its parent and its main component. A document is such a host, and a scan knows the
document as nothing more.
-/
namespace CanvasLint.Canvas

structure Host where
  selection : List NodeId
  resolve? : NodeId → Option Node
  /-- The ids of the children in order; `none` for an element that has no list of children. -/
  childrenOf : NodeId → Option (List NodeId)
  parentOf : NodeId → Option NodeId
  /-- The component that an element was made from, if it is known. -/
  mainComponentOf : NodeId → Option Node

/-- The document as a host. -/
def Document.host (d : Document) : Host where
  selection := d.selection
  resolve? := d.resolve?
  childrenOf := d.childrenOf
  parentOf := d.parentOf
  mainComponentOf := d.mainComponentOf

end CanvasLint.Canvas
