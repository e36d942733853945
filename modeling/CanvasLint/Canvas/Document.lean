import CanvasLint.Canvas.Snapshot.Reader
import Std.Data.TreeMap

/-!
Documents: snapshots whose ids are distinct, whose sizes are finite and not negative, and whose
selection names elements of the document. The elements lie in one array in pre-order, parents before
their children, and tables lead from an id to the place of its element, its parent, its children and
its main component. All of them are filled in one pass over the snapshot.
-/
namespace CanvasLint.Canvas

open Json (Fault Position)
open Std (TreeMap)

inductive DocumentError where
  | unreadable (fault : Fault) (position : Position)
  | duplicateId (id : NodeId)
  | invalidSize (id : NodeId) (width height : Float)
  | unknownSelection (id : NodeId)

/-- The words of a complaint. One about the shape of the text names no place. -/
def DocumentError.message : DocumentError → String
  | unreadable fault position =>
    let place :=
      match fault.cause.category with
      | .unfitting => ""
      | .ended | .malformed => s!" at line {position.line} column {position.column}"
    s!"Failed to parse document: {fault.cause.message}{place}"
  | duplicateId id => s!"Duplicate node id `{id}`"
  | invalidSize id width height =>
    s!"Node `{id}` has invalid size {Number.plain width}x{Number.plain height}"
  | unknownSelection id => s!"Selection references unknown node `{id}`"

/-- A width or a height that an element can have. -/
def validExtent (x : Float) : Bool :=
  x.isFinite && x ≥ 0

structure Document where
  /-- All elements in pre-order. -/
  arena : Array Node
  /-- The places of the elements in the array. -/
  index : TreeMap NodeId Nat
  parents : TreeMap NodeId NodeId
  /-- The ids of the children in order, for each element that has a list of children. -/
  children : TreeMap NodeId (List NodeId)
  /-- The ids of the components that elements were made from, whether or not they are known. -/
  components : TreeMap NodeId NodeId
  roots : List NodeId
  selection : List NodeId

namespace Document

def empty : Document :=
  ⟨#[], ∅, ∅, ∅, ∅, [], []⟩

def nodes (d : Document) : List Node :=
  d.arena.toList

/-! ### Filling the tables -/

/-- An entry is made only if there is something to enter. -/
def enter {α : Type} (table : TreeMap NodeId α) (id : NodeId) : Option α → TreeMap NodeId α
  | some a => table.insert id a
  | none => table

/-- Puts an element behind all others. -/
def place (d : Document) (e : Element) (parent component : Option NodeId) : Document :=
  { d with
    arena := d.arena.push e.toNode
    index := d.index.insert e.id d.arena.size
    parents := enter d.parents e.id parent
    components := enter d.components e.id component }

/-- Puts an element behind all others, unless one of them has its id or its size makes no sense; of
both faults the id counts. -/
def accept (d : Document) (e : Element) (parent component : Option NodeId) :
    Except DocumentError Document :=
  if d.index.contains e.id then .error (.duplicateId e.id)
  else if validExtent e.width && validExtent e.height then .ok (d.place e parent component)
  else .error (.invalidSize e.id e.width e.height)

mutual

/-- Adds a tree, its top first, and gives the id of the top. The children of an element are entered
as soon as everything below it has been added. -/
def insert (d : Document) (parent : Option NodeId) :
    Tree → Except DocumentError (Document × NodeId)
  | .node e none component => do
    let d ← d.accept e parent component
    return (d, e.id)
  | .node e (some ts) component => do
    let d ← d.accept e parent component
    let (d, ids) ← d.insertAll (some e.id) ts
    return ({ d with children := d.children.insert e.id ids }, e.id)

def insertAll (d : Document) (parent : Option NodeId) :
    List Tree → Except DocumentError (Document × List NodeId)
  | [] => .ok (d, [])
  | t :: ts => do
    let (d, id) ← d.insert parent t
    let (d, ids) ← d.insertAll parent ts
    return (d, id :: ids)

end

/-! ### Views -/

def resolve? (d : Document) (id : NodeId) : Option Node := do
  d.arena[← d.index[id]?]?

/-- The ids of the children in order; `none` for an element that has no list of children. -/
def childrenOf (d : Document) (id : NodeId) : Option (List NodeId) :=
  d.children[id]?

def parentOf (d : Document) (id : NodeId) : Option NodeId :=
  d.parents[id]?

/-- The component that an element was made from, if it is in the document. -/
def mainComponentOf (d : Document) (id : NodeId) : Option Node := do
  d.resolve? (← d.components[id]?)

/-! ### Selecting -/

/-- The first id that no element has. -/
def firstUnknown? (d : Document) (ids : List NodeId) : Option NodeId :=
  ids.find? fun id => !d.index.contains id

/-- Replaces the selection if it names elements of the document only. -/
def select (d : Document) (ids : List NodeId) : Except DocumentError Document :=
  match d.firstUnknown? ids with
  | some id => .error (.unknownSelection id)
  | none => .ok { d with selection := ids }

/-- The document of a snapshot. Faults of elements come before faults of the selection. -/
def ofSnapshot (s : Snapshot) : Except DocumentError Document := do
  let (d, roots) ← empty.insertAll none s.trees
  let d := { d with roots }
  match s.selection with
  | none => return { d with selection := roots }
  | some ids => d.select ids

/-- The document that a text holds. -/
def ofText (text : String) : Except DocumentError Document :=
  match Snapshot.ofText text with
  | .error fault => .error (.unreadable fault (fault.position text))
  | .ok s => ofSnapshot s

end Document

end CanvasLint.Canvas
