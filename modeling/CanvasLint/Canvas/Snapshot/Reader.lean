import CanvasLint.Canvas.Snapshot
import CanvasLint.Json.Typed

/-!
Reading snapshots. The fields of an element are read in the order of the text; font sizes and fills
can have several shapes and are judged once they have been read.
-/
namespace CanvasLint.Canvas

open Json (Fault Form Mismatch Record Value)
open Json.Typed (Slot)
open Text (Reader)

namespace FillsEntry

/-- The word for values that differ between the parts of an element. -/
def mixedWord : String := "mixed"

/-- The word for mixed values, alone or as the only key of an object with the value `null`. -/
def isMixedWord : Value → Bool
  | .string s => s == mixedWord
  | .object [(key, .null)] => key == mixedWord
  | _ => false

structure TintDraft where
  red : Option Float := none
  green : Option Float := none
  blue : Option Float := none

def tintRecord : Record TintDraft where
  title := "NormalizedColor"
  slots := [
    .of "r" [] (·.red) (fun x d => { d with red := some x }) Value.asFloat,
    .of "g" [] (·.green) (fun x d => { d with green := some x }) Value.asFloat,
    .of "b" [] (·.blue) (fun x d => { d with blue := some x }) Value.asFloat]
  empty := {}

def tintOf (v : Value) : Except Mismatch Tint := do
  let (d, form) ← tintRecord.read v
  return ⟨← tintRecord.need form 0 "r" d.red, ← tintRecord.need form 1 "g" d.green,
    ← tintRecord.need form 2 "b" d.blue⟩

structure PaintDraft where
  kind : Option PaintKind := none
  color : Option (Option Tint) := none

def paintRecord : Record PaintDraft where
  title := "PaintSnapshot"
  slots := [
    .of "type" [] (·.kind) (fun k d => { d with kind := some k })
      (Value.asName [] fun name => some (PaintKind.ofName name)),
    .of "color" [] (·.color) (fun c d => { d with color := some c }) (Value.orNull tintOf)]
  empty := {}

def paintOf (v : Value) : Except Mismatch PaintEntry := do
  let (d, form) ← paintRecord.read v
  return ⟨← paintRecord.need form 0 "type" d.kind, d.color.join⟩

/-- Fills are a list of paints or the word for mixed fills. -/
def ofValue (v : Value) : Except Mismatch FillsEntry :=
  let unfit : Except Mismatch FillsEntry := .error (.noAlternative "FillsSnapshot")
  match v with
  | .array items =>
    match items.mapM paintOf with
    | .ok ps => .ok (.paints ps)
    | .error _ => unfit
  | v => if isMixedWord v then .ok .mixed else unfit

end FillsEntry

/-- A font size is a number or the word for mixed sizes. -/
def FontSizeEntry.ofValue (v : Value) : Except Mismatch FontSizeEntry :=
  match v with
  | .number n => .ok (.px n.toFloat)
  | v => if FillsEntry.isMixedWord v then .ok .mixed else .error (.noAlternative "FontSizeSnapshot")

namespace Tree

/-- The fields of an element that have been read so far. -/
structure Draft where
  id : Option String := none
  name : Option String := none
  kind : Option NodeKind := none
  x : Option Float := none
  y : Option Float := none
  width : Option Float := none
  height : Option Float := none
  characters : Option (Option String) := none
  fontSize : Option (Option FontSizeEntry) := none
  fontWeight : Option (Option Float) := none
  fills : Option (Option FillsEntry) := none
  children : Option (Option (List Tree)) := none
  mainComponent : Option (Option String) := none

/-- The fields of an element in order, where `budget` brackets may be opened inside it. -/
def slots (budget : Nat) (child : Reader Fault Tree) : List (Slot Draft) :=
  open Json in [
    .of "id" (·.id) (fun a d => { d with id := some a }) Typed.text,
    .of "name" (·.name) (fun a d => { d with name := some a }) Typed.text,
    .of "type" (·.kind) (fun a d => { d with kind := some a })
      (Typed.choice budget NodeKind.ofName),
    .of "x" (·.x) (fun a d => { d with x := some a }) Typed.number,
    .of "y" (·.y) (fun a d => { d with y := some a }) Typed.number,
    .of "width" (·.width) (fun a d => { d with width := some a }) Typed.number,
    .of "height" (·.height) (fun a d => { d with height := some a }) Typed.number,
    .of "characters" (·.characters) (fun a d => { d with characters := some a })
      (Typed.orNull Typed.text),
    .of "fontSize" (·.fontSize) (fun a d => { d with fontSize := some a })
      (Typed.orNull (Typed.judged budget FontSizeEntry.ofValue)),
    .of "fontWeight" (·.fontWeight) (fun a d => { d with fontWeight := some a })
      (Typed.orNull Typed.number),
    .of "fills" (·.fills) (fun a d => { d with fills := some a })
      (Typed.orNull (Typed.judged budget FillsEntry.ofValue)),
    .of "children" (·.children) (fun a d => { d with children := some a })
      (Typed.orNull (Typed.list budget child)),
    .of "mainComponent" (·.mainComponent) (fun a d => { d with mainComponent := some a })
      (Typed.orNull Typed.text)]

/-- What messages call an element. -/
def title : String := "NodeSnapshot"

/-- The element of a draft. Only the id and the kind have to be given. -/
def ofDraft (d : Draft) (form : Form) : Except Mismatch Tree :=
  match d.id, d.kind with
  | none, _ => .error (form.missing title 13 0 "id")
  | some _, none => .error (form.missing title 13 2 "type")
  | some id, some kind =>
    .ok (.node
      { id, kind
        name := d.name.getD ""
        x := d.x.getD 0
        y := d.y.getD 0
        width := d.width.getD 0
        height := d.height.getD 0
        characters := d.characters.join
        fontSize := d.fontSize.join
        fontWeight := d.fontWeight.join
        fills := d.fills.join }
      d.children.join d.mainComponent.join)

/-- An element whose children are read by `child`. -/
def readWith (budget : Nat) (child : Reader Fault Tree) : Reader Fault Tree :=
  Json.Typed.record budget title (slots (budget - 1) child) {} ofDraft

/-- An element, with at most this many brackets open at once. Each generation takes two, one for
the element and one for the list of its children. -/
def read : Nat → Reader Fault Tree
  | 0 => readWith 0 Json.Layout.refuseNesting
  | 1 => readWith 1 Json.Layout.refuseNesting
  | budget + 2 => readWith (budget + 2) (read budget)

end Tree

namespace Snapshot

structure Draft where
  selection : Option (Option (List String)) := none
  trees : Option (List Tree) := none

def slots (budget : Nat) : List (Slot Draft) :=
  open Json in [
    .of "selection" (·.selection) (fun a d => { d with selection := some a })
      (Typed.orNull (Typed.list budget Typed.text)),
    .of "nodes" (·.trees) (fun a d => { d with trees := some a })
      (Typed.list budget (Tree.read (budget - 1)))]

def read : Reader Fault Snapshot :=
  Json.Typed.record Json.nestingLimit "DocumentSnapshot" (slots (Json.nestingLimit - 1)) {}
    fun d _ => .ok ⟨d.selection.join, d.trees.getD []⟩

/-- The snapshot that a text holds. -/
def ofText (text : String) : Except Fault Snapshot :=
  Json.readWhole read text

end Snapshot

end CanvasLint.Canvas
