/-!
Tables of a TOML document while it is read, and the values that it holds in the end. A table is
made by a header of its own, in passing by the header of a table inside it, or by a key with dots.
How it was made decides what may still be added to it: a table made in passing may get a header of
its own, one made by dots may be extended by dots only, and a value is never extended.
-/
namespace CanvasLint.Toml

inductive Value where
  | string (s : String)
  | integer (n : Int)
  | float (x : Float)
  | boolean (b : Bool)
  /-- A date, a time of day, or both. -/
  | moment
  | array (items : List Value)
  | table (members : List (String × Value))

/-- How a table was made. -/
inductive Origin where
  | written
  | passing
  | dotted
deriving DecidableEq, Repr

mutual

inductive Item where
  | value (v : Value)
  | table (t : Table)
  /-- A list of tables made by headers in double brackets; the last one is still open. -/
  | tables (earlier : List Table) (last : Table)

inductive Table where
  | mk (origin : Origin) (entries : List (String × Item))

end

namespace Table

def origin : Table → Origin
  | mk o _ => o

def entries : Table → List (String × Item)
  | mk _ es => es

/-- A table with a header of its own and nothing in it. -/
def new : Table :=
  .mk .written []

def find? (t : Table) (key : String) : Option Item :=
  t.entries.lookup key

/-- Gives a key its item; an item that it has is replaced. -/
def set (t : Table) (key : String) (item : Item) : Table :=
  .mk t.origin ((t.entries.filter fun e => e.1 != key) ++ [(key, item)])

/-- Changes the table that a path leads to. Tables that are missing on the way are made; a list of
tables is entered at its last one. Dots do not lead into tables with a header of their own. -/
def update (dots : Bool) (path : List String) (change : Table → Option Table) (t : Table) :
    Option Table :=
  match path with
  | [] => change t
  | key :: path =>
    match t.find? key with
    | none => do
      let inner ← update dots path change (.mk (if dots then .dotted else .passing) [])
      return t.set key (.table inner)
    | some (.value _) => none
    | some (.tables earlier last) => do
      return t.set key (.tables earlier (← update dots path change last))
    | some (.table inner) =>
      if dots && inner.origin = .written then none
      else do return t.set key (.table (← update dots path change inner))

/-- Adds the value of a key with dots; no key has two values. -/
def insert (t : Table) (path : List String) (key : String) (v : Value) : Option Table :=
  t.update true path fun inner =>
    if decide (inner.origin = .dotted) = path.isEmpty then none
    else if (inner.find? key).isSome then none
    else some (inner.set key (.value v))

/-- Gives the table at a path a header of its own, unless it has been made otherwise. -/
def openTable (t : Table) (path : List String) (key : String) : Option Table :=
  t.update false path fun parent =>
    match parent.find? key with
    | none => some (parent.set key (.table new))
    | some (.table inner) =>
      if inner.origin = .passing then some (parent.set key (.table (.mk .written inner.entries)))
      else none
    | some _ => none

/-- Starts another table in the list at a path. -/
def openNext (t : Table) (path : List String) (key : String) : Option Table :=
  t.update false path fun parent =>
    match parent.find? key with
    | none => some (parent.set key (.tables [] new))
    | some (.tables earlier last) => some (parent.set key (.tables (earlier ++ [last]) new))
    | some _ => none

end Table

mutual

def Item.toValue : Item → Value
  | .value v => v
  | .table t => t.toValue
  | .tables earlier last => .array (valuesOfTables earlier ++ [last.toValue])

/-- The table as a plain value. -/
def Table.toValue : Table → Value
  | .mk _ entries => .table (membersOfEntries entries)

def valuesOfTables : List Table → List Value
  | [] => []
  | t :: ts => t.toValue :: valuesOfTables ts

def membersOfEntries : List (String × Item) → List (String × Value)
  | [] => []
  | (key, item) :: rest => (key, item.toValue) :: membersOfEntries rest

end

end CanvasLint.Toml
