import CanvasLint.Json.Mismatch

/-!
Records taken from JSON values. A record is an object with known members or the list of its fields
in order. It is gathered field by field in a draft, which knows the fields that are still missing;
members that no field answers to are passed over, and the first value that does not fit decides
what is complained about.
-/
namespace CanvasLint.Json

namespace Value

def asText : Value → Except Mismatch String
  | .string s => .ok s
  | v => .error (.wrongType v.found .text)

def asFloat : Value → Except Mismatch Float
  | .number n => .ok n.toFloat
  | v => .error (.wrongType v.found .number)

def asBool : Value → Except Mismatch Bool
  | .bool b => .ok b
  | v => .error (.wrongType v.found .boolean)

def asList : Value → Except Mismatch (List Value)
  | .array items => .ok items
  | v => .error (.wrongType v.found .list)

/-- `null` stands for no value. -/
def orNull {α : Type} (read : Value → Except Mismatch α) : Value → Except Mismatch (Option α)
  | .null => .ok none
  | v => (read v).map some

/-- One of several names, given as a string or as the only key of an object with the value
`null`. -/
def asName {α : Type} (known : List String) (ofName? : String → Option α) :
    Value → Except Mismatch α
  | .string s => named s
  | .object [(key, v)] => do
    let a ← named key
    match v with
    | .null => return a
    | other => .error (.wrongType other.found .nothing)
  | .object _ => .error (.wrongValue .object .singleMember)
  | v => .error (.wrongType v.found .variant)
where
  named (s : String) : Except Mismatch α :=
    match ofName? s with
    | some a => .ok a
    | none => .error (.unknownName s known)

end Value

/-- One field of a record that is gathered in a draft `σ`. -/
structure Slot (σ : Type) where
  name : String
  /-- Other keys that the field answers to. -/
  aliases : List String
  taken : σ → Bool
  fill : Value → σ → Except Mismatch σ

namespace Slot

/-- A field that a draft holds in one of its places. -/
def of {σ α : Type} (name : String) (aliases : List String) (get : σ → Option α)
    (put : α → σ → σ) (read : Value → Except Mismatch α) : Slot σ where
  name := name
  aliases := aliases
  taken draft := (get draft).isSome
  fill v draft := (read v).map fun a => put a draft

def answers {σ : Type} (slot : Slot σ) (key : String) : Bool :=
  key == slot.name || slot.aliases.contains key

end Slot

/-- How a record was written, which decides what is said about a missing field. -/
inductive Form where
  | named
  | listed
deriving DecidableEq, Repr

/-- What is said about a field that has to be there and is not: its name in an object, its place
in a list. -/
def Form.missing (form : Form) (title : String) (count index : Nat) (name : String) : Mismatch :=
  match form with
  | .named => .missingField name
  | .listed => .wrongLength index (.fields title count)

structure Record (σ : Type) where
  title : String
  slots : List (Slot σ)
  /-- The draft that no field has been put into. -/
  empty : σ

namespace Record

variable {σ : Type}

/-- The draft after one more member. No field may be given twice, whatever its spellings. -/
def readMember (r : Record σ) (draft : σ) (member : String × Value) : Except Mismatch σ :=
  match r.slots.find? (·.answers member.1) with
  | none => .ok draft
  | some slot =>
    if slot.taken draft then .error (.duplicateField slot.name) else slot.fill member.2 draft

/-- Fills the fields in order, as far as there are items. -/
def readItems (slots : List (Slot σ)) (items : List Value) (draft : σ) : Except Mismatch σ :=
  match slots, items with
  | slot :: slots, v :: items => do readItems slots items (← slot.fill v draft)
  | _, _ => .ok draft

/-- The draft of a record and the form in which it was written. -/
def read (r : Record σ) : Value → Except Mismatch (σ × Form)
  | .object members => do return (← members.foldlM r.readMember r.empty, .named)
  | .array items => do
    let draft ← readItems r.slots items r.empty
    if r.slots.length < items.length then .error (.wrongLength items.length .fewerElements)
    else return (draft, .listed)
  | v => .error (.wrongType v.found (.record r.title))

/-- The content of a field that has to be there. -/
def need {α : Type} (r : Record σ) (form : Form) (index : Nat) (name : String) :
    Option α → Except Mismatch α
  | some a => .ok a
  | none => .error (form.missing r.title r.slots.length index name)

end Record

end CanvasLint.Json
