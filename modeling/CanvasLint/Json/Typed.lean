import CanvasLint.Json.Reader
import CanvasLint.Json.Skip
import CanvasLint.Json.Record

/-!
Reading values of a known shape straight from a text. Whatever is wrong first in the text is what
is complained about, be it the spelling or the shape. Members that no field answers to are passed
over with fewer demands than values that are read.
-/
namespace CanvasLint.Json.Typed

open Text (Rest Reader)

/-- The complaint about a value of another type. Scalars are read, so their spelling comes first;
lists and objects are named by their kind. -/
def unfitting (expected : Expected) (s : List Char) : Fault :=
  match s with
  | [] => .atEnd .endInValue
  | '[' :: _ => .unfit (.wrongType .list expected) s
  | '\x7b' :: _ => .unfit (.wrongType .object expected) s
  | s =>
    match readScalar s with
    | .ok (v, r) => .unfit (.wrongType v.found expected) r.1
    | .error fault => fault

def text : Reader Fault String :=
  pastSpace fun s =>
    match s with
    | '"' :: t => Reader.behind '"' (Quoted.read t)
    | s => .error (unfitting .text s)

def number : Reader Fault Float :=
  pastSpace fun s =>
    match s with
    | [] => .error (.atEnd .endInValue)
    | c :: t =>
      if c = '-' ∨ c.isDigit then Reader.map Number.toFloat readNumber (c :: t)
      else .error (unfitting .number (c :: t))

/-- The value `null` where nothing else is expected. -/
def nothing : Reader Fault Unit :=
  pastSpace fun s =>
    match s with
    | 'n' :: t => Layout.readLiteral () ['u', 'l', 'l'] 'n' t
    | s => .error (unfitting .nothing s)

/-- `null` stands for no value. -/
def orNull {α : Type} (r : Reader Fault α) : Reader Fault (Option α) := fun s =>
  match skipSpace s with
  | 'n' :: _ => Reader.map (fun _ => none) nothing s
  | _ => Reader.map some r s

/-- A value that is read as it stands before it is judged as a whole. -/
def judged {α : Type} (budget : Nat) (judge : Value → Except Mismatch α) : Reader Fault α := fun s =>
  match readVerbatim budget s with
  | .error fault => .error fault
  | .ok (v, r) =>
    match judge v with
    | .ok a => .ok (a, r)
    | .error mismatch => .error (.unfit mismatch r.1)

/-- The items of a list, with at most `budget` brackets open at once. -/
def list {α : Type} (budget : Nat) (item : Reader Fault α) : Reader Fault (List α) :=
  pastSpace fun s =>
    match s with
    | '[' :: t =>
      if budget = 0 then .error (.upon .tooDeep ('[' :: t))
      else Reader.behind '[' (Layout.readItems item true t)
    | s => .error (unfitting .list s)

/-- One field of a record that is gathered in a draft `σ` while it is read. -/
structure Slot (σ : Type) where
  name : String
  taken : σ → Bool
  read : σ → Reader Fault σ

/-- A field that a draft holds in one of its places. -/
def Slot.of {σ α : Type} (name : String) (get : σ → Option α) (put : α → σ → σ)
    (read : Reader Fault α) : Slot σ where
  name := name
  taken draft := (get draft).isSome
  read draft := Reader.map (fun a => put a draft) read

/-- The reader of the value after a key. -/
def member {σ : Type} (slots : List (Slot σ)) (draft : σ) (key : String) :
    Except Mismatch (Reader Fault σ) :=
  match slots.find? (fun slot => slot.name == key) with
  | none => .ok (Reader.map (fun _ => draft) skipValue)
  | some slot =>
    if slot.taken draft then .error (.duplicateField slot.name) else .ok (slot.read draft)

/-- The closing bracket after the last field of a record that is written as a list. -/
def closeFields {α : Type} (a : α) : Reader Fault α :=
  pastSpace fun s =>
    match s with
    | [] => .error (.atEnd .endInList)
    | c :: t =>
      if c = ']' then .ok (a, Rest.tail c t)
      else if c = ',' then
        match skipSpace t with
        | ']' :: u => .error (.upon .trailingComma (']' :: u))
        | u => .error (.upon .trailingCharacters u)
      else .error (.upon .trailingCharacters (c :: t))

/-- The fields of a record in order, after the opening bracket; the list may end early. -/
def fields {σ : Type} (slots : List (Slot σ)) (first : Bool) (draft : σ) : Reader Fault σ :=
  match slots with
  | [] => closeFields draft
  | slot :: slots => pastSpace fun s =>
    match s with
    | [] => .error (.atEnd .endInList)
    | c :: t =>
      let read : Reader Fault σ := fun s =>
        match slot.read draft s with
        | .error fault => .error fault
        | .ok (draft', r) => Reader.onRest (fields slots false draft') r
      if c = ']' then .ok (draft, Rest.tail c t)
      else if first then read (c :: t)
      else if c = ',' then Reader.behind c (Layout.afterComma ']' read t)
      else .error (.upon .expectedListCommaOrEnd (c :: t))

/-- A record, with at most `budget` brackets open at once, and what becomes of its draft. -/
def record {σ α : Type} (budget : Nat) (title : String) (slots : List (Slot σ)) (empty : σ)
    (finish : σ → Form → Except Mismatch α) : Reader Fault α :=
  let finished (form : Form) (read : Reader Fault σ) : Reader Fault α := fun s =>
    match read s with
    | .error fault => .error fault
    | .ok (draft, r) =>
      match finish draft form with
      | .ok a => .ok (a, r)
      | .error mismatch => .error (.unfit mismatch r.1)
  pastSpace fun s =>
    match s with
    | '[' :: t =>
      if budget = 0 then .error (.upon .tooDeep ('[' :: t))
      else Reader.behind '[' (finished .listed (fields slots true empty) t)
    | '\x7b' :: t =>
      if budget = 0 then .error (.upon .tooDeep ('\x7b' :: t))
      else Reader.behind '\x7b' (finished .named (Layout.readMembers (member slots) true empty) t)
    | s => .error (unfitting (.record title) s)

/-- The name of a choice, where every text is some name. -/
def variantName : Reader Fault String :=
  pastSpace fun s =>
    match s with
    | '"' :: t => Reader.behind '"' (Quoted.read t)
    | s => .error (unfitting .variantName s)

/-- The closing brace after the only member of an object. -/
def closeChoice {α : Type} (a : α) : Reader Fault α :=
  pastSpace fun s =>
    match s with
    | [] => .error (.atEnd .endInObject)
    | c :: t => if c = '\x7d' then .ok (a, Rest.tail c t) else .error (.before .expectedValue (c :: t))

/-- A choice, given by its name or as an object whose only member has that key and the value
`null`. -/
def choice {α : Type} (budget : Nat) (ofName : String → α) : Reader Fault α :=
  pastSpace fun s =>
    match s with
    | [] => .error (.atEnd .endInValue)
    | '"' :: t => Reader.behind '"' (Reader.map ofName Quoted.read t)
    | '\x7b' :: t =>
      if budget = 0 then .error (.upon .tooDeep ('\x7b' :: t))
      else
        match variantName t with
        | .error fault => .error fault
        | .ok (name, r) =>
          match Reader.onRest (Layout.readAssigned nothing) r with
          | .error fault => .error fault
          | .ok (_, r') => Reader.behind '\x7b' (Reader.onRest (closeChoice (ofName name)) r')
    | s => .error (.upon .expectedValue s)

end CanvasLint.Json.Typed
