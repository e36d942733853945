import CanvasLint.Json.Layout

/-!
Reading JSON texts. A text holds one value and nothing else but blanks. The value is read as it
stands; of several members of one object with the same key the last counts.
-/
namespace CanvasLint.Json

open Text (Rest Reader)

/-- A number; a magnitude that no float reaches is complained about where this shows. -/
def readNumber : Reader Fault Number := fun s =>
  match Numeral.read .endInValue s with
  | .error fault => .error fault
  | .ok (numeral, r) =>
    match numeral.value with
    | .ok n => .ok (n, r)
    | .error unread => .error ⟨.numberOutOfRange, Text.bytes r.1 + unread⟩

/-- A value that holds no others, at the front of the text. -/
def readScalar : Reader Fault Value := fun s =>
  match s with
  | [] => .error (.atEnd .endInValue)
  | 'n' :: t => Layout.readLiteral .null ['u', 'l', 'l'] 'n' t
  | 't' :: t => Layout.readLiteral (.bool true) ['r', 'u', 'e'] 't' t
  | 'f' :: t => Layout.readLiteral (.bool false) ['a', 'l', 's', 'e'] 'f' t
  | '"' :: t => Reader.behind '"' (Reader.map .string Quoted.read t)
  | c :: t =>
    if c = '-' ∨ c.isDigit then Reader.map .number readNumber (c :: t)
    else .error (.upon .expectedValue (c :: t))

/-- How the members of an object are kept: the members so far, a key and its value. -/
abbrev Keeping := List (String × Value) → String → Value → List (String × Value)

/-- Any value, with at most this many brackets open at once. -/
def readNested (keep : Keeping) (budget : Nat) : Reader Fault Value :=
  pastSpace fun s =>
    match s with
    | '[' :: t =>
      match budget with
      | 0 => .error (.upon .tooDeep ('[' :: t))
      | inner + 1 =>
        Reader.behind '[' (Reader.map .array (Layout.readItems (readNested keep inner) true) t)
    | '\x7b' :: t =>
      match budget with
      | 0 => .error (.upon .tooDeep ('\x7b' :: t))
      | inner + 1 =>
        let member (gathered : List (String × Value)) (key : String) :
            Except Mismatch (Reader Fault (List (String × Value))) :=
          .ok (Reader.map (keep gathered key) (readNested keep inner))
        Reader.behind '\x7b' (Reader.map .object (Layout.readMembers member true []) t)
    | s => readScalar s

/-- A value whose objects are sorted and without repeated keys. -/
def readValue : Nat → Reader Fault Value :=
  readNested fun members key value => Value.insertMember key value members

/-- A value whose objects have all the members of the text, in the order of the text. -/
def readVerbatim : Nat → Reader Fault Value :=
  readNested fun members key value => members ++ [(key, value)]

/-- What a reader takes from a text with nothing but blanks after it. -/
def readWhole {α : Type} (r : Reader Fault α) (text : String) : Except Fault α :=
  match r text.toList with
  | .error fault => .error fault
  | .ok (a, rest) =>
    match skipSpace rest.1 with
    | [] => .ok a
    | s => .error (.upon .trailingCharacters s)

/-- The value that a text holds. -/
def Value.ofText (text : String) : Except Fault Value :=
  readWhole (readValue nestingLimit) text

end CanvasLint.Json
