import CanvasLint.Json.Quoted
import CanvasLint.Json.Numeral

/-!
Lists and objects in JSON texts, as far as brackets, commas and colons go. What stands inside is
read by the caller: a list by a reader for its items, an object by a function that says for each key
how the value after it changes what has been gathered so far. Brackets may be nested only to a
certain depth.
-/
namespace CanvasLint.Json

open Text (Rest Tail Reader)

/-- How many brackets may be open at once. -/
def nestingLimit : Nat := 127

/-- Blanks between the parts of a JSON text. -/
def isSpace (c : Char) : Bool :=
  c = ' ' || c = '\n' || c = '\t' || c = '\r'

def skipSpace (s : List Char) : List Char :=
  s.dropWhile isSpace

/-- Reads what stands behind leading blanks. -/
def pastSpace {α : Type} (r : Reader Fault α) : Reader Fault α := fun s =>
  Reader.onTail r (Tail.dropWhile isSpace s)

/-- The first character that is no blank, and what is left behind it. -/
def first? (s : List Char) : Option (Char × Rest s) :=
  Text.firstBeyond? isSpace s

namespace Layout

/-- The letters of a word, one after the other. -/
def readWord (word : List Char) (s : List Char) :
    Except Fault (Tail s) :=
  match word, s with
  | [], s => .ok (.whole s)
  | _ :: _, [] => .error (.atEnd .endInValue)
  | w :: word, c :: t =>
    if c = w then
      match readWord word t with
      | .error fault => .error fault
      | .ok r => .ok (r.behind c).toTail
    else .error (.upon .expectedWord (c :: t))

/-- A word whose first letter has been seen. -/
def readLiteral {α : Type} (a : α) (rest : List Char) (c : Char) (t : List Char) :
    Except Fault (α × Rest (c :: t)) :=
  match readWord rest t with
  | .error fault => .error fault
  | .ok r => .ok (a, r.behind c)

/-- The answer to a bracket that would be nested too deeply. -/
def refuseNesting {α : Type} : Reader Fault α := fun s =>
  .error (.upon .tooDeep s)

/-- What has to follow a comma: an `α` and not the closing bracket. -/
def afterComma {α : Type} (closing : Char) (r : Reader Fault α) : Reader Fault α :=
  pastSpace fun s =>
    match s with
    | [] => .error (.atEnd .endInValue)
    | c :: t => if c = closing then .error (.upon .trailingComma (c :: t)) else r (c :: t)

/-- The items of a list after the opening bracket, or after an item when `first` is false. -/
def readItems {α : Type} (item : Reader Fault α) (first : Bool) (s : List Char) :
    Except Fault (List α × Rest s) :=
  match first? s with
  | none => .error (.atEnd .endInList)
  | some (c, t) =>
    if c = ']' then .ok ([], t)
    else
      let next :=
        if first then item s
        else if c = ',' then Reader.onRest (afterComma ']' item) t
        else .error (.upon .expectedListCommaOrEnd (c :: t.1))
      match next with
      | .error fault => .error fault
      | .ok (a, r) =>
        match readItems item false r.1 with
        | .error fault => .error fault
        | .ok (as, r') => .ok (a :: as, r.further r')
termination_by s.length
decreasing_by exact r.2

/-- A colon, possibly after blanks. -/
def readColon (s : List Char) : Except Fault (Rest s) :=
  match first? s with
  | none => .error (.atEnd .endInObject)
  | some (c, t) => if c = ':' then .ok t else .error (.upon .expectedColon (c :: t.1))

/-- The value of a member after its key. -/
def readAssigned {α : Type} (value : Reader Fault α) : Reader Fault α := fun s =>
  match readColon s with
  | .error fault => .error fault
  | .ok r => Reader.onRest value r

/-- A key and its value. For the key, `value` gives the reader of the value, or refuses it. -/
def readMember {σ : Type} (value : String → Except Mismatch (Reader Fault σ)) : Reader Fault σ :=
  pastSpace fun s =>
    match s with
    | [] => .error (.atEnd .endInValue)
    | c :: t =>
      if c = '"' then
        match Quoted.read t with
        | .error fault => .error fault
        | .ok (key, r) =>
          match value key with
          | .error mismatch => .error (.unfit mismatch r.1)
          | .ok value => Reader.behind c (Reader.onRest (readAssigned value) r)
      else .error (.upon .keyNotString (c :: t))

/-- The members of an object after the opening brace, or after a member when `first` is false.
Each member changes the state; `member` gives the reader for a key, or refuses the key. -/
def readMembers {σ : Type} (member : σ → String → Except Mismatch (Reader Fault σ)) (first : Bool)
    (state : σ) (s : List Char) : Except Fault (σ × Rest s) :=
  match first? s with
  | none => .error (.atEnd .endInObject)
  | some (c, t) =>
    if c = '\x7d' then .ok (state, t)
    else
      let next :=
        if first then readMember (member state) s
        else if c = ',' then Reader.onRest (afterComma '\x7d' (readMember (member state))) t
        else .error (.upon .expectedObjectCommaOrEnd (c :: t.1))
      match next with
      | .error fault => .error fault
      | .ok (state', r) =>
        match readMembers member false state' r.1 with
        | .error fault => .error fault
        | .ok (final, r') => .ok (final, r.further r')
termination_by s.length
decreasing_by exact r.2

end Layout

end CanvasLint.Json
