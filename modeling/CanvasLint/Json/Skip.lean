import CanvasLint.Json.Layout

/-!
Passing over a value without keeping it. Brackets may be nested to any depth, numbers may have any
magnitude, and of escapes only the spelling counts. The brackets that are open are kept in a list,
innermost first.
-/
namespace CanvasLint.Json

open Text (Rest Reader)

namespace Skip

inductive Bracket where
  | list
  | object
deriving DecidableEq, Repr

namespace Bracket

def closing : Bracket → Char
  | list => ']'
  | object => '\x7d'

def missingComma : Bracket → Cause
  | list => .expectedListCommaOrEnd
  | object => .expectedObjectCommaOrEnd

def ended : Bracket → Cause
  | list => .endInList
  | object => .endInObject

end Bracket

/-- A key with its colon. -/
def key : Reader Fault Unit := fun s =>
  match first? s with
  | none => .error (.atEnd .endInObject)
  | some (c, t) =>
    if c = '"' then
      match Reader.onRest Quoted.skip t with
      | .error fault => .error fault
      | .ok (_, r) =>
        match Layout.readColon r.1 with
        | .error fault => .error fault
        | .ok r' => .ok ((), r.further r')
    else .error (.upon .keyNotString (c :: t.1))

/-- A value that holds no others. -/
def scalar : Reader Fault Unit := fun s =>
  match s with
  | [] => .error (.atEnd .endInValue)
  | 'n' :: t => Layout.readLiteral () ['u', 'l', 'l'] 'n' t
  | 't' :: t => Layout.readLiteral () ['r', 'u', 'e'] 't' t
  | 'f' :: t => Layout.readLiteral () ['a', 'l', 's', 'e'] 'f' t
  | '"' :: t => Reader.behind '"' (Quoted.skip t)
  | c :: t =>
    if c = '-' ∨ c.isDigit then Reader.map (fun _ => ()) (Numeral.read .invalidNumber) (c :: t)
    else .error (.upon .expectedValue (c :: t))

mutual

/-- Passes over a value and then over what the open brackets still need. -/
def value (opened : List Bracket) (s : List Char) : Except Fault (Unit × Rest s) :=
  match first? s with
  | none => .error (.atEnd .endInValue)
  | some (c, t) =>
    have := t.2
    if c = '[' then
      match inside .list opened t.1 with
      | .error fault => .error fault
      | .ok (_, r) => .ok ((), t.further r)
    else if c = '\x7b' then
      match inside .object opened t.1 with
      | .error fault => .error fault
      | .ok (_, r) => .ok ((), t.further r)
    else
      match pastSpace scalar s with
      | .error fault => .error fault
      | .ok (_, r) =>
        match opened with
        | [] => .ok ((), r)
        | bracket :: outer =>
          have := r.2
          match behind bracket outer r.1 with
          | .error fault => .error fault
          | .ok (_, r') => .ok ((), r.further r')
termination_by (s.length, 0)

/-- Goes on after an opening bracket. -/
def inside (bracket : Bracket) (outer : List Bracket) (s : List Char) :
    Except Fault (Unit × Rest s) :=
  match first? s with
  | none => .error (.atEnd bracket.ended)
  | some (c, t) =>
    have := t.2
    if c = bracket.closing then
      match outer with
      | [] => .ok ((), t)
      | next :: outer =>
        match behind next outer t.1 with
        | .error fault => .error fault
        | .ok (_, r) => .ok ((), t.further r)
    else item bracket outer s
termination_by (s.length, 2)

/-- Goes on after a value inside a bracket. -/
def behind (bracket : Bracket) (outer : List Bracket) (s : List Char) :
    Except Fault (Unit × Rest s) :=
  match first? s with
  | none => .error (.atEnd bracket.ended)
  | some (c, t) =>
    have := t.2
    if c = ',' then
      match item bracket outer t.1 with
      | .error fault => .error fault
      | .ok (_, r) => .ok ((), t.further r)
    else if c = bracket.closing then
      match outer with
      | [] => .ok ((), t)
      | next :: outer =>
        match behind next outer t.1 with
        | .error fault => .error fault
        | .ok (_, r) => .ok ((), t.further r)
    else .error (.upon bracket.missingComma (c :: t.1))
termination_by (s.length, 0)

/-- Goes on where a bracket has another item: a value, with its key in an object. -/
def item (bracket : Bracket) (outer : List Bracket) (s : List Char) :
    Except Fault (Unit × Rest s) :=
  match bracket with
  | .list => value (.list :: outer) s
  | .object =>
    match key s with
    | .error fault => .error fault
    | .ok (_, r) =>
      have := r.2
      match value (.object :: outer) r.1 with
      | .error fault => .error fault
      | .ok (_, r') => .ok ((), r.further r')
termination_by (s.length, 1)

end

end Skip

/-- Passes over one value. -/
def skipValue : Reader Fault Unit := fun s =>
  Skip.value [] s

end CanvasLint.Json
