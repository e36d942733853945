import CanvasLint.Number.Notation

/-!
JSON values. Whole numbers that fit into 64 bits are kept apart from floats, since they are written
differently. The members of an object that was read are sorted by key and no key occurs twice;
objects built for output keep the order in which they are built.
-/
namespace CanvasLint.Json

/-- A number: a whole one, the negative of a whole one, or a float. -/
inductive Number where
  | natural (n : Nat)
  | negative (n : Nat)
  | real (x : Float)
deriving BEq, DecidableEq

namespace Number

/-- The float nearest to the number. -/
def toFloat : Number → Float
  | natural n => Float.ofNat n
  | negative n => -(Float.ofNat n)
  | real x => x

end Number

inductive Value where
  | null
  | bool (b : Bool)
  | number (n : Number)
  | string (s : String)
  | array (items : List Value)
  | object (members : List (String × Value))
deriving BEq

namespace Value

/-- The number of a float. -/
def float (x : Float) : Value :=
  .number (.real x)

def nat (n : Nat) : Value :=
  .number (.natural n)

def strings (items : List String) : Value :=
  .array (items.map .string)

/-- What a complaint about the whole value calls it. -/
def kind : Value → String
  | null => "null"
  | bool _ => "a boolean"
  | number _ => "a number"
  | string _ => "a string"
  | array _ => "an array"
  | object _ => "an object"

/-- Puts a member in its place by key; a later value for a key replaces the earlier one. -/
def insertMember (key : String) (value : Value) : List (String × Value) → List (String × Value)
  | [] => [(key, value)]
  | (k, v) :: rest =>
    if key < k then (key, value) :: (k, v) :: rest
    else if key = k then (key, value) :: rest
    else (k, v) :: insertMember key value rest

/-- The value of a member. -/
def member? (key : String) : Value → Option Value
  | object members => members.lookup key
  | _ => none

end Value

end CanvasLint.Json
