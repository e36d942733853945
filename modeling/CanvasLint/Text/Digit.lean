/-!
Digits as characters. Only the ASCII digits and letters count.
-/
namespace CanvasLint.Text

/-- The value of a decimal digit. -/
def digitValue (c : Char) : Nat :=
  c.toNat - '0'.toNat

/-- The value of a hexadecimal digit, with capital or small letters. -/
def hexValue? (c : Char) : Option Nat :=
  if '0' ≤ c ∧ c ≤ '9' then some (c.toNat - '0'.toNat)
  else if 'a' ≤ c ∧ c ≤ 'f' then some (c.toNat - 'a'.toNat + 10)
  else if 'A' ≤ c ∧ c ≤ 'F' then some (c.toNat - 'A'.toNat + 10)
  else none

def isHexDigit (c : Char) : Bool :=
  ('0' ≤ c && c ≤ '9') || ('a' ≤ c && c ≤ 'f') || ('A' ≤ c && c ≤ 'F')

/-- The value of a hexadecimal number: one digit or more, perhaps after a plus sign. -/
def hexNumber? (s : List Char) : Option Nat :=
  let digits := if s.head? = some '+' then s.tail else s
  if digits.isEmpty then none else digits.foldlM (fun n c => do return 16 * n + (← hexValue? c)) 0

/-- A hexadecimal number that fits into a byte. -/
def hexByte? (s : List Char) : Option UInt8 := do
  let n ← hexNumber? s
  if n < 256 then some n.toUInt8 else none

end CanvasLint.Text
