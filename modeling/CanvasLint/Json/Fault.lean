import CanvasLint.Json.Mismatch
import CanvasLint.Text.Reader

/-!
Faults of a text that is read as JSON. A fault has a cause and a place, kept as the number of bytes
that had not been looked at when reading stopped; from the whole text this gives the line and the
column. Bytes are counted, not characters, so a place can lie inside a character.
-/
namespace CanvasLint.Json

inductive Cause where
  | endInList
  | endInObject
  | endInString
  | endInValue
  | expectedColon
  | expectedListCommaOrEnd
  | expectedObjectCommaOrEnd
  | expectedWord
  | expectedValue
  | invalidEscape
  | invalidNumber
  | numberOutOfRange
  | controlCharacter
  | keyNotString
  | loneSurrogate
  | unfinishedSurrogate
  | trailingComma
  | trailingCharacters
  | tooDeep
  | mismatch (m : Mismatch)
deriving DecidableEq

/-- The text ended too early, it is not JSON, or it is JSON of another shape than expected. -/
inductive Category where
  | ended
  | malformed
  | unfitting
deriving DecidableEq, Repr

def Cause.category : Cause → Category
  | endInList | endInObject | endInString | endInValue => .ended
  | mismatch _ => .unfitting
  | _ => .malformed

def Cause.message : Cause → String
  | endInList => "EOF while parsing a list"
  | endInObject => "EOF while parsing an object"
  | endInString => "EOF while parsing a string"
  | endInValue => "EOF while parsing a value"
  | expectedColon => "expected `:`"
  | expectedListCommaOrEnd => "expected `,` or `]`"
  | expectedObjectCommaOrEnd => "expected `,` or `\x7d`"
  | expectedWord => "expected ident"
  | expectedValue => "expected value"
  | invalidEscape => "invalid escape"
  | invalidNumber => "invalid number"
  | numberOutOfRange => "number out of range"
  | controlCharacter => "control character (\\u0000-\\u001F) found while parsing a string"
  | keyNotString => "key must be a string"
  | loneSurrogate => "lone leading surrogate in hex escape"
  | unfinishedSurrogate => "unexpected end of hex escape"
  | trailingComma => "trailing comma"
  | trailingCharacters => "trailing characters"
  | tooDeep => "recursion limit exceeded"
  | mismatch m => m.message

structure Fault where
  cause : Cause
  /-- The bytes that had not been looked at when reading stopped. -/
  left : Nat
deriving DecidableEq

namespace Fault

/-- Stopped in front of this rest. -/
def before (cause : Cause) (rest : List Char) : Fault :=
  ⟨cause, Text.bytes rest⟩

/-- Stopped after looking at the first byte of this rest, if it has one. -/
def upon (cause : Cause) (rest : List Char) : Fault :=
  ⟨cause, Text.bytes rest - 1⟩

/-- The whole text has been looked at. -/
def atEnd (cause : Cause) : Fault :=
  ⟨cause, 0⟩

def unfit (m : Mismatch) (rest : List Char) : Fault :=
  ⟨.mismatch m, Text.bytes rest⟩

end Fault

/-- A place in a text, counted from line 1; the column counts the bytes of the line up to it. -/
structure Position where
  line : Nat
  column : Nat
deriving DecidableEq, Repr

namespace Position

/-- Moves over one byte of the encoded text. -/
def advance (p : Position) (byte : UInt8) : Position :=
  if byte = 10 then ⟨p.line + 1, 0⟩ else ⟨p.line, p.column + 1⟩

/-- The position after the first `offset` bytes of the text. -/
def ofOffset (text : List UInt8) (offset : Nat) : Position :=
  (text.take offset).foldl advance ⟨1, 0⟩

/-- Where the line after this many others begins; the end of the text if it has no such line. -/
def lineStart : List UInt8 → Nat → Nat
  | _, 0 => 0
  | [], _ => 0
  | byte :: rest, lines + 1 =>
    1 + if byte = 10 then lineStart rest lines else lineStart rest (lines + 1)

/-- The numbers that a machine word holds lie below this. A word holds the length of every text that
there is room for; were there room for a longer one, words would be wider. -/
def wordLimit (text : List UInt8) : Nat :=
  max UInt64.size (text.length + 1)

/-- The bytes in front of a position: the lines before it and the columns before it. -/
def distance (text : List UInt8) (p : Position) : Nat :=
  lineStart text (p.line - 1) + (p.column - 1)

/-- The byte that a position of the text points to: the last one that was looked at. Positions
that the text does not have point to its end at most. A distance that no machine word holds wraps
around. -/
def offset (text : List UInt8) (p : Position) : Nat :=
  min (p.distance text % wordLimit text) text.length

/-- The same where sums are checked, so that a distance that no machine word holds is a crash. -/
def offset? (text : List UInt8) (p : Position) : Option Nat :=
  if p.distance text < wordLimit text then some (min (p.distance text) text.length) else none

end Position

/-- The place of a fault in the text it was found in. -/
def Fault.position (fault : Fault) (text : String) : Position :=
  let encoded := Text.encode text.toList
  Position.ofOffset encoded (encoded.length - fault.left)

/-- The complaint with its place. -/
def Fault.message (fault : Fault) (text : String) : String :=
  let p := fault.position text
  s!"{fault.cause.message} at line {p.line} column {p.column}"

end CanvasLint.Json
