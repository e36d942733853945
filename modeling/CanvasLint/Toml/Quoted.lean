import CanvasLint.Text.Digit
import CanvasLint.Toml.Space

/-!
Strings of a TOML text. Double quotes allow escapes and single quotes do not; three quotes in a row
open a string that may go on over several lines. Inside such a string one or two quotes stand for
themselves, also in front of the three that close it.
-/
namespace CanvasLint.Toml.Quoted

open Text (Rest Tail)

/-- The character with this code, unless the code belongs to a surrogate or to nothing. -/
def charOfCode? (code : Nat) : Option Char :=
  if code.isValidChar then some (Char.ofNat code) else none

/-- Exactly this many hexadecimal digits, appended to those whose value is given. -/
def readHex (digits value : Nat) (s : List Char) : Except Malformed (Nat × Tail s) :=
  match digits, s with
  | 0, s => .ok (value, .whole s)
  | _ + 1, [] => fail
  | digits + 1, c :: t =>
    match Text.hexValue? c with
    | none => fail
    | some d =>
      match readHex digits (16 * value + d) t with
      | .error e => .error e
      | .ok (n, r) => .ok (n, (r.behind c).toTail)

/-- A character given by its code, after the letter that announces so many digits. -/
def readCode (digits : Nat) (letter : Char) (s : List Char) :
    Except Malformed (Char × Rest (letter :: s)) :=
  match readHex digits 0 s with
  | .error e => .error e
  | .ok (code, r) =>
    match charOfCode? code with
    | some c => .ok (c, r.behind letter)
    | none => fail

def shortEscapes : List (Char × Char) :=
  [('"', '"'), ('\\', '\\'), ('b', '\x08'), ('f', '\x0c'), ('n', '\n'), ('r', '\r'), ('t', '\t')]

/-- An escape after its backslash. -/
def readEscape : Reader Char := fun s =>
  match s with
  | [] => fail
  | c :: t =>
    match shortEscapes.lookup c with
    | some plain => .ok (plain, Rest.tail c t)
    | none =>
      if c = 'u' then readCode 4 c t
      else if c = 'U' then readCode 8 c t
      else fail

/-- The characters up to a closing double quote. -/
def readBasic (s : List Char) : Except Malformed (List Char × Rest s) :=
  match s with
  | [] => fail
  | '"' :: t => .ok ([], Rest.tail '"' t)
  | '\\' :: t =>
    match readEscape t with
    | .error e => .error e
    | .ok (c, r) =>
      match readBasic r.1 with
      | .error e => .error e
      | .ok (cs, r') => .ok (c :: cs, (r.further r').behind '\\')
  | c :: t =>
    if isPlain c then
      match readBasic t with
      | .error e => .error e
      | .ok (cs, r) => .ok (c :: cs, r.behind c)
    else fail
termination_by s.length
decreasing_by
  · exact r.length_lt_cons _
  · exact Text.length_lt_cons c t

/-- The characters up to a closing single quote. -/
def readLiteral (s : List Char) : Except Malformed (List Char × Rest s) :=
  match s with
  | [] => fail
  | '\'' :: t => .ok ([], Rest.tail '\'' t)
  | c :: t =>
    if isPlain c then
      match readLiteral t with
      | .error e => .error e
      | .ok (cs, r) => .ok (c :: cs, r.behind c)
    else fail

/-- What is left after blanks and line ends, as they are passed over after a backslash that ends a
line. -/
def skipBlankLines (s : List Char) : Tail s :=
  match s with
  | ' ' :: t => ((skipBlankLines t).behind ' ').toTail
  | '\t' :: t => ((skipBlankLines t).behind '\t').toTail
  | '\n' :: t => ((skipBlankLines t).behind '\n').toTail
  | '\r' :: '\n' :: t => (((skipBlankLines t).behind '\n').behind '\r').toTail
  | s => .whole s

/-- What follows a backslash that ends a line, without the blanks at the start of the next line
that has something else; `none` if the backslash does not end a line. -/
def afterLineEnd (s : List Char) : Option (Rest s) :=
  match readNewline (skipSpace s).1 with
  | .error _ => none
  | .ok r => some (((skipSpace s).upTo r).upTo (skipBlankLines r.1))

/-- Three closing quotes, with the one or two quotes in front of them that are part of the
string. -/
def closeLong? (quote : Char) (s : List Char) : Option (List Char × Rest s) :=
  match s with
  | a :: b :: c :: t =>
    if a = quote ∧ b = quote ∧ c = quote then
      match t with
      | d :: e :: u =>
        if d = quote ∧ e = quote then some ([quote, quote], (Rest.tail e u).past [a, b, c, d])
        else if d = quote then some ([quote], (Rest.tail d (e :: u)).past [a, b, c])
        else some ([], (Rest.tail c (d :: e :: u)).past [a, b])
      | [d] =>
        if d = quote then some ([quote], (Rest.tail d []).past [a, b, c])
        else some ([], (Rest.tail c [d]).past [a, b])
      | [] => some ([], (Rest.tail c []).past [a, b])
    else none
  | _ => none

/-- The characters up to three closing quotes; with `escapes`, a backslash begins an escape. -/
def readLong (quote : Char) (escapes : Bool) (s : List Char) :
    Except Malformed (List Char × Rest s) :=
  match closeLong? quote s with
  | some closed => .ok closed
  | none =>
    match s with
    | [] => fail
    | c :: t =>
      if c = '\\' ∧ escapes then
        match afterLineEnd t with
        | some r =>
          match readLong quote escapes r.1 with
          | .error e => .error e
          | .ok (cs, r') => .ok (cs, (r.further r').behind c)
        | none =>
          match readEscape t with
          | .error e => .error e
          | .ok (d, r) =>
            match readLong quote escapes r.1 with
            | .error e => .error e
            | .ok (cs, r') => .ok (d :: cs, (r.further r').behind c)
      else
        match readNewline (c :: t) with
        | .ok r =>
          match readLong quote escapes r.1 with
          | .error e => .error e
          | .ok (cs, r') => .ok ('\n' :: cs, r.further r')
        | .error _ =>
          if isPlain c then
            match readLong quote escapes t with
            | .error e => .error e
            | .ok (cs, r) => .ok (c :: cs, r.behind c)
          else fail
termination_by s.length
decreasing_by
  · exact r.length_lt_cons c
  · exact r.length_lt_cons c
  · exact r.2
  · exact Text.length_lt_cons c t

/-- A string that opens with three quotes goes on after a line end right behind them. -/
def openLong (quote : Char) (escapes : Bool) : Reader (List Char) := fun s =>
  match readNewline s with
  | .ok r => Text.Reader.onRest (readLong quote escapes) r
  | .error _ => readLong quote escapes s

/-- A string on one line, as it may stand for a key. -/
def readShort : Reader String := fun s =>
  match s with
  | '"' :: t => Text.Reader.behind '"' (Text.Reader.map String.ofList readBasic t)
  | '\'' :: t => Text.Reader.behind '\'' (Text.Reader.map String.ofList readLiteral t)
  | _ => fail

/-- A string of any kind at the front of the text. -/
def read : Reader String := fun s =>
  match s with
  | '"' :: '"' :: '"' :: t =>
    Text.Reader.past ['"', '"', '"'] (Text.Reader.map String.ofList (openLong '"' true) t)
  | '\'' :: '\'' :: '\'' :: t =>
    Text.Reader.past ['\'', '\'', '\''] (Text.Reader.map String.ofList (openLong '\'' false) t)
  | s => readShort s

end CanvasLint.Toml.Quoted
