import CanvasLint.Json.Fault
import CanvasLint.Text.Digit

/-!
Strings in JSON texts. A string may hold any character except controls; the quote, the backslash
and every character that can be given by one or two escapes of four hexadecimal digits may be
escaped. Two escapes stand for one character beyond the basic plane and have to come as a pair.
A string that is skipped is held to less: its escapes need not stand for characters.
-/
namespace CanvasLint.Json.Quoted

open Text (Rest Reader)

/-- The value of four hexadecimal digits. -/
def codeOf? (a b c d : Char) : Option Nat := do
  return (((← Text.hexValue? a) * 16 + (← Text.hexValue? b)) * 16 + (← Text.hexValue? c)) * 16
    + (← Text.hexValue? d)

/-- Four hexadecimal digits. Four bytes are taken before any of them is judged. -/
def readHex : Reader Fault Nat := fun s =>
  match s with
  | a :: b :: c :: d :: t =>
    match codeOf? a b c d with
    | some n => .ok (n, (Rest.tail d t).past [a, b, c])
    | none => .error ⟨.invalidEscape, Text.bytes (a :: b :: c :: d :: t) - 4⟩
  | s => .error (if Text.bytes s < 4 then .atEnd .endInString else ⟨.invalidEscape, Text.bytes s - 4⟩)

def isLeadingSurrogate (n : Nat) : Bool :=
  0xD800 ≤ n && n ≤ 0xDBFF

def isTrailingSurrogate (n : Nat) : Bool :=
  0xDC00 ≤ n && n ≤ 0xDFFF

/-- The character beyond the basic plane that a pair of surrogates stands for. -/
def pairedChar (leading trailing : Nat) : Char :=
  Char.ofNat (0x10000 + 0x400 * (leading - 0xD800) + (trailing - 0xDC00))

/-- The second escape of a pair, from its backslash on. -/
def readTrailing (leading : Nat) : Reader Fault Char := fun s =>
  match s with
  | '\\' :: 'u' :: t =>
    match readHex t with
    | .error fault => .error fault
    | .ok (n, r) =>
      if isTrailingSurrogate n then .ok (pairedChar leading n, r.past ['\\', 'u'])
      else .error (.before .loneSurrogate r.1)
  | [] | ['\\'] => .error (.atEnd .endInString)
  | '\\' :: t => .error (.upon .unfinishedSurrogate t)
  | s => .error (.upon .unfinishedSurrogate s)

/-- An escape given by its code, after the `u`. -/
def readCode : Reader Fault Char := fun s =>
  match readHex s with
  | .error fault => .error fault
  | .ok (n, r) =>
    if isTrailingSurrogate n then .error (.before .loneSurrogate r.1)
    else if isLeadingSurrogate n then Reader.onRest (readTrailing n) r
    else .ok (Char.ofNat n, r)

/-- The characters with an escape of one letter. -/
def shortEscapes : List (Char × Char) :=
  [('"', '"'), ('\\', '\\'), ('/', '/'), ('b', '\x08'), ('f', '\x0c'), ('n', '\n'), ('r', '\r'),
    ('t', '\t')]

/-- An escape after its backslash. -/
def readEscape : Reader Fault Char := fun s =>
  match s with
  | [] => .error (.atEnd .endInString)
  | c :: t =>
    match shortEscapes.lookup c with
    | some plain => .ok (plain, Rest.tail c t)
    | none =>
      if c = 'u' then Reader.behind c (readCode t)
      else .error (.upon .invalidEscape (c :: t))

/-- The characters up to the closing quote, which is taken too. -/
def readChars (s : List Char) : Except Fault (List Char × Rest s) :=
  match s with
  | [] => .error (.atEnd .endInString)
  | '"' :: t => .ok ([], Rest.tail '"' t)
  | '\\' :: t =>
    match readEscape t with
    | .error fault => .error fault
    | .ok (c, r) =>
      match readChars r.1 with
      | .error fault => .error fault
      | .ok (cs, r') => .ok (c :: cs, (r.further r').behind '\\')
  | c :: t =>
    if c.toNat < 0x20 then .error (.upon .controlCharacter (c :: t))
    else
      match readChars t with
      | .error fault => .error fault
      | .ok (cs, r) => .ok (c :: cs, r.behind c)
termination_by s.length
decreasing_by
  · exact r.length_lt_cons _
  · exact Text.length_lt_cons c t

/-- A string after its opening quote. -/
def read : Reader Fault String :=
  Reader.map String.ofList readChars

/-- Passes over an escape after its backslash. -/
def skipEscape : Reader Fault Unit := fun s =>
  match s with
  | [] => .error (.atEnd .endInString)
  | c :: t =>
    if (shortEscapes.lookup c).isSome then .ok ((), Rest.tail c t)
    else if c = 'u' then Reader.behind c (Reader.map (fun _ => ()) readHex t)
    else .error (.upon .invalidEscape (c :: t))

/-- Passes over a string after its opening quote. A control character is not taken before it is
complained about. -/
def skip (s : List Char) : Except Fault (Unit × Rest s) :=
  match s with
  | [] => .error (.atEnd .endInString)
  | '"' :: t => .ok ((), Rest.tail '"' t)
  | '\\' :: t =>
    match skipEscape t with
    | .error fault => .error fault
    | .ok (_, r) =>
      match skip r.1 with
      | .error fault => .error fault
      | .ok (_, r') => .ok ((), (r.further r').behind '\\')
  | c :: t =>
    if c.toNat < 0x20 then .error (.before .controlCharacter (c :: t))
    else
      match skip t with
      | .error fault => .error fault
      | .ok (_, r) => .ok ((), r.behind c)
termination_by s.length
decreasing_by
  · exact r.length_lt_cons _
  · exact Text.length_lt_cons c t

end CanvasLint.Json.Quoted
