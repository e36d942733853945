import CanvasLint.Text.Reader

/-!
Blanks, line ends and comments of a TOML text, and the characters that may stand in one. A line
ends with a line feed, possibly after a carriage return, which may stand nowhere else.
-/
namespace CanvasLint.Toml

open Text (Rest Tail)

/-- Reading fails without telling why. -/
inductive Malformed where
  | malformed

abbrev Reader (α : Type) := Text.Reader Malformed α

def fail {α : Type} : Except Malformed α :=
  .error .malformed

def isSpace (c : Char) : Bool :=
  c = ' ' || c = '\t'

/-- What is left after blanks. -/
def skipSpace (s : List Char) : Tail s :=
  .dropWhile isSpace s

/-- The first character that is no blank, and what is left behind it. -/
def first? (s : List Char) : Option (Char × Rest s) :=
  Text.firstBeyond? isSpace s

/-- A character that may stand in comments and strings: a tab, or anything that is no control. -/
def isPlain (c : Char) : Bool :=
  c = '\t' || (0x20 ≤ c.toNat && c.toNat ≠ 0x7F)

/-- The end of a line. -/
def readNewline (s : List Char) : Except Malformed (Rest s) :=
  match s with
  | '\n' :: t => .ok (Rest.tail '\n' t)
  | '\r' :: '\n' :: t => .ok ((Rest.tail '\n' t).behind '\r')
  | _ => fail

/-- What is left after a comment. -/
def skipComment (s : List Char) : Tail s :=
  match s with
  | '#' :: t => ((Tail.dropWhile isPlain t).behind '#').toTail
  | s => .whole s

/-- What is left after blanks and a comment. -/
def skipToEnd (s : List Char) : Tail s :=
  (skipSpace s).further (skipComment (skipSpace s).1)

/-- The rest of a line in which nothing more may stand than a comment, with its end; the last line
ends with the text. -/
def finishLine (s : List Char) : Except Malformed (Tail s) :=
  let t := skipToEnd s
  if t.1.isEmpty then .ok t
  else
    match readNewline t.1 with
    | .error e => .error e
    | .ok r => .ok (t.further r.toTail)

/-- Blanks, line ends and comments between the items of a list. A comment ends with its line. -/
def skipLines (s : List Char) : Except Malformed (Tail s) :=
  match first? s with
  | none => .ok (.empty s)
  | some (c, _) =>
    if c = '\n' ∨ c = '\r' ∨ c = '#' then
      let t := skipToEnd s
      match readNewline t.1 with
      | .error e => .error e
      | .ok r =>
        match skipLines r.1 with
        | .error e => .error e
        | .ok v => .ok ((t.upTo r).upTo v).toTail
    else .ok (skipSpace s)
termination_by s.length
decreasing_by exact (t.upTo r).2

end CanvasLint.Toml
