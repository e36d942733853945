import CanvasLint.Number.Parse
import CanvasLint.Toml.Space
import CanvasLint.Toml.Table

/-!
Numbers, dates and times of a TOML text. Digits may be set off by single underscores. Whole numbers
are limited to 64 bits with sign, in decimal, hexadecimal, octal or binary; a float takes a point or
an exponent, and one beyond the largest float is refused unless it is negative. Dates have to be in
the calendar.
-/
namespace CanvasLint.Toml

open Text (Rest Tail)

namespace Scalar

/-- The digits after the first, of the given kind, with single underscores between them. -/
def readMoreDigits (p : Char → Bool) (s : List Char) : Except Malformed (List Char × Tail s) :=
  match s with
  | '_' :: c :: t =>
    if p c then
      match readMoreDigits p t with
      | .error e => .error e
      | .ok (ds, r) => .ok (c :: ds, ((r.behind c).behind '_').toTail)
    else fail
  | ['_'] => fail
  | c :: t =>
    if p c then
      match readMoreDigits p t with
      | .error e => .error e
      | .ok (ds, r) => .ok (c :: ds, (r.behind c).toTail)
    else .ok ([], .whole (c :: t))
  | [] => .ok ([], .whole [])

/-- One digit or more. -/
def readDigits (p : Char → Bool) (s : List Char) : Except Malformed (List Char × Rest s) :=
  match s with
  | c :: t =>
    if p c then
      match readMoreDigits p t with
      | .error e => .error e
      | .ok (ds, r) => .ok (c :: ds, r.behind c)
    else fail
  | [] => fail

/-- A whole number within the 64 bits that it may have. -/
def ofInt (n : Int) : Except Malformed Value :=
  if -0x8000000000000000 ≤ n ∧ n < 0x8000000000000000 then .ok (.integer n) else fail

/-- A whole number to another base, after its two leading characters. -/
def readBased (base : Nat) : Reader Value := fun s =>
  let isDigit (c : Char) : Bool :=
    match Text.hexValue? c with
    | some d => d < base
    | none => false
  match readDigits isDigit s with
  | .error e => .error e
  | .ok (ds, r) =>
    match ofInt (ds.foldl (fun n c => base * n + (Text.hexValue? c).getD 0) 0 : Nat) with
    | .error e => .error e
    | .ok v => .ok (v, r)

def withSign (negative : Bool) (x : Float) : Float :=
  if negative then -x else x

/-- A float, given its parts. -/
def ofParts (negative : Bool) (whole fraction : List Char) (exponent : Int) :
    Except Malformed Value :=
  let x := withSign negative (Number.ofParts whole fraction exponent)
  if x == Number.infinity then fail else .ok (.float x)

/-- The digits of an exponent. -/
def readPower : Reader Int :=
  Text.Reader.map (fun ds => (Number.natOfDigits ds : Int)) (readDigits Char.isDigit)

/-- The exponent after its letter. -/
def readExponent : Reader Int := fun s =>
  match s with
  | '+' :: t => Text.Reader.behind '+' (readPower t)
  | '-' :: t => Text.Reader.behind '-' (Text.Reader.map (fun n => -n) readPower t)
  | s => readPower s

/-- The exponent, if the text goes on with one. -/
def readExponent? (s : List Char) : Except Malformed (Option Int × Tail s) :=
  match s with
  | c :: t =>
    if c = 'e' ∨ c = 'E' then
      match readExponent t with
      | .error e => .error e
      | .ok (n, r) => .ok (some n, (r.behind c).toTail)
    else .ok (none, .whole (c :: t))
  | [] => .ok (none, .whole [])

/-- What follows the whole digits of a number: a fraction, an exponent, both, or neither. -/
def readTail (negative : Bool) (whole : List Char) (s : List Char) :
    Except Malformed (Value × Tail s) :=
  match s with
  | '.' :: t =>
    match readDigits Char.isDigit t with
    | .error e => .error e
    | .ok (fraction, r) =>
      match readExponent? r.1 with
      | .error e => .error e
      | .ok (exponent, u) =>
        match ofParts negative whole fraction (exponent.getD 0) with
        | .error e => .error e
        | .ok v => .ok (v, ((r.upTo u).behind '.').toTail)
  | s =>
    match readExponent? s with
    | .error e => .error e
    | .ok (exponent, u) =>
      let n : Int := Number.natOfDigits whole
      let number := match exponent with
        | some exponent => ofParts negative whole [] exponent
        | none => ofInt (if negative then -n else n)
      match number with
      | .error e => .error e
      | .ok v => .ok (v, u)

/-- A number without its sign. A zero stands alone in front of what follows. -/
def readUnsigned (negative : Bool) : Reader Value := fun s =>
  match s with
  | 'i' :: 'n' :: 'f' :: t =>
    .ok (.float (withSign negative Number.infinity), (Rest.tail 'f' t).past ['i', 'n'])
  | 'n' :: 'a' :: 'n' :: t =>
    .ok (.float (withSign negative Number.notANumber), (Rest.tail 'n' t).past ['n', 'a'])
  | '0' :: t =>
    match readTail negative ['0'] t with
    | .error e => .error e
    | .ok (v, r) => .ok (v, r.behind '0')
  | s =>
    match readDigits Char.isDigit s with
    | .error e => .error e
    | .ok (whole, r) =>
      match readTail negative whole r.1 with
      | .error e => .error e
      | .ok (v, r') => .ok (v, r.upTo r')

/-- A number at the front of the text. -/
def readNumber : Reader Value := fun s =>
  match s with
  | '0' :: 'x' :: t => Text.Reader.past ['0', 'x'] (readBased 16 t)
  | '0' :: 'o' :: t => Text.Reader.past ['0', 'o'] (readBased 8 t)
  | '0' :: 'b' :: t => Text.Reader.past ['0', 'b'] (readBased 2 t)
  | '+' :: t => Text.Reader.behind '+' (readUnsigned false t)
  | '-' :: t => Text.Reader.behind '-' (readUnsigned true t)
  | s => readUnsigned false s

/-- The number that two digits spell. -/
def pair? (a b : Char) : Option Nat :=
  if a.isDigit && b.isDigit then some (10 * Text.digitValue a + Text.digitValue b) else none

def isLeapYear (year : Nat) : Bool :=
  year % 4 = 0 && (year % 100 ≠ 0 || year % 400 = 0)

def daysIn (year month : Nat) : Nat :=
  if month = 2 then (if isLeapYear year then 29 else 28)
  else if month = 4 || month = 6 || month = 9 || month = 11 then 30
  else 31

/-- The day is in the calendar. -/
def isDate (year month day : Nat) : Bool :=
  1 ≤ month && month ≤ 12 && 1 ≤ day && day ≤ daysIn year month

/-- The seconds of a time may show a leap second. -/
def isTime (hour minute second : Nat) : Bool :=
  hour ≤ 23 && minute ≤ 59 && second ≤ 60

/-- The fraction of a second, if there is one. -/
def readFraction (s : List Char) : Except Malformed (Tail s) :=
  match s with
  | '.' :: c :: t =>
    if c.isDigit then .ok (((Tail.dropWhile Char.isDigit t).behind c).behind '.').toTail else fail
  | '.' :: [] => fail
  | s => .ok (.whole s)

/-- A time begins here: two digits and a colon. -/
def startsTime : List Char → Bool
  | a :: b :: ':' :: _ => a.isDigit && b.isDigit
  | _ => false

/-- A time of day. -/
def readTime (s : List Char) : Except Malformed (Rest s) :=
  match s with
  | h₁ :: h₀ :: ':' :: m₁ :: m₀ :: ':' :: s₁ :: s₀ :: t =>
    match pair? h₁ h₀, pair? m₁ m₀, pair? s₁ s₀ with
    | some hour, some minute, some second =>
      if isTime hour minute second then
        match readFraction t with
        | .error e => .error e
        | .ok r => .ok ((r.behind s₀).past [h₁, h₀, ':', m₁, m₀, ':', s₁])
      else fail
    | _, _, _ => fail
  | _ => fail

/-- The distance from universal time, if there is one. -/
def readOffset (s : List Char) : Except Malformed (Tail s) :=
  match s with
  | c :: t =>
    if c = 'Z' ∨ c = 'z' then .ok (Rest.tail c t).toTail
    else if c = '+' ∨ c = '-' then
      match t with
      | h₁ :: h₀ :: ':' :: m₁ :: m₀ :: u =>
        match pair? h₁ h₀, pair? m₁ m₀ with
        | some hour, some minute =>
          if isTime hour minute 0 then .ok ((Rest.tail m₀ u).past [c, h₁, h₀, ':', m₁]).toTail
          else fail
        | _, _ => fail
      | _ => fail
    else .ok (.whole (c :: t))
  | [] => .ok (.whole [])

/-- What follows a date: a time of day with its offset, after a `T` or a blank. -/
def readTimeAfterDate (s : List Char) : Except Malformed (Tail s) :=
  match s with
  | c :: t =>
    if (c = 'T' ∨ c = 't' ∨ c = ' ') ∧ startsTime t then
      match readTime t with
      | .error e => .error e
      | .ok r =>
        match readOffset r.1 with
        | .error e => .error e
        | .ok r' => .ok ((r.upTo r').behind c).toTail
    else .ok (.whole (c :: t))
  | [] => .ok (.whole [])

/-- A date begins here: four digits and a dash. -/
def startsDate : List Char → Bool
  | a :: b :: c :: d :: '-' :: _ => a.isDigit && b.isDigit && c.isDigit && d.isDigit
  | _ => false

/-- A date, possibly with a time. -/
def readDate : Reader Value := fun s =>
  match s with
  | y₃ :: y₂ :: y₁ :: y₀ :: '-' :: m₁ :: m₀ :: '-' :: d₁ :: d₀ :: t =>
    match pair? y₃ y₂, pair? y₁ y₀, pair? m₁ m₀, pair? d₁ d₀ with
    | some century, some year, some month, some day =>
      if isDate (100 * century + year) month day then
        match readTimeAfterDate t with
        | .error e => .error e
        | .ok r => .ok (.moment, (r.behind d₀).past [y₃, y₂, y₁, y₀, '-', m₁, m₀, '-', d₁])
      else fail
    | _, _, _, _ => fail
  | _ => fail

/-- A number, a date or a time at the front of the text. -/
def readNumberOrMoment : Reader Value := fun s =>
  if startsDate s then readDate s
  else if startsTime s then
    match readTime s with
    | .error e => .error e
    | .ok r => .ok (.moment, r)
  else readNumber s

end Scalar

end CanvasLint.Toml
