/-!
Readers take something off the front of a text and leave the rest. What they leave is strictly
shorter, which is part of their type: a loop over items of a list ends because every item takes
at least one character.
-/
namespace CanvasLint.Text

/-- What is left of `s` after something of it has been read. -/
abbrev Rest (s : List Char) := { rest : List Char // rest.length < s.length }

/-- What is left of `s` after something of it, or nothing, has been read. -/
abbrev Tail (s : List Char) := { tail : List Char // tail.length ≤ s.length }

/-- Reads an `α` off the front of a text, or fails with an `ε`. -/
abbrev Reader (ε α : Type) := (s : List Char) → Except ε (α × Rest s)

/-- What is left after the leading characters of a kind is no longer than the text. -/
theorem length_dropWhile_le (p : Char → Bool) (s : List Char) :
    (s.dropWhile p).length ≤ s.length := by
  induction s with
  | nil => simp
  | cons c s ih =>
    rw [List.dropWhile_cons]
    split
    · exact Nat.le_succ_of_le ih
    · exact Nat.le_refl _

theorem length_lt_cons (c : Char) (s : List Char) : s.length < (c :: s).length :=
  Nat.lt_succ_self _

namespace Rest

/-- What is left of a rest is shorter than the text with one more character in front. -/
theorem length_lt_cons {s : List Char} (r : Rest s) (c : Char) : r.1.length < (c :: s).length :=
  Nat.lt_succ_of_lt r.2

/-- One character gone. -/
def tail (c : Char) (s : List Char) : Rest (c :: s) :=
  ⟨s, Nat.lt_succ_self _⟩

/-- What is left of a text is left of it with one more character in front. -/
def behind (c : Char) {s : List Char} (r : Rest s) : Rest (c :: s) :=
  ⟨r.1, r.length_lt_cons c⟩

/-- The same for several characters in front. -/
def past : (front : List Char) → {s : List Char} → Rest s → Rest (front ++ s)
  | [], _, r => r
  | c :: front, _, r => (past front r).behind c

/-- Two parts gone, one after the other. -/
def further {s : List Char} (r : Rest s) (r' : Rest r.1) : Rest s :=
  ⟨r'.1, Nat.lt_trans r'.2 r.2⟩

/-- A part gone, and then something or nothing. -/
def upTo {s : List Char} (r : Rest s) (t : Tail r.1) : Rest s :=
  ⟨t.1, Nat.lt_of_le_of_lt t.2 r.2⟩

def toTail {s : List Char} (r : Rest s) : Tail s :=
  ⟨r.1, Nat.le_of_lt r.2⟩

end Rest

namespace Tail

/-- Nothing gone. -/
def whole (s : List Char) : Tail s :=
  ⟨s, Nat.le_refl _⟩

/-- Nothing left. -/
def empty (s : List Char) : Tail s :=
  ⟨[], Nat.zero_le _⟩

/-- The leading characters of a kind gone. -/
def dropWhile (p : Char → Bool) (s : List Char) : Tail s :=
  ⟨s.dropWhile p, length_dropWhile_le p s⟩

/-- Two parts gone, of which each may be nothing. -/
def further {s : List Char} (t : Tail s) (t' : Tail t.1) : Tail s :=
  ⟨t'.1, Nat.le_trans t'.2 t.2⟩

/-- What is left of a text is left of it with one more character in front, which is gone too. -/
def behind (c : Char) {s : List Char} (t : Tail s) : Rest (c :: s) :=
  ⟨t.1, Nat.lt_succ_of_le t.2⟩

/-- Something or nothing gone, and then a part. -/
def upTo {s : List Char} (t : Tail s) (r : Rest t.1) : Rest s :=
  ⟨r.1, Nat.lt_of_lt_of_le r.2 t.2⟩

end Tail

/-- The first character that is not of a kind, and what is left behind it. -/
def firstBeyond? (p : Char → Bool) : (s : List Char) → Option (Char × Rest s)
  | [] => none
  | c :: s =>
    if p c then (firstBeyond? p s).map fun (d, r) => (d, r.behind c)
    else some (c, Rest.tail c s)

namespace Reader

variable {ε α β : Type}

def map (f : α → β) (r : Reader ε α) : Reader ε β := fun s =>
  match r s with
  | .ok (a, rest) => .ok (f a, rest)
  | .error e => .error e

/-- Runs a reader on the text without some part that need not be there. -/
def onTail {s : List Char} (r : Reader ε α) (t : Tail s) : Except ε (α × Rest s) :=
  match r t.1 with
  | .ok (a, rest) => .ok (a, t.upTo rest)
  | .error e => .error e

/-- Runs a reader on what another one has left. -/
def onRest {s : List Char} (r : Reader ε α) (rest : Rest s) : Except ε (α × Rest s) :=
  match r rest.1 with
  | .ok (a, rest') => .ok (a, rest.further rest')
  | .error e => .error e

/-- What was read behind a character was read of the text that begins with it. -/
def behind (c : Char) {s : List Char} : Except ε (α × Rest s) → Except ε (α × Rest (c :: s))
  | .ok (a, rest) => .ok (a, rest.behind c)
  | .error e => .error e

/-- The same for several characters in front. -/
def past (front : List Char) {s : List Char} :
    Except ε (α × Rest s) → Except ε (α × Rest (front ++ s))
  | .ok (a, rest) => .ok (a, rest.past front)
  | .error e => .error e

end Reader

/-- The bytes of the encoded text. -/
def encode (s : List Char) : List UInt8 :=
  s.flatMap String.utf8EncodeChar

/-- The number of bytes of the encoded text. -/
def bytes : List Char → Nat
  | [] => 0
  | c :: s => c.utf8Size + bytes s

theorem length_encode (s : List Char) : (encode s).length = bytes s := by
  induction s with
  | nil => rfl
  | cons c s ih => simpa [encode, bytes] using ih

end CanvasLint.Text
