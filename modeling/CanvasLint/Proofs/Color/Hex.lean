import CanvasLint.Color.Contrast
import Mathlib.Data.List.Basic
import Mathlib.Tactic.MkIffOfInductiveProp

/-! Which texts spell a color. The size of a text is tested in bytes, its digits by characters, and
the channels are cut out by bytes again; but a text that passes the tests has as many characters as
bytes, and its digits are worth what a number says that is made of them. A color is written the way
it is spelled, with small letters. -/
namespace CanvasLint

open Text (bytes hexByte? hexNumber? hexValue? isHexDigit slice?)

variable {c d : Char} {s digits : List Char} {v : Nat} {n : UInt8} {text : String} {color : Rgb}

/-! ### Digits -/

namespace Text

/-- What is known about a digit: its value, the way it is written as a small letter, and its size. -/
@[mk_iff]
structure HexDigit (c : Char) (v : Nat) : Prop where
  value : hexValue? c = some v
  small : v < 16
  lower : Rgb.hexDigit v.toUInt8 = c.toLower
  size : c.utf8Size = 1
  unsigned : c ≠ '+'

instance (c : Char) (v : Nat) : Decidable (HexDigit c v) :=
  decidable_of_iff' _ (hexDigit_iff c v)

theorem toNat_lt_of_isHexDigit (digit : isHexDigit c = true) : c.toNat < 128 := by
  simp only [isHexDigit, Bool.or_eq_true, Bool.and_eq_true, decide_eq_true_iff, Char.le_def,
    UInt32.le_iff_toNat_le, Char.toNat_val] at digit
  have nine : ('9' : Char).toNat = 57 := rfl
  have f : ('f' : Char).toNat = 102 := rfl
  have capitalF : ('F' : Char).toNat = 70 := rfl
  omega

theorem hexDigit_of_isHexDigit (digit : isHexDigit c = true) : ∃ v, HexDigit c v := by
  have each : ∀ n : Fin 128, isHexDigit (Char.ofNat n) = true →
      ∃ v : Fin 16, HexDigit (Char.ofNat n) v := by
    decide +kernel
  have small := toNat_lt_of_isHexDigit digit
  rw [← Char.ofNat_toNat c] at digit ⊢
  obtain ⟨v, known⟩ := each ⟨c.toNat, small⟩ digit
  exact ⟨v, known⟩

/-- The digits that are written mean what they should. -/
theorem hexDigit_hexDigit (small : n < 16) :
    isHexDigit (Rgb.hexDigit n) = true ∧ HexDigit (Rgb.hexDigit n) n.toNat := by
  have each : ∀ n : Fin 16, isHexDigit (Rgb.hexDigit n.1.toUInt8) = true ∧
      HexDigit (Rgb.hexDigit n.1.toUInt8) n.1 := by
    decide +kernel
  have known := each ⟨n.toNat, small⟩
  simpa only [Nat.toUInt8_eq, UInt8.ofNat_toNat] using known

theorem bytes_eq_length (digit : ∀ d ∈ s, isHexDigit d = true) : bytes s = s.length := by
  induction s with
  | nil => rfl
  | cons c s ih =>
    obtain ⟨v, known⟩ := hexDigit_of_isHexDigit (digit c List.mem_cons_self)
    rw [bytes, known.size, ih fun d listed => digit d (List.mem_cons_of_mem _ listed),
      List.length_cons, Nat.add_comm]

/-- A slice of digits is as long as it should be. -/
theorem slice?_of_isHexDigit {start stop : Nat} (digit : ∀ d ∈ s, isHexDigit d = true)
    (forward : start ≤ stop) (fits : stop ≤ s.length) :
    slice? start stop s = some ((s.drop start).take (stop - start)) := by
  refine slice?_eq_some.mpr ⟨s.take start, s.drop stop, ?_, ?_, ?_⟩
  · rw [List.append_assoc, ← Nat.add_sub_cancel' forward, ← List.drop_drop,
      Nat.add_sub_cancel_left, List.take_append_drop, List.take_append_drop]
  · rw [bytes_eq_length fun d listed => digit d (List.mem_of_mem_take listed), List.length_take]
    omega
  · rw [bytes_eq_length fun d listed =>
      digit d (List.mem_of_mem_drop (List.mem_of_mem_take listed)), List.length_take,
      List.length_drop]
    omega

/-- Two digits are a number that fits into a byte. -/
theorem hexByte?_pair {v w : Nat} (high : HexDigit c v) (low : HexDigit d w) :
    hexByte? [c, d] = some (16 * v + w).toUInt8 := by
  have number : hexNumber? [c, d] = some (16 * v + w) := by
    simp [hexNumber?, high.unsigned, high.value, low.value]
  have fits : 16 * v + w < 256 := by
    have := high.small
    have := low.small
    omega
  rw [hexByte?, number]
  exact if_pos fits

end Text

/-! ### Colors -/

namespace Rgb

open Text (HexDigit)

/-- The text is these six digits, perhaps after a mark. -/
def Spells (text : String) (digits : List Char) : Prop :=
  (text.toList = digits ∨ text.toList = '#' :: digits) ∧ digits.length = 6 ∧
    ∀ d ∈ digits, isHexDigit d = true

instance (text : String) (digits : List Char) : Decidable (Spells text digits) :=
  decidable_of_iff ((text.toList = digits ∨ text.toList = '#' :: digits) ∧ digits.length = 6 ∧
    digits.all isHexDigit = true) (by rw [Spells, List.all_eq_true])

theorem dropMark_eq (digit : ∀ d ∈ digits, isHexDigit d = true)
    (spelled : s = digits ∨ s = '#' :: digits) : dropMark s = digits := by
  rcases spelled with rfl | rfl
  · unfold dropMark
    split
    · exact absurd (digit _ List.mem_cons_self) (by decide)
    · rfl
  · rfl

theorem eq_of_dropMark (s : List Char) : s = dropMark s ∨ s = '#' :: dropMark s := by
  unfold dropMark
  split
  · exact .inr rfl
  · exact .inl rfl

/-- The test that a text has to pass before anything is cut out of it. -/
theorem tested_iff : (bytes digits = 6 && digits.all isHexDigit) = true ↔
    digits.length = 6 ∧ ∀ d ∈ digits, isHexDigit d = true := by
  rw [Bool.and_eq_true, decide_eq_true_iff, List.all_eq_true]
  exact and_congr_left fun digit => by rw [Text.bytes_eq_length digit]

theorem spells_of_ofHex? (known : ofHex? text = some color) :
    Spells text (dropMark text.toList) := by
  rw [ofHex?] at known
  split at known
  · rename_i tested
    exact ⟨eq_of_dropMark text.toList, tested_iff.mp tested⟩
  · cases known

/-- The channel that two digits spell. -/
def channelOf (v w : Nat) : UInt8 :=
  (16 * v + w).toUInt8

theorem channelHex_channelOf {v w : Nat} (high : HexDigit c v) (low : HexDigit d w) :
    channelHex (channelOf v w) = [c.toLower, d.toLower] := by
  have above : channelOf v w / 16 = v.toUInt8 := by
    have := high.small
    have := low.small
    apply UInt8.toNat_inj.mp
    simp [channelOf]
    omega
  have below : channelOf v w % 16 = w.toUInt8 := by
    have := high.small
    have := low.small
    apply UInt8.toNat_inj.mp
    simp [channelOf]
    omega
  rw [channelHex, above, below, high.lower, low.lower]

theorem channel?_eq {start v w : Nat} (digit : ∀ d ∈ digits, isHexDigit d = true)
    (pair : (digits.drop start).take 2 = [c, d]) (high : HexDigit c v) (low : HexDigit d w) :
    channel? digits start = some (channelOf v w) := by
  have fits : start + 2 ≤ digits.length := by
    have size := congrArg List.length pair
    rw [List.length_take, List.length_drop, List.length_cons, List.length_singleton] at size
    omega
  rw [channel?, Text.slice?_of_isHexDigit digit (Nat.le_add_right _ _) fits,
    Nat.add_sub_cancel_left, pair]
  exact Text.hexByte?_pair high low

/-- What six digits are worth. -/
theorem ofHex?_of_digits {r₁ r₀ g₁ g₀ b₁ b₀ : Char} {v₁ v₀ w₁ w₀ x₁ x₀ : Nat}
    (spelled : Spells text [r₁, r₀, g₁, g₀, b₁, b₀]) (red : HexDigit r₁ v₁ ∧ HexDigit r₀ v₀)
    (green : HexDigit g₁ w₁ ∧ HexDigit g₀ w₀) (blue : HexDigit b₁ x₁ ∧ HexDigit b₀ x₀) :
    ofHex? text = some ⟨channelOf v₁ v₀, channelOf w₁ w₀, channelOf x₁ x₀⟩ := by
  obtain ⟨marked, tested⟩ := spelled
  rw [ofHex?, dropMark_eq tested.2 marked, if_pos (tested_iff.mpr tested),
    channel?_eq tested.2 rfl red.1 red.2, channel?_eq tested.2 rfl green.1 green.2,
    channel?_eq tested.2 rfl blue.1 blue.2]
  rfl

/-- A text that spells a color is the color as it is written, except for the size of the letters. -/
theorem exists_ofHex?_of_spells (spelled : Spells text digits) : ∃ color,
    ofHex? text = some color ∧ color.toHex = String.ofList ('#' :: digits.map Char.toLower) := by
  have ⟨_, six, digit⟩ := spelled
  match digits, six with
  | [r₁, r₀, g₁, g₀, b₁, b₀], _ =>
    have known : ∀ d ∈ [r₁, r₀, g₁, g₀, b₁, b₀], ∃ v, HexDigit d v := fun d listed =>
      Text.hexDigit_of_isHexDigit (digit d listed)
    simp only [List.forall_mem_cons] at known
    obtain ⟨⟨v₁, red₁⟩, ⟨v₀, red₀⟩, ⟨w₁, green₁⟩, ⟨w₀, green₀⟩, ⟨x₁, blue₁⟩, ⟨x₀, blue₀⟩, -⟩ := known
    refine ⟨_, ofHex?_of_digits spelled ⟨red₁, red₀⟩ ⟨green₁, green₀⟩ ⟨blue₁, blue₀⟩, ?_⟩
    rw [toHex, channelHex_channelOf red₁ red₀, channelHex_channelOf green₁ green₀,
      channelHex_channelOf blue₁ blue₀]
    rfl

theorem halves_lt (n : UInt8) : n / 16 < 16 ∧ n % 16 < 16 := by
  have bound := n.toNat_lt
  rw [UInt8.lt_iff_toNat_lt, UInt8.lt_iff_toNat_lt, UInt8.toNat_div, UInt8.toNat_mod]
  constructor
  · exact Nat.div_lt_of_lt_mul bound
  · exact Nat.mod_lt _ (by decide)

theorem channelOf_halves (n : UInt8) : channelOf (n / 16).toNat (n % 16).toNat = n := by
  rw [channelOf, UInt8.toNat_div, UInt8.toNat_mod]
  exact (congrArg Nat.toUInt8 (Nat.div_add_mod n.toNat 16)).trans UInt8.ofNat_toNat

/-- A color is written with six digits after a mark. -/
theorem spells_toHex (color : Rgb) : Spells color.toHex
    (channelHex color.red ++ channelHex color.green ++ channelHex color.blue) := by
  have channel (n : UInt8) : ∀ d ∈ channelHex n, isHexDigit d = true := by
    obtain ⟨above, below⟩ := halves_lt n
    intro d listed
    rcases List.mem_pair.mp listed with rfl | rfl
    · exact (Text.hexDigit_hexDigit above).1
    · exact (Text.hexDigit_hexDigit below).1
  refine ⟨.inr String.toList_ofList, rfl, ?_⟩
  simp only [List.mem_append, or_imp, forall_and]
  exact ⟨⟨channel _, channel _⟩, channel _⟩

/-- A color is spelled the way it is written. -/
theorem ofHex?_toHex (color : Rgb) : ofHex? color.toHex = some color := by
  have channel (n : UInt8) :
      HexDigit (hexDigit (n / 16)) (n / 16).toNat ∧ HexDigit (hexDigit (n % 16)) (n % 16).toNat := by
    obtain ⟨above, below⟩ := halves_lt n
    exact ⟨(Text.hexDigit_hexDigit above).2, (Text.hexDigit_hexDigit below).2⟩
  rw [ofHex?_of_digits (spells_toHex color) (channel _) (channel _) (channel _), channelOf_halves,
    channelOf_halves, channelOf_halves]

/-- Different colors are written differently. -/
theorem toHex_injective : Function.Injective toHex := by
  intro color color' same
  have back := ofHex?_toHex color
  rw [same, ofHex?_toHex] at back
  exact (Option.some.inj back).symm

theorem ofHex?_eq_some_iff : ofHex? text = some color ↔
    ∃ digits, Spells text digits ∧ color.toHex = String.ofList ('#' :: digits.map Char.toLower) := by
  constructor
  · intro known
    have spelled := spells_of_ofHex? known
    obtain ⟨color', known', written⟩ := exists_ofHex?_of_spells spelled
    rw [known, Option.some.injEq] at known'
    exact ⟨_, spelled, known' ▸ written⟩
  · rintro ⟨digits, spelled, written⟩
    obtain ⟨color', known', written'⟩ := exists_ofHex?_of_spells spelled
    rw [known', toHex_injective (written'.trans written.symm)]

/-- Where a channel is cut out of a text, no character is cut through. -/
theorem exists_slice? (tested : (bytes digits = 6 && digits.all isHexDigit) = true) {start : Nat}
    (fits : start + 2 ≤ 6) : ∃ pair, slice? start (start + 2) digits = some pair := by
  obtain ⟨six, digit⟩ := tested_iff.mp tested
  exact ⟨_, Text.slice?_of_isHexDigit digit (Nat.le_add_right _ _) (six ▸ fits)⟩

end Rgb

/-! ### Pairs of colors -/

namespace Contrast

variable {foreground background : String}

theorem ratioOf_eq : ratioOf foreground background =
    match Rgb.ofHex? foreground, Rgb.ofHex? background with
    | none, _ => .error (.notHex foreground)
    | some _, none => .error (.notHex background)
    | some fg, some bg => .ok (fg.contrast bg) := by
  rw [ratioOf, pairOf, colorOf, colorOf]
  cases Rgb.ofHex? foreground with
  | none => rfl
  | some fg => cases Rgb.ofHex? background <;> rfl

end Contrast

namespace Rgb

/-- A text spells a color if and only if it is six digits after at most one mark, and then the color
is written with these digits as small letters; a color is spelled the way it is written. No slice of
a tested text ends within a character. A ratio is complained about if and only if one of its colors
is not spelled, and then the first such is named. -/
theorem ofHex?_grammar :
    (∀ text, (∃ color, ofHex? text = some color) ↔ ∃ digits, Spells text digits) ∧
    (∀ text color, ofHex? text = some color ↔ ∃ digits, Spells text digits ∧
      color.toHex = String.ofList ('#' :: digits.map Char.toLower)) ∧
    (∀ color, ofHex? color.toHex = some color) ∧
    (∀ text : String, let digits := dropMark text.toList
      (bytes digits = 6 && digits.all isHexDigit) = true →
        ∀ start ∈ [0, 2, 4], ∃ pair, slice? start (start + 2) digits = some pair) ∧
    ∀ foreground background,
      ((∃ e, Contrast.ratioOf foreground background = .error e) ↔
        ofHex? foreground = none ∨ ofHex? background = none) ∧
      (ofHex? foreground = none →
        Contrast.ratioOf foreground background = .error (.notHex foreground)) ∧
      (ofHex? foreground ≠ none → ofHex? background = none →
        Contrast.ratioOf foreground background = .error (.notHex background)) := by
  refine ⟨fun text => ?_, fun text color => ofHex?_eq_some_iff, ofHex?_toHex, ?_, ?_⟩
  · constructor
    · rintro ⟨color, known⟩
      exact ⟨_, spells_of_ofHex? known⟩
    · rintro ⟨digits, spelled⟩
      obtain ⟨color, known, -⟩ := exists_ofHex?_of_spells spelled
      exact ⟨color, known⟩
  · intro text digits tested start listed
    have fits : start + 2 ≤ 6 := by
      have each : ∀ start ∈ [0, 2, 4], start + 2 ≤ 6 := by decide
      exact each start listed
    exact exists_slice? tested fits
  · intro foreground background
    rw [Contrast.ratioOf_eq]
    cases ofHex? foreground with
    | none => simp
    | some fg => cases ofHex? background <;> simp

/-- Capital letters become small. A letter of two bytes, a second mark and a sign are no digits, even
where a text has six bytes with them. -/
theorem ofHex?_grammar_edges :
    ofHex? "#FFaa0b" = some ⟨255, 170, 11⟩ ∧ toHex ⟨255, 170, 11⟩ = "#ffaa0b" ∧
      bytes "é1234".toList = 6 ∧ ofHex? "é1234" = none ∧ ofHex? "##12345" = none ∧
      ofHex? "+12345" = none ∧
      Contrast.ratioOf "##12345" "+12345" = .error (.notHex "##12345") ∧
      Contrast.ratioOf "#FFaa0b" "+12345" = .error (.notHex "+12345") := by
  have spelled : Spells "#FFaa0b" ['F', 'F', 'a', 'a', '0', 'b'] := by decide +kernel
  have known : ofHex? "#FFaa0b" = some ⟨255, 170, 11⟩ :=
    (ofHex?_grammar.2.1 _ _).mpr ⟨_, spelled, by decide +kernel⟩
  obtain ⟨-, -, -, -, pairs⟩ := ofHex?_grammar
  have marked : ofHex? "##12345" = none := by decide +kernel
  have signed : ofHex? "+12345" = none := by decide +kernel
  refine ⟨known, by decide +kernel, by decide +kernel, by decide +kernel, marked, signed, ?_, ?_⟩
  · exact (pairs "##12345" "+12345").2.1 marked
  · exact (pairs "#FFaa0b" "+12345").2.2 (by rw [known]; exact Option.some_ne_none _) signed

end Rgb

end CanvasLint
