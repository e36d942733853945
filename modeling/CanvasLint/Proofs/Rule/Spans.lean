import CanvasLint.Proofs.Json.ReaderFaults
import CanvasLint.Proofs.Rule.Entries

/-! Where a rule set that cannot be read is said to be at fault. The byte lies in the text, on the line
that the complaint names; and it begins a character, unless the last byte that was looked at lies
within one. -/
namespace CanvasLint

open Json (Fault Position Value)
open Outcome (fault?_eq_some)
open Text (bytes encode splitBytes? splitBytes?_bytes splitBytes?_eq_some)

variable {s front rest : List Char} {c : Char} {k : Nat} {fault : Fault} {byte : UInt8}

/-! ### Bytes of characters -/

namespace Text

/-- The end of a line is not part of another character. -/
theorem eq_newline_of_mem (newline : (10 : UInt8) ∈ String.utf8EncodeChar c) : c = '\n' := by
  have value {v : Nat} (same : (10 : UInt8) = UInt8.ofNat v) : v % 256 = 10 := by
    rw [← UInt8.toNat_ofNat', ← same]
    rfl
  unfold String.utf8EncodeChar at newline
  dsimp only at newline
  split at newline
  · rename_i small
    have code := value (List.mem_singleton.mp newline)
    refine Char.ext (UInt32.toNat.inj ?_)
    change c.val.toNat = 10
    omega
  · -- all bytes of a longer character are beyond those of one byte
    exfalso
    split at newline
    · simp only [List.mem_cons, List.not_mem_nil, or_false] at newline
      rcases newline with same | same <;>
      · have code := value same
        omega
    · split at newline
      · simp only [List.mem_cons, List.not_mem_nil, or_false] at newline
        rcases newline with same | same | same <;>
        · have code := value same
          omega
      · simp only [List.mem_cons, List.not_mem_nil, or_false] at newline
        rcases newline with same | same | same | same <;>
        · have code := value same
          omega

/-- A byte that ends a line is a character of its own. -/
theorem exists_newline_at (newline : (encode s)[k]? = some 10) :
    ∃ front rest, s = front ++ '\n' :: rest ∧ bytes front = k := by
  induction s generalizing k with
  | nil => cases newline
  | cons c s ih =>
    have split : encode (c :: s) = String.utf8EncodeChar c ++ encode s := List.flatMap_cons
    rw [split, List.getElem?_append, String.length_utf8EncodeChar] at newline
    split at newline
    · have same := eq_newline_of_mem (List.mem_of_getElem? newline)
      subst same
      have size : ('\n' : Char).utf8Size = 1 := rfl
      exact ⟨[], s, rfl, by rw [bytes]; omega⟩
    · obtain ⟨front, rest, rfl, size⟩ := ih newline
      exact ⟨c :: front, rest, rfl, by rw [bytes]; omega⟩

/-- No text is split within a character. -/
theorem splitBytes?_eq_none_of_within (after : bytes front < k)
    (before : k < bytes front + c.utf8Size) : splitBytes? k (front ++ c :: rest) = none := by
  refine Option.eq_none_iff_forall_ne_some.mpr fun ⟨l, r⟩ split => ?_
  obtain ⟨same, size⟩ := splitBytes?_eq_some.mp split
  rcases List.append_eq_append_iff.mp same with ⟨between, rfl, behind⟩ | ⟨between, rfl, -⟩
  · cases between with
    | nil => rw [List.append_nil] at size; omega
    | cons d between =>
      cases behind
      rw [bytes_append, bytes] at size
      omega
  · rw [bytes_append] at after
    omega

end Text

namespace Json.Fault

/-- The byte that a fault is said to be at. -/
def place (s : List Char) (fault : Fault) : Nat :=
  (Position.ofOffset (encode s) ((encode s).length - fault.left)).offset (encode s)

private theorem place_eq (known : (encode s)[k]? = some byte)
    (stopped : (encode s).length - fault.left = k + 1) :
    fault.place s = if byte = 10 then k + 1 else k := by
  rw [place, stopped, Position.offset_ofOffset_succ known]

/-- Where a text is split behind the byte that was looked at last. -/
private theorem isSome_splitBytes?_newline (known : (encode s)[k]? = some 10) :
    (splitBytes? (k + 1) s).isSome = true := by
  obtain ⟨front, rest, rfl, size⟩ := Text.exists_newline_at known
  have split : front ++ '\n' :: rest = front ++ ['\n'] ++ rest := by simp
  have next : bytes (front ++ ['\n']) = k + 1 := by
    rw [Text.bytes_append, size]
    rfl
  rw [split, ← next, splitBytes?_bytes]
  rfl

/-- A text is not split where the byte that was looked at last lies within a character. -/
private theorem splitBytes?_place_of_within (split : s = front ++ c :: rest)
    (after : bytes front < k) (before : k < bytes front + c.utf8Size)
    (stopped : (encode s).length - fault.left = k + 1) : splitBytes? (fault.place s) s = none := by
  have apart : splitBytes? k s = none := by
    rw [split]
    exact Text.splitBytes?_eq_none_of_within after before
  have known : (encode s)[k]? = some (encode s)[k] := List.getElem?_eq_getElem (by omega)
  have other : (encode s)[k] ≠ 10 := by
    intro newline
    obtain ⟨l, r, same, size⟩ := Text.exists_newline_at (known.trans (congrArg some newline))
    rw [same, ← size, splitBytes?_bytes] at apart
    cases apart
  rw [place_eq known stopped, if_neg other, apart]

/-- A text is not split at a fault that cuts through a character. -/
theorem Cuts.splitBytes?_place (cuts : fault.Cuts s) : splitBytes? (fault.place s) s = none := by
  cases cuts with
  | atEnd front c split wide =>
    have size : bytes s = bytes front + c.utf8Size := by
      rw [split, Text.bytes_append, bytes, bytes, Nat.add_zero]
    refine splitBytes?_place_of_within (k := bytes s - 1) split (by omega) (by omega) ?_
    rw [Text.length_encode]
    change bytes s - 0 = bytes s - 1 + 1
    omega
  | inEscape front code rest c split before beyond =>
    have spread : s = (front ++ '\\' :: 'u' :: code) ++ c :: rest := by rw [split]; simp
    have size : bytes (front ++ '\\' :: 'u' :: code) = bytes front + 2 + bytes code := by
      rw [Text.bytes_append, bytes, bytes, Nat.add_assoc, ← Nat.add_assoc _ _ (bytes code)]
      rfl
    have total : bytes s = bytes front + 2 + bytes (code ++ c :: rest) := by
      rw [spread, Text.bytes_append, size, Text.bytes_append, Nat.add_assoc (bytes front + 2)]
    have enough : bytes (code ++ c :: rest) = bytes code + (c.utf8Size + bytes rest) := by
      rw [Text.bytes_append, bytes]
    -- the fourth byte behind the `u`
    refine splitBytes?_place_of_within (k := bytes front + 5) spread (by omega) (by omega) ?_
    rw [Text.length_encode, total]
    dsimp only
    omega

/-- A text is split at a fault just if this does not cut through a character. -/
theorem Stands.isSome_splitBytes?_iff (stands : fault.Stands s) :
    (splitBytes? (fault.place s) s).isSome = true ↔ ¬ fault.Cuts s := by
  constructor
  · intro split cuts
    rw [cuts.splitBytes?_place] at split
    cases split
  · intro whole
    cases stands with
    | onto front rest c split left =>
      have size := c.utf8Size_pos
      have total : bytes s = bytes front + (c.utf8Size + bytes rest) := by
        rw [split, Text.bytes_append, bytes]
      rw [bytes] at left
      have stopped : (encode s).length - fault.left = bytes front + 1 := by
        rw [Text.length_encode]
        omega
      have known : (encode s)[bytes front]? = some (encode s)[bytes front] :=
        List.getElem?_eq_getElem (by omega)
      rw [place_eq known stopped]
      split
      · rename_i newline
        exact isSome_splitBytes?_newline (known.trans (congrArg some newline))
      · rw [split, splitBytes?_bytes]
        rfl
    | nowhere empty left =>
      subst empty
      have first : fault.place [] = 0 := Nat.min_zero _
      rw [first]
      rfl
    | within cuts => exact absurd cuts whole

end Json.Fault

/-! ### Refused rule sets -/

namespace RuleSet

variable {source text name : String} {offset : Nat} {position : Position}

/-- Only a text that is no JSON is called unreadable. -/
theorem ofText_eq_unreadable :
    ofText source text = .error (.unreadable name fault position offset) ↔
      Value.ofText text = .error fault ∧ name = source ∧ position = fault.position text ∧
        offset = position.offset (encode text.toList) := by
  rw [ofText]
  cases read : Value.ofText text with
  | error fault' =>
    constructor
    · intro refused
      cases refused
      exact ⟨rfl, rfl, rfl, rfl⟩
    · rintro ⟨same, rfl, rfl, rfl⟩
      cases same
      rfl
  | ok v =>
    refine ⟨fun refused => ?_, fun named => by cases named.1⟩
    cases v with
    | array es =>
      obtain ⟨-, sorted⟩ := Json.fits_and_sorted_of_ofText read
      cases sorted with
      | array sorted =>
        obtain ⟨_, _, _, _, _, -, -, -, same⟩ := (ofEntries_eq_error sorted).mp refused
        cases same
    | null => cases refused
    | bool b => cases refused
    | number n => cases refused
    | string s => cases refused
    | object ms => cases refused

private theorem message_unreadable :
    (RuleSetError.unreadable name fault position offset).message =
      "Invalid JSON in rule set: " ++ fault.cause.message ++
        s!" at line {position.line} column {position.column}" := by
  -- the equations of `message` are costly, its value is not
  change
    s!"Invalid JSON in rule set: {fault.cause.message} at line {position.line} column {position.column}" = _
  apply String.toList_inj.mp
  simp [toString]

/-- The span of a text that is no JSON lies in the text, behind the lines that come before the one
that is named. The text can be split there if and only if the last byte that was looked at does not
lie within a character. -/
theorem ofText_span (refused : ofText source text = .error (.unreadable name fault position offset)) :
    (∃ complaint, (RuleSetError.unreadable name fault position offset).message =
        complaint ++ s!" at line {position.line} column {position.column}") ∧
      offset ≤ (encode text.toList).length ∧
      ((encode text.toList).take offset).count 10 + 1 = position.line ∧
      ((splitBytes? offset text.toList).isSome = true ↔ ¬ fault.Cuts text.toList) := by
  obtain ⟨failed, rfl, rfl, rfl⟩ := ofText_eq_unreadable.mp refused
  have fits : (encode text.toList).length - fault.left ≤ (encode text.toList).length :=
    Nat.sub_le _ _
  have stopped : fault.position text =
      Position.ofOffset (encode text.toList) ((encode text.toList).length - fault.left) := rfl
  have split := (Value.stands_of_ofText failed).isSome_splitBytes?_iff
  rw [Json.Fault.place, ← stopped] at split
  refine ⟨⟨"Invalid JSON in rule set: " ++ fault.cause.message, message_unreadable⟩, ?_, ?_, split⟩
  · rw [stopped]
    exact Position.offset_le_length fits
  · rw [stopped]
    exact Position.count_take_offset fits

/-- A rule set whose second line lacks a value. -/
def gapText : String :=
  "[\n  \x7b\"id\": \x7d\n]"

theorem ofText_span_gap :
    ofText usualSource gapText = .error (.unreadable usualSource ⟨.expectedValue, 2⟩ ⟨2, 10⟩ 11) ∧
      ((encode gapText.toList).take 11).count 10 + 1 = 2 ∧
      (splitBytes? 11 gapText.toList).isSome = true := by
  have refused : ofText usualSource gapText =
      .error (.unreadable usualSource ⟨.expectedValue, 2⟩ ⟨2, 10⟩ 11) :=
    ofText_eq_unreadable.mpr
      ⟨fault?_eq_some.mp (by decide +kernel), rfl, by decide +kernel, by decide +kernel⟩
  have whole : ¬ Fault.Cuts gapText.toList ⟨.expectedValue, 2⟩ := fun cuts => by cases cuts
  obtain ⟨-, -, lines, split⟩ := ofText_span refused
  exact ⟨refused, lines, split.mpr whole⟩

/-- A text that ends within a string, behind a letter of two bytes, is not split at its span. -/
theorem span_cuts_letter :
    ofText usualSource "\"é" = .error (.unreadable usualSource ⟨.endInString, 0⟩ ⟨1, 3⟩ 2) ∧
      splitBytes? 2 "\"é".toList = none :=
  ⟨ofText_eq_unreadable.mpr
    ⟨fault?_eq_some.mp (by decide +kernel), rfl, by decide +kernel, by decide +kernel⟩,
    by decide +kernel⟩

end RuleSet

end CanvasLint
