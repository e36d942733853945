import CanvasLint.Proofs.Json.Positions
import Mathlib.Data.List.SplitBy

/-! Lines and columns of bytes. Every byte of a text stands in one line, and the number of that line
with the distance from where it begins leads back to the byte. Lines and columns that the text does
not have lead to some place in it all the same: numbers below one count as one, and a line after the
last begins at the end. -/
namespace CanvasLint.Json.Position

variable {text line : List UInt8} {start p n : ℕ}

/-! ### Lines with the newlines that end them -/

/-- The lines of a text, each with its newline. The last one may have none, and then it has bytes. -/
def lines (text : List UInt8) : List (List UInt8) :=
  text.splitBy fun byte _ => byte != 10

private theorem isChain_of_unbroken (unbroken : 10 ∉ line) :
    (line ++ [10]).IsChain fun byte _ => (byte != 10) = true := by
  have other {byte : UInt8} (member : byte ∈ line) : (byte != 10) = true := by
    rw [bne_iff_ne]
    rintro rfl
    exact unbroken member
  refine List.Pairwise.isChain (List.pairwise_append.mpr ⟨?_, List.pairwise_singleton _ _, ?_⟩)
  · exact List.pairwise_of_forall_mem_list fun byte member _ _ => other member
  · exact fun byte member _ _ => other member

theorem lines_append (unbroken : 10 ∉ line) (rest : List UInt8) :
    lines (line ++ 10 :: rest) = (line ++ [10]) :: lines rest := by
  have joined : line ++ 10 :: rest = (line ++ [10]) ++ rest := by simp
  rw [joined, lines, List.splitBy_append (by simp),
    List.splitBy_of_isChain (by simp) (isChain_of_unbroken unbroken), List.singleton_append, lines]

theorem lines_of_unbroken (unbroken : 10 ∉ line) (some : line ≠ []) : lines line = [line] :=
  List.splitBy_of_isChain some (List.isChain_append.mp (isChain_of_unbroken unbroken)).1

theorem lineStart_nil (n : ℕ) : lineStart [] n = 0 := by
  cases n <;> rfl

theorem lineStart_append (unbroken : 10 ∉ line) (rest : List UInt8) (n : ℕ) :
    lineStart (line ++ rest) (n + 1) = line.length + lineStart rest (n + 1) := by
  induction line with
  | nil => rw [List.nil_append, List.length_nil, Nat.zero_add]
  | cons byte line ih =>
    obtain ⟨within, unbroken⟩ := not_or.mp (mt List.mem_cons.mpr unbroken)
    rw [List.cons_append, lineStart, if_neg (Ne.symm within), ih unbroken, List.length_cons]
    omega

/-- A line begins behind all lines before it. -/
theorem lineStart_eq_length (text : List UInt8) (n : ℕ) :
    lineStart text n = ((lines text).take n).flatten.length := by
  induction n generalizing text with
  | zero => cases text <;> rfl
  | succ n ih =>
    by_cases ended : 10 ∈ text
    · obtain ⟨line, rest, rfl, unbroken⟩ := List.eq_append_cons_of_mem ended
      rw [lines_append unbroken, List.take_succ_cons, List.flatten_cons, List.length_append, ← ih rest,
        lineStart_append unbroken, lineStart, if_pos rfl, List.length_append, List.length_singleton]
      omega
    · cases text with
      | nil => rfl
      | cons byte text =>
        have whole := lineStart_append ended [] n
        rw [List.append_nil, lineStart_nil] at whole
        rw [whole, lines_of_unbroken ended (List.cons_ne_nil _ _), List.take_succ_cons, List.take_nil,
          List.flatten_singleton, Nat.add_zero]

/-- The bytes in front of a position are the lines before it, and then the columns before it. -/
theorem distance_eq_add (text : List UInt8) (p : Position) : p.distance text =
    ((lines text).take (p.line - 1)).flatten.length + (p.column - 1) := by
  rw [distance, lineStart_eq_length]

/-- After the last line nothing is left. -/
theorem lineStart_of_count_lt (past : text.count 10 < n) : lineStart text n = text.length := by
  induction text generalizing n with
  | nil => exact lineStart_nil n
  | cons byte text ih =>
    obtain ⟨n, rfl⟩ := Nat.exists_eq_add_one_of_ne_zero (Nat.ne_zero_of_lt past)
    rw [List.count_cons] at past
    rw [lineStart, List.length_cons, Nat.add_comm]
    split
    · rename_i newline
      rw [newline, if_pos (beq_self_eq_true _)] at past
      rw [ih (Nat.lt_of_add_lt_add_right past)]
    · rw [ih (Nat.lt_of_le_of_lt (Nat.le_add_right _ _) past)]

/-! ### The line in which a byte stands -/

/-- The line of a byte begins here: from here up to the byte there is no newline. -/
structure StandsFrom (text : List UInt8) (start p : ℕ) : Prop where
  le : start ≤ p
  begins : start = 0 ∨ text[start - 1]? = some 10
  unbroken : 10 ∉ (text.take p).drop start

theorem exists_standsFrom (fits : p ≤ text.length) : ∃ start, StandsFrom text start p := by
  induction p with
  | zero => exact ⟨0, le_rfl, .inl rfl, by simp⟩
  | succ p ih =>
    have known : text[p]? = some text[p] := List.getElem?_eq_getElem fits
    by_cases newline : text[p] = 10
    · refine ⟨p + 1, le_rfl, .inr (by rw [Nat.add_sub_cancel, known, newline]), ?_⟩
      simp
    · obtain ⟨start, le, begins, unbroken⟩ := ih (Nat.le_of_succ_le fits)
      refine ⟨start, Nat.le_succ_of_le le, begins, ?_⟩
      rw [List.take_add_one, known, List.drop_append_of_le_length (by simp; omega), List.mem_append]
      exact not_or.mpr ⟨unbroken, by simpa using Ne.symm newline⟩

/-- As many lines end before the byte as end before its line begins. -/
theorem StandsFrom.count_eq (stands : StandsFrom text start p) :
    (text.take p).count 10 = (text.take start).count 10 := by
  have parts := List.take_append_drop start (text.take p)
  rw [List.take_take, Nat.min_eq_left stands.le] at parts
  rw [← parts, List.count_append, List.count_eq_zero.mpr stands.unbroken, Nat.add_zero]

theorem lineStart_count (begins : start = 0 ∨ text[start - 1]? = some 10)
    (fits : start ≤ text.length) : lineStart text ((text.take start).count 10) = start := by
  have column : (ofOffset text start).column = 0 := by
    rcases begins with rfl | ended
    · rfl
    · cases start with
      | zero => rfl
      | succ start =>
        rw [Nat.add_sub_cancel] at ended
        rw [ofOffset_succ ended, advance, if_pos rfl]
  have place := lineStart_add_column fits
  rwa [line_ofOffset fits, Nat.add_sub_cancel, column, Nat.add_zero] at place

/-! ### Where positions lead -/

/-- The position leads to this byte, whether or not sums are checked. -/
structure LeadsTo (text : List UInt8) (place : Position) (n : ℕ) : Prop where
  wrapping : place.offset text = n
  checked : place.offset? text = some n

theorem leadsTo_of_lt {place : Position} (fits : place.distance text < wordLimit text) :
    LeadsTo text place (min (place.distance text) text.length) where
  wrapping := by rw [offset, Nat.mod_eq_of_lt fits]
  checked := if_pos fits

/-- The line and the column of a byte lead back to it. -/
theorem StandsFrom.leadsTo (stands : StandsFrom text start p) (fits : p ≤ text.length) :
    LeadsTo text ⟨1 + (text.take p).count 10, 1 + (p - start)⟩ p := by
  have le := stands.le
  have distance_eq : distance text ⟨1 + (text.take p).count 10, 1 + (p - start)⟩ = p := by
    rw [distance]
    dsimp only
    rw [Nat.add_sub_cancel_left, Nat.add_sub_cancel_left, stands.count_eq,
      lineStart_count stands.begins (le.trans fits)]
    omega
  have leads := leadsTo_of_lt (distance_eq.trans_lt (lt_wordLimit fits))
  rwa [distance_eq, Nat.min_eq_left fits] at leads

theorem leadsTo_of_past {line column : ℕ} (past : text.count 10 + 1 < line)
    (fits : distance text ⟨line, column⟩ < wordLimit text) :
    LeadsTo text ⟨line, column⟩ text.length := by
  have all : text.length ≤ distance text ⟨line, column⟩ := by
    rw [distance]
    dsimp only
    rw [lineStart_of_count_lt (by omega)]
    omega
  have leads := leadsTo_of_lt fits
  rwa [Nat.min_eq_right all] at leads

/-- Every byte of a text, and its end, is where its line and column lead. Any line and column are as
far into the text as the lines before it and the columns before it take up. If a machine word holds
that distance, they lead so far or to the end of the text; if not, they still lead to some place in
the text, or sums are checked and the search for it stops. -/
theorem offset_inverts (text : String) :
    let encoded := Text.encode text.toList
    (∀ p ≤ encoded.length, (∃ start, StandsFrom encoded start p) ∧
      ∀ start, StandsFrom encoded start p →
        LeadsTo encoded ⟨1 + (encoded.take p).count 10, 1 + (p - start)⟩ p) ∧
      (∀ line column,
        let distance := ((lines encoded).take (line - 1)).flatten.length + (column - 1)
        offset encoded ⟨line, column⟩ ≤ encoded.length ∧
          (distance < wordLimit encoded →
            LeadsTo encoded ⟨line, column⟩ (min distance encoded.length)) ∧
          (offset? encoded ⟨line, column⟩ = none ↔ wordLimit encoded ≤ distance)) ∧
      (∀ line, offset encoded ⟨line, 0⟩ = offset encoded ⟨line, 1⟩ ∧
        offset? encoded ⟨line, 0⟩ = offset? encoded ⟨line, 1⟩) ∧
      (∀ column, offset encoded ⟨0, column⟩ = offset encoded ⟨1, column⟩ ∧
        offset? encoded ⟨0, column⟩ = offset? encoded ⟨1, column⟩) ∧
      ∀ line column n, encoded.count 10 + 1 < line →
        offset? encoded ⟨line, column⟩ = some n → n = encoded.length := by
  intro encoded
  refine ⟨fun p fits => ⟨exists_standsFrom fits, fun start stands => stands.leadsTo fits⟩,
    fun line column => ?_, fun line => ⟨rfl, rfl⟩, fun column => ⟨rfl, rfl⟩,
    fun line column n past reached => ?_⟩
  · rw [← distance_eq_add encoded ⟨line, column⟩]
    refine ⟨Nat.min_le_right _ _, leadsTo_of_lt, ?_⟩
    rw [offset?, ← Nat.not_lt]
    split <;> simp [*]
  · by_cases fits : distance encoded ⟨line, column⟩ < wordLimit encoded
    · rw [(leadsTo_of_past past fits).checked] at reached
      exact (Option.some.inj reached).symm
    · rw [offset?, if_neg fits] at reached
      cases reached

/-- The second line begins behind a letter of two bytes and a newline. Its fourth byte is within its
second letter and ends the text. The largest column of all is no farther than a word reaches in the
first line, and too far in the second. -/
theorem offset_inverts_umlauts :
    let encoded := Text.encode "ä\nöü".toList
    encoded.length = 7 ∧ StandsFrom encoded 3 6 ∧ LeadsTo encoded ⟨2, 4⟩ 6 ∧
      offset encoded ⟨2, 9⟩ ≤ 7 ∧ LeadsTo encoded ⟨1, UInt64.size - 1⟩ 7 ∧
      offset? encoded ⟨2, UInt64.size - 1⟩ = none ∧ offset encoded ⟨2, UInt64.size - 1⟩ ≤ 7 ∧
      offset encoded ⟨0, 0⟩ = offset encoded ⟨1, 1⟩ ∧ LeadsTo encoded ⟨3, 1⟩ 7 := by
  intro encoded
  obtain ⟨back, within, first, early, late⟩ := offset_inverts "ä\nöü"
  have stands : StandsFrom encoded 3 6 := ⟨by decide, .inr (by decide), by decide⟩
  have far : offset? encoded ⟨2, UInt64.size - 1⟩ = none :=
    (within 2 (UInt64.size - 1)).2.2.mpr (by decide +kernel)
  exact ⟨by decide, stands, (back 6 (by decide)).2 3 stands, (within 2 9).1,
    (within 1 (UInt64.size - 1)).2.1 (by decide +kernel), far, (within 2 (UInt64.size - 1)).1,
    (first 0).1.trans (early 1).1, (within 3 1).2.1 (by decide +kernel)⟩

end CanvasLint.Json.Position
