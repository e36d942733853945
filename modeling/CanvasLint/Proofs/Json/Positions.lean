import CanvasLint.Json.Fault
import CanvasLint.Text.Slice
import Mathlib.Data.List.Basic

/-! Positions and bytes. A position is found again in its text: the line begins where as many lines
have ended as come before it, and the column leads from there to where reading stopped. The byte that
a position points to is the last one that was looked at, save that behind the end of a line it is the
first of the next line; either way just as many lines have ended before it. -/
namespace CanvasLint.Json.Position

variable {text : List UInt8} {n : Nat} {p : Position} {byte : UInt8}

/-- From any position on, every newline starts a line and every other byte takes a column. -/
private theorem foldl_advance (text : List UInt8) (n : Nat) (fits : n ≤ text.length) (p : Position) :
    ((text.take n).foldl advance p).line = p.line + (text.take n).count 10 ∧
      if (text.take n).count 10 = 0 then ((text.take n).foldl advance p).column = p.column + n
      else lineStart text ((text.take n).count 10) + ((text.take n).foldl advance p).column = n := by
  induction text generalizing n p with
  | nil =>
    obtain rfl := Nat.le_zero.mp fits
    exact ⟨rfl, rfl⟩
  | cons byte text ih =>
    cases n with
    | zero => exact ⟨rfl, rfl⟩
    | succ n =>
      obtain ⟨line, column⟩ := ih n (Nat.le_of_succ_le_succ fits) (p.advance byte)
      rw [List.take_succ_cons, List.foldl_cons, List.count_cons, line]
      by_cases newline : byte = 10
      · have ended : (byte == 10) = true := by rw [newline]; rfl
        rw [if_pos ended, if_neg (Nat.succ_ne_zero _), lineStart, if_pos newline]
        rw [advance, if_pos newline] at column ⊢
        refine ⟨by dsimp only; omega, ?_⟩
        split at column
        · rename_i none
          rw [none, lineStart, column]
          dsimp only
          omega
        · omega
      · have within : (byte == 10) = false := beq_eq_false_iff_ne.mpr newline
        rw [if_neg (by rw [within]; exact Bool.false_ne_true), Nat.add_zero]
        rw [advance, if_neg newline] at column ⊢
        refine ⟨rfl, ?_⟩
        split at column
        · rename_i none
          rw [if_pos none, column]
          dsimp only
          omega
        · rename_i some
          obtain ⟨lines, count⟩ := Nat.exists_eq_add_one_of_ne_zero some
          rw [if_neg some]
          rw [count] at column ⊢
          rw [lineStart, if_neg newline]
          omega

theorem line_ofOffset (fits : n ≤ text.length) :
    (ofOffset text n).line = (text.take n).count 10 + 1 := by
  rw [ofOffset, (foldl_advance text n fits ⟨1, 0⟩).1, Nat.add_comm]

/-- The line and the column lead back to where reading stopped. -/
theorem lineStart_add_column (fits : n ≤ text.length) :
    lineStart text ((ofOffset text n).line - 1) + (ofOffset text n).column = n := by
  have column := (foldl_advance text n fits ⟨1, 0⟩).2
  rw [line_ofOffset fits, Nat.add_sub_cancel]
  split at column
  · rename_i none
    rw [none, ofOffset, column]
    cases text <;> simp [lineStart]
  · exact column

/-- A word holds every length up to that of the text. -/
theorem lt_wordLimit (fits : n ≤ text.length) : n < wordLimit text :=
  Nat.lt_of_lt_of_le (Nat.lt_succ_of_le fits) (Nat.le_max_right _ _)

/-- Within the text nothing wraps around, and nothing is cut off. -/
theorem offset_eq_distance (fits : p.distance text ≤ text.length) :
    p.offset text = p.distance text := by
  rw [offset, Nat.mod_eq_of_lt (lt_wordLimit fits), Nat.min_eq_left fits]

theorem offset_ofOffset (fits : n ≤ text.length) : (ofOffset text n).offset text =
    if (ofOffset text n).column = 0 then n else n - 1 := by
  have place := lineStart_add_column fits
  have distance_eq : (ofOffset text n).distance text =
      if (ofOffset text n).column = 0 then n else n - 1 := by
    rw [distance]
    split <;> omega
  rw [offset_eq_distance, distance_eq]
  rw [distance_eq]
  split <;> omega

theorem ofOffset_succ (known : text[n]? = some byte) :
    ofOffset text (n + 1) = (ofOffset text n).advance byte := by
  rw [ofOffset, List.take_add_one, known, List.foldl_append]
  rfl

theorem offset_ofOffset_zero : (ofOffset text 0).offset text = 0 :=
  offset_ofOffset (Nat.zero_le _)

/-- A byte that was looked at is pointed to, unless it ends a line. -/
theorem offset_ofOffset_succ (known : text[n]? = some byte) :
    (ofOffset text (n + 1)).offset text = if byte = 10 then n + 1 else n := by
  obtain ⟨fits, -⟩ := List.getElem?_eq_some_iff.mp known
  rw [offset_ofOffset fits, ofOffset_succ known, advance]
  split
  · rfl
  · exact if_neg (Nat.succ_ne_zero _)

/-- As many lines have ended before the byte as come before the position. -/
theorem count_take_offset (fits : n ≤ text.length) :
    (text.take ((ofOffset text n).offset text)).count 10 + 1 = (ofOffset text n).line := by
  rw [line_ofOffset fits]
  cases n with
  | zero => rw [offset_ofOffset_zero]
  | succ n =>
    have known : text[n]? = some text[n] := List.getElem?_eq_getElem fits
    rw [offset_ofOffset_succ known]
    split
    · rfl
    · rename_i within
      rw [List.take_add_one, known, List.count_append]
      have other : (text[n] == 10) = false := beq_eq_false_iff_ne.mpr within
      simp [List.count_singleton, other]

theorem offset_le_length (fits : n ≤ text.length) : (ofOffset text n).offset text ≤ text.length := by
  rw [offset_ofOffset fits]
  split <;> omega

end CanvasLint.Json.Position
