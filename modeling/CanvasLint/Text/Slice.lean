import CanvasLint.Text.Reader

/-!
Parts of a text that are given by the bytes at which they begin and end. There is such a part only
if no character is cut through.
-/
namespace CanvasLint.Text

variable {s l r : List Char} {n start stop : Nat}

/-- The text before a byte and the text from it on, unless the byte is within a character or past the
end. -/
def splitBytes? : Nat → List Char → Option (List Char × List Char)
  | 0, s => some ([], s)
  | _ + 1, [] => none
  | n + 1, c :: s =>
    if c.utf8Size ≤ n + 1 then (splitBytes? (n + 1 - c.utf8Size) s).map (Prod.map (c :: ·) id)
    else none

/-- The text from one byte to another. -/
def slice? (start stop : Nat) (s : List Char) : Option (List Char) := do
  let (_, s) ← splitBytes? start s
  let (part, _) ← splitBytes? (stop - start) s
  return part

theorem splitBytes?_bytes (l r : List Char) : splitBytes? (bytes l) (l ++ r) = some (l, r) := by
  induction l with
  | nil => rw [bytes, List.nil_append, splitBytes?]
  | cons c l ih =>
    have size := c.utf8Size_pos
    obtain ⟨n, total⟩ : ∃ n, bytes (c :: l) = n + 1 := Nat.exists_eq_add_one.mpr (by rw [bytes]; omega)
    have left : n + 1 - c.utf8Size = bytes l := by rw [← total, bytes]; omega
    rw [total, List.cons_append, splitBytes?, if_pos (by rw [← total, bytes]; omega), left, ih]
    rfl

/-- A text is split between two characters. -/
theorem splitBytes?_eq_some : splitBytes? n s = some (l, r) ↔ s = l ++ r ∧ bytes l = n := by
  constructor
  · intro split
    induction n, s using splitBytes?.induct generalizing l with
    | case1 s =>
      rw [splitBytes?] at split
      cases split
      exact ⟨rfl, rfl⟩
    | case2 n => cases split
    | case3 n c s fits ih =>
      rw [splitBytes?, if_pos fits] at split
      obtain ⟨⟨l', r'⟩, inner, same⟩ := Option.map_eq_some_iff.mp split
      cases same
      obtain ⟨rfl, size⟩ := ih inner
      exact ⟨rfl, by rw [bytes]; omega⟩
    | case4 n c s short =>
      rw [splitBytes?, if_neg short] at split
      cases split
  · rintro ⟨rfl, rfl⟩
    exact splitBytes?_bytes l r

/-- A slice is a part of the text. It has as many bytes as it should, and so has what comes before
it. -/
theorem slice?_eq_some {part : List Char} : slice? start stop s = some part ↔
    ∃ l r, s = l ++ part ++ r ∧ bytes l = start ∧ bytes part = stop - start := by
  simp only [slice?, Option.bind_eq_bind, Option.bind_eq_some_iff, Prod.exists,
    splitBytes?_eq_some]
  constructor
  · rintro ⟨l, s', ⟨rfl, before⟩, part', r, ⟨rfl, size⟩, same⟩
    cases same
    exact ⟨l, r, (List.append_assoc l part r).symm, before, size⟩
  · rintro ⟨l, r, rfl, before, size⟩
    exact ⟨l, part ++ r, ⟨List.append_assoc l part r, before⟩, part, r, ⟨rfl, size⟩, rfl⟩

end CanvasLint.Text
