import CanvasLint.Text.Blank
import CanvasLint.Text.Pieces
import Mathlib.Data.List.TakeWhile

/-! What the pieces of a text are, and what is left of one without the blanks around it, apart from
how they are found. The pieces hold no separator, and give the text when one is put between each two;
what is left is a stretch of the text that neither begins nor ends with a blank. -/
namespace CanvasLint.Text

variable {separator : Char} {s kept piece : List Char}

/-! ### Pieces -/

theorem pieces_eq_splitOn (separator : Char) (s : List Char) :
    pieces separator s = s.splitOn separator := by
  induction s with
  | nil => rw [pieces, List.splitOn_nil]
  | cons c s ih =>
    rw [pieces, ih, List.splitOn_cons_eq_if_modifyHead]
    by_cases same : c = separator
    · simp [same]
    · cases later : s.splitOn separator with
      | nil => exact absurd later (List.splitOn_ne_nil separator s)
      | cons piece later => simp [same]

theorem not_mem_of_mem_pieces (member : piece ∈ pieces separator s) : separator ∉ piece := by
  induction s generalizing piece with
  | nil =>
    obtain rfl := List.mem_singleton.mp member
    exact List.not_mem_nil
  | cons c s ih =>
    rw [pieces] at member
    split at member
    · rcases List.mem_cons.mp member with rfl | member
      · exact List.not_mem_nil
      · exact ih member
    · rename_i other
      split at member
      · rename_i none
        exact absurd none (pieces_ne_nil separator s)
      · rename_i first later found
        rw [found] at ih
        rcases List.mem_cons.mp member with rfl | member
        · have clean := ih List.mem_cons_self
          simp [Ne.symm other, clean]
        · exact ih (List.mem_cons_of_mem _ member)

/-- One of the parts that give a text when the separator is put between each two. -/
def IsPiece (separator : Char) (s piece : List Char) : Prop :=
  ∃ parts, [separator].intercalate parts = s ∧ (∀ part ∈ parts, separator ∉ part) ∧ piece ∈ parts

theorem mem_pieces : piece ∈ pieces separator s ↔ IsPiece separator s piece := by
  constructor
  · intro member
    refine ⟨pieces separator s, ?_, fun _ => not_mem_of_mem_pieces, member⟩
    rw [pieces_eq_splitOn, List.intercalate_splitOn]
  · rintro ⟨parts, rfl, clean, member⟩
    rwa [pieces_eq_splitOn, List.splitOn_intercalate separator clean (List.ne_nil_of_mem member)]

/-! ### Blanks around a text -/

/-- What is left of a text when the blanks around it are gone. -/
structure Trims (s kept : List Char) : Prop where
  around : ∃ front back, s = front ++ kept ++ back ∧ ∀ c ∈ front ++ back, isBlank c = true
  starts : ∀ c ∈ kept.head?, isBlank c = false
  ends : ∀ c ∈ kept.getLast?, isBlank c = false

/-- Where blanks are skipped, what comes next is none. -/
private theorem not_blank_of_head?_dropWhile {c : Char}
    (first : c ∈ (s.dropWhile isBlank).head?) : isBlank c = false := by
  have stopped := List.head?_dropWhile_not isBlank s
  rwa [first] at stopped

private theorem dropWhile_blank_append {front rest : List Char}
    (blank : ∀ c ∈ front, isBlank c = true) (starts : ∀ c ∈ rest.head?, isBlank c = false) :
    (front ++ rest).dropWhile isBlank = rest := by
  rw [List.dropWhile_append_of_pos blank]
  cases rest with
  | nil => rfl
  | cons c rest => exact List.dropWhile_cons_of_neg (by simp [starts c rfl])

theorem trims_trimmed (s : List Char) : Trims s (trimmed s) := by
  let rest := s.dropWhile isBlank
  have front : s = s.takeWhile isBlank ++ rest := List.takeWhile_append_dropWhile.symm
  have back : rest = trimmed s ++ (rest.reverse.takeWhile isBlank).reverse := by
    rw [trimmed, ← List.reverse_append, List.takeWhile_append_dropWhile, List.reverse_reverse]
  refine ⟨⟨s.takeWhile isBlank, (rest.reverse.takeWhile isBlank).reverse, ?_, fun c member => ?_⟩,
    fun c first => ?_, fun c last => ?_⟩
  · rw [List.append_assoc, ← back, ← front]
  · rcases List.mem_append.mp member with member | member
    · exact List.mem_takeWhile_imp member
    · exact List.mem_takeWhile_imp (List.mem_reverse.mp member)
  · refine not_blank_of_head?_dropWhile (s := s) ?_
    change c ∈ rest.head?
    rw [back, List.head?_append, first]
    rfl
  · rw [trimmed, List.getLast?_reverse] at last
    exact not_blank_of_head?_dropWhile last

theorem trims_iff : Trims s kept ↔ kept = trimmed s := by
  constructor
  · rintro ⟨⟨front, back, rfl, blank⟩, starts, ends⟩
    have blankFront : ∀ c ∈ front, isBlank c = true :=
      fun c member => blank c (List.mem_append_left back member)
    have blankBack : ∀ c ∈ back.reverse, isBlank c = true :=
      fun c member => blank c (List.mem_append_right front (List.mem_reverse.mp member))
    rw [trimmed, List.append_assoc]
    cases kept with
    | nil =>
      have allBlank : ∀ c ∈ front ++ ([] ++ back), isBlank c = true := blank
      rw [List.dropWhile_eq_nil_iff.mpr allBlank]
      rfl
    | cons c later =>
      have ends' : ∀ c' ∈ (c :: later).reverse.head?, isBlank c' = false := by
        rwa [List.head?_reverse]
      have starts' : ∀ c' ∈ (c :: later ++ back).head?, isBlank c' = false := starts
      rw [dropWhile_blank_append blankFront starts', List.reverse_append,
        dropWhile_blank_append blankBack ends', List.reverse_reverse]
  · rintro rfl
    exact trims_trimmed s

end CanvasLint.Text
