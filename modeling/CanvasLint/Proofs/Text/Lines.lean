import CanvasLint.Number.Notation
import CanvasLint.Proofs.Text.Pieces
import CanvasLint.Text.Quote

/-! Texts as lines. A text that is put together is on one line if all its parts are; numbers and
quoted texts always are. Where every text of a list is closed by a line end there are at least as many
lines as texts, and just as many only if each text is on one line. -/
namespace CanvasLint.Text

variable {s t separator text : String} {texts lines : List String}

/-- No line ends within the text. -/
abbrev OneLine (s : String) : Prop :=
  '\n' ∉ s.toList

/-! ### Texts on one line -/

theorem oneLine_append : OneLine (s ++ t) ↔ OneLine s ∧ OneLine t := by
  simp [OneLine]

theorem OneLine.append (first : OneLine s) (second : OneLine t) : OneLine (s ++ t) :=
  oneLine_append.mpr ⟨first, second⟩

/-- What is on one line itself can be left out of account. -/
theorem oneLine_append_iff_left (plain : OneLine t) : OneLine (s ++ t) ↔ OneLine s :=
  oneLine_append.trans (and_iff_left plain)

theorem oneLine_append_iff_right (plain : OneLine s) : OneLine (s ++ t) ↔ OneLine t :=
  oneLine_append.trans (and_iff_right plain)

/-- To look at the characters of a text that is spelled out is quicker than to decode it. -/
theorem oneLine_ofList {cs : List Char} (plain : '\n' ∉ cs) : OneLine (String.ofList cs) := by
  rwa [OneLine, String.toList_ofList]

/-- What stands between texts on one line is on that line too. -/
theorem oneLine_intercalate (between : OneLine separator) :
    OneLine (separator.intercalate texts) ↔ ∀ s ∈ texts, OneLine s := by
  rw [OneLine, String.toList_intercalate]
  induction texts with
  | nil => simp
  | cons s texts ih =>
    cases texts with
    | nil => simp [OneLine]
    | cons s' texts =>
      rw [List.map_cons, List.map_cons, List.intercalate_cons_cons, ← List.map_cons,
        List.mem_append, List.mem_append, not_or, not_or, ih, List.forall_mem_cons (a := s)]
      exact and_congr_left fun _ => and_iff_left between

/-! ### Numbers and quoted texts -/

private theorem not_mem_toDigits {base : Nat} (proper : 1 < base) (n : Nat) :
    '\n' ∉ base.toDigits n := by
  have other (k : Nat) : '\n' ≠ k.digitChar := (Nat.digitChar_ne '\n' (by decide)).symm
  induction n using Nat.strongRecOn with
  | ind n ih =>
    rw [Nat.toDigits_eq_if proper]
    split
    · simp [other]
    · rename_i large
      have smaller : n / base < n := Nat.div_lt_self (by omega) proper
      simp [ih _ smaller, other]

@[simp] theorem not_mem_digits (n : Nat) : '\n' ∉ Nat.toDigits 10 n :=
  not_mem_toDigits (by decide) n

private theorem not_mem_positional {digits : List Char} (clean : '\n' ∉ digits) (exponent : Int) :
    '\n' ∉ Number.positional digits exponent := by
  have front (n : Nat) : '\n' ∉ digits.take n := fun member => clean (List.mem_of_mem_take member)
  have back (n : Nat) : '\n' ∉ digits.drop n := fun member => clean (List.mem_of_mem_drop member)
  unfold Number.positional
  split
  · simp [clean]
  · dsimp only
    split
    · simp [front, back]
    · simp [clean]

private theorem not_mem_scientific {digits : List Char} (clean : '\n' ∉ digits) (exponent : Int) :
    '\n' ∉ Number.scientific digits exponent := by
  unfold Number.scientific
  dsimp only
  split
  · exact List.not_mem_nil
  · split <;> simp_all [Number.digitsOf]
  · split <;> simp_all [Number.digitsOf]

private theorem not_mem_jsonLayout {digits : List Char} (clean : '\n' ∉ digits) (exponent : Int) :
    '\n' ∉ Number.jsonLayout digits exponent := by
  unfold Number.jsonLayout
  dsimp only
  split
  · split <;> simp [not_mem_positional clean]
  · exact not_mem_scientific clean exponent

private theorem oneLine_withSign {digits : List Char} (clean : '\n' ∉ digits) (negative : Bool) :
    OneLine (Number.withSign negative digits) := by
  rw [Number.withSign, OneLine, String.toList_ofList]
  cases negative <;> simp [clean]

@[simp] theorem oneLine_plain (x : Float) : OneLine (Number.plain x) := by
  unfold Number.plain
  split
  · split
    · decide
    · split <;> decide
  · exact oneLine_withSign (not_mem_positional (not_mem_digits _) _) _

theorem oneLine_json {x : Float} (shown : Number.json? x = some s) : OneLine s := by
  obtain ⟨d, -, rfl⟩ := Option.map_eq_some_iff.mp shown
  exact oneLine_withSign (not_mem_jsonLayout (not_mem_digits _) _) _

private theorem not_mem_quoteChar (c : Char) : '\n' ∉ quoteChar c := by
  by_cases newline : c = '\n'
  · subst newline
    decide
  · have hex : '\n' ∉ Nat.toDigits 16 c.toNat := not_mem_toDigits (by decide) c.toNat
    unfold quoteChar
    repeat' split
    all_goals simp [hex, Ne.symm newline]

@[simp] theorem oneLine_quote (s : String) : OneLine (quote s) := by
  rw [quote, OneLine, String.toList_ofList]
  simp [not_mem_quoteChar]

/-! ### Texts as lines -/

/-- The lines of a text, each of which is closed by a line end. -/
structure Lines (text : String) (lines : List String) : Prop where
  joined : text = String.join (lines.map (· ++ "\n"))
  whole : ∀ line ∈ lines, OneLine line

theorem oneLine_of_mem_split (member : t ∈ split '\n' s) : OneLine t := by
  obtain ⟨piece, inside, rfl⟩ := List.mem_map.mp member
  rw [OneLine, String.toList_ofList]
  exact not_mem_of_mem_pieces inside

/-- Closing every part is the same as putting line ends between the parts and closing the last. -/
private theorem flatMap_close {parts : List (List Char)} (some : parts ≠ []) :
    parts.flatMap (· ++ ['\n']) = ['\n'].intercalate parts ++ ['\n'] := by
  induction parts with
  | nil => exact absurd rfl some
  | cons part parts ih =>
    cases parts with
    | nil => simp
    | cons next parts =>
      rw [List.flatMap_cons, ih (List.cons_ne_nil next parts), List.intercalate_cons_cons]
      simp only [List.append_assoc]

theorem join_split (s : String) :
    String.join ((split '\n' s).map (· ++ "\n")) = s ++ "\n" := by
  have closed := flatMap_close (pieces_ne_nil '\n' s.toList)
  rw [pieces_eq_splitOn, List.intercalate_splitOn, ← pieces_eq_splitOn] at closed
  rw [← String.toList_inj, String.toList_join, split, List.map_map, List.flatMap_map]
  simpa using closed

/-- There is one piece only if there is nothing to split at. -/
theorem split_eq_singleton (oneLine : OneLine s) : split '\n' s = [s] := by
  rw [split, pieces_eq_splitOn, List.splitOn_eq_singleton oneLine, List.map_singleton,
    String.ofList_toList]

theorem length_split_eq_one_iff : (split '\n' s).length = 1 ↔ OneLine s := by
  constructor
  · intro single
    obtain ⟨line, only⟩ := List.length_eq_one_iff.mp single
    have closed := join_split s
    rw [only] at closed
    have same : line = s := by simpa using closed
    exact same ▸ oneLine_of_mem_split (only ▸ List.mem_singleton_self line)
  · intro oneLine
    rw [split_eq_singleton oneLine, List.length_singleton]

theorem length_split_pos (s : String) : 1 ≤ (split '\n' s).length := by
  rw [split, List.length_map]
  exact List.length_pos_iff.mpr (pieces_ne_nil '\n' s.toList)

/-- Texts that are closed by a line end have as many lines as there are texts only if no line ends
within one; then they are the lines. -/
theorem exists_lines (texts : List String) :
    ∃ lines, Lines (String.join (texts.map (· ++ "\n"))) lines ∧ texts.length ≤ lines.length ∧
      (lines.length = texts.length ↔ ∀ s ∈ texts, OneLine s) ∧
      (lines.length = texts.length → lines = texts) := by
  induction texts with
  | nil => exact ⟨[], ⟨rfl, by simp⟩, Nat.le_refl 0, by simp, fun _ => rfl⟩
  | cons s texts ih =>
    obtain ⟨lines, ⟨joined, whole⟩, enough, exact_iff, same⟩ := ih
    have first := length_split_pos s
    have both : (split '\n' s ++ lines).length = (s :: texts).length ↔
        (split '\n' s).length = 1 ∧ lines.length = texts.length := by
      rw [List.length_append, List.length_cons]
      omega
    refine ⟨split '\n' s ++ lines, ⟨?_, ?_⟩, ?_, ?_, ?_⟩
    · rw [List.map_cons, List.map_append, String.join_append, join_split, ← joined]
      simp
    · intro line member
      rcases List.mem_append.mp member with member | member
      · exact oneLine_of_mem_split member
      · exact whole line member
    · rw [List.length_append, List.length_cons]
      omega
    · rw [both, length_split_eq_one_iff, exact_iff, List.forall_mem_cons]
    · intro equal
      obtain ⟨single, rest⟩ := both.mp equal
      rw [split_eq_singleton (length_split_eq_one_iff.mp single), same rest, List.singleton_append]

end CanvasLint.Text
