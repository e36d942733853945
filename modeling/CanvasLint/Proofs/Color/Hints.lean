import CanvasLint.Canvas.Background
import CanvasLint.Command.Swatch
import CanvasLint.Proofs.Number.Hundredths

/-! Grades and hints. A grade goes by the exact ratio, hints by the ratio that is shown. Rounding
keeps order, so each is a comparison of the exact ratio with one threshold, and the two thresholds
leave only a narrow band in which a pair of colors fails without a hint. -/
namespace CanvasLint.Contrast

open Number (toHundredths le_iff)
open Number.Dyadic (ofFloat?)

variable {x : Float} {largeText : Bool} {a : Analysis}

/-- The least ratio that is shown as what the text size requires. -/
def shown (largeText : Bool) : Float :=
  if largeText then 2.995 else 4.495

/-- The float before that one. -/
def notShown (largeText : Bool) : Float :=
  if largeText then 2.9949999999999997 else 4.494999999999999

theorem le_notShown (less : x < shown largeText) : x ≤ notShown largeText := by
  cases largeText with
  | true =>
    have before : ofFloat? (notShown true) = some ⟨false, 6744140441987317, -51⟩ := by
      decide +kernel
    have after : ofFloat? (shown true) = some ⟨false, 6744140441987317 + 1, -51⟩ := by
      decide +kernel
    exact Number.le_of_lt_next before after (by decide) less
  | false =>
    have before : ofFloat? (notShown false) = some ⟨false, 5060920081257594, -50⟩ := by
      decide +kernel
    have after : ofFloat? (shown false) = some ⟨false, 5060920081257594 + 1, -50⟩ := by
      decide +kernel
    exact Number.le_of_lt_next before after (by decide) less

/-- The order of the thresholds, of what is shown and of what it is rounded to. -/
private theorem thresholds_ordered : ∀ largeText : Bool,
    toHundredths (notShown largeText) < required largeText ∧ shown largeText ≤ required largeText ∧
      required largeText ≤ toHundredths (shown largeText) ∧
      required largeText ≤ requiredEnhanced largeText := by
  decide +kernel

theorem toHundredths_notShown_lt : toHundredths (notShown largeText) < required largeText :=
  (thresholds_ordered largeText).1

theorem shown_le_required (largeText : Bool) : shown largeText ≤ required largeText :=
  (thresholds_ordered largeText).2.1

theorem required_le_toHundredths_shown : required largeText ≤ toHundredths (shown largeText) :=
  (thresholds_ordered largeText).2.2.1

theorem required_le_requiredEnhanced : required largeText ≤ requiredEnhanced largeText :=
  (thresholds_ordered largeText).2.2.2

/-- What is shown reaches the requirement from that ratio on. -/
theorem required_le_toHundredths : required largeText ≤ toHundredths x ↔ shown largeText ≤ x := by
  constructor
  · intro reached
    by_contra short
    obtain ⟨_, _, _, rounded, _⟩ := le_iff.mp reached
    rw [Number.number?_toHundredths, Option.map_eq_some_iff] at rounded
    obtain ⟨_, hx, _⟩ := rounded
    obtain ⟨_, _, hs, _⟩ := le_iff.mp (shown_le_required largeText)
    have below : x < shown largeText := Number.float_lt_of_not_le hx hs short
    have before : toHundredths x ≤ toHundredths (notShown largeText) :=
      Number.toHundredths_mono (le_notShown below)
    exact Number.float_not_lt (Number.float_le_trans reached before) toHundredths_notShown_lt
  · intro reached
    exact Number.float_le_trans required_le_toHundredths_shown (Number.toHundredths_mono reached)

/-- There are no hints from the requirement on. -/
theorem hints_eq_nil_iff : hints x largeText = [] ↔ required largeText ≤ x := by
  rw [hints]
  split
  · rename_i reached
    exact ⟨fun _ => reached, fun _ => rfl⟩
  · rename_i short
    exact ⟨nofun, fun reached => absurd reached short⟩

/-- A grade other than a failure is given from the requirement on. -/
theorem grade_ne_fail_iff :
    (Passes.ofRatio x).grade largeText ≠ .fail ↔ required largeText ≤ x := by
  have levels : (Passes.ofRatio x).grade largeText =
      if requiredEnhanced largeText ≤ x then .aaa
      else if required largeText ≤ x then .aa else .fail := by
    cases largeText <;> simp [Passes.grade, Passes.ofRatio, meetsAA, meetsAAA]
  rw [levels]
  split_ifs with enhanced reached
  · exact ⟨fun _ => Number.float_le_trans required_le_requiredEnhanced enhanced, fun _ => nofun⟩
  · exact ⟨fun _ => reached, fun _ => nofun⟩
  · exact ⟨fun failed => absurd rfl failed, fun reached => absurd reached ‹_›⟩

namespace Analysis

/-- A command asks for the analysis, or a text on a canvas has it. -/
def Made (a : Analysis) : Prop :=
  (∃ r : Command.ContrastRequest, r.analysis = .ok a) ∨
    ∃ (d : Canvas.Document) (n : Canvas.Node) (mixedSize : Float), d.analyze n mixedSize = some a

/-- The exact ratio of the colors. -/
def exactRatio (a : Analysis) : Float :=
  a.foreground.contrast a.background

/-- The ratio falls short of the requirement, but what is shown of it does not. -/
def JustShort (a : Analysis) : Prop :=
  shown a.largeText ≤ a.exactRatio ∧ a.exactRatio < required a.largeText

instance (a : Analysis) : Decidable a.JustShort :=
  inferInstanceAs (Decidable (_ ∧ _))

/-- Analyses are all made alike. -/
theorem Made.eq_analyze (made : a.Made) :
    ∃ foreground background size weight, a = analyze foreground background size weight := by
  rcases made with ⟨r, ok⟩ | ⟨d, n, mixedSize, some⟩
  · rw [Command.ContrastRequest.analysis] at ok
    split at ok
    · cases ok
      exact ⟨_, _, _, _, rfl⟩
    · cases ok
  · rw [Canvas.Document.analyze] at some
    obtain ⟨foreground, _, some⟩ := Option.bind_eq_some_iff.mp some
    cases some
    exact ⟨_, _, _, _, rfl⟩

theorem Made.hints_eq_nil_iff (made : a.Made) :
    hints a.ratio a.largeText = [] ↔ shown a.largeText ≤ a.exactRatio := by
  obtain ⟨_, _, _, _, rfl⟩ := made.eq_analyze
  exact Contrast.hints_eq_nil_iff.trans required_le_toHundredths

theorem Made.grade_ne_fail_iff (made : a.Made) :
    a.grade ≠ .fail ↔ required a.largeText ≤ a.exactRatio := by
  obtain ⟨_, _, _, _, rfl⟩ := made.eq_analyze
  exact Contrast.grade_ne_fail_iff

/-- There are no hints if and only if the grade is not a failure, unless the ratio is rounded up to
the requirement. -/
theorem hints_eq_nil_iff_grade (made : a.Made) :
    (hints a.ratio a.largeText = [] ↔ a.grade ≠ .fail) ↔ ¬ a.JustShort := by
  rw [made.hints_eq_nil_iff, made.grade_ne_fail_iff]
  constructor
  · rintro same ⟨reached, short⟩
    exact Number.float_not_lt (same.mp reached) short
  · intro notShort
    refine ⟨fun reached => ?_, Number.float_le_trans (shown_le_required _)⟩
    by_contra failed
    obtain ⟨_, _, _, hx, _⟩ := le_iff.mp reached
    obtain ⟨_, _, _, hs, _⟩ := le_iff.mp (shown_le_required a.largeText)
    exact notShort ⟨reached, Number.float_lt_of_not_le hx hs failed⟩

end Analysis

/-- Gray text that fails, and is shown to. -/
def gray : Command.ContrastRequest where
  foreground := "#777777"
  background := "#ffffff"

theorem Analysis.hints_eq_nil_iff_grade_gray : ∃ a, gray.analysis = .ok a ∧
    (hints a.ratio a.largeText = [] ↔ a.grade ≠ .fail) := by
  have ok : gray.analysis = .ok (analyze ⟨0x77, 0x77, 0x77⟩ .white 16 400) := by rfl
  exact ⟨_, ok, (hints_eq_nil_iff_grade (.inl ⟨gray, ok⟩)).mpr (by decide +kernel)⟩

/-- Green text that fails, and is shown with the ratio that is required. -/
def green : Command.ContrastRequest where
  foreground := "#228922"
  background := "#ffffff"

theorem Analysis.green_fails_without_hints : ∃ a, green.analysis = .ok a ∧
    ¬ (hints a.ratio a.largeText = [] ↔ a.grade ≠ .fail) := by
  have ok : green.analysis = .ok (analyze ⟨0x22, 0x89, 0x22⟩ .white 16 400) := by rfl
  refine ⟨_, ok, fun same => same.mp ?_ ?_⟩
  · exact Contrast.hints_eq_nil_iff.mpr (by decide +kernel)
  · decide +kernel

end CanvasLint.Contrast
