import CanvasLint.Proofs.Check.Verdicts
import CanvasLint.Proofs.Number.FloatValue
import CanvasLint.Proofs.Rule.ConditionText

/-! When texts can have a size that a rule for font sizes is content with. The bounds that a rule
gives itself are in order, or its condition is refused. A rule that gives no lower bound goes by the
one among the thresholds, and nobody compares that with the upper bound of the rule. -/
namespace CanvasLint

open Canvas (Document Node)
open Json (Value)
open Number (finite_le_of_not_lt finite_le_refl float_lt_of_lt_of_le float_not_lt)

variable {r : FontSizeRange} {t : Thresholds} {rule : Rule} {raw : Value} {size : Float}
  {d : Document} {nodes : List Node} {n : Node}

theorem Thresholds.isFinite_of_firstInvalid? (usable : t.firstInvalid? = none) {field : String}
    {x : Float} (listed : (field, x) ∈ t.named) : x.isFinite = true := by
  have valid := List.find?_eq_none.mp (Option.map_eq_none_iff.mp usable) _ listed
  rw [Bool.not_eq_true, Bool.not_eq_false', isValid, Bool.and_eq_true] at valid
  exact valid.1

theorem Thresholds.isFinite_defaultMinFontSize (usable : t.firstInvalid? = none) :
    t.defaultMinFontSize.isFinite = true := by
  have listed : ("default_min_font_size", t.defaultMinFontSize) ∈ t.named := by
    rw [named]
    exact List.mem_cons_of_mem _ List.mem_cons_self
  exact isFinite_of_firstInvalid? usable listed

namespace FontSizeRange

/-- The least size that the rule is content with is not above the largest. -/
def InOrder (r : FontSizeRange) (t : Thresholds) : Prop :=
  ∀ max, r.max = some max → r.lower t ≤ max

/-- The rule gives an upper bound only, and the lower bound among the thresholds is above it. -/
def Undercut (r : FontSizeRange) (t : Thresholds) : Prop :=
  r.min = none ∧ ∃ max, r.max = some max ∧ max < t.defaultMinFontSize

/-- If a rule gives both bounds, they are in order. -/
theorem not_lt_of_validate (sound : (Requirement.fontSize r).validate = .ok ()) {min max : Float}
    (lower : r.min = some min) (upper : r.max = some max) : ¬ max < min := by
  simp only [Requirement.validate, Outcome.bind_eq_ok] at sound
  obtain ⟨-, -, -, -, compared⟩ := sound
  rw [lower, upper] at compared
  dsimp only at compared
  split at compared
  · cases compared
  · assumption

theorem isFinite_max (sound : (Requirement.fontSize r).validate = .ok ()) {max : Float}
    (upper : r.max = some max) : max.isFinite = true :=
  Requirement.isFinite_of_validate sound (List.mem_append_left _ (Option.mem_toList.mpr upper))

theorem isFinite_lower (sound : (Requirement.fontSize r).validate = .ok ())
    (usable : t.firstInvalid? = none) : (r.lower t).isFinite = true := by
  cases given : r.min with
  | none =>
    rw [lower, given]
    exact t.isFinite_defaultMinFontSize usable
  | some min =>
    rw [lower, given]
    exact Requirement.isFinite_of_validate sound
      (List.mem_append_right _ (Option.mem_toList.mpr given))

theorem inOrder_iff (sound : (Requirement.fontSize r).validate = .ok ())
    (usable : t.firstInvalid? = none) : r.InOrder t ↔ ¬ r.Undercut t := by
  constructor
  · rintro ordered ⟨absent, max, upper, below⟩
    have le : r.lower t ≤ max := ordered max upper
    rw [lower, absent] at le
    exact float_not_lt le below
  · intro apart max upper
    refine finite_le_of_not_lt (isFinite_lower sound usable) (isFinite_max sound upper) ?_
    intro below
    cases given : r.min with
    | none =>
      rw [lower, given] at below
      exact apart ⟨given, max, upper, below⟩
    | some min =>
      rw [lower, given] at below
      exact not_lt_of_validate sound given upper below

/-- The least size is within bounds that are in order. -/
theorem outside_lower (ordered : r.InOrder t) (finite : (r.lower t).isFinite = true) :
    r.outside t (r.lower t) = false := by
  rw [outside, Bool.or_eq_false_iff, decide_eq_false_iff_not]
  refine ⟨float_not_lt (finite_le_refl finite), ?_⟩
  split
  · rename_i max upper
    exact decide_eq_false_iff_not.mpr (float_not_lt (ordered max upper))
  · rfl

/-- No size is within bounds of which one undercuts the other. -/
theorem outside_of_undercut (undercut : r.Undercut t) (usable : t.firstInvalid? = none)
    (finite : size.isFinite = true) : r.outside t size = true := by
  obtain ⟨absent, max, upper, below⟩ := undercut
  have known := t.isFinite_defaultMinFontSize usable
  rw [outside, lower, absent, upper, Option.getD_none, Bool.or_eq_true, decide_eq_true_iff,
    decide_eq_true_iff, or_iff_not_imp_left]
  exact fun above => float_lt_of_lt_of_le below (finite_le_of_not_lt known finite above)

end FontSizeRange

namespace Rule

/-- The rule can be met: with some size, a scan passes whenever all its texts have that size. -/
def Satisfiable (rule : Rule) (t : Thresholds) : Prop :=
  ∃ size : Float, size.isFinite = true ∧ ∀ d nodes,
    (∀ n ∈ nodes, n.isText = true → n.fontSize = some (.px size)) →
      (rule.findingOn d t nodes).status = .passed

/-- A scan passes if all its texts have a size within the bounds. -/
theorem passed_of_size (known : rule.condition = .valid (.fontSize r))
    (within : r.outside t size = false)
    (same : ∀ n ∈ nodes, n.isText = true → n.fontSize = some (.px size)) :
    (rule.findingOn d t nodes).status = .passed := by
  rw [findingOn, passed_iff_affected known rfl, affected_finding known, Requirement.judge,
    FontSizeRange.affected_judge, List.map_eq_nil_iff, List.filter_eq_nil_iff]
  intro n listed
  obtain ⟨scanned, text⟩ := List.mem_filter.mp listed
  have size_eq : n.resolvedSize t.mixedFontSize = size := by
    rw [Node.resolvedSize, same n scanned text]
  rw [Scan.fontSize, size_eq, within]
  exact Bool.false_ne_true

/-- A text of a size that is not within the bounds is named whatever else is scanned. -/
theorem mem_affected_of_outside (known : rule.condition = .valid (.fontSize r)) (scanned : n ∈ nodes)
    (text : n.isText = true) (outside : r.outside t (n.resolvedSize t.mixedFontSize) = true) :
    n.id ∈ (rule.findingOn d t nodes).affected.map (·.id) := by
  let s : Scan := ⟨nodes, d.host, t⟩
  have named : s.describe n ∈ (rule.findingOn d t nodes).affected := by
    rw [findingOn, affected_finding known, Requirement.judge, FontSizeRange.affected_judge]
    exact List.mem_map_of_mem
      (List.mem_filter.mpr ⟨List.mem_filter.mpr ⟨scanned, text⟩, outside⟩)
  exact List.mem_map.mpr ⟨_, named, s.id_describe n⟩

theorem satisfiable_of_inOrder (known : rule.condition = .valid (.fontSize r))
    (ordered : r.InOrder t) (finite : (r.lower t).isFinite = true) : rule.Satisfiable t :=
  ⟨r.lower t, finite, fun _ _ same =>
    passed_of_size known (FontSizeRange.outside_lower ordered finite) same⟩

theorem not_satisfiable_of_undercut (known : rule.condition = .valid (.fontSize r))
    (undercut : r.Undercut t) (usable : t.firstInvalid? = none) : ¬ rule.Satisfiable t := by
  rintro ⟨size, finite, passes⟩
  -- a scan of a single text of this size is enough
  let n : Node := { id := "text", kind := .text, fontSize := some (.px size) }
  have passed : (rule.findingOn .empty t [n]).status = .passed :=
    passes _ [n] fun m listed _ => by rw [List.mem_singleton.mp listed]
  have blamed : n.id ∈ (rule.findingOn .empty t [n]).affected.map (·.id) :=
    mem_affected_of_outside known (List.mem_singleton_self n) rfl
      (FontSizeRange.outside_of_undercut undercut usable finite)
  rw [findingOn, (passed_iff_affected known rfl).mp passed] at blamed
  cases blamed

/-- A rule for font sizes whose condition is accepted can be met if and only if its upper bound is
not undercut by the lower bound among the thresholds, which is to say that its bounds are in order.
Where they are not, every text is named. -/
theorem fontSize_satisfiable_iff (given : rule.condition = .read FontSizeRange.typeName raw)
    (known : rule.condition = .valid (.fontSize r)) (usable : t.firstInvalid? = none) :
    (rule.Satisfiable t ↔ ¬ r.Undercut t) ∧ (rule.Satisfiable t ↔ r.InOrder t) ∧
      (r.Undercut t → ∀ d nodes, ∀ n ∈ nodes, n.isText = true →
        (n.resolvedSize t.mixedFontSize).isFinite = true →
          n.id ∈ (rule.findingOn d t nodes).affected.map (·.id)) := by
  have accepted : Condition.read RuleKind.fontSize.type.name raw = .valid (.fontSize r) :=
    given.symm.trans known
  have sound := (Condition.read_eq_valid_iff.mp accepted).2
  have inOrder_iff := FontSizeRange.inOrder_iff sound usable
  have satisfiable_iff : rule.Satisfiable t ↔ r.InOrder t := by
    constructor
    · intro satisfiable
      rw [inOrder_iff]
      exact fun undercut => not_satisfiable_of_undercut known undercut usable satisfiable
    · intro ordered
      exact satisfiable_of_inOrder known ordered (FontSizeRange.isFinite_lower sound usable)
  refine ⟨satisfiable_iff.trans inOrder_iff, satisfiable_iff, ?_⟩
  intro undercut d nodes n scanned text finite
  exact mem_affected_of_outside known scanned text
    (FontSizeRange.outside_of_undercut undercut usable finite)

/-- A rule that gives an upper bound only. -/
def notAbove (max : Nat) : Rule :=
  ⟨"size", "Keep text small", none, .read FontSizeRange.typeName (.object [("maxSize", .nat max)])⟩

/-- Seventy-two pixels are above the usual lower bound of twelve. -/
theorem fontSize_satisfiable_iff_seventyTwo :
    (notAbove 72).condition = .valid (.fontSize ⟨none, some 72⟩) ∧
      ({} : Thresholds).firstInvalid? = none ∧ (notAbove 72).Satisfiable {} := by
  have given : (notAbove 72).condition =
      .read FontSizeRange.typeName (.object [("maxSize", .nat 72)]) := rfl
  have known : (notAbove 72).condition = .valid (.fontSize ⟨none, some 72⟩) := rfl
  have usable : ({} : Thresholds).firstInvalid? = none := rfl
  have apart : ¬ (⟨none, some 72⟩ : FontSizeRange).Undercut {} := by
    rintro ⟨-, max, ⟨⟩, below⟩
    revert below
    decide +kernel
  exact ⟨known, usable, (fontSize_satisfiable_iff given known usable).1.mpr apart⟩

/-- Ten pixels are below it, though nothing is wrong with the rule and the thresholds. -/
theorem notAbove_ten_unsatisfiable :
    (notAbove 10).condition = .valid (.fontSize ⟨none, some 10⟩) ∧
      ({} : Thresholds).firstInvalid? = none ∧ ¬ (notAbove 10).Satisfiable {} := by
  have known : (notAbove 10).condition = .valid (.fontSize ⟨none, some 10⟩) := rfl
  have usable : ({} : Thresholds).firstInvalid? = none := rfl
  have undercut : (⟨none, some 10⟩ : FontSizeRange).Undercut {} :=
    ⟨rfl, 10, rfl, by decide +kernel⟩
  exact ⟨known, usable, not_satisfiable_of_undercut known undercut usable⟩

end Rule

end CanvasLint
