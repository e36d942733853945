import CanvasLint.Proofs.Report.Accounting
import CanvasLint.Proofs.Rule.ConditionText

/-! What the list of rule types promises, and what rules of these types do. A name is on the list if
and only if conditions of that name are known. A rule that leaves its severity to its type fails as
seriously as the list says, and passes unlooked at if and only if the list says so.

The list, the names that conditions are read by, and the severities that the checks give are kept
apart; here they are shown to agree. -/
namespace CanvasLint

open Json (Value)

variable {name : String} {raw : Value} {type : RuleType} {kind : RuleKind} {r : Requirement}
  {rule : Rule}

/-! ### The list -/

/-- The kinds of requirements in the order of the list. -/
def RuleKind.all : List RuleKind :=
  [.requiredText, .fontSize, .colorContrast, .requiredComponent, .componentPresence, .elementSize,
    .labelPresence, .textUniqueness, .headingPresence, .altTextPresence, .elementAlignment,
    .spacing, .imageAlt]

theorem RuleKind.mem_all (kind : RuleKind) : kind ∈ all := by
  cases kind <;> decide

namespace RuleType

/-- The list has what there is to say of the kinds of requirements. -/
theorem all_eq_map : all = RuleKind.all.map RuleKind.type := by
  rfl

theorem nodup_names : (all.map RuleType.name).Nodup := by
  decide

theorem mem_all_iff : type ∈ all ↔ ∃ kind : RuleKind, kind.type = type := by
  rw [all_eq_map, List.mem_map]
  exact exists_congr fun kind => and_iff_right kind.mem_all

theorem ofName?_eq_none_iff : ofName? name = none ↔ ∀ kind : RuleKind, kind.type.name ≠ name := by
  simp [ofName?, mem_all_iff]

theorem exists_kind_of_ofName? (listed : ofName? name = some type) :
    ∃ kind : RuleKind, kind.type = type ∧ kind.type.name = name := by
  obtain ⟨kind, rfl⟩ := mem_all_iff.mp (List.mem_of_find?_eq_some listed)
  have named := List.find?_some listed
  exact ⟨kind, rfl, by simpa using named⟩

end RuleType

/-! ### Conditions -/

namespace Condition

theorem exists_read_eq_unknown_iff :
    (∃ name' raw', read name raw = .unknown name' raw') ↔ RuleType.ofName? name = none := by
  rw [RuleType.ofName?_eq_none_iff]
  rcases read_cases name raw with ⟨unlisted, same⟩ | ⟨kind, reason, rfl, -, same⟩ |
    ⟨kind, r, rfl, -, same⟩
  · simp [same, unlisted]
  · simp [same]
  · simp [same]

/-- A condition that can be used is of the kind that goes by its name. -/
theorem kind_of_read_eq_valid (usable : read kind.type.name raw = .valid r) : r.kind = kind :=
  Requirement.kind_of_read (read_eq_valid_iff.mp usable).1

/-- Parameters that make sense are a condition of their type. -/
theorem read_write_of_validate (sound : r.validate = .ok ()) :
    read r.kind.type.name r.write = .valid r :=
  read_eq_valid_iff.mpr ⟨Requirement.read_write r, sound⟩

end Condition

/-- For every kind there are parameters that make sense. -/
theorem RuleKind.exists_requirement (kind : RuleKind) :
    ∃ r : Requirement, r.kind = kind ∧ r.validate = .ok () := by
  cases kind with
  | requiredText => exact ⟨.requiredText ⟨"Submit", false⟩, rfl, rfl⟩
  | fontSize => exact ⟨.fontSize ⟨none, none⟩, rfl, rfl⟩
  | colorContrast => exact ⟨.colorContrast ⟨4.5⟩, rfl, rfl⟩
  | requiredComponent => exact ⟨.requiredComponent ⟨"Header"⟩, rfl, rfl⟩
  | componentPresence => exact ⟨.componentPresence ⟨"Header"⟩, rfl, rfl⟩
  | elementSize => exact ⟨.elementSize ⟨44, 44⟩, rfl, rfl⟩
  | labelPresence => exact ⟨.labelPresence ⟨none⟩, rfl, rfl⟩
  | textUniqueness => exact ⟨.textUniqueness ⟨"Submit"⟩, rfl, rfl⟩
  | headingPresence => exact ⟨.headingPresence ⟨none⟩, rfl, rfl⟩
  | altTextPresence => exact ⟨.altTextPresence ⟨none⟩, rfl, rfl⟩
  | elementAlignment => exact ⟨.elementAlignment ⟨"Header", "top"⟩, rfl, rfl⟩
  | spacing => exact ⟨.spacing ⟨8, none⟩, rfl, rfl⟩
  | imageAlt => exact ⟨.imageAlt, rfl, rfl⟩

/-! ### Findings -/

/-- The finding bears out what the list says of the type: how serious a failure is, and whether the
rule is looked into at all. -/
structure Finding.Matches (f : Finding) (type : RuleType) : Prop where
  status : f.status = .passed ∨ f.status = .ofSeverity type.defaultSeverity
  unverified : f.unverified = !type.verified

/-- The type is what rules of this name have: there are conditions that can be used, and with any of
them the finding of a rule that sets no severity bears out what the list says. -/
structure RuleType.Describes (type : RuleType) (name : String) : Prop where
  usable : ∃ raw r, Condition.read name raw = .valid r
  borneOut : ∀ raw r, Condition.read name raw = .valid r →
    ∀ rule : Rule, rule.condition = .valid r → rule.severity = none →
      ∀ d t nodes, ∃ f, (Report.ofRules d t nodes [rule]).findings = [f] ∧ f.Matches type

/-- A rule that sets no severity has a finding that bears out what is said of its type. -/
theorem Rule.finding_matches (known : rule.condition = .valid r) (unset : rule.severity = none)
    (s : Scan) : (rule.finding s).Matches r.kind.type := by
  have fits := rule.finding_wellFormed s
  constructor
  · by_cases passed : (rule.finding s).status = .passed
    · exact .inl passed
    · right
      have status := fits.severity r (Rule.requirement_eq_ok.mpr known) passed
      rwa [unset, Option.getD_none] at status
  · have unlooked : (rule.finding s).unverified = true ↔ r.kind.type.verified = false := by
      simp [fits.unverified_iff, known, RuleKind.verified_eq_false_iff]
    cases verified : r.kind.type.verified with
    | false => simpa using unlooked.mpr verified
    | true => simpa [verified] using unlooked

namespace RuleType

theorem describes_of_ofName? (listed : ofName? name = some type) : type.Describes name := by
  obtain ⟨kind, rfl, rfl⟩ := exists_kind_of_ofName? listed
  constructor
  case usable =>
    obtain ⟨r, rfl, sound⟩ := kind.exists_requirement
    exact ⟨r.write, r, Condition.read_write_of_validate sound⟩
  case borneOut =>
    intro raw r usable rule known unset d t nodes
    obtain rfl := Condition.kind_of_read_eq_valid usable
    exact ⟨_, Report.findings_ofRules_singleton d t nodes rule, rule.finding_matches known unset _⟩

/-- The list has every name once. The conditions of a name are unknown if and only if the list does
not have it, and otherwise the type that goes by the name is what rules of this name have. Whatever
can be required at all is a condition of some type on the list. -/
theorem ofName?_describes (name : String) :
    (all.map RuleType.name).Nodup ∧
      (∀ raw, (∃ name' raw', Condition.read name raw = .unknown name' raw') ↔
        ofName? name = none) ∧
      (∀ type, ofName? name = some type → type.name = name ∧ type.Describes name) ∧
      ∀ r : Requirement, r.validate = .ok () →
        ∃ type ∈ all, Condition.read type.name r.write = .valid r := by
  refine ⟨nodup_names, fun _ => Condition.exists_read_eq_unknown_iff, fun type listed => ?_,
    fun r sound => ?_⟩
  · obtain ⟨kind, rfl, named⟩ := exists_kind_of_ofName? listed
    exact ⟨named, describes_of_ofName? listed⟩
  · exact ⟨r.kind.type, mem_all_iff.mpr ⟨r.kind, rfl⟩, Condition.read_write_of_validate sound⟩

end RuleType

end CanvasLint
