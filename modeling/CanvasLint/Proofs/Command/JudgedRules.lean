import CanvasLint.Proofs.Command.CheckOutcome
import CanvasLint.Proofs.Report.Overrides
import CanvasLint.Proofs.Text.Pieces

/-! Which rules a scan judges. Of the rules that there are, a request keeps those that it names, and a
configuration drops those that it turns off and gives others a severity. Both look at the ids of the
rules alone, and neither changes an id: so it does not matter which of the two goes first, how often
the second is done, or where a list of rules is cut. -/
namespace CanvasLint

open Canvas (Document)

variable {c c' : Config} {rule adjusted : Rule} {rules handed : List Rule} {id : String}

namespace Config

/-- The configuration says that the rule is off. -/
def TurnsOff (c : Config) (id : String) : Prop :=
  ∃ change, c.override? id = some change ∧ change.enabled = some false

/-- What the configuration makes of a rule that is on. -/
inductive Adjusts (c : Config) (rule : Rule) : Rule → Prop
  | reweighed {change : Override} {severity : Severity} (found : c.override? rule.id = some change)
      (given : change.severity = some severity) :
      Adjusts c rule { rule with severity := some severity }
  | unchanged (none_given : ∀ change, c.override? rule.id = some change → change.severity = none) :
      Adjusts c rule rule

/-! ### Single rules -/

theorem isEnabled_iff : c.isEnabled id = true ↔ ¬ c.TurnsOff id := by
  rw [isEnabled, TurnsOff]
  cases c.override? id with
  | none => simp
  | some change => rcases enabled : change.enabled with _ | _ | _ <;> simp [enabled]

theorem adjusts_iff : c.Adjusts rule adjusted ↔ adjusted = c.adjust rule := by
  constructor
  · intro adjusts
    cases adjusts with
    | reweighed found given => simp [adjust_eq, severityOf, found, given]
    | unchanged none_given =>
      have unchosen : c.severityOf rule.id = none := by
        rw [severityOf]
        cases found : c.override? rule.id with
        | none => rfl
        | some change => exact none_given change found
      rw [adjust_eq, unchosen, Option.none_or]
  · rintro rfl
    rw [adjust_eq]
    cases chosen : c.severityOf rule.id with
    | none =>
      refine .unchanged fun change found => ?_
      rwa [severityOf, found] at chosen
    | some severity =>
      obtain ⟨change, found, given⟩ := Option.bind_eq_some_iff.mp chosen
      exact .reweighed found given

@[simp] theorem adjust_id (c : Config) (rule : Rule) : (c.adjust rule).id = rule.id := by
  rw [adjust_eq]

/-- The severity that a configuration has for a rule stays, however often it is given. -/
theorem adjust_adjust (c : Config) (rule : Rule) : c.adjust (c.adjust rule) = c.adjust rule := by
  simp only [adjust_eq]
  cases c.severityOf rule.id <;> rfl

/-! ### Lists of rules -/

/-- A test of ids gives the same before and after rules are adjusted. -/
theorem filter_id_map_adjust (c : Config) (test : String → Bool) (rules : List Rule) :
    (rules.map c.adjust).filter (fun rule => test rule.id) =
      (rules.filter fun rule => test rule.id).map c.adjust := by
  rw [List.filter_map]
  congr 2
  funext rule
  rw [Function.comp_apply, adjust_id]

/-- Rules that are chosen by their ids may be chosen before or after a configuration is applied. -/
theorem filter_id_apply (c : Config) (test : String → Bool) (rules : List Rule) :
    (c.apply rules).filter (fun rule => test rule.id) =
      c.apply (rules.filter fun rule => test rule.id) := by
  rw [apply, apply, filter_id_map_adjust, List.filter_comm]

theorem apply_apply (c : Config) (rules : List Rule) : c.apply (c.apply rules) = c.apply rules := by
  have enabled : (c.apply rules).filter (fun rule => c.isEnabled rule.id) = c.apply rules := by
    rw [filter_id_apply, apply, apply, List.filter_filter]
    simp only [Bool.and_self]
  rw [apply, enabled, apply, List.map_map]
  exact List.map_congr_left fun rule _ => c.adjust_adjust rule

theorem apply_append (c : Config) (rules later : List Rule) :
    c.apply (rules ++ later) = c.apply rules ++ c.apply later := by
  rw [apply, List.filter_append, List.map_append, apply, apply]

theorem apply_cons_of_off (off : c.TurnsOff rule.id) : c.apply (rule :: rules) = c.apply rules := by
  have dropped : ¬ c.isEnabled rule.id = true := mt isEnabled_iff.mp (not_not_intro off)
  rw [apply, List.filter_cons, if_neg dropped, apply]

theorem apply_cons_of_on (on : ¬ c.TurnsOff rule.id) :
    c.apply (rule :: rules) = c.adjust rule :: c.apply rules := by
  rw [apply, List.filter_cons, if_pos (isEnabled_iff.mpr on), List.map_cons, apply]

/-- Only what a configuration says of the ids of the rules matters. -/
theorem apply_congr (agree : ∀ rule ∈ rules, c'.override? rule.id = c.override? rule.id) :
    c'.apply rules = c.apply rules := by
  have enabled : rules.filter (fun rule => c'.isEnabled rule.id) =
      rules.filter fun rule => c.isEnabled rule.id := by
    refine List.filter_congr fun rule member => ?_
    rw [isEnabled, agree rule member, isEnabled]
  rw [apply, apply, enabled]
  refine List.map_congr_left fun rule member => ?_
  rw [adjust_eq, adjust_eq, severityOf, agree rule (List.mem_of_mem_filter member), severityOf]

end Config

namespace Command.CheckRequest

variable {r : CheckRequest}

/-- The id is one of those in a list with commas between them, maybe with blanks around it. -/
def Names (list id : String) : Prop :=
  id ≠ "" ∧ ∃ piece, Text.IsPiece ',' list.toList piece ∧ Text.Trims piece id.toList

/-- The rule is one of those that the request is about: one that it names, if it names any. -/
def Wants (r : CheckRequest) (id : String) : Prop :=
  ∀ list, r.only = some list → Names list id

/-- What a scan judges of the rules that there are, in their order. -/
inductive HandsOn (r : CheckRequest) (c : Config) : List Rule → List Rule → Prop
  | nil : HandsOn r c [] []
  | unwanted {rule : Rule} {rules handed : List Rule} (other : ¬ r.Wants rule.id)
      (rest : HandsOn r c rules handed) : HandsOn r c (rule :: rules) handed
  | off {rule : Rule} {rules handed : List Rule} (off : c.TurnsOff rule.id)
      (rest : HandsOn r c rules handed) : HandsOn r c (rule :: rules) handed
  | on {rule adjusted : Rule} {rules handed : List Rule} (wanted : r.Wants rule.id)
      (on : ¬ c.TurnsOff rule.id) (adjusts : c.Adjusts rule adjusted)
      (rest : HandsOn r c rules handed) : HandsOn r c (rule :: rules) (adjusted :: handed)

theorem mem_idsOf {list : String} : id ∈ idsOf list ↔ Names list id := by
  have trim_eq (piece : List Char) :
      Text.trim (String.ofList piece) = id ↔ Text.Trims piece id.toList := by
    rw [Text.trim, String.toList_ofList, Text.trims_iff, ← String.toList_inj,
      String.toList_ofList, eq_comm]
  simp only [idsOf, Text.split, List.map_map, List.mem_filter, List.mem_map, Function.comp_apply,
    trim_eq, Text.mem_pieces, Names]
  rw [and_comm]
  simp

/-- The request as a test of ids. -/
theorem keep_eq_filter (r : CheckRequest) :
    ∃ test : String → Bool, (∀ id, test id = true ↔ r.Wants id) ∧
      ∀ rules, r.keep rules = rules.filter fun rule => test rule.id := by
  cases asked : r.only with
  | none =>
    refine ⟨fun _ => true, fun id => ?_, fun rules => ?_⟩
    · simp [Wants, asked]
    · simp [keep, asked]
  | some list =>
    refine ⟨fun id => (idsOf list).contains id, fun id => ?_, fun rules => ?_⟩
    · simp [Wants, asked, mem_idsOf]
    · simp [keep, asked]

theorem keep_append (r : CheckRequest) (rules later : List Rule) :
    r.keep (rules ++ later) = r.keep rules ++ r.keep later := by
  obtain ⟨test, -, keeps⟩ := r.keep_eq_filter
  rw [keeps, keeps, keeps, List.filter_append]

theorem keep_apply (r : CheckRequest) (c : Config) (rules : List Rule) :
    r.keep (c.apply rules) = c.apply (r.keep rules) := by
  obtain ⟨test, -, keeps⟩ := r.keep_eq_filter
  rw [keeps, keeps, c.filter_id_apply]

theorem keep_cons_of_wants (wanted : r.Wants rule.id) :
    r.keep (rule :: rules) = rule :: r.keep rules := by
  obtain ⟨test, wants, keeps⟩ := r.keep_eq_filter
  have kept : test rule.id = true := (wants rule.id).mpr wanted
  rw [keeps, keeps, List.filter_cons, if_pos kept]

theorem keep_cons_of_not_wants (other : ¬ r.Wants rule.id) :
    r.keep (rule :: rules) = r.keep rules := by
  obtain ⟨test, wants, keeps⟩ := r.keep_eq_filter
  have dropped : ¬ test rule.id = true := mt (wants rule.id).mp other
  rw [keeps, keeps, List.filter_cons, if_neg dropped]

theorem handsOn_apply (r : CheckRequest) (c : Config) (rules : List Rule) :
    HandsOn r c rules (c.apply (r.keep rules)) := by
  induction rules with
  | nil =>
    obtain ⟨test, -, keeps⟩ := r.keep_eq_filter
    rw [keeps]
    exact .nil
  | cons rule rules ih =>
    by_cases wanted : r.Wants rule.id
    · rw [keep_cons_of_wants wanted]
      by_cases off : c.TurnsOff rule.id
      · rw [Config.apply_cons_of_off off]
        exact .off off ih
      · rw [Config.apply_cons_of_on off]
        exact .on wanted off (Config.adjusts_iff.mpr rfl) ih
    · rw [keep_cons_of_not_wants wanted]
      exact .unwanted wanted ih

theorem HandsOn.eq {handed' : List Rule} (first : HandsOn r c rules handed)
    (second : HandsOn r c rules handed') : handed = handed' := by
  induction first generalizing handed' with
  | nil =>
    cases second
    rfl
  | unwanted other _ ih =>
    cases second with
    | unwanted _ rest => exact ih rest
    | off _ rest => exact ih rest
    | on wanted _ _ _ => exact absurd wanted other
  | off off _ ih =>
    cases second with
    | unwanted _ rest => exact ih rest
    | off _ rest => exact ih rest
    | on _ on _ _ => exact absurd off on
  | on wanted on adjusts _ ih =>
    cases second with
    | unwanted other _ => exact absurd wanted other
    | off off _ => exact absurd off on
    | on _ _ adjusts' rest =>
      rw [ih rest, Config.adjusts_iff.mp adjusts, Config.adjusts_iff.mp adjusts']

theorem handsOn_iff : HandsOn r c rules handed ↔ handed = c.apply (r.keep rules) :=
  ⟨fun handsOn => handsOn.eq (handsOn_apply r c rules), fun same => same ▸ handsOn_apply r c rules⟩

/-- A scan judges, in their order and as often as they occur, the rules that the request names and
the configuration leaves on, each as the configuration adjusts it. -/
theorem scan_hands_on (r : CheckRequest) (c : Config) (rules later : List Rule) :
    (∀ handed, HandsOn r c rules handed ↔ handed = c.apply (r.keep rules)) ∧
    (∀ t source report, r.scan t source = .ok (c, report) ↔
      ∃ given d handed, Configures t source c ∧ Supplies t (r.ruleSource t source c) given ∧
        Holds t r.document d ∧ d.selection ≠ [] ∧ HandsOn r c given handed ∧
        report = .ofRules d c.thresholds (d.collect d.selection) handed) ∧
    r.keep (c.apply rules) = c.apply (r.keep rules) ∧
    c.apply (c.apply rules) = c.apply rules ∧
    r.keep (rules ++ later) = r.keep rules ++ r.keep later ∧
    c.apply (rules ++ later) = c.apply rules ++ c.apply later ∧
    ∀ (c' : Config) (id : String), (∀ rule ∈ rules, rule.id ≠ id) →
      (∀ other, other ≠ id → c'.override? other = c.override? other) →
      c'.apply rules = c.apply rules := by
  refine ⟨fun handed => handsOn_iff, fun t source report => ?_, r.keep_apply c rules,
    c.apply_apply rules, r.keep_append rules later, c.apply_append rules later,
    fun c' id outside agree => ?_⟩
  · rw [scan_eq_ok, Reports]
    simp only [handsOn_iff]
    constructor
    · rintro ⟨given, d, configured, ruled, held, selected, rfl⟩
      exact ⟨given, d, _, configured, ruled, held, selected, rfl, rfl⟩
    · rintro ⟨given, d, _, configured, ruled, held, selected, rfl, rfl⟩
      exact ⟨given, d, configured, ruled, held, selected, rfl⟩
  · exact Config.apply_congr fun rule member => agree rule.id (outside rule member)

/-- Names a rule twice, with blanks around it, and one that there is not. -/
def offerRequest : CheckRequest where
  document := ⟨.bare, ["screen.json"]⟩
  style := .compact
  only := some " offer,, heading ,ghost,odd,offer"

/-- Turns a rule off and gives it a severity, gives one a severity, and turns one on. -/
def offerConfig : Config where
  overrides := [("heading", { enabled := some false, severity := some .error }),
    ("offer", { severity := some .warning }), ("odd", { enabled := some true }),
    ("images", { severity := some .warning })]

theorem scan_hands_on_offer :
    let twice := Report.offerRules ++ Report.offerRules
    let ghost := { offerConfig with overrides := ("ghost", {}) :: offerConfig.overrides }
    HandsOn offerRequest offerConfig twice (offerConfig.apply (offerRequest.keep twice)) ∧
      (offerConfig.apply (offerRequest.keep twice)).map (fun rule => (rule.id, rule.severity)) =
        [("offer", some .warning), ("odd", none), ("offer", some .warning), ("odd", none)] ∧
      ghost.apply twice = offerConfig.apply twice := by
  intro twice ghost
  obtain ⟨handsOn, -, -, -, -, -, outside⟩ := scan_hands_on offerRequest offerConfig twice []
  refine ⟨(handsOn _).mpr rfl, by decide +kernel, outside ghost "ghost" (by decide) ?_⟩
  intro other different
  have passed : (other == "ghost") = false := beq_eq_false_iff_ne.mpr different
  change List.lookup other (("ghost", {}) :: offerConfig.overrides) = _
  rw [List.lookup_cons, passed]
  rfl

end Command.CheckRequest

end CanvasLint
