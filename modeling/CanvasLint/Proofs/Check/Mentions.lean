import CanvasLint.Proofs.Check.Verdicts
import CanvasLint.Proofs.Rule.ConditionText

/-! Which texts mention a phrase. A rule that wants the phrase and a rule that wants it once at most
find it in the same texts, so they are both content with a single mention only; the one fails where
there is none and the other where there are several. -/
namespace CanvasLint

open Canvas (Node)

variable {phrase : String} {s : Scan} {required unique : Rule} {raw raw' : Json.Value}

/-- A text that has the phrase in it, when case is left aside. -/
structure Mentions (phrase : String) (n : Node) : Prop where
  text : n.kind = .text
  within : Text.lowercase phrase <:+: Text.lowercase n.text

theorem mentions_iff {n : Node} :
    Mentions phrase n ↔ n.isText = true ∧ Text.containsFolded n.text phrase = true := by
  rw [Text.containsFolded, Text.occursIn_iff, Canvas.Node.isText, decide_eq_true_iff]
  exact ⟨fun ⟨text, within⟩ => ⟨text, within⟩, fun ⟨text, within⟩ => ⟨text, within⟩⟩

instance (phrase : String) : DecidablePred (Mentions phrase) :=
  fun _ => decidable_of_iff' _ mentions_iff

namespace Scan

/-- The elements that mention the phrase, in the order of the scan. -/
def mentions (s : Scan) (phrase : String) : List Node :=
  s.nodes.filter fun n => Mentions phrase n

theorem filter_texts_eq_mentions :
    (s.texts.filter fun n => Text.containsFolded n.text phrase) = s.mentions phrase := by
  rw [texts, mentions, List.filter_filter]
  refine List.filter_congr fun n _ => ?_
  rw [Bool.eq_iff_iff, Bool.and_eq_true, decide_eq_true_iff, mentions_iff, and_comm]

theorem mentions_ne_nil_iff : s.mentions phrase ≠ [] ↔ ∃ n ∈ s.nodes, Mentions phrase n := by
  simp [mentions]

end Scan

/-! ### The two rules -/

/-- The phrase is wanted where case is left aside. -/
theorem RequiredText.isPassed_judge_folded :
    (RequiredText.judge ⟨phrase, false⟩ s).isPassed = true ↔ s.mentions phrase ≠ [] := by
  rw [isPassed_judge, Scan.mentions_ne_nil_iff]
  simp only [mentions_iff]
  exact Iff.rfl

/-- All texts are named if none of them has what is wanted. -/
theorem RequiredText.affected_judge (r : RequiredText) (s : Scan)
    (failed : ¬ (r.judge s).isPassed = true) : (r.judge s).affected = s.texts.map s.describe := by
  rw [judge] at failed ⊢
  split
  · rfl
  · rename_i found
    exact absurd (by rw [if_neg found]; rfl) failed

namespace Rule

theorem condition_eq_required (asks : required.condition = .read "required-text" raw)
    (means : Requirement.read .requiredText raw = .ok (.requiredText ⟨phrase, false⟩)) :
    required.condition = .valid (.requiredText ⟨phrase, false⟩) := by
  have usable := Condition.read_eq_valid_iff.mpr ⟨means, rfl⟩
  exact asks.trans usable

theorem condition_eq_unique (written : phrase ≠ "")
    (limits : unique.condition = .read "text-uniqueness" raw)
    (means : Requirement.read .textUniqueness raw = .ok (.textUniqueness ⟨phrase⟩)) :
    unique.condition = .valid (.textUniqueness ⟨phrase⟩) := by
  have usable := Condition.read_eq_valid_iff.mpr ⟨means, by simp [Requirement.validate, written]⟩
  exact limits.trans usable

/-- A rule that wants a phrase regardless of case and a rule that wants it once at most count the
same texts. Both pass if and only if there is one mention. With none the first fails and names every
text; with several the second fails and names these, with all that they say. -/
theorem finding_mentions (written : phrase ≠ "")
    (asks : required.condition = .read "required-text" raw)
    (means : Requirement.read .requiredText raw = .ok (.requiredText ⟨phrase, false⟩))
    (limits : unique.condition = .read "text-uniqueness" raw')
    (means' : Requirement.read .textUniqueness raw' = .ok (.textUniqueness ⟨phrase⟩)) (s : Scan) :
    let count := (s.mentions phrase).length
    let passes (rule : Rule) := (rule.finding s).status = .passed
    (passes required ∧ passes unique ↔ count = 1) ∧
      (¬ passes required ↔ count = 0) ∧
      (¬ passes required → passes unique ∧
        (required.finding s).affected = (s.nodes.filter (·.kind = .text)).map s.describe) ∧
      (¬ passes unique ↔ 2 ≤ count) ∧
      (¬ passes unique → (unique.finding s).affected = (s.mentions phrase).map fun n =>
        { id := n.id, name := n.name, kind := n.kind, text := some n.text }) := by
  intro count passes
  have condition := condition_eq_required asks means
  have condition' := condition_eq_unique written limits means'
  have some_mention : passes required ↔ count ≠ 0 := by
    rw [ne_eq, List.length_eq_zero_iff, ← ne_eq, ← RequiredText.isPassed_judge_folded]
    exact finding_passed_iff condition
  have few_mentions : passes unique ↔ count ≤ 1 := by
    dsimp only [count]
    rw [← Scan.filter_texts_eq_mentions, ← TextUniqueness.isPassed_judge ⟨phrase⟩]
    exact finding_passed_iff condition'
  refine ⟨?_, ?_, fun failed => ⟨?_, ?_⟩, ?_, fun failed => ?_⟩
  · rw [some_mention, few_mentions]
    omega
  · rw [some_mention, not_not]
  · rw [some_mention, not_not] at failed
    exact few_mentions.mpr (by omega)
  · rw [affected_finding condition]
    exact RequiredText.affected_judge _ _ (mt (finding_passed_iff condition).mpr failed)
  · rw [few_mentions]
    omega
  · rw [affected_finding condition', ← Scan.filter_texts_eq_mentions]
    exact TextUniqueness.affected_judge _ _ (mt (finding_passed_iff condition').mpr failed)

/-- Some labels, a frame that is called like the phrase, and a text without characters. -/
def shelfScan (labels : List String) : Scan where
  nodes := { id := "shelf", name := "Größe", kind := .frame } ::
    { id := "gap", name := "Größe", kind := .text } ::
    labels.map fun said => { id := said, kind := .text, characters := some said }
  host := Canvas.Document.empty.host
  thresholds := {}

/-- A single label mentions the size in capitals. Without it every text is named, and with a second
label that mentions the size the two of them are. -/
theorem finding_mentions_shelf :
    let wanted : Json.Value := .object [("text", .string "größe"), ("caseSensitive", .bool false)]
    let limited : Json.Value := .object [("target_text", .string "größe")]
    let required : Rule := ⟨"size", "Mention the size", none, .read "required-text" wanted⟩
    let unique : Rule := ⟨"once", "Mention it once", none, .read "text-uniqueness" limited⟩
    let passes (rule : Rule) labels := (rule.finding (shelfScan labels)).status = .passed
    let named (rule : Rule) labels :=
      (rule.finding (shelfScan labels)).affected.map fun a => (a.id, a.text)
    (passes required ["GRÖẞE", "Preis"] ∧ passes unique ["GRÖẞE", "Preis"]) ∧
      ¬ passes required ["Preis"] ∧ named required ["Preis"] = [("gap", none), ("Preis", none)] ∧
      ¬ passes unique ["GRÖẞE", "Preis", "Zur Größe"] ∧
      named unique ["GRÖẞE", "Preis", "Zur Größe"] =
        [("GRÖẞE", some "GRÖẞE"), ("Zur Größe", some "Zur Größe")] := by
  intro wanted limited required unique passes named
  have asks : required.condition = .read "required-text" wanted := rfl
  have limits : unique.condition = .read "text-uniqueness" limited := rfl
  have written : "größe" ≠ "" := by decide
  have mentions (labels : List String) :=
    finding_mentions written asks rfl limits rfl (shelfScan labels)
  obtain ⟨one, -⟩ := mentions ["GRÖẞE", "Preis"]
  obtain ⟨-, without, all, -⟩ := mentions ["Preis"]
  obtain ⟨-, -, -, several, these⟩ := mentions ["GRÖẞE", "Preis", "Zur Größe"]
  have failed := without.mpr (by decide +kernel)
  have failed' := several.mpr (by decide +kernel)
  refine ⟨one.mpr (by decide +kernel), failed, ?_, failed', ?_⟩
  · dsimp only [named]
    rw [(all failed).2]
    decide +kernel
  · dsimp only [named]
    rw [these failed']
    decide +kernel

end Rule

end CanvasLint
