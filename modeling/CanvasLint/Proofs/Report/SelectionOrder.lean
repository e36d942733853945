import CanvasLint.Proofs.Canvas.Collection
import CanvasLint.Proofs.Check.Reordering

/-! How elements are selected does not matter to a scan, only which elements are covered. Selections
that cover the same elements collect them in some order each, and what the rules have to say about
them does not depend on the order. -/
namespace CanvasLint

open Canvas (Document Node NodeId Tree Within)

variable {d d' d'' : Document} {ts : List Tree} {ids ids' extra : List NodeId}

namespace Canvas

/-- The elements of a forest at and below the given ids. -/
def covered (ts : List Tree) (ids : List NodeId) : Set Node :=
  {n | ∃ t, Within t ts ∧ t.content.id ∈ ids ∧ n ∈ t.nodes}

/-- Neither order nor repetition changes what is covered. -/
theorem covered_congr (same : ∀ id, id ∈ ids ↔ id ∈ ids') : covered ts ids = covered ts ids' := by
  unfold covered
  simp only [same]

namespace Document

/-- What stands below a selected element adds nothing. -/
theorem Sound.covered_append (sound : d.Sound ts)
    (below : ∀ i ∈ extra, ∃ id ∈ ids, Relation.ReflTransGen d.ChildOf i id) :
    covered ts (ids ++ extra) = covered ts ids := by
  ext n
  simp only [covered, Set.mem_ofPred_eq, ← sound.mem_collect, sound.mem_collect_iff_chain]
  constructor
  · rintro ⟨known, i, given, chain⟩
    refine ⟨known, ?_⟩
    rcases List.mem_append.mp given with given | added
    · exact ⟨i, given, chain⟩
    · obtain ⟨id, given, up⟩ := below i added
      exact ⟨id, given, chain.trans up⟩
  · rintro ⟨known, id, given, chain⟩
    exact ⟨known, id, List.mem_append_left _ given, chain⟩

/-- Documents of one forest collect the same elements wherever the same is covered. -/
theorem Sound.collect_perm (sound : d.Sound ts) (sound' : d'.Sound ts)
    (same : covered ts ids = covered ts ids') : (d.collect ids).Perm (d'.collect ids') := by
  rw [List.perm_ext_iff_of_nodup (sound.nodup_collect ids) (sound'.nodup_collect ids')]
  intro n
  rw [sound.mem_collect, sound'.mem_collect]
  exact Set.ext_iff.mp same n

end Document

end Canvas

namespace Report

variable {findings findings' : List Finding} {nodes nodes' : List Node}

/-- Reports that differ in the order of the elements that their findings name, and in nothing
else. -/
structure SameButOrder (r r' : Report) : Prop where
  score : r.score = r'.score
  nodesScanned : r.nodesScanned = r'.nodesScanned
  passed : List.Forall₂ Finding.SameButOrder r.passed r'.passed
  warnings : List.Forall₂ Finding.SameButOrder r.warnings r'.warnings
  errors : List.Forall₂ Finding.SameButOrder r.errors r'.errors

private theorem filter_status_sameButOrder (status : Status)
    (same : List.Forall₂ Finding.SameButOrder findings findings') :
    List.Forall₂ Finding.SameButOrder (findings.filter (·.status = status))
      (findings'.filter (·.status = status)) := by
  induction same with
  | nil => exact .nil
  | @cons f f' fs fs' first _ ih =>
    rw [List.filter_cons, List.filter_cons, first.status]
    split
    · exact .cons first ih
    · exact ih

theorem ofFindings_sameButOrder (same : List.Forall₂ Finding.SameButOrder findings findings')
    (count : Nat) : (ofFindings findings count).SameButOrder (ofFindings findings' count) := by
  have buckets (status : Status) := filter_status_sameButOrder status same
  refine ⟨?_, rfl, buckets .passed, buckets .warning, buckets .error⟩
  change scoreOf _ _ = scoreOf _ _
  rw [(buckets .passed).length_eq, same.length_eq]

/-- The rules say the same about the same elements in another order. -/
theorem ofRules_sameButOrder (d : Document) (t : Thresholds) (rules : List Rule)
    (reordered : nodes.Perm nodes') :
    (ofRules d t nodes rules).SameButOrder (ofRules d t nodes' rules) := by
  have same : Scan.SameButOrder ⟨nodes, d.host, t⟩ ⟨nodes', d.host, t⟩ :=
    ⟨reordered, rfl, rfl⟩
  have each : List.Forall₂ Finding.SameButOrder
      (rules.map (·.finding ⟨nodes, d.host, t⟩))
      (rules.map (·.finding ⟨nodes', d.host, t⟩)) := by
    induction rules with
    | nil => exact .nil
    | cons rule rules ih => exact .cons (rule.finding_sameButOrder same) ih
  unfold ofRules
  rw [reordered.length_eq]
  exact ofFindings_sameButOrder each _

/-- Two selections of one document that cover the same elements are scanned with the same result,
save for the order in which findings name the elements. -/
theorem ofSelection_sameButOrder (reachable : Document.Reachable ts d)
    (first : d.select ids = .ok d') (second : d.select ids' = .ok d'') (given : ids ≠ [])
    (given' : ids' ≠ []) (same : Canvas.covered ts ids = Canvas.covered ts ids') (t : Thresholds)
    (rules : List Rule) : ∃ r r', ofSelection d' t rules = .ok r ∧
      ofSelection d'' t rules = .ok r' ∧ r.SameButOrder r' := by
  have reordered := reachable.sound.of_select first |>.collect_perm
    (reachable.sound.of_select second) same
  obtain ⟨-, rfl⟩ := Document.select_eq_ok_iff.mp first
  obtain ⟨-, rfl⟩ := Document.select_eq_ok_iff.mp second
  refine ⟨_, _, if_neg (by simpa using given), if_neg (by simpa using given'), ?_⟩
  -- which components there are does not depend on the selection
  exact ofRules_sameButOrder d t rules reordered

/-- Some text has to mention an offer, and images need a description. -/
def noticeRules : List Rule := [
  ⟨"offer", "Mention the offer", none, .valid (.requiredText ⟨"offer", false⟩)⟩,
  ⟨"images", "Describe images", some .warning, .valid (.altTextPresence ⟨none⟩)⟩]

/-- Another order, a repetition, and an element below a selected one. -/
theorem ofSelection_sameButOrder_bulletin :
    let first := { Document.bulletinDocument with selection := ["page", "note"] }
    let second := { Document.bulletinDocument with selection := ["note", "page", "note", "title"] }
    ∃ r r', ofSelection first {} noticeRules = .ok r ∧ ofSelection second {} noticeRules = .ok r' ∧
      r.SameButOrder r' := by
  have reachable : Document.Reachable Document.bulletin.trees Document.bulletinDocument :=
    .made Document.ofSnapshot_bulletin
  have below : ∀ i ∈ ["title"], ∃ id ∈ ["page", "note"],
      Relation.ReflTransGen Document.bulletinDocument.ChildOf i id := by
    intro i title
    obtain rfl := List.mem_singleton.mp title
    exact ⟨"page", List.mem_cons_self, .head (b := "card") rfl (.single rfl)⟩
  have same := calc Canvas.covered Document.bulletin.trees ["page", "note"]
    _ = Canvas.covered Document.bulletin.trees ["page", "note", "title"] :=
      (reachable.sound.covered_append below).symm
    _ = Canvas.covered Document.bulletin.trees ["note", "page", "note", "title"] :=
      Canvas.covered_congr fun id => by simp [or_left_comm]
  exact ofSelection_sameButOrder reachable rfl rfl (by decide) (by decide) same {} noticeRules

end Report

end CanvasLint
