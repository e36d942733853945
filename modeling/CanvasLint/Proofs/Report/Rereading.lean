import CanvasLint.Proofs.Canvas.Collection
import CanvasLint.Proofs.Canvas.Measures
import CanvasLint.Proofs.Check.SizeRange
import CanvasLint.Proofs.Json.Held
import CanvasLint.Proofs.Report.Accounting

/-! What is read back from findings that are held as values. Nothing of a finding is lost but numbers
that are not finite, which are held as `null`. A finding has no other numbers than those measured of
an element and the stand-in for mixed sizes, so that with finite measures all of it comes back, and
the report with it. -/
namespace CanvasLint

open Canvas (Document Node NodeId NodeKind)
open Json (Mismatch Record Slot Value heldMembers heldItems)

variable {α σ : Type}

/-! ### Members -/

/-- The number, if it is finite. -/
private def finite? (x : Float) : Option Float :=
  if x.isFinite then some x else none

private theorem held_float (x : Float) :
    Value.orNull Value.asFloat (Value.float x).held = .ok (finite? x) := by
  rw [Value.float, Value.held, finite?]
  split <;> rfl

private theorem held_text (text : String) :
    Value.orNull Value.asText (Value.string text).held = .ok (some text) := rfl

/-- A detail that need not be there is found again behind the others if it is. -/
private theorem foldlM_optional {β : Type} {r : Record σ} {name : String} {ms : List (String × Value)}
    {get : σ → Option (Option β)} {put : Option β → σ → σ} {read : Value → Except Mismatch β}
    {write : α → Value} {found : α → Option β} {a? : Option α} (draft : σ)
    (set : Option (Option β) → σ)
    (before : (heldMembers ms).foldlM r.readMember r.empty = .ok draft)
    (known : r.slot? name = some (.of name [] get put (Value.orNull read)))
    (free : get draft = none) (fits : ∀ a, Value.orNull read (write a).held = .ok (found a))
    (absent : draft = set none) (given : ∀ b, put b draft = set (some b)) :
    (heldMembers (ms ++ Requirement.optional name write a?)).foldlM r.readMember r.empty =
      .ok (set (a?.map found)) := by
  rw [Json.heldMembers_append, List.foldlM_append, before]
  cases a? with
  | none => exact congrArg Except.ok absent
  | some a =>
    have placed := Record.readMember_of known free (fits a)
    change (heldMembers (Requirement.optional name write (some a))).foldlM r.readMember draft = _
    rw [Requirement.optional, heldMembers, List.foldlM_cons, placed]
    exact congrArg Except.ok (given (found a))

private theorem keys_optional_sublist (name : String) (write : α → Value) (a? : Option α) :
    ((Requirement.optional name write a?).map Prod.fst).Sublist [name] := by
  cases a? with
  | none => exact List.nil_sublist _
  | some a => exact List.Sublist.refl _

/-! ### Entries -/

namespace AffectedNode

/-- The entry without the numbers that are not finite. -/
def finitePart (a : AffectedNode) : AffectedNode :=
  { a with
    fontSize := a.fontSize.filter Float.isFinite
    width := a.width.filter Float.isFinite
    height := a.height.filter Float.isFinite }

theorem orderly_record : record.Orderly where
  taken slot listed v draft draft' filled := by
    simp only [record, List.mem_cons, List.not_mem_nil, or_false] at listed
    rcases listed with rfl | rfl | rfl | rfl | rfl | rfl | rfl | rfl | rfl <;>
    · obtain ⟨a, -, rfl⟩ := Slot.of_fill_eq_ok.mp filled
      rfl
  apart := by
    unfold record
    simp only [List.pairwise_cons, List.forall_mem_cons]
    repeat' apply And.intro
    all_goals first
      | exact Slot.apart_of (fun _ _ => rfl) (fun _ _ => rfl) fun _ _ _ => rfl
      | exact List.forall_mem_nil _
      | exact List.Pairwise.nil

private theorem nodup_keys (a : AffectedNode) : (a.members.map Prod.fst).Nodup := by
  have all : ["id", "name", "type", "fontSize", "characters", "text", "width", "height",
      "issue"].Nodup := by decide
  refine all.sublist ?_
  simp only [members, List.map_append]
  exact ((((((List.Sublist.refl ["id", "name", "type"]).append
    (keys_optional_sublist _ _ _)).append (keys_optional_sublist _ _ _)).append
    (keys_optional_sublist _ _ _)).append (keys_optional_sublist _ _ _)).append
    (keys_optional_sublist _ _ _)).append (keys_optional_sublist _ _ _)

private theorem foldlM_identity (id : NodeId) (name : String) (kind : NodeKind) :
    (heldMembers [("id", .string id), ("name", .string name), ("type", .string kind.name)]).foldlM
      record.readMember record.empty = .ok { id := some id, name := some name, kind := some kind } := by
  cases kind <;> rfl

/-- The draft that an entry is read back from. -/
private def draft (a : AffectedNode) : Draft where
  id := some a.id
  name := some a.name
  kind := some a.kind
  fontSize := a.fontSize.map finite?
  characters := a.characters.map some
  text := a.text.map some
  width := a.width.map finite?
  height := a.height.map finite?
  issue := a.issue.map some

private theorem foldlM_members (a : AffectedNode) :
    (heldMembers a.members).foldlM record.readMember record.empty = .ok a.draft := by
  let d₀ : Draft := { id := some a.id, name := some a.name, kind := some a.kind }
  let d₁ : Draft := { d₀ with fontSize := a.fontSize.map finite? }
  let d₂ : Draft := { d₁ with characters := a.characters.map some }
  let d₃ : Draft := { d₂ with text := a.text.map some }
  let d₄ : Draft := { d₃ with width := a.width.map finite? }
  let d₅ : Draft := { d₄ with height := a.height.map finite? }
  refine foldlM_optional d₅ (fun s => { d₅ with issue := s }) ?_ rfl rfl held_text rfl fun _ => rfl
  refine foldlM_optional d₄ (fun x => { d₄ with height := x }) ?_ rfl rfl held_float rfl fun _ => rfl
  refine foldlM_optional d₃ (fun x => { d₃ with width := x }) ?_ rfl rfl held_float rfl fun _ => rfl
  refine foldlM_optional d₂ (fun s => { d₂ with text := s }) ?_ rfl rfl held_text rfl fun _ => rfl
  refine foldlM_optional d₁ (fun s => { d₁ with characters := s }) ?_ rfl rfl held_text rfl
    fun _ => rfl
  refine foldlM_optional d₀ (fun x => { d₀ with fontSize := x }) ?_ rfl rfl held_float rfl
    fun _ => rfl
  exact foldlM_identity a.id a.name a.kind

/-- An entry comes back, without the numbers that are not finite. -/
theorem read_held (a : AffectedNode) : read a.write.held = .ok a.finitePart := by
  have given : record.read a.write.held = .ok (a.draft, .named) :=
    orderly_record.read_held a.nodup_keys a.foldlM_members
  have floats (x? : Option Float) : (x?.map finite?).join = x?.filter Float.isFinite := by
    cases x? <;> rfl
  have texts (text? : Option String) : (text?.map some).join = text? := by
    cases text? <;> rfl
  rw [read, given, finitePart, ← floats, ← floats, ← floats]
  change Except.ok (AffectedNode.mk _ _ _ _ _ _ _ _ _) = _
  simp only [draft, texts]

/-- The entry has no other numbers than finite ones. -/
structure Finite (a : AffectedNode) : Prop where
  fontSize : ∀ x ∈ a.fontSize, x.isFinite = true
  width : ∀ x ∈ a.width, x.isFinite = true
  height : ∀ x ∈ a.height, x.isFinite = true

theorem finitePart_eq_self_iff {a : AffectedNode} : a.finitePart = a ↔ a.Finite := by
  have same (x? : Option Float) :
      x?.filter Float.isFinite = x? ↔ ∀ x ∈ x?, x.isFinite = true := by
    cases x? <;> simp
  obtain ⟨id, name, kind, fontSize, characters, text, width, height, issue⟩ := a
  simp only [finitePart, mk.injEq, same, true_and, and_true]
  exact ⟨fun ⟨size, w, h⟩ => ⟨size, w, h⟩, fun finite => ⟨finite.fontSize, finite.width, finite.height⟩⟩

end AffectedNode

/-! ### Findings -/

namespace Finding

/-- The finding without the numbers that are not finite. -/
def finitePart (f : Finding) : Finding :=
  { f with affected := f.affected.map AffectedNode.finitePart }

theorem orderly_record : record.Orderly where
  taken slot listed v draft draft' filled := by
    simp only [record, List.mem_cons, List.not_mem_nil, or_false] at listed
    rcases listed with rfl | rfl | rfl | rfl | rfl | rfl <;>
    · obtain ⟨a, -, rfl⟩ := Slot.of_fill_eq_ok.mp filled
      rfl
  apart := by
    unfold record
    simp only [List.pairwise_cons, List.forall_mem_cons]
    repeat' apply And.intro
    all_goals first
      | exact Slot.apart_of (fun _ _ => rfl) (fun _ _ => rfl) fun _ _ _ => rfl
      | exact List.forall_mem_nil _
      | exact List.Pairwise.nil

/-- The draft that a finding is read back from. -/
private def draft (f : Finding) : Draft where
  ruleId := some f.ruleId
  description := some f.description
  status := some f.status
  message := some f.message
  affected := some (f.affected.map AffectedNode.finitePart)
  unverified := if f.unverified then some true else none

private theorem readMember_status {d : Draft} (free : d.status = none) (status : Status) :
    record.readMember d ("status", .string status.name) = .ok { d with status := some status } := by
  obtain ⟨_, _, _, _, _, _⟩ := d
  cases free
  cases status <;> rfl

private theorem readMember_affected {d : Draft} (free : d.affected = none)
    (affected : List AffectedNode) :
    record.readMember d ("affectedNodes", (Value.array (affected.map AffectedNode.write)).held) =
      .ok { d with affected := some (affected.map AffectedNode.finitePart) } := by
  have entries : (heldItems (affected.map AffectedNode.write)).mapM AffectedNode.read =
      .ok (affected.map AffectedNode.finitePart) := by
    rw [Json.heldItems_eq_map, List.map_map]
    exact Outcome.mapM_map_eq_ok fun a _ => a.read_held
  obtain ⟨_, _, _, _, _, _⟩ := d
  cases free
  change ((heldItems (affected.map AffectedNode.write)).mapM AffectedNode.read).map _ = _
  rw [entries]
  rfl

/-- The members that every finding has. -/
private def head (f : Finding) : List (String × Value) :=
  [("ruleId", .string f.ruleId), ("description", .string f.description),
    ("status", .string f.status.name), ("message", .string f.message),
    ("affectedNodes", .array (f.affected.map AffectedNode.write))]

/-- The mark of a finding that nobody has verified. -/
private def mark (f : Finding) : List (String × Value) :=
  if f.unverified then [("unverified", .bool true)] else []

private theorem nodup_keys (f : Finding) : ((f.head ++ f.mark).map Prod.fst).Nodup := by
  have all : ["ruleId", "description", "status", "message", "affectedNodes", "unverified"].Nodup := by
    decide
  refine all.sublist ?_
  have mark : (f.mark.map Prod.fst).Sublist ["unverified"] := by
    rw [Finding.mark]
    split
    · exact .refl _
    · exact List.nil_sublist _
  rw [List.map_append]
  exact (List.Sublist.refl ["ruleId", "description", "status", "message", "affectedNodes"]).append mark

private theorem foldlM_members (f : Finding) :
    (heldMembers (f.head ++ f.mark)).foldlM record.readMember record.empty = .ok f.draft := by
  have start : (heldMembers f.head).foldlM record.readMember record.empty =
      .ok { f.draft with unverified := none } := by
    change (record.readMember _ ("status", .string f.status.name) >>= fun d =>
      record.readMember d ("message", .string f.message) >>= fun d => _ >>= pure) = _
    rw [readMember_status rfl]
    change record.readMember _ ("affectedNodes", _) >>= pure = _
    rw [readMember_affected rfl]
    rfl
  rw [Json.heldMembers_append, List.foldlM_append, start, draft, mark]
  cases f.unverified <;> rfl

/-- A finding comes back, without the numbers that are not finite. -/
theorem read_held (f : Finding) : read f.write.held = .ok f.finitePart := by
  have given : record.read f.write.held = .ok (f.draft, .named) :=
    orderly_record.read_held f.nodup_keys f.foldlM_members
  have mark : (if f.unverified then some true else none).getD false = f.unverified := by
    cases f.unverified <;> rfl
  rw [read, given]
  change Except.ok (Finding.mk _ _ _ _ _ _) = _
  simp only [draft, mark, finitePart]

/-- A finding comes back as it was if and only if all of its numbers are finite. -/
theorem read_held_eq_self_iff {f : Finding} :
    read f.write.held = .ok f ↔ ∀ a ∈ f.affected, a.Finite := by
  rw [read_held, Except.ok.injEq, finitePart]
  simp only [← AffectedNode.finitePart_eq_self_iff]
  obtain ⟨ruleId, description, status, message, affected, unverified⟩ := f
  simp only [mk.injEq, true_and, and_true]
  have each := List.map_inj_left (l := affected) (f := AffectedNode.finitePart) (g := id)
  rwa [List.map_id] at each

end Finding

/-! ### The numbers of findings -/

variable {s : Scan} {n : Node} {a : AffectedNode} {nodes picked : List Node} {r : Requirement}

/-- The numbers of the entry are those of the element, as the scan takes them. -/
structure AffectedNode.Measures (s : Scan) (n : Node) (a : AffectedNode) : Prop where
  fontSize : ∀ x ∈ a.fontSize, x = s.fontSize n
  width : ∀ x ∈ a.width, x = n.width
  height : ∀ x ∈ a.height, x = n.height

/-- Every entry has the numbers of some scanned element. -/
def Verdict.Measured (s : Scan) (v : Verdict) : Prop :=
  ∀ a ∈ v.affected, ∃ n ∈ s.nodes, a.Measures s n

theorem AffectedNode.measures_ofNode : (ofNode n).Measures s n :=
  ⟨nofun, nofun, nofun⟩

theorem TextUniqueness.measures_mention : (mention n).Measures s n :=
  ⟨nofun, nofun, nofun⟩

theorem AffectedNode.Measures.withIssue (measures : a.Measures s n) (issue : String) :
    (a.withIssue issue).Measures s n :=
  ⟨measures.fontSize, measures.width, measures.height⟩

theorem Scan.measures_describe : (s.describe n).Measures s n := by
  rw [describe, AffectedNode.describe]
  split
  · have measures : (AffectedNode.ofNode n).Measures s n := AffectedNode.measures_ofNode
    exact ⟨fun x same => by cases same; rfl, measures.width, measures.height⟩
  · exact AffectedNode.measures_ofNode

theorem ElementSize.measures_complaint (r : ElementSize) : (r.complaint n).Measures s n :=
  ⟨nofun, fun x same => by cases same; rfl, fun x same => by cases same; rfl⟩

private theorem measured_map {v : Verdict} {entry : Node → AffectedNode}
    (named : v.affected = picked.map entry) (scanned : picked.Sublist s.nodes)
    (each : ∀ n, (entry n).Measures s n) : v.Measured s := by
  intro a listed
  rw [named, List.mem_map] at listed
  obtain ⟨n, member, rfl⟩ := listed
  exact ⟨n, scanned.subset member, each n⟩

theorem Verdict.affected_of_isPassed {v : Verdict} (passed : v.isPassed = true) :
    v.affected = [] := by
  cases v with
  | passed _ | unverified _ => rfl
  | failed _ _ => cases passed

private theorem measured_nil {v : Verdict} (named : v.affected = []) : v.Measured s := by
  intro a listed
  rw [named] at listed
  cases listed

private theorem affected_ite_nil {p : Prop} [Decidable p] {severity : Severity}
    {success failure : String} :
    (if p then Verdict.passed success else .failed severity failure []).affected = [] ∧
      (if p then Verdict.failed severity failure [] else .passed success).affected = [] := by
  constructor <;> split <;> rfl

/-- Whatever is named is named with its own numbers. -/
theorem Requirement.measured_judge (r : Requirement) (s : Scan) : (r.judge s).Measured s := by
  cases r with
  | fontSize r =>
    exact measured_map (r.affected_judge s) (List.filter_sublist.trans texts_sublist) fun _ =>
      s.measures_describe
  | elementSize r =>
    exact measured_map (r.affected_judge s) List.filter_sublist fun _ => r.measures_complaint
  | labelPresence r =>
    exact measured_map (r.affected_judge s) List.filter_sublist fun _ =>
      AffectedNode.measures_ofNode.withIssue _
  | altTextPresence r =>
    exact measured_map (r.affected_judge s) List.filter_sublist fun _ =>
      AffectedNode.measures_ofNode.withIssue _
  | imageAlt =>
    exact measured_map (ImageAlt.affected_judge s) List.filter_sublist fun _ =>
      AffectedNode.measures_ofNode.withIssue _
  | colorContrast r =>
    intro a listed
    rw [judge, r.affected_judge, List.mem_filterMap] at listed
    obtain ⟨n, member, made⟩ := listed
    obtain ⟨issue, -, rfl⟩ := Option.map_eq_some_iff.mp made
    exact ⟨n, texts_sublist.subset member, s.measures_describe.withIssue issue⟩
  | textUniqueness r =>
    by_cases passed : (r.judge s).isPassed = true
    · exact measured_nil (Verdict.affected_of_isPassed passed)
    · exact measured_map (r.affected_judge s passed) (List.filter_sublist.trans texts_sublist) fun _ =>
        TextUniqueness.measures_mention
  | requiredText r =>
    rw [judge, RequiredText.judge]
    split
    · exact measured_map rfl texts_sublist fun _ => s.measures_describe
    · exact measured_nil rfl
  | requiredComponent r => exact measured_nil affected_ite_nil.1
  | componentPresence r => exact measured_nil affected_ite_nil.2
  | headingPresence r => exact measured_nil affected_ite_nil.2
  | elementAlignment r | spacing r => exact measured_nil rfl

theorem Rule.measured_finding (rule : Rule) (s : Scan) :
    ∀ a ∈ (rule.finding s).affected, ∃ n ∈ s.nodes, a.Measures s n := by
  cases outcome : rule.requirement with
  | error e =>
    rw [((rule.finding_wellFormed s).unjudged e outcome).2]
    exact List.forall_mem_nil _
  | ok r =>
    rw [affected_finding (requirement_eq_ok.mp outcome)]
    exact r.measured_judge s

/-- The size of a sized text is finite, also where the stand-in is taken. -/
theorem Scan.isFinite_fontSize (sized : n.Sized)
    (standIn : s.thresholds.mixedFontSize.isFinite = true) : (s.fontSize n).isFinite = true := by
  rw [fontSize, Node.resolvedSize]
  split
  · rename_i size same
    exact sized _ same size rfl
  · exact standIn
  · exact standIn

/-- An entry for an element of a document has finite numbers if its font size is finite. -/
theorem AffectedNode.Measures.finite_iff (measures : a.Measures s n)
    (width : n.width.isFinite = true) (height : n.height.isFinite = true) :
    a.Finite ↔ ∀ x ∈ a.fontSize, x.isFinite = true :=
  ⟨Finite.fontSize, fun fontSize => ⟨fontSize, fun x given => measures.width x given ▸ width,
    fun x given => measures.height x given ▸ height⟩⟩

/-! ### Reports -/

namespace Report

variable {ts : List Canvas.Tree} {d : Document} {t : Thresholds} {r : Report}

/-- Every finding of the report comes back from the value that it is held as, and together they make
the same report again. -/
structure Returns (r : Report) : Prop where
  finding : ∀ f ∈ r.findings, Finding.read f.write.held = .ok f
  report : ∃ fs, (r.findings.map fun f => f.write.held).mapM Finding.read = .ok fs ∧
    ofFindings fs r.nodesScanned = r

/-- The reports on a document: on some of its elements, in any order, and on its selection. -/
inductive MadeOf (d : Document) (t : Thresholds) : Report → Prop
  | elements {nodes : List Node} (known : nodes ⊆ d.nodes) (rules : List Rule) :
      MadeOf d t (ofRules d t nodes rules)
  | selection {rules : List Rule} {r : Report} (done : ofSelection d t rules = .ok r) :
      MadeOf d t r

private theorem filter_status_twice (fs : List Finding) (status status' : Status) :
    (fs.filter (·.status = status')).filter (·.status = status) =
      if status = status' then fs.filter (·.status = status) else [] := by
  rw [List.filter_filter]
  split
  · rename_i same
    simp only [← same, Bool.and_self]
  · rename_i differ
    refine List.filter_eq_nil_iff.mpr fun f _ both => differ ?_
    rw [Bool.and_eq_true, decide_eq_true_iff, decide_eq_true_iff] at both
    exact both.1.symm.trans both.2

/-- The findings of a report make the same report, though they come in another order. -/
theorem ofFindings_findings (fs : List Finding) (count : Nat) :
    ofFindings (ofFindings fs count).findings count = ofFindings fs count := by
  have part (status : Status) : (ofFindings fs count).findings.filter (·.status = status) =
      fs.filter (·.status = status) := by
    cases status <;>
      simp only [findings, ofFindings, List.filter_append, filter_status_twice, reduceCtorEq, if_true,
        if_false, List.nil_append, List.append_nil]
  have length := (findings_ofFindings_perm fs count).length_eq
  rw [ofFindings, part, part, part, length]
  rfl

/-- A report all of whose findings have finite numbers is read back. -/
theorem returns_of_finite (fs : List Finding) (count : Nat)
    (finite : ∀ f ∈ fs, ∀ a ∈ f.affected, a.Finite) : (ofFindings fs count).Returns := by
  have back (f : Finding) (listed : f ∈ (ofFindings fs count).findings) :
      Finding.read f.write.held = .ok f :=
    Finding.read_held_eq_self_iff.mpr (finite f ((findings_ofFindings_perm fs count).mem_iff.mp listed))
  have all : ((ofFindings fs count).findings.map fun f => f.write.held).mapM Finding.read =
      .ok ((ofFindings fs count).findings.map id) := Outcome.mapM_map_eq_ok back
  rw [List.map_id] at all
  exact ⟨back, _, all, ofFindings_findings fs count⟩

theorem MadeOf.exists_elements (sound : d.Sound ts) (made : r.MadeOf d t) :
    ∃ nodes rules, nodes ⊆ d.nodes ∧ r = ofRules d t nodes rules := by
  cases made with
  | elements known rules => exact ⟨_, rules, known, rfl⟩
  | selection done =>
    rw [ofSelection] at done
    split at done
    · cases done
    · cases done
      exact ⟨_, _, sound.collect_subset, rfl⟩

/-- Whatever a report on a document names is an element of the document, with its own numbers. -/
theorem exists_measures {nodes : List Node} (known : nodes ⊆ d.nodes) (rules : List Rule)
    {f : Finding} (listed : f ∈ rules.map (·.finding ⟨nodes, d.host, t⟩)) {a : AffectedNode}
    (named : a ∈ f.affected) : ∃ n ∈ d.nodes, a.Measures ⟨nodes, d.host, t⟩ n := by
  obtain ⟨rule, -, rfl⟩ := List.mem_map.mp listed
  obtain ⟨n, scanned, measures⟩ := rule.measured_finding _ a named
  exact ⟨n, known scanned, measures⟩

/-- A screen with a small title, a flat button, and an element of a kind of its own. -/
def screenText : String :=
  "\x7b\"nodes\": [
    \x7b\"id\": \"title\", \"type\": \"TEXT\", \"fontSize\": 9.5, \"characters\": \"\"\x7d,
    \x7b\"id\": \"buy\", \"name\": \"button\", \"type\": \"STAR\", \"width\": 40\x7d]\x7d"

/-- A title of which there is too little, and a button without a height. -/
def screenRules : List Rule := [
  ⟨"size", "Keep text readable", none, .valid (.fontSize ⟨some 12, none⟩)⟩,
  ⟨"touch", "Keep buttons large", some .warning, .valid (.elementSize ⟨44, 44⟩)⟩,
  ⟨"gap", "Keep distance", none, .valid (.spacing ⟨8, none⟩)⟩]

/-- A banner whose text is of unlimited size, which no text spells and no check refuses. -/
def banner : Canvas.Snapshot where
  selection := none
  trees := [.node { id := "banner", name := "Banner", kind := .text
                    characters := some "Sale", fontSize := some (.px (1 / 0)) } none none]

end Report

end CanvasLint
