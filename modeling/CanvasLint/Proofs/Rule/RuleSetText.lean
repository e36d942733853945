import CanvasLint.Proofs.Rule.ConditionText
import CanvasLint.Rule.RuleSet

/-! Rule sets and their text. -/
namespace CanvasLint

open Json (ReadsBack Value)
open Outcome (bind_eq_ok toOption_eq_some)

variable {e v w : Value} {es ws : List Value} {ms : List (String × Value)} {r : Rule}
  {rules : List Rule} {d d' : Rule.Draft} {index : Nat} {field text source source' : String}

namespace Rule

theorem required_eq_ok {given : Option String} : required field given = .ok text ↔
    given = some text ∧ Text.blank text = false := by
  cases given with
  | none => exact ⟨nofun, nofun⟩
  | some text' =>
    rw [required]
    cases blank : Text.blank text' with
    | true =>
      refine ⟨nofun, fun ⟨same, given⟩ => ?_⟩
      cases same
      rw [blank] at given
      cases given
    | false =>
      refine ⟨fun same => ?_, fun ⟨same, _⟩ => by cases same; rfl⟩
      cases same
      exact ⟨rfl, blank⟩

theorem ofDraft_eq_ok {id : String} (made : ofDraft id d = .ok r) :
    r.id = id ∧ Text.blank r.description = false ∧ ∃ type ms, Text.blank type = false ∧
      d.condition.join = some (.object ms) ∧ r.condition = .read type (.object ms) := by
  simp only [ofDraft, bind_eq_ok] at made
  obtain ⟨description, described, type, typed, rest⟩ := made
  obtain ⟨-, described⟩ := required_eq_ok.mp described
  obtain ⟨-, typed⟩ := required_eq_ok.mp typed
  split at rest
  · rename_i ms given
    obtain ⟨condition, same, rest⟩ := bind_eq_ok.mp rest
    cases same
    have whole : ∃ severity, r = ⟨id, description, severity, .read type (.object ms)⟩ := by
      split at rest
      · cases rest
        exact ⟨none, rfl⟩
      · split at rest
        · cases rest
          exact ⟨_, rfl⟩
        · cases rest
    obtain ⟨severity, rfl⟩ := whole
    exact ⟨rfl, described, type, ms, typed, given, rfl⟩
  · cases rest

private theorem exists_of_fill {σ α : Type} {name : String} {aliases : List String}
    {get : σ → Option α} {put : α → σ → σ} {read : Value → Except Json.Mismatch α} {draft draft' : σ}
    (filled : (Json.Slot.of name aliases get put read).fill v draft = .ok draft') :
    ∃ a, read v = .ok a ∧ draft' = put a draft := by
  change (read v).map _ = _ at filled
  cases value : read v with
  | error m =>
    rw [value] at filled
    cases filled
  | ok a =>
    rw [value] at filled
    exact ⟨a, rfl, (Except.ok.inj filled).symm⟩

/-- A member changes the condition of a draft to its own value or not at all. -/
private theorem condition_of_readMember {m : String × Value}
    (read : record.readMember d m = .ok d') (known : d'.condition.join = some v) :
    d.condition.join = some v ∨ m.2 = v := by
  unfold Json.Record.readMember at read
  cases found : record.slots.find? (·.answers m.1) with
  | none =>
    rw [found] at read
    cases read
    exact .inl known
  | some slot =>
    rw [found] at read
    dsimp only at read
    have listed := List.mem_of_find?_eq_some found
    split at read
    · cases read
    · simp only [record, List.mem_cons, List.not_mem_nil, or_false] at listed
      rcases listed with rfl | rfl | rfl | rfl | rfl
      all_goals obtain ⟨a, value, rfl⟩ := exists_of_fill read
      · exact .inl known
      · exact .inl known
      · exact .inl known
      · obtain rfl : a = some v := known
        right
        cases given : m.2 <;> rw [given] at value <;> cases value <;> rfl
      · exact .inl known

private theorem exists_member (read : ms.foldlM record.readMember d = .ok d')
    (known : d'.condition.join = some v) : d.condition.join = some v ∨ ∃ m ∈ ms, m.2 = v := by
  induction ms generalizing d with
  | nil =>
    cases read
    exact .inl known
  | cons m ms ih =>
    rw [List.foldlM_cons] at read
    obtain ⟨middle, first, others⟩ := bind_eq_ok.mp read
    rcases ih others with old | ⟨m', listed, same⟩
    · rcases condition_of_readMember first old with older | same
      · exact .inl older
      · exact .inr ⟨m, List.mem_cons_self, same⟩
    · exact .inr ⟨m', List.mem_cons_of_mem _ listed, same⟩

/-- What holds of a rule that was loaded: its texts say something, and its condition was given by
an object that a rule set can hold. -/
structure Loaded (r : Rule) : Prop where
  id : Text.blank r.id = false
  description : Text.blank r.description = false
  type : Text.blank r.condition.typeName = false
  given : ∃ ms, (Value.object ms).Fits 125 ∧ (Value.object ms).Sorted ∧
    r.condition = .read r.condition.typeName (.object ms)

theorem loaded_of_ofEntry (fits : e.Fits 126) (sorted : e.Sorted)
    (made : ofEntry index e = .ok r) : r.Loaded := by
  cases e with
  | object ms =>
    unfold ofEntry at made
    dsimp only at made
    split at made
    · cases made
    · rename_i d form read
      split at made
      · cases made
      · rename_i id named
        split at made
        · cases made
        · rename_i r' drafted
          cases made
          obtain ⟨-, named⟩ := required_eq_ok.mp named
          obtain ⟨rfl, described, type, ms', typed, given, condition⟩ := ofDraft_eq_ok drafted
          have members : ms.foldlM record.readMember {} = .ok d := by
            obtain ⟨d', done, same⟩ := bind_eq_ok.mp read
            cases same
            exact done
          obtain ⟨m, listed, same⟩ : ∃ m ∈ ms, m.2 = .object ms' :=
            (exists_member members given).resolve_left nofun
          have typeName : r.condition.typeName = type := by
            rw [condition, Condition.typeName_read]
          cases fits with
          | object fits =>
            cases sorted with
            | object ordered sorted =>
              refine ⟨named, described, typeName ▸ typed, ms', same ▸ fits m listed,
                same ▸ sorted m listed, ?_⟩
              rw [typeName, condition]
  | null => cases made
  | bool b => cases made
  | number n => cases made
  | string s => cases made
  | array vs => cases made

/-- The entry of a rule as it is read, with its members in order and this value in the place of the
condition. -/
private def orderedEntry (r : Rule) (condition : Value) : Value :=
  .object ([("condition", condition), ("description", .string r.description), ("id", .string r.id)]
    ++ Requirement.optional "severity" (fun s => .string (Severity.name s)) r.severity
    ++ [("type", .string r.condition.typeName)])

private theorem gather_entry (id description type condition severity : Value) :
    let four := [("id", id), ("description", description), ("type", type), ("condition", condition)]
    Json.gather [] four = [("condition", condition), ("description", description), ("id", id),
      ("type", type)] ∧
    Json.gather [] (four ++ [("severity", severity)]) = [("condition", condition),
      ("description", description), ("id", id), ("severity", severity), ("type", type)] := by
  constructor <;>
    simp +decide only [Json.gather, List.cons_append, List.nil_append, List.foldl_cons,
      List.foldl_nil, Value.insertMember, if_true, if_false]

private theorem reread?_entry (r : Rule) :
    r.entry.reread? = r.condition.write.reread?.map r.orderedEntry := by
  rw [entry, Value.reread?]
  cases reread : r.condition.write.reread? with
  | none =>
    cases r.severity <;> simp [Json.rereadMembers?, Requirement.optional, Value.reread?, reread]
  | some w =>
    obtain ⟨four, five⟩ := gather_entry (.string r.id) (.string r.description)
      (.string r.condition.typeName) w (.string ((r.severity.map Severity.name).getD ""))
    cases known : r.severity with
    | none =>
      simp [Json.rereadMembers?, Requirement.optional, Value.reread?, reread, four, orderedEntry,
        known]
    | some severity =>
      rw [known] at five
      simp [Json.rereadMembers?, Requirement.optional, Value.reread?, reread, orderedEntry, known]
      exact five

/-- An entry with these texts gives the rule with what is read from this condition. -/
private theorem Loaded.ofEntry_orderedEntry (loaded : r.Loaded) (ms : List (String × Value)) :
    ofEntry index (r.orderedEntry (.object ms)) =
      .ok ⟨r.id, r.description, r.severity, .read r.condition.typeName (.object ms)⟩ := by
  have read : record.read (r.orderedEntry (.object ms)) = .ok (⟨some (some r.id),
      some (some r.description), some (some r.condition.typeName), some (some (.object ms)),
      r.severity.map fun severity => some severity.name⟩, .named) := by
    unfold orderedEntry
    cases r.severity <;> rfl
  have said {field text : String} (given : Text.blank text = false) :
      required field (some text) = .ok text :=
    required_eq_ok.mpr ⟨rfl, given⟩
  have drafted : ofDraft r.id ⟨some (some r.id), some (some r.description),
      some (some r.condition.typeName), some (some (.object ms)),
      r.severity.map fun severity => some severity.name⟩ =
      .ok ⟨r.id, r.description, r.severity, .read r.condition.typeName (.object ms)⟩ := by
    simp only [ofDraft, Option.join_some, said loaded.description, said loaded.type]
    match r.severity with
    | none => rfl
    | some .warning => rfl
    | some .error => rfl
  rw [orderedEntry] at read ⊢
  unfold ofEntry
  simp only [read, Option.join_some, said loaded.id, drafted]

namespace Loaded

theorem sorted_condition (loaded : r.Loaded) : r.condition.write.Sorted := by
  obtain ⟨ms, -, sorted, given⟩ := loaded.given
  rw [given]
  exact Condition.sorted_write_read sorted _

theorem fits_entry (loaded : r.Loaded) : r.entry.Fits 126 := by
  obtain ⟨ms, fits, -, given⟩ := loaded.given
  have condition : r.condition.write.Fits 125 := by
    rw [given]
    exact Condition.fits_write_read fits _
  rw [entry]
  refine .object fun m listed => ?_
  rcases List.mem_append.mp listed with usual | listed
  · simp only [List.mem_cons, List.not_mem_nil, or_false] at usual
    rcases usual with rfl | rfl | rfl | rfl
    · exact .string _
    · exact .string _
    · exact .string _
    · exact condition
  · cases known : r.severity with
    | none =>
      rw [known] at listed
      cases listed
    | some severity =>
      rw [known] at listed
      obtain rfl := List.mem_singleton.mp listed
      exact .string _

/-- A rule comes back from its entry if and only if all floats of its condition come back from
their texts. -/
theorem comes_back_iff (loaded : r.Loaded) (index : Nat) :
    (∃ w, r.entry.reread? = some w ∧ ofEntry index w = .ok r) ↔
      ∀ x, r.condition.write.Holds x → ReadsBack x := by
  obtain ⟨ms, -, -, given⟩ := loaded.given
  rw [← loaded.sorted_condition.reread?_eq_self, reread?_entry]
  -- what is read for the condition is an object again, and decides what the condition is then
  have back {w : Value} (reread : r.condition.write.reread? = some w) :
      ofEntry index (r.orderedEntry w) = .ok r ↔ w = r.condition.write := by
    obtain ⟨ms', written⟩ := Condition.exists_write_read r.condition.typeName ms
    rw [← given] at written
    obtain ⟨ms'', rfl⟩ : ∃ ms'', w = .object ms'' := by
      rw [written, Value.reread?, Option.map_eq_some_iff] at reread
      obtain ⟨ms'', -, same⟩ := reread
      exact ⟨_, same.symm⟩
    have same : (Except.ok ⟨r.id, r.description, r.severity,
          .read r.condition.typeName (.object ms'')⟩ : Except RuleSetError Rule) = .ok r ↔
        Condition.read r.condition.typeName (.object ms'') = r.condition := by
      constructor
      · intro done
        exact congrArg Rule.condition (Except.ok.inj done)
      · intro done
        rw [done]
    rw [given] at reread
    rw [loaded.ofEntry_orderedEntry, same]
    have kept := Condition.read_reread_iff reread
    rwa [← given] at kept
  constructor
  · rintro ⟨w, reread, done⟩
    obtain ⟨w', condition, rfl⟩ := Option.map_eq_some_iff.mp reread
    rw [condition, (back condition).mp done]
  · intro same
    exact ⟨r.orderedEntry r.condition.write, by rw [same]; rfl, (back same).mpr rfl⟩

end Loaded

end Rule

/-! ### Lists of entries -/

namespace RuleSet

theorem loaded_of_ofEntries (sound : ∀ e ∈ es, e.Fits 126 ∧ e.Sorted)
    (made : ofEntries index es = .ok rules) : ∀ r ∈ rules, r.Loaded := by
  induction es generalizing index rules with
  | nil =>
    cases made
    exact fun r member => absurd member List.not_mem_nil
  | cons e es ih =>
    obtain ⟨r, first, rest⟩ := bind_eq_ok.mp made
    obtain ⟨rs, others, same⟩ := bind_eq_ok.mp rest
    cases same
    obtain ⟨fits, sorted⟩ := sound e List.mem_cons_self
    intro r' member
    rcases List.mem_cons.mp member with rfl | member
    · exact Rule.loaded_of_ofEntry fits sorted first
    · exact ih (fun e listed => sound e (List.mem_cons_of_mem _ listed)) others r' member

/-- Rules come back from their entries one by one. -/
theorem come_back_iff (loaded : ∀ r ∈ rules, r.Loaded) (index : Nat) :
    (∃ ws, Json.rereadItems? (rules.map Rule.entry) = some ws ∧ ofEntries index ws = .ok rules) ↔
      ∀ r ∈ rules, ∀ x, r.condition.write.Holds x → ReadsBack x := by
  induction rules generalizing index with
  | nil => exact ⟨fun _ r member => absurd member List.not_mem_nil, fun _ => ⟨[], rfl, rfl⟩⟩
  | cons r rules ih =>
    have first := (loaded r List.mem_cons_self).comes_back_iff index
    have others := ih (fun r' member => loaded r' (List.mem_cons_of_mem _ member)) (index + 1)
    rw [List.forall_mem_cons, ← first, ← others]
    constructor
    · rintro ⟨ws, reread, made⟩
      obtain ⟨w, entry, rest⟩ := Option.bind_eq_some_iff.mp reread
      obtain ⟨ws', entries, rfl⟩ := Option.map_eq_some_iff.mp rest
      obtain ⟨r', head, rest⟩ := bind_eq_ok.mp made
      obtain ⟨rs, tail, same⟩ := bind_eq_ok.mp rest
      cases same
      exact ⟨⟨w, entry, head⟩, ws', entries, tail⟩
    · rintro ⟨⟨w, entry, head⟩, ws, entries, tail⟩
      refine ⟨w :: ws, ?_, ?_⟩
      · rw [List.map_cons, Json.rereadItems?, entry, entries]
        rfl
      · rw [ofEntries, head]
        change (ofEntries (index + 1) ws >>= _) = _
        rw [tail]
        rfl

private theorem ofText_eq_ok : ofText source text = .ok rules ↔
    ∃ es, Value.ofText text = .ok (.array es) ∧ ofEntries 0 es = .ok rules := by
  rw [ofText]
  cases Value.ofText text with
  | error fault => exact ⟨nofun, fun ⟨_, same, _⟩ => nomatch same⟩
  | ok v =>
    dsimp only
    constructor
    · intro made
      cases v with
      | array es => exact ⟨es, rfl, made⟩
      | null => cases made
      | bool b => cases made
      | number n => cases made
      | string s => cases made
      | object ms => cases made
    · rintro ⟨es, same, made⟩
      cases same
      exact made

theorem loaded_of_ofText (loaded : ofText source text = .ok rules) : ∀ r ∈ rules, r.Loaded := by
  obtain ⟨es, read, made⟩ := ofText_eq_ok.mp loaded
  obtain ⟨fits, sorted⟩ := Json.fits_and_sorted_of_ofText read
  cases fits with
  | array fits =>
    cases sorted with
    | array sorted =>
      exact loaded_of_ofEntries (fun e listed => ⟨fits e listed, sorted e listed⟩) made

/-- A rule set that was loaded is loaded from its own text again, with the same rules in the same
order, if and only if every float in the written conditions comes back from its text. Nothing else
is lost on the way: neither texts nor whole numbers, nor values that no kind of rule can use. -/
theorem ofText_toText_iff (loaded : ofText source text = .ok rules) (source' : String) :
    ofText source' (toText rules) = .ok rules ↔
      ∀ r ∈ rules, ∀ x, r.condition.write.Holds x → ReadsBack x := by
  obtain ⟨es, read, made⟩ := ofText_eq_ok.mp loaded
  obtain ⟨fits, sorted⟩ := Json.fits_and_sorted_of_ofText read
  have sound : ∀ r ∈ rules, r.Loaded := loaded_of_ofText loaded
  have written : (Value.array (rules.map Rule.entry)).Fits Json.nestingLimit := by
    refine .array fun e listed => ?_
    obtain ⟨r, member, rfl⟩ := List.mem_map.mp listed
    exact (sound r member).fits_entry
  rw [← come_back_iff sound 0, ofText_eq_ok]
  refine exists_congr fun ws => and_congr_left fun _ => ?_
  rw [toText, ← toOption_eq_some, Json.ofText_indented written, Value.reread?,
    Option.map_eq_some_iff]
  simp

/-! ### One rule about sizes -/

/-- A rule set with one rule, which asks for texts of some size. -/
def sizeText (n : Nat) : String :=
  (Value.array [.object [("id", .string "size"), ("description", .string "Text is readable"),
    ("type", .string "font-size"), ("condition", .object [("minSize", .nat n)])]]).indented

def sizeRule (min : Float) : Rule :=
  ⟨"size", "Text is readable", none, .valid (.fontSize ⟨some min, none⟩)⟩

section Sizes

variable {n : Nat} {x y : Float}

private theorem read_size (given : v.asFloat = .ok x)
    (sound : Requirement.checkSize "minSize" x = .ok ()) :
    Condition.read "font-size" (.object [("minSize", v)]) =
      .valid (.fontSize ⟨some x, none⟩) := by
  have size : Value.orNull Value.asFloat v = .ok (some x) := by
    cases v <;> cases given
    rfl
  have read : Requirement.read .fontSize (.object [("minSize", v)]) =
      .ok (.fontSize ⟨some x, none⟩) := by
    have drafted : Requirement.fontSizeRecord.read (.object [("minSize", v)]) =
        .ok ((some (some x), none), .named) := by
      change (((Value.orNull Value.asFloat v).map _) >>= _) >>= _ = _
      rw [size]
      rfl
    rw [Requirement.read, drafted]
    rfl
  have valid : (Requirement.fontSize ⟨some x, none⟩).validate = .ok () := by
    rw [Requirement.validate, Requirement.checkSize?, sound]
    rfl
  exact Condition.read_eq_valid_iff.mpr ⟨read, valid⟩

private theorem loaded_sizeRule (sound : Requirement.checkSize "minSize" x = .ok ()) :
    (sizeRule x).Loaded where
  id := show Text.blank "size" = false by decide +kernel
  description := show Text.blank "Text is readable" = false by decide +kernel
  type := show Text.blank "font-size" = false by decide +kernel
  given := by
    refine ⟨[("minSize", .float x)], .object fun m listed => ?_,
      .object (List.pairwise_singleton _ _) fun m listed => ?_, (read_size rfl sound).symm⟩
    · rw [List.mem_singleton.mp listed]
      exact .number trivial
    · rw [List.mem_singleton.mp listed]
      exact .number _

theorem ofText_sizeText (whole : n ≤ Json.Numeral.largestWhole)
    (sound : Requirement.checkSize "minSize" (Float.ofNat n) = .ok ()) :
    ofText source (sizeText n) = .ok [sizeRule (Float.ofNat n)] := by
  have loaded := loaded_sizeRule sound
  refine ofText_eq_ok.mpr
    ⟨[(sizeRule (Float.ofNat n)).orderedEntry (.object [("minSize", .nat n)])], ?_, ?_⟩
  · rw [sizeText, ← toOption_eq_some, Json.ofText_indented]
    · obtain ⟨four, -⟩ := Rule.gather_entry (.string "size") (.string "Text is readable")
        (.string "font-size") (.object [("minSize", .nat n)]) .null
      simp only [Value.reread?, Value.nat, Json.rereadItems?, Json.rereadMembers?, Option.map_some,
        Option.bind_some]
      exact congrArg (fun ms => some (Value.array [.object ms])) four
    · refine .array fun e listed => List.mem_singleton.mp listed ▸ .object fun m listed => ?_
      simp only [List.mem_cons, List.not_mem_nil, or_false] at listed
      rcases listed with rfl | rfl | rfl | rfl
      · exact .string _
      · exact .string _
      · exact .string _
      · exact .object fun m listed => List.mem_singleton.mp listed ▸ .number whole
  · rw [ofEntries, loaded.ofEntry_orderedEntry]
    change Except.ok [(⟨"size", "Text is readable", none,
      .read "font-size" (.object [("minSize", .nat n)])⟩ : Rule)] = _
    rw [read_size rfl sound]
    rfl

theorem ofText_toText_sizeRule (sound : Requirement.checkSize "minSize" x = .ok ())
    (sound' : Requirement.checkSize "minSize" y = .ok ())
    (spelled : Json.floatOf? (Value.float x).indented = some y) :
    ofText source (toText [sizeRule x]) = .ok [sizeRule y] := by
  have loaded := loaded_sizeRule sound
  have condition : (sizeRule x).condition.write.reread? = some (.object [("minSize", .float y)]) := by
    change (Value.object [("minSize", .float x)]).reread? = _
    rw [Value.reread?, Json.rereadMembers?, Value.float, Value.reread?,
      Json.floatOf?_eq_some.mp spelled]
    rfl
  have fits : (Value.array [(sizeRule x).entry]).Fits Json.nestingLimit :=
    .array fun e listed => List.mem_singleton.mp listed ▸ loaded.fits_entry
  refine ofText_eq_ok.mpr ⟨[(sizeRule x).orderedEntry (.object [("minSize", .float y)])], ?_, ?_⟩
  · rw [toText, ← toOption_eq_some]
    refine (Json.ofText_indented fits).trans ?_
    simp only [Value.reread?, Json.rereadItems?, Rule.reread?_entry, condition, Option.map_some,
      Option.bind_some]
  · rw [ofEntries, loaded.ofEntry_orderedEntry]
    change Except.ok [(⟨"size", "Text is readable", none,
      .read "font-size" (.object [("minSize", .float y)])⟩ : Rule)] = _
    rw [read_size rfl sound']
    rfl

end Sizes

/-- A size of twelve comes back from its text, and with it the rule. -/
theorem ofText_toText_iff_twelve :
    ofText usualSource (sizeText 12) = .ok [sizeRule 12] ∧
      ofText usualSource (toText [sizeRule 12]) = .ok [sizeRule 12] := by
  have loaded : ofText usualSource (sizeText 12) = .ok [sizeRule 12] :=
    ofText_sizeText (by decide) rfl
  refine ⟨loaded, (ofText_toText_iff loaded usualSource).mpr fun r member x holds => ?_⟩
  obtain rfl := List.mem_singleton.mp member
  obtain rfl : x = 12 := by
    cases holds with
    | member listed inside =>
      obtain rfl := List.mem_singleton.mp listed
      cases inside
      rfl
  decide +kernel

/-- A size of 9007199254740991 does not. It is written as a float, with a place after the point and
so with seventeen digits, and the number that these make without the point is no float any more. -/
theorem toText_drifts :
    ofText usualSource (sizeText 9007199254740991) = .ok [sizeRule 9007199254740991] ∧
      ofText usualSource (toText [sizeRule 9007199254740991]) = .ok [sizeRule 9007199254740990] ∧
      [sizeRule 9007199254740990] ≠ [sizeRule 9007199254740991] := by
  have sound {x : Float} (size : (x.isFinite && x ≥ 0) = true) :
      Requirement.checkSize "minSize" x = .ok () := by
    rw [Requirement.checkSize, if_pos size]
  have given := sound (x := 9007199254740991) (by decide +kernel)
  have drifted := sound (x := 9007199254740990) (by decide +kernel)
  refine ⟨ofText_sizeText (by decide) given, ofText_toText_sizeRule given drifted ?_, ?_⟩
  · decide +kernel
  · simp only [sizeRule, ne_eq, List.cons.injEq, Rule.mk.injEq, Condition.valid.injEq,
      Requirement.fontSize.injEq, FontSizeRange.mk.injEq, Option.some.injEq, true_and, and_true]
    decide +kernel

end RuleSet

end CanvasLint
