import CanvasLint.Proofs.Outcome
import CanvasLint.Proofs.Text.Lines
import CanvasLint.Rule.Condition

/-! Why conditions cannot be used, on one line. What a complaint repeats of a value is a number or
stands in quotes, and the names in it are those of fields, so no text of a rule set can break it. -/
namespace CanvasLint

open Outcome (bind_eq_error)
open Text (OneLine)

namespace Json

variable {α β σ : Type} {m : Mismatch} {outcome : Except Mismatch α}
  {reader : Value → Except Mismatch α} {record : Record σ} {slots : List (Slot σ)} {name : String}

/-- If there is a complaint, it is on one line. -/
def Terse (outcome : Except Mismatch α) : Prop :=
  ∀ m, outcome = .error m → OneLine m.message

theorem terse_ok (a : α) : Terse (.ok a) := by
  intro m failed
  cases failed

theorem terse_error (oneLine : OneLine m.message) : Terse (.error m : Except Mismatch α) := by
  intro m' failed
  cases failed
  exact oneLine

theorem Terse.bind {next : α → Except Mismatch β} (first : Terse outcome)
    (later : ∀ a, Terse (next a)) : Terse (outcome >>= next) := by
  intro m failed
  rcases bind_eq_error.mp failed with failed | ⟨a, -, failed⟩
  · exact first m failed
  · exact later a m failed

theorem Terse.map {f : α → β} (terse : Terse outcome) : Terse (outcome.map f) := by
  cases outcome with
  | ok a => exact terse_ok _
  | error m => exact terse_error (terse m rfl)

/-! ### Values -/

theorem Found.oneLine_text (found : Found) : OneLine found.text := by
  cases found with
  | null => decide
  | bool b => cases b <;> decide
  | number n =>
    cases n with
    | natural n =>
      change OneLine ("integer `" ++ n.repr ++ "`")
      simp [OneLine]
    | negative n =>
      change OneLine ("integer `-" ++ n.repr ++ "`")
      simp [OneLine]
    | real x =>
      change OneLine ("floating point `" ++ (Number.json? x).getD "null" ++ "`")
      rcases shown : Number.json? x with _ | s
      · decide
      · simp [OneLine, Text.oneLine_json shown]
  | string s =>
    change OneLine ("string " ++ Text.quote s)
    simp [OneLine]
  | list => decide
  | object => decide

theorem terse_wrongType {expected : Expected} (plain : OneLine expected.phrase) (found : Found) :
    Terse (.error (.wrongType found expected) : Except Mismatch α) := by
  refine terse_error ?_
  change OneLine ("invalid type: " ++ found.text ++ ", expected " ++ expected.phrase)
  simp [OneLine, found.oneLine_text, plain]

theorem terse_asText (v : Value) : Terse v.asText := by
  cases v with
  | string s => exact terse_ok s
  | _ => exact terse_wrongType (by decide) _

theorem terse_asFloat (v : Value) : Terse v.asFloat := by
  cases v with
  | number n => exact terse_ok n.toFloat
  | _ => exact terse_wrongType (by decide) _

theorem terse_asBool (v : Value) : Terse v.asBool := by
  cases v with
  | bool b => exact terse_ok b
  | _ => exact terse_wrongType (by decide) _

theorem terse_orNull (terse : ∀ v, Terse (reader v)) (v : Value) : Terse (Value.orNull reader v) := by
  cases v with
  | null => exact terse_ok none
  | _ => exact (terse _).map

/-! ### Records -/

/-- The name of the field is on one line, and so is what its reader complains about. -/
structure Slot.Terse (slot : Slot σ) : Prop where
  named : OneLine slot.name
  fill : ∀ v draft, Json.Terse (slot.fill v draft)

structure Record.Terse (record : Record σ) : Prop where
  titled : OneLine record.title
  slots : ∀ slot ∈ record.slots, slot.Terse

theorem Slot.terse_of {aliases : List String} {get : σ → Option α} {put : α → σ → σ}
    (named : OneLine name) (terse : ∀ v, Json.Terse (reader v)) :
    (Slot.of name aliases get put reader).Terse where
  named := named
  fill v _ := (terse v).map

namespace Record

theorem terse_readMember (terse : record.Terse) (draft : σ) (member : String × Value) :
    Json.Terse (record.readMember draft member) := by
  unfold readMember
  split
  · exact terse_ok draft
  · rename_i slot found
    have known := terse.slots slot (List.mem_of_find?_eq_some found)
    split
    · refine terse_error ?_
      change OneLine ("duplicate field `" ++ slot.name ++ "`")
      simp [OneLine, known.named]
    · exact known.fill _ draft

theorem terse_foldlM (terse : record.Terse) (members : List (String × Value)) (draft : σ) :
    Json.Terse (members.foldlM record.readMember draft) := by
  induction members generalizing draft with
  | nil => exact terse_ok draft
  | cons member members ih =>
    rw [List.foldlM_cons]
    exact (terse_readMember terse draft member).bind ih

theorem terse_readItems (terse : ∀ slot ∈ slots, slot.Terse) (items : List Value) (draft : σ) :
    Json.Terse (readItems slots items draft) := by
  induction slots generalizing items draft with
  | nil => exact terse_ok draft
  | cons slot slots ih =>
    obtain ⟨first, rest⟩ := List.forall_mem_cons.mp terse
    cases items with
    | nil => exact terse_ok draft
    | cons v items => exact (first.fill v draft).bind (ih rest items)

theorem Terse.read (terse : record.Terse) (v : Value) : Json.Terse (record.read v) := by
  have expected : OneLine (Expected.record record.title).phrase := by
    change OneLine ("struct " ++ record.title)
    simp [OneLine, terse.titled]
  cases v with
  | object members => exact (terse_foldlM terse members record.empty).bind fun _ => terse_ok _
  | array items =>
    refine (terse_readItems terse.slots items record.empty).bind fun draft => ?_
    split
    · refine terse_error ?_
      change OneLine ("invalid length " ++ items.length.repr ++ ", expected " ++
        "fewer elements in array")
      simp [OneLine]
    · exact terse_ok _
  | _ => exact terse_wrongType expected _

theorem Terse.need (terse : record.Terse) (named : OneLine name) (form : Form) (index : Nat)
    (a? : Option α) : Json.Terse (record.need form index name a?) := by
  cases a? with
  | some a => exact terse_ok a
  | none =>
    refine terse_error ?_
    cases form with
    | named =>
      change OneLine ("missing field `" ++ name ++ "`")
      simp [OneLine, named]
    | listed =>
      have count : OneLine (Expected.fields record.title record.slots.length).phrase := by
        change OneLine ("struct " ++ record.title ++ " with " ++ record.slots.length.repr ++
          " element" ++ if record.slots.length = 1 then "" else "s")
        split <;> simp [OneLine, terse.titled]
      change OneLine ("invalid length " ++ index.repr ++ ", expected " ++
        (Expected.fields record.title record.slots.length).phrase)
      simp [OneLine, count]

end Record

end Json

/-! ### Conditions -/

namespace Requirement

open Json (Record Terse Value terse_asBool terse_asFloat terse_asText terse_ok terse_orNull)

variable {α β : Type} {title name field : String} {aliases : List String} {x : Float}
  {e : ParameterError}

theorem terse_oneField {read : Value → Except Json.Mismatch α} (titled : OneLine title)
    (named : OneLine name) (terse : ∀ v, Terse (read v)) :
    (oneField title name aliases read).Terse where
  titled := titled
  slots := List.forall_mem_singleton.mpr (Json.Slot.terse_of named terse)

theorem terse_twoFields {first : String × List String × (Value → Except Json.Mismatch α)}
    {second : String × List String × (Value → Except Json.Mismatch β)} (titled : OneLine title)
    (named : OneLine first.1) (named' : OneLine second.1) (terse : ∀ v, Terse (first.2.2 v))
    (terse' : ∀ v, Terse (second.2.2 v)) : (twoFields title first second).Terse where
  titled := titled
  slots := List.forall_mem_cons.mpr ⟨Json.Slot.terse_of named terse,
    List.forall_mem_singleton.mpr (Json.Slot.terse_of named' terse')⟩

theorem terse_read (kind : RuleKind) (v : Value) : Terse (read kind v) := by
  cases kind with
  | requiredText =>
    have record : textRecord.Terse :=
      terse_twoFields (by decide) (by decide) (by decide) terse_asText terse_asBool
    exact (record.read v).bind fun _ =>
      (record.need (by decide) _ _ _).bind fun _ => terse_ok _
  | fontSize =>
    have record : fontSizeRecord.Terse := terse_twoFields (by decide) (by decide) (by decide)
      (terse_orNull terse_asFloat) (terse_orNull terse_asFloat)
    exact (record.read v).bind fun _ => terse_ok _
  | colorContrast =>
    have record : contrastRecord.Terse := terse_oneField (by decide) (by decide) terse_asFloat
    exact (record.read v).bind fun _ => terse_ok _
  | requiredComponent =>
    have record : componentRecord.Terse := terse_oneField (by decide) (by decide) terse_asText
    exact (record.read v).bind fun _ =>
      (record.need (by decide) _ _ _).bind fun _ => terse_ok _
  | componentPresence =>
    have record : presenceRecord.Terse := terse_oneField (by decide) (by decide) terse_asText
    exact (record.read v).bind fun _ =>
      (record.need (by decide) _ _ _).bind fun _ => terse_ok _
  | elementSize =>
    have record : sizeRecord.Terse :=
      terse_twoFields (by decide) (by decide) (by decide) terse_asFloat terse_asFloat
    exact (record.read v).bind fun _ => (record.need (by decide) _ _ _).bind fun _ =>
      (record.need (by decide) _ _ _).bind fun _ => terse_ok _
  | labelPresence =>
    have record : labelRecord.Terse :=
      terse_oneField (by decide) (by decide) (terse_orNull terse_asText)
    exact (record.read v).bind fun _ => terse_ok _
  | textUniqueness =>
    have record : uniquenessRecord.Terse := terse_oneField (by decide) (by decide) terse_asText
    exact (record.read v).bind fun _ =>
      (record.need (by decide) _ _ _).bind fun _ => terse_ok _
  | headingPresence =>
    have record : headingRecord.Terse :=
      terse_oneField (by decide) (by decide) (terse_orNull terse_asText)
    exact (record.read v).bind fun _ => terse_ok _
  | altTextPresence =>
    have record : altTextRecord.Terse :=
      terse_oneField (by decide) (by decide) (terse_orNull terse_asText)
    exact (record.read v).bind fun _ => terse_ok _
  | elementAlignment =>
    have record : alignmentRecord.Terse :=
      terse_twoFields (by decide) (by decide) (by decide) terse_asText terse_asText
    exact (record.read v).bind fun _ => (record.need (by decide) _ _ _).bind fun _ =>
      (record.need (by decide) _ _ _).bind fun _ => terse_ok _
  | spacing =>
    have record : spacingRecord.Terse := terse_twoFields (by decide) (by decide) (by decide)
      terse_asFloat (terse_orNull terse_asFloat)
    exact (record.read v).bind fun _ => terse_ok _
  | imageAlt =>
    have record : imageRecord.Terse := ⟨by decide, List.forall_mem_nil _⟩
    exact (record.read v).bind fun _ => terse_ok _

theorem oneLine_negative (named : OneLine field) (x : Float) :
    OneLine (ParameterError.negative field x).message := by
  change OneLine ("`" ++ field ++ "` must be a non-negative number, got " ++ Number.plain x)
  simp [OneLine, named]

theorem oneLine_checkSize (named : OneLine field) (failed : checkSize field x = .error e) :
    OneLine e.message := by
  unfold checkSize at failed
  split at failed
  · cases failed
  · cases failed
    exact oneLine_negative named x

theorem oneLine_checkSize? {x? : Option Float} (named : OneLine field)
    (failed : checkSize? field x? = .error e) : OneLine e.message := by
  cases x? with
  | none => cases failed
  | some x => exact oneLine_checkSize named failed

theorem oneLine_validate {r : Requirement} (failed : r.validate = .error e) :
    OneLine e.message := by
  cases r with
  | fontSize r =>
    rcases bind_eq_error.mp failed with failed | ⟨_, -, failed⟩
    · exact oneLine_checkSize? (by decide) failed
    rcases bind_eq_error.mp failed with failed | ⟨_, -, failed⟩
    · exact oneLine_checkSize? (by decide) failed
    split at failed
    · rename_i min max _ _
      split at failed
      · cases failed
        change OneLine ("`minSize` (" ++ Number.plain min ++ ") is greater than `maxSize` (" ++
          Number.plain max ++ ")")
        simp [OneLine]
      · cases failed
    · cases failed
  | colorContrast r =>
    rw [validate] at failed
    split at failed
    · cases failed
    · cases failed
      change OneLine ("`minContrast` must be between 1 and 21, got " ++ Number.plain r.minContrast)
      simp [OneLine]
  | componentPresence r =>
    rw [validate] at failed
    split at failed
    · cases failed
      decide
    · cases failed
  | elementSize r =>
    rcases bind_eq_error.mp failed with failed | ⟨_, -, failed⟩
    · exact oneLine_checkSize (by decide) failed
    · exact oneLine_checkSize (by decide) failed
  | textUniqueness r =>
    rw [validate] at failed
    split at failed
    · cases failed
      decide
    · cases failed
  | spacing r =>
    rcases bind_eq_error.mp failed with failed | ⟨_, -, failed⟩
    · exact oneLine_checkSize (by decide) failed
    split at failed
    · rename_i max _
      split at failed
      · cases failed
        change OneLine ("`maxSpacing` (" ++ Number.plain max ++ ") must be at least `minSpacing` (" ++
          Number.plain r.min ++ ")")
        simp [OneLine]
      · cases failed
    · cases failed
  | _ => cases failed

end Requirement

theorem Condition.oneLine_reason {kind : RuleKind} {raw : Json.Value} {reason : ConditionError}
    (failed : requirement kind raw = .error reason) : OneLine reason.message := by
  unfold requirement at failed
  split at failed
  · rename_i m unread
    cases failed
    exact Requirement.terse_read kind raw m unread
  · split at failed
    · rename_i e senseless
      cases failed
      exact Requirement.oneLine_validate senseless
    · cases failed

end CanvasLint
