import CanvasLint.Json.Typed
import CanvasLint.Proofs.Json.FiniteNumbers

/-! What readers give, whatever the text. A property passes from the reader of a part to the reader
of the whole: from an item to a list, and from fields to a record if every field keeps what holds of
the draft. Numbers are finite wherever they stand. -/
namespace CanvasLint

open Text (Reader taken taken_eq_some)

variable {ε α β σ : Type} {holds : α → Prop} {keeps : β → Prop} {invariant : σ → Prop}

namespace Text.Reader

variable {r : Reader ε α}

/-- This holds of whatever the reader gives. -/
def Yields (r : Reader ε α) (holds : α → Prop) : Prop :=
  ∀ s a rest, taken (r s) = some (a, rest) → holds a

theorem Yields.of_ok (yields : r.Yields holds) {s : List Char} {a : α} {rest : Rest s}
    (read : r s = .ok (a, rest)) : holds a :=
  yields s a rest.1 (taken_eq_some.mpr ⟨rest.2, read⟩)

theorem yields_true (r : Reader ε α) : r.Yields fun _ => True :=
  fun _ _ _ _ => trivial

theorem Yields.map {f : α → β} (each : ∀ a, holds a → keeps (f a)) (yields : r.Yields holds) :
    (Reader.map f r).Yields keeps := by
  intro s b rest read
  rw [taken_map, Option.map_eq_some_iff] at read
  obtain ⟨⟨a, rest'⟩, given, same⟩ := read
  cases same
  exact each a (yields s a rest' given)

end Text.Reader

namespace Json

open Text.Reader (Yields)

variable {r : Reader Fault α}

theorem yields_pastSpace (yields : r.Yields holds) : (pastSpace r).Yields holds := by
  intro s a rest read
  rw [taken_pastSpace] at read
  exact yields _ a rest read

theorem of_readWhole (yields : r.Yields holds) {text : String} {a : α}
    (read : readWhole r text = .ok a) : holds a := by
  unfold readWhole at read
  split at read
  · cases read
  · rename_i a' rest given
    split at read
    · cases read
      exact yields.of_ok given
    · cases read

/-! ### Numbers -/

/-- A value that is a number is a finite one. -/
def Value.Finite (v : Value) : Prop :=
  ∀ n, v = .number n → n.toFloat.isFinite = true

theorem yields_readNumber : readNumber.Yields fun n => n.toFloat.isFinite = true := by
  intro s n rest read
  unfold readNumber at read
  split at read
  · cases read
  · split at read
    · rename_i value
      cases read
      exact Numeral.isFinite_value value
    · cases read

private theorem finite_of_ne {v : Value} (other : ∀ n, v ≠ .number n) : v.Finite :=
  fun n same => absurd same (other n)

private theorem yields_readScalar : readScalar.Yields Value.Finite := by
  have word (v : Value) (other : ∀ n, v ≠ .number n) (letters : List Char) (c : Char)
      (t : List Char) (a : Value) (rest : List Char)
      (read : taken (Layout.readLiteral v letters c t) = some (a, rest)) : a.Finite := by
    unfold Layout.readLiteral at read
    split at read
    · cases read
    · cases read
      exact finite_of_ne other
  intro s v rest read
  unfold readScalar at read
  split at read
  · cases read
  · exact word .null nofun _ _ _ _ _ read
  · exact word (.bool true) nofun _ _ _ _ _ read
  · exact word (.bool false) nofun _ _ _ _ _ read
  · rw [Reader.taken_behind] at read
    have text : (Reader.map Value.string Quoted.read).Yields Value.Finite :=
      (Reader.yields_true Quoted.read).map fun _ _ => finite_of_ne nofun
    exact text _ v rest read
  · split at read
    · have number : (Reader.map Value.number readNumber).Yields Value.Finite :=
        yields_readNumber.map fun n finite m same => by cases same; exact finite
      exact number _ v rest read
    · cases read

theorem yields_readNested (keep : Keeping) (budget : Nat) :
    (readNested keep budget).Yields Value.Finite := by
  have parts {γ : Type} (r : Reader Fault γ) (c : Char) (f : γ → Value)
      (other : ∀ a n, f a ≠ .number n) (t : List Char) (v : Value) (rest : List Char)
      (read : taken (Reader.behind c (Reader.map f r t)) = some (v, rest)) : v.Finite := by
    rw [Reader.taken_behind] at read
    exact (Reader.yields_true r).map (fun a _ => finite_of_ne (other a)) _ v rest read
  unfold readNested
  refine yields_pastSpace fun s v rest read => ?_
  split at read
  · split at read
    · cases read
    · exact parts _ _ _ nofun _ _ _ read
  · split at read
    · cases read
    · exact parts _ _ _ nofun _ _ _ read
  · exact yields_readScalar _ v rest read

/-! ### Values of a known shape -/

namespace Typed

theorem yields_orNull (yields : r.Yields holds) :
    (orNull r).Yields fun a? => ∀ a ∈ a?, holds a := by
  intro s a? rest read
  unfold orNull at read
  split at read
  · rw [Reader.taken_map, Option.map_eq_some_iff] at read
    obtain ⟨p, -, same⟩ := read
    cases same
    nofun
  · have given : (Reader.map some r).Yields fun a? => ∀ a ∈ a?, holds a :=
      yields.map fun a known b same => by cases same; exact known
    exact given s a? rest read

theorem yields_judged {judge : Value → Except Mismatch α} {budget : Nat}
    (each : ∀ v a, v.Finite → judge v = .ok a → holds a) : (judged budget judge).Yields holds := by
  intro s a rest read
  unfold judged at read
  split at read
  · cases read
  · rename_i v left given
    split at read
    · rename_i accepted
      cases read
      exact each v _ ((yields_readNested _ budget).of_ok given) accepted
    · cases read

theorem yields_list {budget : Nat} (yields : r.Yields holds) :
    (list budget r).Yields fun as => ∀ a ∈ as, holds a := by
  unfold list
  refine yields_pastSpace fun s as rest read => ?_
  split at read
  · split at read
    · cases read
    · rw [Reader.taken_behind] at read
      exact forall_of_readItems yields read
  · cases read

/-- What holds of a draft still holds when the field is read. -/
def Slot.Keeps (slot : Slot σ) (invariant : σ → Prop) : Prop :=
  ∀ draft, invariant draft → (slot.read draft).Yields invariant

theorem Slot.of_keeps {name : String} {get : σ → Option α} {put : α → σ → σ}
    (yields : r.Yields holds)
    (kept : ∀ a draft, holds a → invariant draft → invariant (put a draft)) :
    (Slot.of name get put r).Keeps invariant :=
  fun draft known => yields.map fun a given => kept a draft given known

variable {slots : List (Slot σ)} {draft : σ}

private theorem member_keeps (each : ∀ slot ∈ slots, slot.Keeps invariant)
    (known : invariant draft) {key : String} {reader : Reader Fault σ}
    (given : member slots draft key = .ok reader) : reader.Yields invariant := by
  unfold member at given
  split at given
  · cases given
    exact (Reader.yields_true _).map fun _ _ => known
  · rename_i slot found
    split at given
    · cases given
    · cases given
      exact each slot (List.mem_of_find?_eq_some found) draft known

private theorem yields_closeFields (known : invariant draft) :
    (closeFields draft).Yields invariant := by
  unfold closeFields
  refine yields_pastSpace fun s draft' rest read => ?_
  split at read
  · cases read
  · split at read
    · cases read
      exact known
    · split at read
      · split at read <;> cases read
      · cases read

private theorem yields_fields (each : ∀ slot ∈ slots, slot.Keeps invariant)
    (known : invariant draft) (first : Bool) : (fields slots first draft).Yields invariant := by
  induction slots generalizing draft first with
  | nil => exact yields_closeFields known
  | cons slot slots ih =>
    have later (slot' : Slot σ) (listed : slot' ∈ slots) : slot'.Keeps invariant :=
      each slot' (List.mem_cons_of_mem _ listed)
    -- one field and all that follow it
    have next {s : List Char} {draft' final : σ} {r : Text.Rest s} {rest : List Char}
        (given : slot.read draft s = .ok (draft', r))
        (read : taken (Reader.onRest (fields slots false draft') r) = some (final, rest)) :
        invariant final := by
      rw [Reader.taken_onRest] at read
      have kept : invariant draft' := (each slot List.mem_cons_self draft known).of_ok given
      exact ih later kept false _ final rest read
    unfold fields
    refine yields_pastSpace fun s final rest read => ?_
    split at read
    · cases read
    · dsimp only at read
      split at read
      · cases read
        exact known
      · split at read
        · split at read
          · cases read
          · rename_i draft' r given
            exact next given read
        · split at read
          · rw [Reader.taken_behind, Layout.afterComma, taken_pastSpace] at read
            generalize skipSpace _ = u at read
            split at read
            · cases read
            · split at read
              · cases read
              · split at read
                · cases read
                · rename_i draft' r given
                  exact next given read
          · cases read

/-- What holds of the empty draft and is kept by every field holds of the draft that the record is
made from. -/
theorem yields_record {budget : Nat} {title : String} {empty : σ}
    {finish : σ → Form → Except Mismatch α} (start : invariant empty)
    (each : ∀ slot ∈ slots, slot.Keeps invariant)
    (finished : ∀ draft form a, invariant draft → finish draft form = .ok a → holds a) :
    (record budget title slots empty finish).Yields holds := by
  have members : Yields (Layout.readMembers (member slots) true empty) invariant :=
    fun s final rest read => of_readMembers
      (fun draft key reader known given => member_keeps each known given) start read
  unfold record
  refine yields_pastSpace fun s a rest read => ?_
  split at read
  · split at read
    · cases read
    · rw [Reader.taken_behind] at read
      dsimp only at read
      split at read
      · cases read
      · rename_i draft r known
        split at read
        · rename_i made
          cases read
          exact finished draft _ _ ((yields_fields each start true).of_ok known) made
        · cases read
  · split at read
    · cases read
    · rw [Reader.taken_behind] at read
      dsimp only at read
      split at read
      · cases read
      · rename_i draft r known
        split at read
        · rename_i made
          cases read
          exact finished draft _ _ (members.of_ok known) made
        · cases read
  · cases read

end Typed

end Json

end CanvasLint
