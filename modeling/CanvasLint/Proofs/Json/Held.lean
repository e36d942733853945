import CanvasLint.Proofs.Json.Records

/-! Values that are held in memory and not written as a text. The members of their objects are in
order, and a number that is not finite is `null`; otherwise they are what was built. A record is read
from such a value as from its members one by one. -/
namespace CanvasLint.Json

variable {σ α β : Type} {r : Record σ} {draft draft' : σ} {name : String} {aliases : List String}
  {get : σ → Option α} {put : α → σ → σ} {read : Value → Except Mismatch α}
  {ms ns : List (String × Value)}

mutual

/-- How a value that was built for output is held. -/
def Value.held : Value → Value
  | .number (.real x) => if x.isFinite then .float x else .null
  | .array vs => .array (heldItems vs)
  | .object ms => .object (gather [] (heldMembers ms))
  | v => v

def heldItems : List Value → List Value
  | [] => []
  | v :: vs => v.held :: heldItems vs

def heldMembers : List (String × Value) → List (String × Value)
  | [] => []
  | (key, v) :: ms => (key, v.held) :: heldMembers ms

end

theorem heldItems_eq_map (vs : List Value) : heldItems vs = vs.map Value.held := by
  induction vs with
  | nil => rfl
  | cons v vs ih => rw [heldItems, ih, List.map_cons]

theorem heldMembers_append (ms ns : List (String × Value)) :
    heldMembers (ms ++ ns) = heldMembers ms ++ heldMembers ns := by
  induction ms with
  | nil => rfl
  | cons m ms ih => rw [List.cons_append, heldMembers, ih, heldMembers, List.cons_append]

theorem map_fst_heldMembers (ms : List (String × Value)) :
    (heldMembers ms).map Prod.fst = ms.map Prod.fst := by
  induction ms with
  | nil => rfl
  | cons m ms ih => rw [heldMembers, List.map_cons, List.map_cons, ih]

/-! ### Records -/

namespace Record

/-- One more member that a field answers to and that fits the field. -/
theorem readMember_of (known : r.slot? name = some (.of name aliases get put read))
    (free : get draft = none) {v : Value} {a : α} (fits : read v = .ok a) :
    r.readMember draft (name, v) = .ok (put a draft) := by
  have empty : (get draft).isSome = false := by rw [free, Option.isSome_none]
  exact (readMember_eq_ok known).mpr ⟨empty, Slot.of_fill_eq_ok.mpr ⟨a, fits, rfl⟩⟩

/-- A record is read from an object that is held in memory if it is read from the members as they
come and no key comes twice. -/
theorem Orderly.read_held (orderly : r.Orderly) (distinct : (ms.map Prod.fst).Nodup)
    (gathered : (heldMembers ms).foldlM r.readMember r.empty = .ok draft) :
    r.read (Value.object ms).held = .ok (draft, .named) := by
  rw [Value.held]
  refine (orderly.read_object_gather ?_).mpr (Outcome.bind_eq_ok.mpr ⟨draft, gathered, rfl⟩)
  rw [← map_fst_heldMembers] at distinct
  exact distinct.sublist (List.filter_sublist.map Prod.fst)

end Record

end CanvasLint.Json
