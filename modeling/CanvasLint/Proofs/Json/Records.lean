import CanvasLint.Json.Record
import CanvasLint.Proofs.Json.RoundTrip
import CanvasLint.Proofs.Outcome
import Mathlib.Data.List.Nodup
import Mathlib.Data.List.Pairwise

/-! Which record is taken from an object. Members that no field answers to do not matter, nor does
it matter which of its names a field is given by. The order of the members may decide what is
complained about, but not whether something is, nor what the record is. A field that is given twice
is always complained about. -/
namespace CanvasLint.Json

variable {σ α β : Type} {r : Record σ} {slot slot' : Slot σ} {draft draft' final : σ}
  {m n : String × Value} {ms ns gathered : List (String × Value)} {key : String} {value : Value}

/-! ### Fields -/

/-- Two fields that are held in different places of a draft. -/
structure Slot.Apart (slot slot' : Slot σ) : Prop where
  kept : ∀ {v draft draft'}, slot.fill v draft = .ok draft' →
    slot'.taken draft' = slot'.taken draft
  kept' : ∀ {v draft draft'}, slot'.fill v draft = .ok draft' →
    slot.taken draft' = slot.taken draft
  swap : ∀ {v w draft final}, (slot.fill v draft >>= slot'.fill w) = .ok final ↔
    (slot'.fill w draft >>= slot.fill v) = .ok final

instance : Std.Symm (Slot.Apart (σ := σ)) where
  symm _ _ apart := ⟨apart.kept', apart.kept, apart.swap.symm⟩

theorem Slot.of_fill_eq_ok {name : String} {aliases : List String} {get : σ → Option α}
    {put : α → σ → σ} {read : Value → Except Mismatch α} :
    (Slot.of name aliases get put read).fill value draft = .ok draft' ↔
      ∃ a, read value = .ok a ∧ put a draft = draft' := by
  rw [of]
  dsimp only
  cases read value with
  | error m => exact ⟨nofun, nofun⟩
  | ok a => exact ⟨fun same => ⟨a, rfl, Except.ok.inj same⟩, fun ⟨_, same, filled⟩ => by
      cases same
      exact congrArg Except.ok filled⟩

/-- Fields whose places in a draft are independent of each other. -/
theorem Slot.apart_of {name name' : String} {aliases aliases' : List String} {get : σ → Option α}
    {put : α → σ → σ} {read : Value → Except Mismatch α} {get' : σ → Option β} {put' : β → σ → σ}
    {read' : Value → Except Mismatch β} (kept : ∀ a d, get' (put a d) = get' d)
    (kept' : ∀ b d, get (put' b d) = get d)
    (swap : ∀ a b d, put' b (put a d) = put a (put' b d)) :
    (Slot.of name aliases get put read).Apart (Slot.of name' aliases' get' put' read') where
  kept filled := by
    obtain ⟨a, -, rfl⟩ := Slot.of_fill_eq_ok.mp filled
    exact congrArg Option.isSome (kept a _)
  kept' filled := by
    obtain ⟨b, -, rfl⟩ := Slot.of_fill_eq_ok.mp filled
    exact congrArg Option.isSome (kept' b _)
  swap := by
    intro v w draft final
    simp only [Outcome.bind_eq_ok, Slot.of_fill_eq_ok]
    constructor
    · rintro ⟨_, ⟨a, known, rfl⟩, b, known', rfl⟩
      exact ⟨_, ⟨b, known', rfl⟩, a, known, (swap a b _).symm⟩
    · rintro ⟨_, ⟨b, known', rfl⟩, a, known, rfl⟩
      exact ⟨_, ⟨a, known, rfl⟩, b, known', swap a b _⟩

namespace Record

/-- What is put into a field stays there, and no other field is touched. -/
structure Orderly (r : Record σ) : Prop where
  taken : ∀ slot ∈ r.slots, ∀ {v draft draft'}, slot.fill v draft = .ok draft' →
    slot.taken draft' = true
  apart : r.slots.Pairwise Slot.Apart

/-- The field that answers to a key. -/
def slot? (r : Record σ) (key : String) : Option (Slot σ) :=
  r.slots.find? (·.answers key)

/-- The members that a field answers to. -/
def answered (r : Record σ) (ms : List (String × Value)) : List (String × Value) :=
  ms.filter fun m => (r.slot? m.1).isSome

/-! ### One member -/

theorem readMember_of_none (unknown : r.slot? m.1 = none) : r.readMember draft m = .ok draft := by
  rw [slot?] at unknown
  rw [readMember, unknown]

theorem readMember_eq_ok (known : r.slot? m.1 = some slot) : r.readMember draft m = .ok draft' ↔
    slot.taken draft = false ∧ slot.fill m.2 draft = .ok draft' := by
  rw [slot?] at known
  rw [readMember, known]
  dsimp only
  cases slot.taken draft with
  | true => exact ⟨nofun, nofun⟩
  | false => exact ⟨fun filled => ⟨rfl, filled⟩, fun filled => filled.2⟩

theorem readMember_congr (known : r.slot? m.1 = r.slot? n.1) (same : m.2 = n.2) :
    r.readMember draft m = r.readMember draft n := by
  rw [slot?, slot?] at known
  rw [readMember, readMember, known, same]

private theorem Orderly.swap (orderly : r.Orderly)
    (read : (r.readMember draft m >>= (r.readMember · n)) = .ok final) :
    (r.readMember draft n >>= (r.readMember · m)) = .ok final := by
  rw [Outcome.bind_eq_ok] at read ⊢
  obtain ⟨draft', first, second⟩ := read
  cases known : r.slot? m.1 with
  | none =>
    rw [readMember_of_none known] at first
    cases first
    exact ⟨final, second, readMember_of_none known⟩
  | some slot =>
    cases known' : r.slot? n.1 with
    | none =>
      rw [readMember_of_none known'] at second
      cases second
      exact ⟨draft, readMember_of_none known', first⟩
    | some slot' =>
      obtain ⟨free, filled⟩ := (readMember_eq_ok known).mp first
      obtain ⟨free', filled'⟩ := (readMember_eq_ok known').mp second
      have listed : slot ∈ r.slots := List.mem_of_find?_eq_some known
      have listed' : slot' ∈ r.slots := List.mem_of_find?_eq_some known'
      by_cases same : slot = slot'
      · -- a field is taken as soon as it is given
        rw [← same, orderly.taken slot listed filled] at free'
        cases free'
      · have apart : slot.Apart slot' := orderly.apart.forall listed listed' same
        obtain ⟨draft'', refilled', refilled⟩ := Outcome.bind_eq_ok.mp
          (apart.swap.mp (Outcome.bind_eq_ok.mpr ⟨draft', filled, filled'⟩))
        refine ⟨draft'', (readMember_eq_ok known').mpr ⟨?_, refilled'⟩,
          (readMember_eq_ok known).mpr ⟨?_, refilled⟩⟩
        · rw [← apart.kept filled, free']
        · rw [apart.kept' refilled', free]

/-! ### All members -/

/-- The order of the members does not matter. -/
theorem Orderly.foldlM_perm (orderly : r.Orderly) (perm : ms.Perm ns) :
    ms.foldlM r.readMember draft = .ok final ↔ ns.foldlM r.readMember draft = .ok final := by
  induction perm generalizing draft with
  | nil => rfl
  | cons m _ ih =>
    rw [List.foldlM_cons, List.foldlM_cons, Outcome.bind_eq_ok, Outcome.bind_eq_ok]
    exact exists_congr fun draft' => and_congr_right fun _ => ih
  | swap m n ms =>
    simp only [List.foldlM_cons]
    rw [← bind_assoc, ← bind_assoc, Outcome.bind_eq_ok, Outcome.bind_eq_ok]
    exact exists_congr fun draft' => and_congr_left fun _ => ⟨orderly.swap, orderly.swap⟩
  | trans _ _ ih ih' => exact ih.trans ih'

/-- Members that no field answers to are passed over. -/
theorem foldlM_answered (r : Record σ) (ms : List (String × Value)) (draft : σ) :
    (r.answered ms).foldlM r.readMember draft = ms.foldlM r.readMember draft := by
  induction ms generalizing draft with
  | nil => rfl
  | cons m ms ih =>
    rw [answered, List.filter_cons]
    cases known : r.slot? m.1 with
    | none =>
      rw [List.foldlM_cons, readMember_of_none known]
      exact ih draft
    | some slot =>
      simp only [Option.isSome_some, if_true, List.foldlM_cons]
      exact bind_congr ih

theorem Orderly.read_object (orderly : r.Orderly) (perm : (r.answered ms).Perm (r.answered ns))
    {outcome : σ × Form} :
    r.read (.object ms) = .ok outcome ↔ r.read (.object ns) = .ok outcome := by
  simp only [read, Outcome.bind_eq_ok]
  refine exists_congr fun draft => and_congr_left fun _ => ?_
  rw [← foldlM_answered r ms, ← foldlM_answered r ns]
  exact orderly.foldlM_perm perm

/-- A field may be given by any key that it answers to. -/
theorem read_object_rename {rename : String → String}
    (same : ∀ key, r.slot? (rename key) = r.slot? key) (ms : List (String × Value)) :
    r.read (.object (ms.map fun m => (rename m.1, m.2))) = r.read (.object ms) := by
  have members (draft : σ) (m : String × Value) :
      r.readMember draft (rename m.1, m.2) = r.readMember draft m :=
    readMember_congr (same m.1) rfl
  rw [read, read, List.foldlM_map]
  simp only [members]

private theorem exists_perm_of_mem (listed : m ∈ ms) (listed' : n ∈ ms) (different : n ≠ m) :
    ∃ rest, ms.Perm (m :: n :: rest) := by
  obtain ⟨front, back, rfl⟩ := List.append_of_mem listed
  have other : n ∈ front ++ back := by
    simpa only [List.mem_append, List.mem_cons, different, false_or] using listed'
  obtain ⟨front', back', split⟩ := List.append_of_mem other
  refine ⟨front' ++ back', List.perm_middle.trans (.cons m ?_)⟩
  rw [split]
  exact List.perm_middle

/-- No field may be given twice, not even by different keys. -/
theorem Orderly.read_object_ne_ok (orderly : r.Orderly) (known : r.slot? m.1 = some slot)
    (known' : r.slot? n.1 = some slot) (listed : m ∈ ms) (listed' : n ∈ ms) (different : n ≠ m)
    (outcome : σ × Form) : r.read (.object ms) ≠ .ok outcome := by
  intro done
  obtain ⟨final, gathered, -⟩ := Outcome.bind_eq_ok.mp done
  obtain ⟨rest, perm⟩ := exists_perm_of_mem listed listed' different
  rw [orderly.foldlM_perm perm, List.foldlM_cons] at gathered
  obtain ⟨draft, first, others⟩ := Outcome.bind_eq_ok.mp gathered
  rw [List.foldlM_cons] at others
  obtain ⟨draft', second, -⟩ := Outcome.bind_eq_ok.mp others
  have free := ((readMember_eq_ok known').mp second).1
  have filled := ((readMember_eq_ok known).mp first).2
  rw [orderly.taken slot (List.mem_of_find?_eq_some known) filled] at free
  cases free

end Record

/-! ### Members put in order -/

theorem filter_insertMember_perm {p : String → Bool}
    (fresh : p key = true → key ∉ ms.map Prod.fst) :
    ((Value.insertMember key value ms).filter (p ·.1)).Perm
      (((key, value) :: ms).filter (p ·.1)) := by
  induction ms with
  | nil => exact .refl _
  | cons m ms ih =>
    rw [Value.insertMember]
    split
    · exact .refl _
    · split
      · rename_i same
        have unwanted : p key = false := Bool.eq_false_iff.mpr fun wanted =>
          fresh wanted (same ▸ List.mem_cons_self)
        rw [List.filter_cons_of_neg (by simp [unwanted]),
          List.filter_cons_of_neg (by simp [unwanted]),
          List.filter_cons_of_neg (by simp [← same, unwanted])]
      · have ih := ih fun wanted listed => fresh wanted (List.mem_cons_of_mem _ listed)
        refine .trans ?_ ((List.Perm.swap (key, value) m ms).filter _)
        rw [List.filter_cons, @List.filter_cons _ m ((key, value) :: ms)]
        split
        · exact ih.cons _
        · exact ih

/-- Members of different keys are all kept when they are put in order. -/
theorem filter_gather_perm {p : String → Bool}
    (distinct : (((gathered ++ ms).filter (p ·.1)).map Prod.fst).Nodup) :
    ((gather gathered ms).filter (p ·.1)).Perm ((gathered ++ ms).filter (p ·.1)) := by
  induction ms generalizing gathered with
  | nil => rw [List.append_nil]; exact .refl _
  | cons m ms ih =>
    have placed : ((Value.insertMember m.1 m.2 gathered ++ ms).filter (p ·.1)).Perm
        ((gathered ++ m :: ms).filter (p ·.1)) := by
      refine .trans ?_ (List.perm_middle.symm.filter _)
      rw [List.filter_append, ← List.cons_append, List.filter_append]
      refine (filter_insertMember_perm fun wanted listed => ?_).append_right _
      obtain ⟨old, member, same⟩ := List.mem_map.mp listed
      rw [List.filter_append, List.map_append, List.nodup_append] at distinct
      refine distinct.2.2 m.1 ?_ m.1 ?_ rfl
      · rw [← same]
        exact List.mem_map_of_mem (List.mem_filter.mpr ⟨member, same ▸ wanted⟩)
      · exact List.mem_map_of_mem (List.mem_filter.mpr ⟨List.mem_cons_self, wanted⟩)
    exact (ih ((placed.map _).nodup_iff.mpr distinct)).trans placed

/-- Members that are put in order give the same record, if no key is used twice for a field. -/
theorem Record.Orderly.read_object_gather (orderly : r.Orderly)
    (distinct : ((r.answered ms).map Prod.fst).Nodup) {outcome : σ × Form} :
    r.read (.object (gather [] ms)) = .ok outcome ↔ r.read (.object ms) = .ok outcome :=
  have placed : (r.answered (gather [] ms)).Perm (r.answered ([] ++ ms)) :=
    filter_gather_perm (p := fun key => (r.slot? key).isSome) distinct
  orderly.read_object placed

end CanvasLint.Json
