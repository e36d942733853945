import CanvasLint.Proofs.Json.RoundTrip
import CanvasLint.Proofs.Outcome
import Mathlib.Data.List.Forall2
import Mathlib.Data.String.Basic

/-! Values that were read. Their numbers are in range, their brackets are not nested too deeply, and
the members of their objects are sorted; so writing them and reading them again changes nothing but
floats. -/
namespace CanvasLint.Json

open Text (Reader taken taken_eq_some)

variable {v w : Value} {vs ws : List Value} {ms ms' gathered : List (String × Value)} {budget : Nat}
  {s rest : List Char} {x : Float} {key : String}

/-! ### Members in order -/

/-- The keys come in order, and so none of them twice. -/
def Ordered (ms : List (String × Value)) : Prop :=
  (ms.map Prod.fst).Pairwise (· < ·)

instance (ms : List (String × Value)) : Decidable (Ordered ms) :=
  inferInstanceAs (Decidable (List.Pairwise _ _))

theorem mem_insertMember {m : String × Value} (member : m ∈ Value.insertMember key v ms) :
    m = (key, v) ∨ m ∈ ms := by
  induction ms with
  | nil => exact .inl (List.mem_singleton.mp member)
  | cons first ms ih =>
    rw [Value.insertMember] at member
    split at member
    · exact List.mem_cons.mp member
    · split at member
      · exact (List.mem_cons.mp member).imp_right (List.mem_cons_of_mem _)
      · rcases List.mem_cons.mp member with rfl | member
        · exact .inr List.mem_cons_self
        · exact (ih member).imp_right (List.mem_cons_of_mem _)

theorem Ordered.insertMember (ordered : Ordered ms) : Ordered (Value.insertMember key v ms) := by
  induction ms with
  | nil => exact List.pairwise_singleton _ _
  | cons first ms ih =>
    obtain ⟨front, back⟩ := List.pairwise_cons.mp ordered
    rw [Value.insertMember]
    split
    · rename_i before
      refine List.pairwise_cons.mpr ⟨fun k member => ?_, ordered⟩
      rcases List.mem_cons.mp member with rfl | member
      · exact before
      · exact before.trans (front k member)
    · rename_i notBefore
      split
      · rename_i same
        exact List.pairwise_cons.mpr ⟨fun k member => same ▸ front k member, back⟩
      · rename_i different
        have behind : first.1 < key := lt_of_le_of_ne (not_lt.mp notBefore) (Ne.symm different)
        refine List.pairwise_cons.mpr ⟨fun k member => ?_, ih back⟩
        obtain ⟨m, placed, rfl⟩ := List.mem_map.mp member
        rcases mem_insertMember placed with rfl | old
        · exact behind
        · exact front m.1 (List.mem_map_of_mem old)

/-- A member whose key comes after all others is put at the end. -/
theorem insertMember_eq_append (last : ∀ m ∈ ms, m.1 < key) :
    Value.insertMember key v ms = ms ++ [(key, v)] := by
  induction ms with
  | nil => rfl
  | cons first ms ih =>
    have behind : first.1 < key := last first List.mem_cons_self
    rw [Value.insertMember, if_neg behind.not_gt, if_neg behind.ne',
      ih fun m member => last m (List.mem_cons_of_mem _ member)]
    rfl

/-- Members that come in order keep their order. -/
theorem gather_eq_append (ordered : Ordered (gathered ++ ms)) : gather gathered ms = gathered ++ ms := by
  induction ms generalizing gathered with
  | nil => exact (List.append_nil gathered).symm
  | cons m ms ih =>
    have last : ∀ m' ∈ gathered, m'.1 < m.1 := by
      intro m' member
      rw [Ordered, List.map_append, List.pairwise_append] at ordered
      exact ordered.2.2 m'.1 (List.mem_map_of_mem member) m.1 List.mem_cons_self
    rw [gather, List.foldl_cons, insertMember_eq_append last]
    refine (ih ?_).trans ?_
    · rwa [List.append_assoc]
    · rw [List.append_assoc]
      rfl

theorem gather_eq_self (ordered : Ordered ms) : gather [] ms = ms :=
  gather_eq_append ordered

/-- Whoever wrote the value has put the members of its objects in order. -/
inductive Value.Sorted : Value → Prop
  | null : Sorted .null
  | bool (b : Bool) : Sorted (.bool b)
  | number (n : Number) : Sorted (.number n)
  | string (s : String) : Sorted (.string s)
  | array {vs : List Value} (inside : ∀ v ∈ vs, Sorted v) : Sorted (.array vs)
  | object {ms : List (String × Value)} (ordered : Ordered ms) (inside : ∀ m ∈ ms, Sorted m.2) :
      Sorted (.object ms)

/-! ### What becomes of a sorted value -/

/-- The float stands somewhere in the value. -/
inductive Value.Holds (x : Float) : Value → Prop
  | here : Holds x (.float x)
  | item {v : Value} {vs : List Value} (listed : v ∈ vs) (inside : Holds x v) : Holds x (.array vs)
  | member {m : String × Value} {ms : List (String × Value)} (listed : m ∈ ms)
      (inside : Holds x m.2) : Holds x (.object ms)

theorem readsBack_iff : ReadsBack x ↔ (Value.float x).reread? = some (.float x) := by
  rw [ReadsBack, Value.float, Value.reread?, Outcome.toOption_eq_some]
  rfl

theorem rereadItems?_eq_some : rereadItems? vs = some ws ↔
    List.Forall₂ (fun v w => v.reread? = some w) vs ws := by
  induction vs generalizing ws with
  | nil => rw [rereadItems?, Option.some.injEq, List.forall₂_nil_left_iff, eq_comm]
  | cons v vs ih =>
    simp only [rereadItems?, Option.bind_eq_some_iff, Option.map_eq_some_iff, ih,
      List.forall₂_cons_left_iff]
    constructor
    · rintro ⟨w, first, ws, others, rfl⟩
      exact ⟨w, ws, first, others, rfl⟩
    · rintro ⟨w, ws, first, others, rfl⟩
      exact ⟨w, first, ws, others, rfl⟩

theorem rereadMembers?_eq_some : rereadMembers? ms = some ms' ↔
    List.Forall₂ (fun m m' => m'.1 = m.1 ∧ m.2.reread? = some m'.2) ms ms' := by
  induction ms generalizing ms' with
  | nil => rw [rereadMembers?, Option.some.injEq, List.forall₂_nil_left_iff, eq_comm]
  | cons m ms ih =>
    simp only [rereadMembers?, Option.bind_eq_some_iff, Option.map_eq_some_iff, ih,
      List.forall₂_cons_left_iff]
    constructor
    · rintro ⟨w, first, ms', others, rfl⟩
      exact ⟨(m.1, w), ms', ⟨rfl, first⟩, others, rfl⟩
    · rintro ⟨m', ms', ⟨same, first⟩, others, rfl⟩
      exact ⟨m'.2, first, ms', others, by rw [← same]⟩

/-- Reading back changes no keys. -/
private theorem keys_of_rereadMembers? (reread : rereadMembers? ms = some ms') :
    ms'.map Prod.fst = ms.map Prod.fst := by
  have pairs := rereadMembers?_eq_some.mp reread
  induction pairs with
  | nil => rfl
  | cons pair others ih =>
    rw [List.map_cons, List.map_cons, pair.1, ih (rereadMembers?_eq_some.mpr others)]

/-- A list comes back if and only if its items do. -/
theorem reread?_array_eq_self : (Value.array vs).reread? = some (.array vs) ↔
    ∀ v ∈ vs, v.reread? = some v := by
  have same : (∀ v ∈ vs, v.reread? = some v) ↔ rereadItems? vs = some vs := by
    rw [rereadItems?_eq_some, List.forall₂_same]
  rw [same, Value.reread?, Option.map_eq_some_iff]
  simp

/-- An object whose members come in order is read as one with the same keys in the same order. -/
theorem reread?_object_eq_some (ordered : Ordered ms) : (Value.object ms).reread? = some w ↔
    ∃ ms', rereadMembers? ms = some ms' ∧ w = .object ms' := by
  rw [Value.reread?, Option.map_eq_some_iff]
  refine exists_congr fun ms' => and_congr_right fun reread => ?_
  have keys := keys_of_rereadMembers? reread
  rw [gather_eq_self (by rwa [Ordered, keys])]
  exact eq_comm

/-- An object whose members come in order comes back if and only if their values do. -/
theorem reread?_object_eq_self (ordered : Ordered ms) :
    (Value.object ms).reread? = some (.object ms) ↔ ∀ m ∈ ms, m.2.reread? = some m.2 := by
  have same : (∀ m ∈ ms, m.2.reread? = some m.2) ↔ rereadMembers? ms = some ms := by
    rw [rereadMembers?_eq_some, List.forall₂_same]
    simp
  rw [same, reread?_object_eq_some ordered]
  simp

/-- A sorted value comes back if and only if the floats in it do. -/
theorem Value.Sorted.reread?_eq_self (sorted : v.Sorted) :
    v.reread? = some v ↔ ∀ x, v.Holds x → ReadsBack x := by
  induction sorted with
  | null => exact ⟨fun _ _ holds => (nomatch holds), fun _ => rfl⟩
  | bool b => exact ⟨fun _ _ holds => (nomatch holds), fun _ => rfl⟩
  | string s => exact ⟨fun _ _ holds => (nomatch holds), fun _ => rfl⟩
  | number n =>
    match n with
    | .natural n => exact ⟨fun _ _ holds => (nomatch holds), fun _ => rfl⟩
    | .negative n => exact ⟨fun _ _ holds => (nomatch holds), fun _ => rfl⟩
    | .real y =>
      refine ⟨fun same x holds => ?_, fun back => readsBack_iff.mp (back y .here)⟩
      cases holds
      exact readsBack_iff.mpr same
  | array inside ih =>
    rw [reread?_array_eq_self]
    constructor
    · rintro same x (_ | ⟨listed, within⟩)
      exact (ih _ listed).mp (same _ listed) x within
    · intro back v listed
      exact (ih v listed).mpr fun x within => back x (.item listed within)
  | object ordered inside ih =>
    rw [reread?_object_eq_self ordered]
    constructor
    · rintro same x (_ | _ | ⟨listed, within⟩)
      exact (ih _ listed).mp (same _ listed) x within
    · intro back m listed
      exact (ih m listed).mpr fun x within => back x (.member listed within)

/-! ### What can be read -/

private theorem value_of_readLiteral {a : Value} {word : List Char} {c : Char}
    (read : taken (Layout.readLiteral a word c s) = some (v, rest)) : v = a := by
  rw [Layout.readLiteral] at read
  cases done : Layout.readWord word s with
  | error fault =>
    rw [done] at read
    cases read
  | ok left =>
    rw [done] at read
    cases read
    rfl

private theorem readable_of_readNumber {m : Number}
    (read : taken (readNumber s) = some (m, rest)) : m.Readable := by
  rw [readNumber] at read
  split at read
  · cases read
  · rename_i numeral left parsed
    cases known : numeral.value with
    | error unread =>
      rw [known] at read
      cases read
    | ok m' =>
      rw [known] at read
      cases read
      exact Numeral.value_readable known

private theorem of_readScalar (read : taken (readScalar s) = some (v, rest)) :
    v.Fits budget ∧ v.Sorted := by
  rw [readScalar.eq_def] at read
  split at read
  · cases read
  · obtain rfl := value_of_readLiteral read
    exact ⟨.null, .null⟩
  · obtain rfl := value_of_readLiteral read
    exact ⟨.bool true, .bool true⟩
  · obtain rfl := value_of_readLiteral read
    exact ⟨.bool false, .bool false⟩
  · rw [Reader.taken_behind, Reader.taken_map, Option.map_eq_some_iff] at read
    obtain ⟨p, -, same⟩ := read
    cases same
    exact ⟨.string _, .string _⟩
  · split at read
    · rw [Reader.taken_map, Option.map_eq_some_iff] at read
      obtain ⟨⟨m, left⟩, number, same⟩ := read
      cases same
      exact ⟨.number (readable_of_readNumber number), .number m⟩
    · cases read

/-- A value is read as a list, as an object or as a value without parts; the first two take one of
the brackets that may be opened. -/
private theorem readNested_cases {keep : Keeping}
    (read : taken (readNested keep budget s) = some (v, rest)) :
    (∃ inner t vs, budget = inner + 1 ∧ v = .array vs ∧
      taken (Layout.readItems (readNested keep inner) true t) = some (vs, rest)) ∨
    (∃ inner t ms, budget = inner + 1 ∧ v = .object ms ∧
      taken (Layout.readMembers (fun gathered key =>
        .ok (Reader.map (keep gathered key) (readNested keep inner))) true [] t) =
          some (ms, rest)) ∨
    ∃ t, taken (readScalar t) = some (v, rest) := by
  rw [readNested, taken_pastSpace] at read
  generalize skipSpace s = t at read
  cases t with
  | nil => cases budget <;> cases read
  | cons c t =>
    by_cases list : c = '['
    · subst list
      cases budget with
      | zero => cases read
      | succ inner =>
        change taken (Reader.behind '[' (Reader.map Value.array
          (Layout.readItems (readNested keep inner) true) t)) = _ at read
        rw [Reader.taken_behind, Reader.taken_map, Option.map_eq_some_iff] at read
        obtain ⟨⟨vs, left⟩, items, same⟩ := read
        cases same
        exact .inl ⟨inner, t, vs, rfl, rfl, items⟩
    · by_cases object : c = '\x7b'
      · subst object
        cases budget with
        | zero => cases read
        | succ inner =>
          change taken (Reader.behind '\x7b' (Reader.map Value.object
            (Layout.readMembers (fun gathered key =>
              .ok (Reader.map (keep gathered key) (readNested keep inner))) true []) t)) = _ at read
          rw [Reader.taken_behind, Reader.taken_map, Option.map_eq_some_iff] at read
          obtain ⟨⟨ms, left⟩, members, same⟩ := read
          cases same
          exact .inr (.inl ⟨inner, t, ms, rfl, rfl, members⟩)
      · refine .inr (.inr ⟨c :: t, ?_⟩)
        cases budget <;> simpa [list, object] using read

/-- The members that have been read so far are in order and fit themselves. -/
private def Gathered (budget : Nat) (ms : List (String × Value)) : Prop :=
  Ordered ms ∧ ∀ m ∈ ms, m.2.Fits budget ∧ m.2.Sorted

private theorem Gathered.insertMember (gathered : Gathered budget ms) (fits : v.Fits budget)
    (sorted : v.Sorted) : Gathered budget (Value.insertMember key v ms) := by
  refine ⟨gathered.1.insertMember, fun m member => ?_⟩
  rcases mem_insertMember member with rfl | old
  · exact ⟨fits, sorted⟩
  · exact gathered.2 m old

/-- Whatever is read is nested no deeper than allowed, and sorted. -/
theorem fits_and_sorted_of_readValue (read : taken (readValue budget s) = some (v, rest)) :
    v.Fits budget ∧ v.Sorted := by
  induction budget generalizing s v rest with
  | zero =>
    rcases readNested_cases read with ⟨inner, -, -, none, -⟩ | ⟨inner, -, -, none, -⟩ | ⟨t, scalar⟩
    · cases none
    · cases none
    · exact of_readScalar scalar
  | succ budget ih =>
    rcases readNested_cases read with ⟨inner, t, vs, same, rfl, items⟩ |
      ⟨inner, t, ms, same, rfl, members⟩ | ⟨t, scalar⟩
    · obtain rfl := Nat.succ.inj same
      have inside : ∀ v ∈ vs, v.Fits budget ∧ v.Sorted :=
        forall_of_readItems (fun s v rest given => ih given) items
      exact ⟨.array fun v listed => (inside v listed).1, .array fun v listed => (inside v listed).2⟩
    · obtain rfl := Nat.succ.inj same
      have gathered : Gathered budget ms := by
        refine of_readMembers (fun state key r kept known s state' rest placed => ?_)
          ⟨List.Pairwise.nil, fun m member => absurd member List.not_mem_nil⟩ members
        cases known
        rw [Reader.taken_map, Option.map_eq_some_iff] at placed
        obtain ⟨⟨w, left⟩, value, same⟩ := placed
        cases same
        obtain ⟨fits, sorted⟩ := ih value
        exact kept.insertMember fits sorted
      exact ⟨.object fun m listed => (gathered.2 m listed).1,
        .object gathered.1 fun m listed => (gathered.2 m listed).2⟩
    · exact of_readScalar scalar

/-- A written value, read on its own. -/
theorem ofText_indented (fits : v.Fits nestingLimit) :
    (Value.ofText v.indented).toOption = v.reread? := by
  refine readWhole_toOption ?_
  rw [Value.indented, String.toList_ofList, ← List.append_nil (v.write .indented 0)]
  exact taken_readValue_write Style.sparse_indented fits 0 [] delimited_nil

theorem fits_and_sorted_of_ofText {text : String} (read : Value.ofText text = .ok v) :
    v.Fits nestingLimit ∧ v.Sorted := by
  rw [Value.ofText, readWhole] at read
  split at read
  · cases read
  · rename_i a left found
    split at read
    · cases read
      exact fits_and_sorted_of_readValue (taken_eq_some.mpr ⟨left.2, found⟩)
    · cases read

end CanvasLint.Json
