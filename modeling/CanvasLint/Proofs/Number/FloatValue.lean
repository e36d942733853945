import CanvasLint.Number.Dyadic
import Mathlib.Data.EReal.Basic

/-! The numbers that floats stand for. A float is a number of the extended line, unless it is not a
number at all; its significand has fifty-three bits, and leading zeros only at the least exponent.
So floats compare as their numbers do. -/
namespace CanvasLint.Number

open Float.Model (Format UnpackedFloat)
open Float.Model.UnpackedFloat (Sign)

variable {m m' : ℕ} {e e' : ℤ} {s s' : Sign} {u v : UnpackedFloat} {a b : EReal} {x y z : Float}

/-- The sign as a factor. -/
def factor : Sign → ℝ
  | .positive => 1
  | .negative => -1

/-- The number with this significand and this exponent. -/
noncomputable def scaled (m : ℕ) (e : ℤ) : ℝ :=
  m * (2 : ℕ) ^ e

/-- The significand has room for all bits, and uses it unless the exponent is the least one. -/
structure Canonical (m : ℕ) (e : ℤ) : Prop where
  fits : m < 2 ^ 53
  bounded : -1074 ≤ e
  full : 2 ^ 52 ≤ m ∨ e = -1074

/-- The number that an unpacked float stands for. -/
noncomputable def numberOf? : UnpackedFloat → Option EReal
  | .notANumber => none
  | .infinity .positive => some ⊤
  | .infinity .negative => some ⊥
  | .zero _ => some (0 : ℝ)
  | .finite s m e _ => some (factor s * scaled m e : ℝ)

theorem numberOf?_zero (s : Sign) : numberOf? (.zero s) = some ((0 : ℝ) : EReal) := rfl

theorem numberOf?_finite (s : Sign) (pos : 0 < m) :
    numberOf? (.finite s m e pos) = some ((factor s * scaled m e : ℝ) : EReal) := rfl

/-- The number that a float stands for. -/
noncomputable def number? (x : Float) : Option EReal :=
  numberOf? x.toModel.unpack

/-! ### Order -/

theorem scaled_eq (m : ℕ) (e : ℤ) : scaled m e = m * 2 ^ e := by
  rw [scaled, Nat.cast_ofNat]

theorem scaled_zero (e : ℤ) : scaled 0 e = 0 := by
  rw [scaled, Nat.cast_zero, zero_mul]

theorem scaled_pos (positive : 0 < m) : 0 < scaled m e := by
  rw [scaled_eq]
  exact mul_pos (Nat.cast_pos.mpr positive) (zpow_pos two_pos e)

theorem scaled_nonneg : 0 ≤ scaled m e := by
  rw [scaled_eq]
  exact mul_nonneg (Nat.cast_nonneg m) (zpow_pos two_pos e).le

theorem scaled_le_scaled : scaled m e ≤ scaled m' e ↔ m ≤ m' := by
  rw [scaled_eq, scaled_eq, mul_le_mul_iff_of_pos_right (zpow_pos two_pos e), Nat.cast_le]

theorem scaled_lt_scaled : scaled m e < scaled m' e ↔ m < m' :=
  lt_iff_lt_of_le_iff_le scaled_le_scaled

theorem scaled_two_pow (k : ℕ) (e : ℤ) : scaled (2 ^ k) e = 2 ^ (k + e) := by
  rw [scaled_eq, Nat.cast_pow, Nat.cast_ofNat, ← zpow_natCast, ← zpow_add₀ two_ne_zero]

theorem scaled_lt_zpow (fits : m < 2 ^ 53) : scaled m e < 2 ^ (53 + e) :=
  (scaled_lt_scaled.mpr fits).trans_eq (scaled_two_pow 53 e)

theorem zpow_le_scaled (full : 2 ^ 52 ≤ m) : 2 ^ (52 + e) ≤ scaled m e :=
  (scaled_two_pow 52 e).symm.trans_le (scaled_le_scaled.mpr full)

theorem scaled_lt_zpow_log2 : scaled m e < 2 ^ (m.log2 + 1 + e) :=
  (scaled_lt_scaled.mpr Nat.lt_log2_self).trans_eq (scaled_two_pow (m.log2 + 1) e)

theorem zpow_log2_le_scaled (pos : 0 < m) : 2 ^ (m.log2 + e) ≤ scaled m e :=
  (scaled_two_pow m.log2 e).symm.trans_le (scaled_le_scaled.mpr (Nat.log2_self_le pos.ne'))

/-- Of two significands with their exponents, that with the larger exponent is larger. -/
theorem Canonical.scaled_lt (c : Canonical m e) (c' : Canonical m' e') (below : e < e') :
    scaled m e < scaled m' e' := by
  have full : 2 ^ 52 ≤ m' := c'.full.resolve_right fun least => by
    have := c.bounded
    omega
  calc scaled m e < 2 ^ (53 + e) := scaled_lt_zpow c.fits
    _ ≤ 2 ^ (52 + e') := zpow_le_zpow_right₀ one_le_two (by omega)
    _ ≤ scaled m' e' := zpow_le_scaled full

theorem compare_nat (m m' : ℕ) : compare m m' = cmp m m' := by
  rcases lt_trichotomy m m' with below | rfl | above
  · rw [compare_lt_iff_lt.mpr below, (cmp_eq_lt_iff _ _).mpr below]
  · rw [compare_eq_iff_eq.mpr rfl, cmp_self_eq_eq]
  · rw [compare_gt_iff_gt.mpr above, (cmp_eq_gt_iff _ _).mpr above]

theorem Canonical.compare_eq (c : Canonical m e) (c' : Canonical m' e') :
    (compare e e').then (compare m m') = cmp (scaled m e) (scaled m' e') := by
  rcases lt_trichotomy e e' with below | rfl | above
  · rw [compare_lt_iff_lt.mpr below, (cmp_eq_lt_iff _ _).mpr (c.scaled_lt c' below)]
    rfl
  · have mono : StrictMono fun m : ℕ => scaled m e := fun _ _ => scaled_lt_scaled.mpr
    rw [compare_eq_iff_eq.mpr rfl, Ordering.eq_then, compare_nat]
    exact (mono.cmp_map_eq m m').symm
  · rw [compare_gt_iff_gt.mpr above, (cmp_eq_gt_iff _ _).mpr (c'.scaled_lt c above)]
    rfl

/-- Significands and exponents as floats have them. -/
def Unpacked : UnpackedFloat → Prop
  | .finite _ m e _ => Canonical m e ∧ e ≤ 971
  | _ => True

private theorem cmp_lt {a b : EReal} (less : a < b) : some Ordering.lt = some (cmp a b) :=
  congrArg some ((cmp_eq_lt_iff a b).mpr less).symm

private theorem cmp_gt {a b : EReal} (greater : b < a) : some Ordering.gt = some (cmp a b) :=
  congrArg some ((cmp_eq_gt_iff a b).mpr greater).symm

private theorem cmp_eq (a : EReal) : some Ordering.eq = some (cmp a a) :=
  congrArg some (cmp_self_eq_eq a).symm

theorem factor_negative_mul_lt (positive : 0 < m) : factor .negative * scaled m e < 0 := by
  rw [factor, neg_one_mul]
  exact neg_lt_zero.mpr (scaled_pos positive)

theorem lt_factor_positive_mul (positive : 0 < m) : 0 < factor .positive * scaled m e := by
  rw [factor, one_mul]
  exact scaled_pos positive

private theorem compare_finite (c : Canonical m e) (c' : Canonical m' e') (pos : 0 < m)
    (pos' : 0 < m') : (UnpackedFloat.finite s m e pos).compare (.finite s' m' e' pos') =
      some (cmp ((factor s * scaled m e : ℝ) : EReal) (factor s' * scaled m' e' : ℝ)) := by
  have same := c.compare_eq c'
  cases s <;> cases s'
  · have turned : StrictAnti fun r : ℝ => factor .negative * r :=
      fun _ _ less => mul_lt_mul_of_neg_left less neg_one_lt_zero
    rw [EReal.coe_strictMono.cmp_map_eq, turned.cmp_map_eq, ← cmp_swap, ← same]
    rfl
  · exact cmp_lt (EReal.coe_lt_coe_iff.mpr
      ((factor_negative_mul_lt pos).trans (lt_factor_positive_mul pos')))
  · exact cmp_gt (EReal.coe_lt_coe_iff.mpr
      ((factor_negative_mul_lt pos').trans (lt_factor_positive_mul pos)))
  · have kept : StrictMono fun r : ℝ => factor .positive * r :=
      fun _ _ less => mul_lt_mul_of_pos_left less one_pos
    rw [EReal.coe_strictMono.cmp_map_eq, kept.cmp_map_eq, ← same]
    rfl

/-- Floats compare as their numbers do. -/
theorem compare_unpacked (cu : Unpacked u) (cv : Unpacked v) (ha : numberOf? u = some a)
    (hb : numberOf? v = some b) : u.compare v = some (cmp a b) := by
  cases u with
  | notANumber => cases ha
  | infinity s =>
    cases v with
    | notANumber => cases hb
    | infinity s' =>
      cases s <;> cases s' <;> cases ha <;> cases hb
      · exact cmp_eq ⊥
      · exact cmp_lt bot_lt_top
      · exact cmp_gt bot_lt_top
      · exact cmp_eq ⊤
    | zero s' | finite s' m' e' pos' =>
      cases s <;> cases ha <;> cases hb
      · exact cmp_lt (EReal.bot_lt_coe _)
      · exact cmp_gt (EReal.coe_lt_top _)
  | zero s =>
    cases ha
    cases v with
    | notANumber => cases hb
    | infinity s' =>
      cases s' <;> cases hb
      · exact cmp_gt (EReal.bot_lt_coe _)
      · exact cmp_lt (EReal.coe_lt_top _)
    | zero s' =>
      cases hb
      exact cmp_eq _
    | finite s' m' e' pos' =>
      cases s' <;> cases hb
      · exact cmp_gt (EReal.coe_lt_coe_iff.mpr (factor_negative_mul_lt pos'))
      · exact cmp_lt (EReal.coe_lt_coe_iff.mpr (lt_factor_positive_mul pos'))
  | finite s m e pos =>
    cases v with
    | notANumber => cases hb
    | infinity s' =>
      cases s' <;> cases ha <;> cases hb
      · cases s <;> exact cmp_gt (EReal.bot_lt_coe _)
      · cases s <;> exact cmp_lt (EReal.coe_lt_top _)
    | zero s' =>
      cases s <;> cases ha <;> cases hb
      · exact cmp_lt (EReal.coe_lt_coe_iff.mpr (factor_negative_mul_lt pos))
      · exact cmp_gt (EReal.coe_lt_coe_iff.mpr (lt_factor_positive_mul pos))
    | finite s' m' e' pos' =>
      cases ha
      cases hb
      exact compare_finite cu.1 cv.1 pos pos'

theorem toNat_hidden {k : ℕ} (fraction : BitVec k) :
    (1#1 ++ fraction).toNat = 2 ^ k + fraction.toNat := by
  rw [BitVec.toNat_append, ← Nat.shiftLeft_add_eq_or_of_lt fraction.isLt]
  simp [Nat.shiftLeft_eq]

/-- What the fields of a float stand for: the exponent decides, and where it is the least or the
largest one, whether there is a fraction. -/
inductive StandsFor (s : Sign) (exponent : BitVec 11) (fraction : BitVec 52) : UnpackedFloat → Prop
  | infinity (special : exponent = -1#11) (whole : fraction = 0#52) :
      StandsFor s exponent fraction (.infinity s)
  | notANumber (special : exponent = -1#11) (parted : fraction ≠ 0#52) :
      StandsFor s exponent fraction .notANumber
  | zero (least : exponent = 0#11) (whole : fraction = 0#52) :
      StandsFor s exponent fraction (.zero s)
  | least (least : exponent = 0#11) (pos : 0 < fraction.toNat) :
      StandsFor s exponent fraction (.finite s fraction.toNat (-1074) pos)
  | full (special : exponent ≠ -1#11) (full : exponent ≠ 0#11) {m : ℕ}
      (hidden : m = 2 ^ 52 + fraction.toNat) (pos : 0 < m) :
      StandsFor s exponent fraction (.finite s m (exponent.toNat - 1075) pos)

theorem standsFor_unpack (bits : BitVec Format.binary64.numBits) :
    StandsFor (.ofBitVec (UnpackedFloat.unpackSign bits)) (UnpackedFloat.unpackExponent bits)
      (UnpackedFloat.unpackMantissa bits) (UnpackedFloat.unpack Format.binary64 bits) := by
  unfold UnpackedFloat.unpack
  dsimp only
  by_cases special : UnpackedFloat.unpackExponent bits = -1#_
  · rw [if_pos special]
    by_cases whole : UnpackedFloat.unpackMantissa bits = 0#_
    · rw [if_pos whole]
      exact .infinity special whole
    · rw [if_neg whole]
      exact .notANumber special whole
  rw [if_neg special]
  by_cases least : UnpackedFloat.unpackExponent bits = 0#_
  · rw [if_pos least]
    by_cases whole : UnpackedFloat.unpackMantissa bits = 0#_
    · rw [dif_pos whole]
      exact .zero least whole
    · rw [dif_neg whole, least]
      exact .least rfl (Nat.pos_of_ne_zero fun zero => whole (BitVec.eq_of_toNat_eq zero))
  · rw [if_neg least]
    exact .full special least (toNat_hidden _) _

/-- The bits of a float leave no other significands and exponents. -/
theorem unpacked_unpack (bits : BitVec Format.binary64.numBits) :
    Unpacked (UnpackedFloat.unpack Format.binary64 bits) := by
  have fraction : (UnpackedFloat.unpackMantissa bits).toNat < 2 ^ 52 := BitVec.isLt _
  have stands := standsFor_unpack bits
  generalize UnpackedFloat.unpack Format.binary64 bits = u at stands
  cases stands with
  | infinity | notANumber | zero => trivial
  | least => exact ⟨⟨fraction.trans (by decide), by decide, .inr (by decide)⟩, by decide⟩
  | full special least hidden =>
    subst hidden
    have first : 0 < (UnpackedFloat.unpackExponent bits).toNat :=
      Nat.pos_of_ne_zero fun zero => least (BitVec.eq_of_toNat_eq zero)
    have last : (UnpackedFloat.unpackExponent bits).toNat ≠ 2047 :=
      fun all => special (BitVec.eq_of_toNat_eq all)
    have field : (UnpackedFloat.unpackExponent bits).toNat < 2048 := BitVec.isLt _
    refine ⟨⟨?_, by omega, .inl (Nat.le_add_right _ _)⟩, by omega⟩
    calc 2 ^ 52 + (UnpackedFloat.unpackMantissa bits).toNat < 2 ^ 52 + 2 ^ 52 :=
          Nat.add_lt_add_left fraction _
      _ = 2 ^ 53 := by norm_num

theorem unpacked (x : Float) : Unpacked x.toModel.unpack :=
  unpacked_unpack _

private theorem compare_eq_none (none : numberOf? u = none ∨ numberOf? v = none) :
    u.compare v = Option.none := by
  have notANumber {u : UnpackedFloat} (none : numberOf? u = Option.none) : u = .notANumber := by
    rcases u with (_ | _) | _ | _ | _ <;> cases none
    rfl
  rcases none with none | none
  · rw [notANumber none]
    rfl
  · rw [notANumber none]
    rcases u with (_ | _) | _ | _ | (_ | _) <;> rfl

/-- Floats compare as their numbers do; what is not a number compares with nothing. -/
theorem compare_eq_some {o : Ordering} : x.toModel.unpack.compare y.toModel.unpack = some o ↔
    ∃ a b, number? x = some a ∧ number? y = some b ∧ cmp a b = o := by
  cases ha : number? x with
  | none =>
    rw [compare_eq_none (.inl ha)]
    exact ⟨nofun, nofun⟩
  | some a =>
    cases hb : number? y with
    | none =>
      rw [compare_eq_none (.inr hb)]
      exact ⟨nofun, nofun⟩
    | some b =>
      rw [compare_unpacked (unpacked x) (unpacked y) ha hb]
      constructor
      · intro same
        exact ⟨a, b, rfl, rfl, Option.some.inj same⟩
      · rintro ⟨_, _, ⟨⟩, ⟨⟩, rfl⟩
        rfl

private theorem isLE_cmp : (cmp a b).isLE = true ↔ a ≤ b :=
  Ordering.isLE_iff_ne_gt.trans ((cmp_eq_gt_iff a b).not.trans not_lt)

/-- Floats are in order if and only if they have numbers that are. -/
theorem le_iff : x ≤ y ↔ ∃ a b, number? x = some a ∧ number? y = some b ∧ a ≤ b := by
  have compared : x ≤ y ↔ (x.toModel.unpack.compare y.toModel.unpack).any Ordering.isLE = true :=
    decide_eq_true_iff
  rw [compared, Option.any_eq_true]
  constructor
  · rintro ⟨o, same, less⟩
    obtain ⟨a, b, ha, hb, rfl⟩ := compare_eq_some.mp same
    exact ⟨a, b, ha, hb, isLE_cmp.mp less⟩
  · rintro ⟨a, b, ha, hb, less⟩
    exact ⟨cmp a b, compare_eq_some.mpr ⟨a, b, ha, hb, rfl⟩, isLE_cmp.mpr less⟩

theorem lt_iff : x < y ↔ ∃ a b, number? x = some a ∧ number? y = some b ∧ a < b := by
  have compared : x < y ↔ (x.toModel.unpack.compare y.toModel.unpack == some .lt) = true :=
    decide_eq_true_iff
  rw [compared, beq_iff_eq, compare_eq_some]
  exact exists₂_congr fun a b => and_congr_right' (and_congr_right' (cmp_eq_lt_iff a b))

theorem float_le_trans (le : x ≤ y) (le' : y ≤ z) : x ≤ z := by
  obtain ⟨a, b, hx, hy, le⟩ := le_iff.mp le
  obtain ⟨b', c, hy', hz, le'⟩ := le_iff.mp le'
  obtain rfl : b = b' := Option.some.inj (hy.symm.trans hy')
  exact le_iff.mpr ⟨a, c, hx, hz, le.trans le'⟩

theorem float_lt_of_lt_of_le (less : x < y) (le : y ≤ z) : x < z := by
  obtain ⟨a, b, hx, hy, less⟩ := lt_iff.mp less
  obtain ⟨b', c, hy', hz, le⟩ := le_iff.mp le
  obtain rfl : b = b' := Option.some.inj (hy.symm.trans hy')
  exact lt_iff.mpr ⟨a, c, hx, hz, less.trans_le le⟩

theorem float_lt_of_le_of_lt (le : x ≤ y) (less : y < z) : x < z := by
  obtain ⟨a, b, hx, hy, le⟩ := le_iff.mp le
  obtain ⟨b', c, hy', hz, less⟩ := lt_iff.mp less
  obtain rfl : b = b' := Option.some.inj (hy.symm.trans hy')
  exact lt_iff.mpr ⟨a, c, hx, hz, le.trans_lt less⟩

theorem float_not_lt (le : x ≤ y) : ¬ y < x := by
  intro less
  obtain ⟨a, b, hx, hy, le⟩ := le_iff.mp le
  obtain ⟨b', a', hy', hx', less⟩ := lt_iff.mp less
  obtain rfl : a = a' := Option.some.inj (hx.symm.trans hx')
  obtain rfl : b = b' := Option.some.inj (hy.symm.trans hy')
  exact less.not_ge le

/-- Floats that have numbers are in one order or the other. -/
theorem float_lt_of_not_le (hx : number? x = some a) (hy : number? y = some b) (above : ¬ y ≤ x) :
    x < y :=
  lt_iff.mpr ⟨a, b, hx, hy, not_le.mp fun le => above (le_iff.mpr ⟨b, a, hy, hx, le⟩)⟩

/-! ### Significands and exponents by the bits -/

/-- The significand and exponent of an unpacked float, if it is finite. -/
def dyadicOf? : UnpackedFloat → Option Dyadic
  | .finite s m e _ => some ⟨s == .negative, m, e⟩
  | .zero s => some ⟨s == .negative, 0, -1074⟩
  | .infinity _ | .notANumber => none

section Bits

variable (bits : BitVec Format.binary64.numBits)

private theorem toNat_unpackExponent :
    (UnpackedFloat.unpackExponent bits).toNat = bits.toNat / 2 ^ 52 % 2048 := by
  simp [UnpackedFloat.unpackExponent, BitVec.extractLsb, BitVec.extractLsb',
    Nat.shiftRight_eq_div_pow]

private theorem toNat_unpackMantissa :
    (UnpackedFloat.unpackMantissa bits).toNat = bits.toNat % 2 ^ 52 := by
  simp [UnpackedFloat.unpackMantissa, BitVec.extractLsb, BitVec.extractLsb']

private theorem toNat_unpackSign :
    (UnpackedFloat.unpackSign bits).toNat = bits.toNat / 2 ^ 63 := by
  have one : bits.toNat / 2 ^ 63 < 2 := by
    rw [Nat.div_lt_iff_lt_mul (by decide)]
    exact bits.isLt
  change (bits.toNat >>> 63) % 2 ^ 1 = _
  rw [Nat.shiftRight_eq_div_pow]
  exact Nat.mod_eq_of_lt one

private theorem negative_iff :
    (Sign.ofBitVec (UnpackedFloat.unpackSign bits) == .negative) =
      decide (2 ^ 63 ≤ bits.toNat) := by
  have shown : UnpackedFloat.unpackSign bits = 0#1 ↔ bits.toNat < 2 ^ 63 := by
    rw [← BitVec.toNat_inj, toNat_unpackSign]
    exact Nat.div_eq_zero_iff_lt (by decide)
  rw [Sign.ofBitVec]
  split
  · rename_i positive
    rw [decide_eq_false (not_le.mpr (shown.mp positive))]
    rfl
  · rename_i negative
    rw [decide_eq_true (not_lt.mp (mt shown.mpr negative))]
    rfl

/-- The significand and the exponent are cut out of the bits either way. -/
theorem dyadicOf?_unpack : dyadicOf? (UnpackedFloat.unpack Format.binary64 bits) =
    if bits.toNat / 2 ^ 52 % 2048 = 2047 then none
    else if bits.toNat / 2 ^ 52 % 2048 = 0 then
      some ⟨decide (2 ^ 63 ≤ bits.toNat), bits.toNat % 2 ^ 52, -1074⟩
    else some ⟨decide (2 ^ 63 ≤ bits.toNat), 2 ^ 52 + bits.toNat % 2 ^ 52,
      (bits.toNat / 2 ^ 52 % 2048 : ℕ) - 1075⟩ := by
  have last : UnpackedFloat.unpackExponent bits = -1#_ ↔ bits.toNat / 2 ^ 52 % 2048 = 2047 := by
    rw [← BitVec.toNat_inj, toNat_unpackExponent]
    rfl
  have first : UnpackedFloat.unpackExponent bits = 0#_ ↔ bits.toNat / 2 ^ 52 % 2048 = 0 := by
    rw [← BitVec.toNat_inj, toNat_unpackExponent]
    rfl
  have stands := standsFor_unpack bits
  generalize UnpackedFloat.unpack Format.binary64 bits = u at stands
  cases stands with
  | infinity special | notANumber special =>
    rw [if_pos (last.mp special)]
    rfl
  | zero least whole =>
    rw [if_neg (by rw [first.mp least]; decide), if_pos (first.mp least), ← toNat_unpackMantissa,
      whole, ← negative_iff]
    rfl
  | least least =>
    rw [if_neg (by rw [first.mp least]; decide), if_pos (first.mp least), ← toNat_unpackMantissa,
      ← negative_iff]
    rfl
  | full special full hidden =>
    subst hidden
    rw [if_neg (mt last.mpr special), if_neg (mt first.mpr full), ← toNat_unpackMantissa,
      ← negative_iff, ← toNat_unpackExponent]
    rfl

end Bits

theorem ofFloat?_eq (x : Float) : Dyadic.ofFloat? x = dyadicOf? x.toModel.unpack :=
  (dyadicOf?_unpack _).symm

/-- The number that a significand and an exponent stand for. -/
noncomputable def Dyadic.number (d : Dyadic) : ℝ :=
  (if d.negative then -1 else 1) * scaled d.significand d.exponent

theorem number?_of_ofFloat? {d : Dyadic} (finite : Dyadic.ofFloat? x = some d) :
    number? x = some (d.number : EReal) := by
  rw [ofFloat?_eq] at finite
  rw [number?]
  generalize x.toModel.unpack = u at finite ⊢
  cases u with
  | notANumber | infinity s => cases finite
  | zero s =>
    cases finite
    rw [numberOf?_zero, Dyadic.number, scaled_zero, mul_zero]
  | finite s m e pos =>
    cases finite
    cases s <;> rfl

/-- A number without a significand is an end of the line. -/
theorem eq_top_or_eq_bot (infinite : Dyadic.ofFloat? x = none) (ha : number? x = some a) :
    a = ⊤ ∨ a = ⊥ := by
  rw [ofFloat?_eq] at infinite
  rw [number?] at ha
  generalize x.toModel.unpack = u at infinite ha
  cases u with
  | notANumber => cases ha
  | infinity s =>
    cases s <;> cases ha
    · exact .inr rfl
    · exact .inl rfl
  | zero s | finite s m e pos => cases infinite

theorem Dyadic.number_mk_false : Dyadic.number ⟨false, m, e⟩ = scaled m e := by
  rw [Dyadic.number, if_neg Bool.false_ne_true, one_mul]

theorem canonical_of_ofFloat? {d : Dyadic} (finite : Dyadic.ofFloat? x = some d)
    (pos : 0 < d.significand) : Canonical d.significand d.exponent := by
  have known := unpacked x
  rw [ofFloat?_eq] at finite
  generalize x.toModel.unpack = u at finite known
  cases u with
  | notANumber | infinity s => cases finite
  | zero s =>
    cases finite
    exact absurd pos (lt_irrefl 0)
  | finite s m e _ =>
    cases finite
    exact known.1

/-! ### Neighbours -/

theorem Canonical.scaled_le_of_lt_succ (c : Canonical m e) (next : Canonical (m + 1) e)
    (other : Canonical m' e') (less : scaled m' e' < scaled (m + 1) e) :
    scaled m' e' ≤ scaled m e := by
  rcases lt_trichotomy e' e with finer | rfl | coarser
  · exact (other.scaled_lt c finer).le
  · exact scaled_le_scaled.mpr (Nat.lt_succ_iff.mp (scaled_lt_scaled.mp less))
  · exact absurd less (next.scaled_lt other coarser).not_gt

/-- No float lies between two floats whose significands are next to each other. -/
theorem le_of_lt_next (hx : Dyadic.ofFloat? x = some ⟨false, m, e⟩)
    (hy : Dyadic.ofFloat? y = some ⟨false, m + 1, e⟩) (pos : 0 < m) (less : z < y) : z ≤ x := by
  obtain ⟨a, _, ha, hb, less⟩ := lt_iff.mp less
  rw [number?_of_ofFloat? hy, Dyadic.number_mk_false] at hb
  cases hb
  refine le_iff.mpr ⟨a, _, ha, number?_of_ofFloat? hx, ?_⟩
  rw [Dyadic.number_mk_false]
  cases finite : Dyadic.ofFloat? z with
  | none =>
    rcases eq_top_or_eq_bot finite ha with rfl | rfl
    · exact absurd less not_top_lt
    · exact bot_le
  | some d =>
    rw [number?_of_ofFloat? finite] at ha
    cases ha
    rw [EReal.coe_lt_coe_iff] at less
    rw [EReal.coe_le_coe_iff]
    obtain ⟨_ | _, m', e'⟩ := d
    · rw [Dyadic.number_mk_false] at less ⊢
      rcases m'.eq_zero_or_pos with rfl | pos'
      · rw [scaled_zero]
        exact scaled_nonneg
      · exact (canonical_of_ofFloat? hx pos).scaled_le_of_lt_succ
          (canonical_of_ofFloat? hy m.succ_pos) (canonical_of_ofFloat? finite pos') less
    · calc Dyadic.number ⟨true, m', e'⟩ = -scaled m' e' := by
            rw [Dyadic.number, if_pos rfl, neg_one_mul]
        _ ≤ 0 := neg_nonpos.mpr scaled_nonneg
        _ ≤ scaled m e := scaled_nonneg

/-! ### Finite floats -/

/-- The float stands for a real number that is not negative. -/
def FiniteNonneg (x : Float) : Prop :=
  ∃ a : ℝ, number? x = some (a : EReal) ∧ 0 ≤ a

theorem isFinite_iff : x.isFinite = true ↔ ∃ a : ℝ, number? x = some (a : EReal) := by
  change x.toModel.unpack.isFinite = true ↔ ∃ a : ℝ, numberOf? x.toModel.unpack = some (a : EReal)
  cases x.toModel.unpack with
  | notANumber => exact ⟨nofun, nofun⟩
  | infinity sign =>
    refine ⟨nofun, fun ⟨a, same⟩ => ?_⟩
    cases sign with
    | positive => exact absurd (Option.some.inj same).symm (EReal.coe_ne_top a)
    | negative => exact absurd (Option.some.inj same).symm (EReal.coe_ne_bot a)
  | zero sign => exact ⟨fun _ => ⟨0, rfl⟩, fun _ => rfl⟩
  | finite sign m exponent pos => exact ⟨fun _ => ⟨_, rfl⟩, fun _ => rfl⟩

theorem finite_le_refl (hx : x.isFinite = true) : x ≤ x := by
  obtain ⟨a, hx⟩ := isFinite_iff.mp hx
  exact le_iff.mpr ⟨a, a, hx, hx, le_rfl⟩

/-- Finite floats are in one order or the other. -/
theorem finite_le_of_not_lt (hx : x.isFinite = true) (hy : y.isFinite = true) (above : ¬ y < x) :
    x ≤ y := by
  obtain ⟨a, hx⟩ := isFinite_iff.mp hx
  obtain ⟨b, hy⟩ := isFinite_iff.mp hy
  exact le_iff.mpr ⟨a, b, hx, hy, not_lt.mp fun less => above (lt_iff.mpr ⟨b, a, hy, hx, less⟩)⟩

theorem number?_zero : number? 0 = some ((0 : ℝ) : EReal) := by
  have finite : Dyadic.ofFloat? 0 = some ⟨false, 0, -1074⟩ := by decide +kernel
  rw [number?_of_ofFloat? finite, Dyadic.number_mk_false, scaled_zero]

/-- The usual test of sizes and distances. -/
theorem isFinite_and_nonneg_iff : (x.isFinite && x ≥ 0) = true ↔ FiniteNonneg x := by
  rw [Bool.and_eq_true, decide_eq_true_iff, isFinite_iff, FiniteNonneg]
  constructor
  · rintro ⟨⟨a, finite⟩, le⟩
    refine ⟨a, finite, ?_⟩
    obtain ⟨b, c, zero, same, le⟩ := le_iff.mp le
    rw [number?_zero] at zero
    rw [finite] at same
    cases zero
    cases same
    exact EReal.coe_le_coe_iff.mp le
  · rintro ⟨a, finite, le⟩
    exact ⟨⟨a, finite⟩, le_iff.mpr ⟨_, _, number?_zero, finite, EReal.coe_le_coe_iff.mpr le⟩⟩

end CanvasLint.Number
