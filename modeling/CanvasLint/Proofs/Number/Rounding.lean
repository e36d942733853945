import CanvasLint.Proofs.Number.Nearest

/-! What floats make of exact results. The product and the quotient of two floats are the floats
nearest to the exact ones, and so is the float of a whole number. Each operation hands on some first
places of its exact result, with what is known about the rest; cutting off places keeps that
knowledge true, and it is all that rounding needs. -/
namespace CanvasLint.Number

open Float.Model (Format UnpackedFloat totalExponent)
open Float.Model.UnpackedFloat

variable {m m' : ℕ} {e e' : ℤ} {s s' : Sign} {v w : ℝ} {em : ExtendedMantissa}
  {accuracy : Accuracy} {a b : EReal} {x y : Float}

/-! ### Cutting off places -/

/-- The first places of a number, with what they tell about the rest of it. -/
structure Begins (em : ExtendedMantissa) (v : ℝ) : Prop where
  lower : (em.mantissa : ℝ) ≤ v
  upper : v < em.mantissa + 1
  roundBit : em.roundBit = true ↔ em.mantissa + 1 / 2 ≤ v
  stickyBit : em.stickyBit = true ↔ v ≠ em.mantissa ∧ v ≠ em.mantissa + 1 / 2

/-- Together the two bits tell whether there is a rest. -/
private theorem Begins.rest_iff (begins : Begins em v) :
    (em.roundBit || em.stickyBit) = true ↔ v ≠ em.mantissa := by
  rw [Bool.or_eq_true, begins.roundBit, begins.stickyBit]
  constructor
  · rintro (half | ⟨rest, -⟩)
    · exact ne_of_gt (by linarith)
    · exact rest
  · intro rest
    by_cases half : v = em.mantissa + 1 / 2
    · exact .inl half.ge
    · exact .inr ⟨rest, half⟩

theorem Begins.shiftRightOne (begins : Begins em v) : Begins em.shiftRightOne (v / 2) := by
  have parts : (em.mantissa : ℝ) = 2 * (em.mantissa / 2 : ℕ) + (em.mantissa % 2 : ℕ) := by
    exact_mod_cast (Nat.div_add_mod em.mantissa 2).symm
  have lower := begins.lower
  have upper := begins.upper
  have rest := begins.rest_iff
  rcases Nat.mod_two_eq_zero_or_one em.mantissa with even | odd
  · rw [even, Nat.cast_zero, add_zero] at parts
    refine ⟨?_, ?_, ?_, ?_⟩ <;> dsimp only [ExtendedMantissa.shiftRightOne]
    · linarith
    · linarith
    · rw [even]
      exact ⟨nofun, fun half => by linarith⟩
    · rw [rest]
      exact ⟨fun more => ⟨fun whole => more (by linarith), fun half => by linarith⟩,
        fun ⟨more, _⟩ whole => more (by linarith)⟩
  · rw [odd, Nat.cast_one] at parts
    refine ⟨?_, ?_, ?_, ?_⟩ <;> dsimp only [ExtendedMantissa.shiftRightOne]
    · linarith
    · linarith
    · rw [odd]
      exact ⟨fun _ => by linarith, fun _ => rfl⟩
    · rw [rest]
      exact ⟨fun more => ⟨fun whole => by linarith, fun half => more (by linarith)⟩,
        fun ⟨_, more⟩ whole => more (by linarith)⟩

theorem Begins.shiftRight (begins : Begins em v) (count : ℕ) :
    Begins (em >>> count) (v / 2 ^ count) := by
  induction count with
  | zero => simpa [HShiftRight.hShiftRight, Nat.repeat] using begins
  | succ count ih =>
    rw [pow_succ, ← div_div]
    exact ih.shiftRightOne

theorem Begins.floor_eq (begins : Begins em v) : ⌊v⌋₊ = em.mantissa :=
  (Nat.floor_eq_iff ((Nat.cast_nonneg _).trans begins.lower)).mpr ⟨begins.lower, begins.upper⟩

theorem Begins.roundedMantissa_eq (begins : Begins em v) : em.roundedMantissa = halfEven v := by
  rw [halfEven, begins.floor_eq]
  obtain ⟨-, -, round, sticky⟩ := begins
  obtain ⟨n, _ | _, _ | _⟩ := em <;> dsimp only at round sticky ⊢
  -- below the half, with and without a rest
  · exact (if_pos (not_le.mp (mt round.mpr Bool.false_ne_true))).symm
  · exact (if_pos (not_le.mp (mt round.mpr Bool.false_ne_true))).symm
  · have notBelow := round.mp rfl
    have half : v = n + 1 / 2 := by
      by_contra apart
      exact Bool.false_ne_true (sticky.mpr ⟨(by linarith : (n : ℝ) < v).ne', apart⟩)
    rw [if_neg (not_lt.mpr notBelow), if_pos half]
    rfl
  · rw [if_neg (not_lt.mpr (round.mp rfl)), if_neg (sticky.mp rfl).2]
    rfl

/-! ### Rounding to the grid -/

/-- Some first places of a positive number, with an exponent and with what is known about the rest.
They reach down to the grid at least. -/
structure Approximates (m : ℕ) (e : ℤ) (accuracy : Accuracy) (v : ℝ) : Prop where
  positive : 0 < v
  begins : Begins (.ofMantissaAndAccuracy m accuracy) (v / 2 ^ e)
  fine : e ≤ gridOf v

theorem begins_exact (m : ℕ) : Begins (.ofMantissaAndAccuracy m .exact) m := by
  refine ⟨le_rfl, lt_add_one _, ⟨nofun, fun half => ?_⟩, ⟨nofun, fun ⟨rest, _⟩ => absurd rfl rest⟩⟩
  exact absurd half (by norm_num [ExtendedMantissa.ofMantissaAndAccuracy])

theorem mantissa_ofMantissaAndAccuracy :
    (ExtendedMantissa.ofMantissaAndAccuracy m accuracy).mantissa = m := by
  rcases accuracy with _ | (_ | _ | _) <;> rfl

theorem targetExponent_eq_max (t : ℤ) :
    Format.binary64.targetExponent t = max (t - 53) (-1074) :=
  rfl

/-- Rounding aims at the grid of the exact number. -/
theorem Approximates.targetExponent_eq (near : Approximates m e accuracy v) :
    Format.binary64.targetExponent (totalExponent m e) = gridOf v := by
  obtain ⟨positive, ⟨lower, upper, -, -⟩, fine⟩ := near
  rw [mantissa_ofMantissaAndAccuracy] at lower upper
  have lower : scaled m e ≤ v := by
    rw [scaled_eq]
    exact (le_div_iff₀ (zpow_pos two_pos e)).mp lower
  have upper : v < scaled (m + 1) e := by
    rw [scaled_eq, Nat.cast_succ]
    exact (div_lt_iff₀ (zpow_pos two_pos e)).mp upper
  have below : Int.log 2 v < m.log2 + 1 + e := by
    refine (Int.lt_zpow_iff_log_lt one_lt_two positive).mp ?_
    calc v < scaled (m + 1) e := upper
      _ ≤ scaled (2 ^ (m.log2 + 1)) e := scaled_le_scaled.mpr Nat.lt_log2_self
      _ = 2 ^ (m.log2 + 1 + e) := scaled_two_pow (m.log2 + 1) e
  rw [targetExponent_eq_max, totalExponent]
  rw [gridOf] at fine ⊢
  rcases m.eq_zero_or_pos with rfl | places
  · -- the exponent itself lies on the grid or above
    rw [Nat.log2_zero] at below ⊢
    omega
  · have above : m.log2 + e ≤ Int.log 2 v :=
      (Int.zpow_le_iff_le_log one_lt_two positive).mp ((zpow_log2_le_scaled places).trans lower)
    omega

theorem Approximates.shiftToTargetExponent_eq (near : Approximates m e accuracy v) :
    (shiftToTargetExponent Format.binary64 m e accuracy).1.roundedMantissa = stepsOf v ∧
      (shiftToTargetExponent Format.binary64 m e accuracy).2 = gridOf v := by
  have fine := near.fine
  have count : e + ((gridOf v - e).toNat : ℤ) = gridOf v := by omega
  rw [shiftToTargetExponent, near.targetExponent_eq, shiftToExponent]
  refine ⟨?_, count⟩
  dsimp only
  rw [(near.begins.shiftRight _).roundedMantissa_eq, stepsOf]
  rw [div_div, ← zpow_natCast, ← zpow_add₀ two_ne_zero, count]

/-- A significand that fits is not touched again. -/
private theorem shiftToTargetExponent_of_fits (fits : m < 2 ^ 53) (bounded : -1074 ≤ e) :
    shiftToTargetExponent Format.binary64 m e .exact = (⟨m, false, false⟩, e) := by
  have log : m.log2 < 53 := by
    rcases m.eq_zero_or_pos with rfl | places
    · decide
    · exact (Nat.log2_lt places.ne').mpr fits
  have enough : (Format.binary64.targetExponent (totalExponent m e) - e).toNat = 0 := by
    rw [targetExponent_eq_max, totalExponent]
    omega
  rw [shiftToTargetExponent, shiftToExponent, enough, Nat.cast_zero, add_zero]
  rfl

/-- A significand that has been rounded up to one more place is cut off once more. -/
private theorem shiftToTargetExponent_of_overflow (bounded : -1074 ≤ e) :
    shiftToTargetExponent Format.binary64 (2 ^ 53) e .exact = (⟨2 ^ 52, false, false⟩, e + 1) := by
  have once : (Format.binary64.targetExponent (totalExponent (2 ^ 53) e) - e).toNat = 1 := by
    rw [targetExponent_eq_max, totalExponent, Nat.log2_two_pow]
    omega
  rw [shiftToTargetExponent, shiftToExponent, once, Nat.cast_one]
  rfl

/-- The rounded number has a significand and an exponent as floats have them. -/
theorem Approximates.roundWithAccuracy_eq (near : Approximates m e accuracy v) (s : Sign) :
    (nearest v = 0 ∧ roundWithAccuracy Format.binary64 s m e accuracy = .zero s) ∨
      ∃ m' e' pos, roundWithAccuracy Format.binary64 s m e accuracy = .finite s m' e' pos ∧
        Canonical m' e' ∧ scaled m' e' = nearest v := by
  obtain ⟨rounded, reached⟩ := near.shiftToTargetExponent_eq
  have bounded : -1074 ≤ gridOf v := le_max_right _ _
  rw [roundWithAccuracy]
  dsimp only
  rw [rounded, reached]
  rcases (stepsOf_le v).lt_or_eq with fits | overflow
  · rw [shiftToTargetExponent_of_fits fits bounded]
    by_cases none : stepsOf v = 0
    · refine .inl ⟨?_, dif_pos none⟩
      rw [nearest, none, scaled_zero]
    · refine .inr ⟨stepsOf v, gridOf v, Nat.pos_of_ne_zero none, dif_neg none,
        ⟨fits, bounded, ?_⟩, rfl⟩
      rcases bounded.eq_or_lt with least | coarse
      · exact .inr least.symm
      · exact .inl (le_stepsOf near.positive coarse)
  · rw [overflow, shiftToTargetExponent_of_overflow bounded]
    refine .inr ⟨2 ^ 52, gridOf v + 1, by decide, dif_neg (show ¬ 2 ^ 52 = 0 by decide),
      ⟨by decide, by omega, .inl le_rfl⟩, ?_⟩
    rw [nearest, overflow, scaled_eq, scaled_eq, zpow_add₀ two_ne_zero]
    push_cast
    ring

/-! ### Packing -/

private theorem ofBitVec_unpackSign {spec : Format} (s : Sign) (field : BitVec spec.exponentBits)
    (fraction : BitVec spec.mantissaBitsWithoutImplicit) :
    Sign.ofBitVec (unpackSign (packComponents spec s field fraction)) = s := by
  have cut : unpackSign (packComponents spec s field fraction) = s.toBitVec := by
    refine BitVec.eq_of_getLsbD_eq fun i small => ?_
    obtain rfl : i = 0 := by omega
    change (BitVec.extractLsb (spec.mantissaBitsWithoutImplicit + spec.exponentBits)
      (spec.mantissaBitsWithoutImplicit + spec.exponentBits)
      (s.toBitVec ++ field ++ fraction)).getLsbD 0 = _
    simp [BitVec.getLsbD_append, BitVec.getElem_append]
  rw [cut]
  cases s <;> rfl

/-- What is packed stands for what it is packed from. -/
private theorem standsFor_pack (s : Sign) (field : BitVec 11) (fraction : BitVec 52) :
    StandsFor s field fraction
      (unpack Format.binary64 (packComponents Format.binary64 s field fraction)) := by
  have stands := standsFor_unpack (packComponents Format.binary64 s field fraction)
  rwa [unpackExponent_packComponents, unpackMantissa_packComponents, ofBitVec_unpackSign] at stands

theorem unpack_packedInfinity (s : Sign) :
    unpack Format.binary64 (packedInfinity Format.binary64 s) = .infinity s := by
  have stands : StandsFor s (-1#11) 0#52 (unpack _ (packedInfinity Format.binary64 s)) :=
    standsFor_pack s _ _
  generalize unpack _ (packedInfinity Format.binary64 s) = u at stands
  cases stands with
  | infinity => rfl
  | notANumber _ parted => exact absurd rfl parted
  | zero least => exact absurd least (by decide)
  | least least => exact absurd least (by decide)
  | full special => exact absurd rfl special

theorem unpack_packedZero (s : Sign) :
    unpack Format.binary64 (packedZero Format.binary64 s) = .zero s := by
  have stands : StandsFor s 0#11 0#52 (unpack _ (packedZero Format.binary64 s)) :=
    standsFor_pack s _ _
  generalize unpack _ (packedZero Format.binary64 s) = u at stands
  cases stands with
  | zero => rfl
  | infinity special => exact absurd special (by decide)
  | notANumber special => exact absurd special (by decide)
  | least _ pos => exact absurd pos (by decide)
  | full _ full => exact absurd rfl full

/-- The bits of a finite float, by the size of its exponent and its significand. -/
private theorem pack_finite (pos : 0 < m) (s : Sign) :
    pack Format.binary64 (.finite s m e pos) =
      if 2048 ≤ (e + 1075).toNat + 1 then packedInfinity Format.binary64 s
      else if m.log2 + 1 = 53 then
        packComponents Format.binary64 s (BitVec.ofNat 11 (e + 1075).toNat) (BitVec.ofNat 52 m)
      else packComponents Format.binary64 s 0#11 (BitVec.ofNat 52 m) := by
  have bias : (Format.binary64.exponentBias : ℤ) = 1023 := by decide
  have sum : e + 1023 + (52 : ℕ) = e + 1075 := by omega
  rw [← sum, ← bias]
  rfl

private theorem unpack_normal {field : BitVec 11} (inside : field ≠ -1#11) (full : field ≠ 0#11)
    (fraction : BitVec 52) (s : Sign) :
    ∃ pos, unpack Format.binary64 (packComponents Format.binary64 s field fraction) =
      .finite s (2 ^ 52 + fraction.toNat) (field.toNat - 1075) pos := by
  have stands := standsFor_pack s field fraction
  generalize unpack _ (packComponents Format.binary64 s field fraction) = u at stands
  cases stands with
  | infinity special | notANumber special => exact absurd special inside
  | zero least | least least => exact absurd least full
  | full _ _ hidden pos =>
    subst hidden
    exact ⟨pos, rfl⟩

private theorem unpack_least {fraction : BitVec 52} (some : fraction ≠ 0#52) (s : Sign) :
    ∃ pos, unpack Format.binary64 (packComponents Format.binary64 s 0#11 fraction) =
      .finite s fraction.toNat (-1074) pos := by
  have stands := standsFor_pack s 0#11 fraction
  generalize unpack _ (packComponents Format.binary64 s 0#11 fraction) = u at stands
  cases stands with
  | infinity special | notANumber special => exact absurd special (by decide)
  | zero _ whole => exact absurd whole some
  | least _ pos => exact ⟨pos, rfl⟩
  | full _ full => exact absurd rfl full

/-- Packing loses nothing, unless the exponent is too large. -/
theorem unpack_pack (c : Canonical m e) (pos : 0 < m) (room : e ≤ 971) (s : Sign) :
    unpack Format.binary64 (pack Format.binary64 (.finite s m e pos)) = .finite s m e pos := by
  obtain ⟨fits, bounded, full⟩ := c
  rw [pack_finite, if_neg (by omega)]
  have log : m.log2 + 1 = 53 ↔ 2 ^ 52 ≤ m := by
    have below := (Nat.log2_lt pos.ne').mpr fits
    have above : 52 ≤ m.log2 ↔ 2 ^ 52 ≤ m := Nat.le_log2 pos.ne'
    omega
  by_cases normal : m.log2 + 1 = 53
  · have places : 2 ^ 52 ≤ m := log.mp normal
    rw [if_pos normal]
    have field : (BitVec.ofNat 11 (e + 1075).toNat).toNat = (e + 1075).toNat := by
      rw [BitVec.toNat_ofNat, Nat.mod_eq_of_lt (by omega)]
    have apart {k : ℕ} (other : (e + 1075).toNat ≠ k % 2 ^ 11) :
        BitVec.ofNat 11 (e + 1075).toNat ≠ BitVec.ofNat 11 k := fun same => other <| by
      rw [← field, same, BitVec.toNat_ofNat]
    obtain ⟨pos', unpacked⟩ := unpack_normal (apart (k := 2047) (by omega)) (apart (by omega))
      (BitVec.ofNat 52 m) s
    rw [unpacked, UnpackedFloat.finite.injEq, field, BitVec.toNat_ofNat]
    exact ⟨rfl, by omega, by omega⟩
  · obtain rfl : e = -1074 := full.resolve_left (mt log.mpr normal)
    have places : m < 2 ^ 52 := not_le.mp (mt log.mpr normal)
    rw [if_neg normal]
    have fraction : (BitVec.ofNat 52 m).toNat = m := by
      rw [BitVec.toNat_ofNat, Nat.mod_eq_of_lt places]
    have some : BitVec.ofNat 52 m ≠ 0#52 := fun zero =>
      pos.ne' (fraction ▸ congrArg BitVec.toNat zero)
    obtain ⟨pos', unpacked⟩ := unpack_least some s
    rw [unpacked, UnpackedFloat.finite.injEq, fraction]
    exact ⟨rfl, rfl, rfl⟩

/-- A float that is packed into its bits has its number, unless that is too large for a float. -/
theorem numberOf?_pack (c : Canonical m e) (pos : 0 < m) (s : Sign) :
    numberOf? (unpack Format.binary64 (pack Format.binary64 (.finite s m e pos))) =
      some (clip (factor s * scaled m e)) := by
  have positive := scaled_pos (e := e) pos
  rcases le_or_gt e 971 with room | overflow
  · have inside : scaled m e < limit :=
      (scaled_lt_zpow c.fits).trans_le (zpow_le_zpow_right₀ one_le_two (by omega))
    rw [unpack_pack c pos room, numberOf?_finite, clip_of_abs_lt]
    rw [abs_mul, abs_of_pos positive]
    cases s <;> simpa [factor] using inside
  · have outside : limit ≤ scaled m e :=
      (zpow_le_zpow_right₀ one_le_two (by omega)).trans
        (zpow_le_scaled (c.full.resolve_right (by omega)))
    rw [pack_finite, if_pos (by omega), unpack_packedInfinity]
    cases s with
    | positive =>
      rw [factor, one_mul, clip_of_limit_le outside]
      rfl
    | negative =>
      rw [factor, neg_one_mul, clip_of_le_neg_limit (neg_le_neg outside)]
      rfl

/-- Packing and unpacking, as every operation ends. -/
def repack (u : UnpackedFloat) : UnpackedFloat :=
  unpack Format.binary64 (pack Format.binary64 u)

theorem numberOf?_repack_notANumber : numberOf? (repack .notANumber) = none := by
  have kept : repack .notANumber = .notANumber := rfl
  rw [kept]
  rfl

theorem numberOf?_repack_zero (s : Sign) : numberOf? (repack (.zero s)) = some 0 := by
  change numberOf? (unpack Format.binary64 (packedZero Format.binary64 s)) = _
  rw [unpack_packedZero, numberOf?_zero, EReal.coe_zero]

theorem numberOf?_repack_infinity (s : Sign) :
    numberOf? (repack (.infinity s)) = numberOf? (.infinity s) := by
  change numberOf? (unpack Format.binary64 (packedInfinity Format.binary64 s)) = _
  rw [unpack_packedInfinity]

/-- What begins with these places is rounded to the nearest float. -/
theorem Approximates.numberOf?_repack (near : Approximates m e accuracy v) (s : Sign) :
    numberOf? (repack (roundWithAccuracy Format.binary64 s m e accuracy)) =
      some (rounded (factor s * v)) := by
  have signed : rounded (factor s * v) = clip (factor s * nearest v) := by
    cases s with
    | positive => rw [factor, one_mul, one_mul, rounded_of_nonneg near.positive.le]
    | negative =>
      rw [factor, neg_one_mul, neg_one_mul, rounded_neg, rounded_of_nonneg near.positive.le,
        clip_neg]
  rw [signed]
  rcases near.roundWithAccuracy_eq s with ⟨zero, same⟩ | ⟨m', e', pos, same, c, exact⟩
  · rw [same, zero, mul_zero, numberOf?_repack_zero, clip_of_abs_lt (abs_zero.trans_lt limit_pos),
      EReal.coe_zero]
  · rw [same, repack, numberOf?_pack c, exact]

/-- A float with a number other than zero and the ends of the line. -/
theorem exists_finite {u : UnpackedFloat} (h : numberOf? u = some (w : EReal)) (nonzero : w ≠ 0) :
    ∃ s m e pos, u = .finite s m e pos ∧ w = factor s * scaled m e := by
  cases u with
  | notANumber => cases h
  | infinity s =>
    cases s
    · exact absurd (Option.some.inj h).symm (EReal.coe_ne_bot w)
    · exact absurd (Option.some.inj h).symm (EReal.coe_ne_top w)
  | zero s => exact absurd (EReal.coe_injective (Option.some.inj h)).symm nonzero
  | finite s m e pos => exact ⟨s, m, e, pos, rfl, (EReal.coe_injective (Option.some.inj h)).symm⟩

end CanvasLint.Number
