import Framing.Proofs.Binary64.Unpacked

/-!
# The rounding step of the operations

Every arithmetic operation of core's float model ends in `roundWithAccuracy`: it takes a
mantissa, an exponent and an `Accuracy` that records where the exact result lies between the
mantissa and the next integer, shifts the mantissa right to the last place of binary64, and
rounds on the bits shifted out. This module shows that the result is `roundNearest` of the exact
value, and from that, that multiplication, division, addition and subtraction of finite floats
and the conversion of a natural number are the exact operation rounded once
(`RoundsTo`, `roundsTo_mul`, `roundsTo_div`, `roundsTo_add`, `roundsTo_sub`, `roundsTo_ofNat`).

The argument runs on rationals counted in units of the current last place: `Accuracy.Describes`
says which rationals a mantissa and an accuracy stand for, a one-bit shift halves the rational
it describes (`Describes.shiftRightOne`), and the rounded mantissa is `roundEven` of it
(`Describes.roundedMantissa`).
-/

namespace Framing.Binary64

open Float.Model Float.Model.UnpackedFloat

/-! ## What an accuracy says -/

/-- The rationals `x` that the mantissa `m` with accuracy `acc` stands for, as one of four
intervals: the point `m`, the open lower half `(m, m + 1/2)`, the point `m + 1/2`, or the open
upper half `(m + 1/2, m + 1)`. -/
def Describes : Accuracy → ℕ → ℚ → Prop
  | .exact, m, x => (m : ℚ) ≤ x ∧ x ≤ m
  | .inexact .lt, m, x => (m : ℚ) < x ∧ x < m + 1 / 2
  | .inexact .eq, m, x => (m : ℚ) + 1 / 2 ≤ x ∧ x ≤ m + 1 / 2
  | .inexact .gt, m, x => (m : ℚ) + 1 / 2 < x ∧ x < m + 1

theorem Describes.bounds {acc : Accuracy} {m : ℕ} {x : ℚ} (h : Describes acc m x) :
    (m : ℚ) ≤ x ∧ x < m + 1 := by
  rcases acc with _ | (_ | _ | _) <;> simp only [Describes] at h <;> constructor <;> linarith

theorem describes_exact (m : ℕ) : Describes .exact m m := ⟨le_rfl, le_rfl⟩

theorem accuracy_ofMantissaAndAccuracy (m : ℕ) (acc : Accuracy) :
    (ExtendedMantissa.ofMantissaAndAccuracy m acc).accuracy = acc := by
  rcases acc with _ | (_ | _ | _) <;> rfl

/-- The remainder `r` of a division by `d` describes the fraction `r / d`. -/
theorem describes_accuracyOfFraction (q : ℕ) {r d : ℕ} (hr : r < d) :
    Describes (accuracyOfFraction r d) q (q + r / d) := by
  have hd : (0 : ℚ) < d := by exact_mod_cast (Nat.zero_le r).trans_lt hr
  have hrd : (r : ℚ) / d < 1 := (div_lt_one hd).2 (by exact_mod_cast hr)
  unfold accuracyOfFraction
  split_ifs with h0
  · simp only [Describes, h0]
    norm_num
  · have hpos : (0 : ℚ) < r / d := div_pos (by exact_mod_cast Nat.pos_of_ne_zero h0) hd
    rcases hc : compare (2 * r) d
    · -- twice the remainder below the divisor: the fraction is below one half
      have h2 : (2 * r : ℚ) < d := by exact_mod_cast Nat.compare_eq_lt.1 hc
      have : (r : ℚ) / d < 1 / 2 := by rw [div_lt_iff₀ hd]; linarith
      simp only [Describes]
      constructor <;> linarith
    · have h2 : (2 * r : ℚ) = d := by exact_mod_cast Nat.compare_eq_eq.1 hc
      have : (r : ℚ) / d = 1 / 2 := by rw [div_eq_iff hd.ne']; linarith
      simp only [Describes]
      constructor <;> linarith
    · have h2 : (d : ℚ) < 2 * r := by exact_mod_cast Nat.compare_eq_gt.1 hc
      have : 1 / 2 < (r : ℚ) / d := by rw [lt_div_iff₀ hd]; linarith
      simp only [Describes]
      constructor <;> linarith

/-! ## Shifting right

A right shift by one halves the described rational: the bit shifted out becomes the round bit,
and the old round and sticky bits fold into the sticky bit. -/

theorem describes_shiftRightOne {em : ExtendedMantissa} {x : ℚ}
    (h : Describes em.accuracy em.mantissa x) :
    Describes em.shiftRightOne.accuracy em.shiftRightOne.mantissa (x / 2) := by
  rcases em with ⟨m, r, s⟩
  rcases Nat.mod_two_eq_zero_or_one m with hb | hb
  · -- the bit shifted out is `0`: `x / 2` keeps to the lower half above `m / 2`
    have hq : (m : ℚ) = 2 * (m / 2 : ℕ) := by exact_mod_cast (by omega : m = 2 * (m / 2))
    cases r <;> cases s <;>
      simp only [ExtendedMantissa.shiftRightOne, ExtendedMantissa.accuracy, Describes, hb]
        at h ⊢ <;>
      constructor <;> linarith [h.1, h.2]
  · -- the bit shifted out is `1`: `x / 2` is at or above the middle
    have hq : (m : ℚ) = 2 * (m / 2 : ℕ) + 1 := by exact_mod_cast (by omega : m = 2 * (m / 2) + 1)
    cases r <;> cases s <;>
      simp only [ExtendedMantissa.shiftRightOne, ExtendedMantissa.accuracy, Describes, hb]
        at h ⊢ <;>
      constructor <;> linarith [h.1, h.2]

theorem describes_shiftRight {em : ExtendedMantissa} {x : ℚ}
    (h : Describes em.accuracy em.mantissa x) (n : ℕ) :
    Describes (em >>> n).accuracy (em >>> n).mantissa (x / 2 ^ n) := by
  induction n with
  | zero => simpa [HShiftRight.hShiftRight, Nat.repeat] using h
  | succ n ih =>
    have hs := describes_shiftRightOne ih
    rw [div_div, ← pow_succ] at hs
    exact hs

/-- Rounding on the round and sticky bits is rounding the described rational to nearest, ties
to even. -/
theorem roundedMantissa_eq {em : ExtendedMantissa} {x : ℚ}
    (h : Describes em.accuracy em.mantissa x) : (em.roundedMantissa : ℤ) = roundEven x := by
  have hb := h.bounds
  have hfl : ⌊x⌋ = em.mantissa :=
    Int.floor_eq_iff.2 ⟨by exact_mod_cast hb.1, by push_cast; linarith⟩
  unfold ExtendedMantissa.roundedMantissa roundEven
  rw [hfl, Int.cast_natCast]
  rcases hacc : em.accuracy with _ | (_ | _ | _) <;>
    simp only [hacc, Describes] at h <;>
    simp only [Accuracy.roundToNearestEven]
  · rw [if_pos (by linarith)]
  · rw [if_pos (by linarith)]
  · rw [if_neg (by linarith), if_neg (by linarith)]
    split_ifs <;> omega
  · rw [if_neg (by linarith), if_pos (by linarith)]
    push_cast
    rfl

/-! ## The rounding step -/

/-- binary64's target exponent: fifty-two places below the leading bit of the mantissa, and never
below `-1074`. -/
theorem targetExponent_binary64 (t : ℤ) :
    Format.binary64.targetExponent t = max (t - 53) (-1074) := by
  simp only [Format.targetExponent, Format.mantissaBits, Format.minExponent]
  norm_num

theorem targetExponent_totalExponent (m : ℕ) (e : ℤ) :
    Format.binary64.targetExponent (totalExponent m e) = max (m.log2 + e - 52) (-1074) := by
  rw [targetExponent_binary64, totalExponent]
  omega
theorem shiftToTargetExponent_eq (m : ℕ) (e : ℤ) (acc : Accuracy) :
    shiftToTargetExponent .binary64 m e acc =
      (ExtendedMantissa.ofMantissaAndAccuracy m acc >>> (max (m.log2 + e - 52) (-1074) - e).toNat,
        e + (max (m.log2 + e - 52) (-1074) - e).toNat) := by
  simp only [shiftToTargetExponent, shiftToExponent, targetExponent_totalExponent]
/-- After rounding at most one more shift is needed, and it is exact: a mantissa below `2^53`
stays where it is, and `2^53` becomes `2^52` one place up. -/
theorem shiftToTargetExponent_of_lt {r : ℕ} {E : ℤ} (hr : r < 2 ^ 53) (hE : -1074 ≤ E) :
    shiftToTargetExponent .binary64 r E .exact = (⟨r, false, false⟩, E) := by
  have hlog : r.log2 ≤ 52 := by
    rcases Nat.eq_zero_or_pos r with rfl | hpos
    · simp
    · have := (Nat.log2_lt hpos.ne').2 hr; omega
  have hk : (max (r.log2 + E - 52) (-1074) - E).toNat = 0 := by omega
  rw [shiftToTargetExponent_eq, hk]
  simp [HShiftRight.hShiftRight, Nat.repeat, ExtendedMantissa.ofMantissaAndAccuracy]
theorem shiftToTargetExponent_two_pow {E : ℤ} (hE : -1074 ≤ E) :
    shiftToTargetExponent .binary64 (2 ^ 53) E .exact = (⟨2 ^ 52, false, false⟩, E + 1) := by
  have hk : (max (((2 : ℕ) ^ 53).log2 + E - 52) (-1074) - E).toNat = 1 := by
    rw [Nat.log2_two_pow]; omega
  rw [shiftToTargetExponent_eq, hk]
  simp [HShiftRight.hShiftRight, Nat.repeat, ExtendedMantissa.ofMantissaAndAccuracy,
    ExtendedMantissa.shiftRightOne]
theorem mantissa_ofMantissaAndAccuracy (m : ℕ) (acc : Accuracy) :
    (ExtendedMantissa.ofMantissaAndAccuracy m acc).mantissa = m := by
  rcases acc with _ | (_ | _ | _) <;> rfl

/-- The exact value `x * 2^e`, with `m` the integer part of `x`, has its last binary64 place where
the model's target exponent puts it, given the model's side condition on `e`. -/
theorem ulpExponent_mul_two_zpow {m : ℕ} {e : ℤ} {x : ℚ} (hx0 : 0 < x) (h₁ : (m : ℚ) ≤ x)
    (h₂ : x < m + 1) (he : e ≤ -1074 ∨ 2 ^ 52 ≤ m) :
    ulpExponent (x * 2 ^ e) = max (m.log2 + e - 52) (-1074) := by
  rcases Nat.eq_zero_or_pos m with rfl | hm
  · -- below one unit at `2^e ≤ 2^-1074`: the last place of the subnormals
    have he' : e ≤ -1074 := by omega
    have hlt : x * 2 ^ e < 2 ^ (-1074 : ℤ) :=
      calc x * 2 ^ e < 1 * 2 ^ e := by gcongr; simpa using h₂
        _ ≤ 2 ^ (-1074 : ℤ) := by rw [one_mul]; exact zpow_le_zpow_right₀ one_le_two he'
    have hlog : Int.log 2 (x * 2 ^ e) < -1074 :=
      (Int.lt_zpow_iff_log_lt Nat.one_lt_two (by positivity)).1 (by exact_mod_cast hlt)
    unfold ulpExponent
    simp only [Nat.log2_zero, Nat.cast_zero, zero_add]
    omega
  · have hlo : ((2 ^ m.log2 : ℕ) : ℚ) ≤ m := by exact_mod_cast Nat.log2_self_le hm.ne'
    have hhi : (m : ℚ) + 1 ≤ ((2 ^ (m.log2 + 1) : ℕ) : ℚ) := by exact_mod_cast Nat.lt_log2_self
    have hL : Int.log 2 (x * 2 ^ e) = m.log2 + e := by
      apply log_eq_of_bounds
      · calc (2 : ℚ) ^ ((m.log2 : ℤ) + e) = ((2 ^ m.log2 : ℕ) : ℚ) * 2 ^ e := by
              rw [zpow_add₀ two_ne_zero, zpow_natCast]; push_cast; rfl
          _ ≤ x * 2 ^ e := by gcongr; linarith
      · calc x * 2 ^ e < (m + 1) * 2 ^ e := by gcongr
          _ ≤ ((2 ^ (m.log2 + 1) : ℕ) : ℚ) * 2 ^ e := by gcongr
          _ = 2 ^ ((m.log2 : ℤ) + e + 1) := by
              rw [add_right_comm, zpow_add₀ two_ne_zero, ← Nat.cast_succ, zpow_natCast]
              push_cast
              rfl
    unfold ulpExponent
    rw [hL]

/-- The first stage of rounding: shifted to binary64's last place and rounded there, the mantissa
at the new exponent is `roundMag` of the exact value. It is at most `2^53`, and below `2^52` only
at the least exponent. -/
theorem firstStage {m : ℕ} {e : ℤ} {acc : Accuracy} {x : ℚ} (hx : Describes acc m x)
    (he : e ≤ -1074 ∨ 2 ^ 52 ≤ m) :
    let p := shiftToTargetExponent .binary64 m e acc
    (p.1.roundedMantissa : ℚ) * 2 ^ p.2 = roundMag (x * 2 ^ e) ∧ p.1.roundedMantissa ≤ 2 ^ 53 ∧
      -1074 ≤ p.2 ∧ (p.1.roundedMantissa < 2 ^ 52 → p.2 = -1074) := by
  intro p
  have hb := hx.bounds
  have hlog : 2 ^ 52 ≤ m → 52 ≤ m.log2 := fun h => (Nat.le_log2 (by omega)).2 h
  set T := max ((m.log2 : ℤ) + e - 52) (-1074) with hT
  set k := (T - e).toNat with hk
  have hkT : e + k = T := by omega
  have hp : p = (ExtendedMantissa.ofMantissaAndAccuracy m acc >>> k, T) := by
    show shiftToTargetExponent .binary64 m e acc = _
    rw [shiftToTargetExponent_eq, ← hkT]
  -- the shifted mantissa describes `x / 2^k`, and rounds to `roundEven (x / 2^k)`
  have hd := describes_shiftRight
    (show Describes (ExtendedMantissa.ofMantissaAndAccuracy m acc).accuracy
      (ExtendedMantissa.ofMantissaAndAccuracy m acc).mantissa x by
        rw [accuracy_ofMantissaAndAccuracy, mantissa_ofMantissaAndAccuracy]; exact hx) k
  have hr := roundedMantissa_eq hd
  rw [hp]
  dsimp only
  set r := (ExtendedMantissa.ofMantissaAndAccuracy m acc >>> k).roundedMantissa
  have hk2 : (0 : ℚ) < 2 ^ k := by positivity
  have hxk : x / 2 ^ k = x * 2 ^ e / 2 ^ T := by
    rw [← hkT, zpow_add₀ two_ne_zero, zpow_natCast]
    field_simp
  refine ⟨?_, ?_, by omega, ?_⟩
  · -- the value: `roundEven (x / 2^k)` at exponent `T` is `roundMag` of `x * 2^e`
    have hr' : (r : ℚ) = roundEven (x / 2 ^ k) := by exact_mod_cast hr
    rcases (hb.1.trans' (Nat.cast_nonneg m)).eq_or_lt with hx0 | hx0
    · subst hx0
      simp [hr', roundEven]
    · rw [hr', roundMag, ulpExponent_mul_two_zpow hx0 hb.1 hb.2 he, hxk]
  · -- at most `2^53`: `x < m + 1 ≤ 2^(log2 m + 1) ≤ 2^(53 + k)`
    have hpow : ((2 ^ (m.log2 + 1) : ℕ) : ℚ) ≤ 2 ^ 53 * 2 ^ k := by
      rw [← pow_add]
      exact_mod_cast Nat.pow_le_pow_right two_pos (by omega)
    have hm1 : (m : ℚ) + 1 ≤ ((2 ^ (m.log2 + 1) : ℕ) : ℚ) := by exact_mod_cast Nat.lt_log2_self
    have hlt : x / 2 ^ k ≤ ((2 ^ 53 : ℕ) : ℤ) := by
      rw [div_le_iff₀ hk2]
      push_cast
      linarith [hb.2]
    have := roundEven_le_of_le hlt
    omega
  · -- above the least exponent the leading bit of `m` is shifted to `2^52`
    intro hsmall
    by_contra hTne
    have hTe : T = (m.log2 : ℤ) + e - 52 := by omega
    have hm : 0 < m := by
      rcases Nat.eq_zero_or_pos m with h0 | h0
      · simp [h0] at hTe; omega
      · exact h0
    have hkl : 52 + k = m.log2 := by omega
    have hge : ((2 ^ 52 : ℕ) : ℤ) ≤ roundEven (x / 2 ^ k) := by
      apply le_roundEven_of_le
      rw [le_div_iff₀ hk2]
      have hlo : ((2 ^ m.log2 : ℕ) : ℚ) ≤ m := by exact_mod_cast Nat.log2_self_le hm.ne'
      have h2 : (((2 ^ 52 : ℕ) : ℤ) : ℚ) * 2 ^ k = ((2 ^ m.log2 : ℕ) : ℚ) := by
        rw [Int.cast_natCast, Nat.cast_pow, Nat.cast_pow, Nat.cast_ofNat, ← pow_add, hkl]
      rw [h2]
      linarith [hb.1]
    omega

/-- The rounding step of every operation, for an exact value `x * 2^e ≥ 0` described by `m` and
`acc`: a zero when the value rounds to zero, else a finite value in rounded shape holding
`roundMag (x * 2^e)`. Its exponent may still be too large for binary64; encoding decides that. -/
theorem roundWithAccuracy_eq {s : Sign} {m : ℕ} {e : ℤ} {acc : Accuracy} {x : ℚ}
    (hx : Describes acc m x) (he : e ≤ -1074 ∨ 2 ^ 52 ≤ m) :
    (roundMag (x * 2 ^ e) = 0 ∧ roundWithAccuracy .binary64 s m e acc = .zero s) ∨
      ∃ n E hn, roundWithAccuracy .binary64 s m e acc = .finite s n E hn ∧ n < 2 ^ 53 ∧
        -1074 ≤ E ∧ (2 ^ 52 ≤ n ∨ E = -1074) ∧ (n : ℚ) * 2 ^ E = roundMag (x * 2 ^ e) := by
  obtain ⟨hval, hr53, hE, hnorm⟩ := firstStage hx he
  unfold roundWithAccuracy
  generalize shiftToTargetExponent .binary64 m e acc = p at hval hr53 hE hnorm ⊢
  obtain ⟨em, E⟩ := p
  dsimp only at hval hr53 hE hnorm ⊢
  rcases hr53.lt_or_eq with hlt | heq
  · -- below `2^53` the second shift does nothing
    rw [shiftToTargetExponent_of_lt hlt hE]
    dsimp only
    by_cases h0 : em.roundedMantissa = 0
    · left
      rw [dif_pos h0]
      refine ⟨?_, rfl⟩
      rw [← hval, h0]
      simp
    · right
      rw [dif_neg h0]
      exact ⟨_, _, _, rfl, hlt, hE, by omega, hval⟩
  · -- rounding carried into `2^53`: one more exact shift
    right
    rw [heq, shiftToTargetExponent_two_pow hE]
    refine ⟨2 ^ 52, E + 1, by norm_num, ?_, by norm_num, by omega, Or.inl le_rfl, ?_⟩
    · rfl
    · rw [← hval, heq, zpow_add₀ two_ne_zero]
      push_cast
      ring

/-! ## The result of an operation -/

/-- `u` is what binary64 arithmetic gives for the exact result `q`: the rounding of `q` when it
stays below `2^1024` in magnitude, the infinity of `q`'s sign when it does not. -/
def RoundsTo (u : UnpackedFloat) (q : ℚ) : Prop :=
  if |roundNearest q| < 2 ^ 1024 then u.isFinite = true ∧ value u = roundNearest q
  else u = .infinity (if q < 0 then .negative else .positive)

theorem roundNearest_signed (s : Sign) {q : ℚ} (hq : 0 ≤ q) :
    roundNearest (signed s q) = signed s (roundMag q) := by
  cases s <;> simp [roundNearest_of_nonneg hq]

theorem abs_signed (s : Sign) (q : ℚ) : |signed s q| = |q| := by
  cases s <;> simp

theorem two_pow_1024_eq : (2 : ℚ) ^ 53 * 2 ^ (971 : ℤ) = 2 ^ 1024 := by
  rw [← zpow_natCast, ← zpow_add₀ two_ne_zero, ← zpow_natCast]
  norm_num

/-- Encoding the rounding step's result gives the exact value rounded: finite below `2^1024`, the
infinity of its sign above. -/
theorem roundsTo_roundWithAccuracy {s : Sign} {m : ℕ} {e : ℤ} {acc : Accuracy} {x : ℚ}
    (hx : Describes acc m x) (he : e ≤ -1074 ∨ 2 ^ 52 ≤ m) :
    RoundsTo (unpack .binary64 (pack .binary64 (roundWithAccuracy .binary64 s m e acc)))
      (signed s (x * 2 ^ e)) := by
  have hq : 0 ≤ x * 2 ^ e := mul_nonneg (hx.bounds.1.trans' (Nat.cast_nonneg m)) (by positivity)
  unfold RoundsTo
  rw [roundNearest_signed s hq, abs_signed, abs_of_nonneg (roundMag_nonneg hq)]
  rcases roundWithAccuracy_eq hx he with ⟨h0, hz⟩ | ⟨n, E, hn, hu, hn53, hE, hnorm, hval⟩
  · rw [hz, unpack_pack_zero, h0, if_pos (by norm_num)]
    cases s <;> simp [value, UnpackedFloat.isFinite]
  · rw [hu, unpack_pack_finite hn hn53 hE hnorm, ← hval]
    have hn53' : (n : ℚ) < 2 ^ 53 := by exact_mod_cast hn53
    by_cases hfit : E ≤ 971
    · have hlt : (n : ℚ) * 2 ^ E < 2 ^ 1024 :=
        calc (n : ℚ) * 2 ^ E < 2 ^ 53 * 2 ^ E := mul_lt_mul_of_pos_right hn53' (by positivity)
          _ ≤ 2 ^ 53 * 2 ^ (971 : ℤ) :=
              mul_le_mul_of_nonneg_left (zpow_le_zpow_right₀ (by norm_num) hfit) (by positivity)
          _ = 2 ^ 1024 := two_pow_1024_eq
      rw [if_pos hfit, if_pos hlt]
      exact ⟨rfl, rfl⟩
    · -- past the largest exponent the mantissa is normal, and the value at least `2^1024`
      have hn52 : (2 : ℚ) ^ 52 ≤ n := by exact_mod_cast (by omega : 2 ^ 52 ≤ n)
      have hge : 2 ^ 1024 ≤ (n : ℚ) * 2 ^ E :=
        calc (2 : ℚ) ^ 1024 = 2 ^ 52 * 2 ^ (972 : ℤ) := by
              rw [← zpow_natCast, ← zpow_natCast, ← zpow_add₀ two_ne_zero]
              norm_num
          _ ≤ (n : ℚ) * 2 ^ E :=
              mul_le_mul hn52 (zpow_le_zpow_right₀ (by norm_num) (by omega)) (by positivity)
                (by positivity)
      have hpos : 0 < x * 2 ^ e := by
        rcases hq.eq_or_lt with h0 | h0
        · rw [hval, ← h0, roundMag_zero] at hge
          exact absurd hge (not_le.2 (by positivity))
        · exact h0
      rw [if_neg hfit, if_neg (not_lt.2 hge)]
      cases s <;> simp [hpos, not_lt.2 hpos.le]

/-! ## Signs -/

@[simp] theorem negative_mul_negative : Sign.negative * Sign.negative = .positive := rfl
@[simp] theorem negative_mul_positive : Sign.negative * Sign.positive = .negative := rfl
@[simp] theorem positive_mul_negative : Sign.positive * Sign.negative = .negative := rfl
@[simp] theorem positive_mul_positive : Sign.positive * Sign.positive = .positive := rfl
@[simp] theorem negative_div_negative : Sign.negative / Sign.negative = .positive := rfl
@[simp] theorem negative_div_positive : Sign.negative / Sign.positive = .negative := rfl
@[simp] theorem positive_div_negative : Sign.positive / Sign.negative = .negative := rfl
@[simp] theorem positive_div_positive : Sign.positive / Sign.positive = .positive := rfl
@[simp] theorem neg_negative : -Sign.negative = .positive := rfl
@[simp] theorem neg_positive : -Sign.positive = .negative := rfl

theorem signed_mul (s₁ s₂ : Sign) (a b : ℚ) :
    signed (s₁ * s₂) (a * b) = signed s₁ a * signed s₂ b := by
  cases s₁ <;> cases s₂ <;> simp

theorem signed_div (s₁ s₂ : Sign) (a b : ℚ) :
    signed (s₁ / s₂) (a / b) = signed s₁ a / signed s₂ b := by
  cases s₁ <;> cases s₂ <;> simp [neg_div, div_neg]

theorem signed_apply (s : Sign) (n : ℕ) : ((s.apply (n : ℤ) : ℤ) : ℚ) = signed s n := by
  cases s <;> simp [Sign.apply]

/-! ## Results that need no rounding -/

theorem roundsTo_zero (s : Sign) : RoundsTo (unpack .binary64 (pack .binary64 (.zero s))) 0 := by
  rw [unpack_pack_zero]
  simp [RoundsTo, value, UnpackedFloat.isFinite]

/-- Every canonical value is its own rounding. -/
theorem roundNearest_value {u : UnpackedFloat} (hu : Canonical u) :
    roundNearest (value u) = value u := by
  cases u with
  | notANumber => simp [value]
  | infinity => simp [value]
  | zero => simp [value]
  | finite s m e hm =>
    obtain ⟨hm53, he, -, -⟩ := hu
    rw [value, roundNearest_signed s (by positivity), roundMag_representable hm53 he]

/-- A canonical value lies below `2^1024` in magnitude. -/
theorem abs_value_lt {u : UnpackedFloat} (hu : Canonical u) : |value u| < 2 ^ 1024 := by
  cases u with
  | notANumber => simp [value]
  | infinity => simp [value]
  | zero => simp [value]
  | finite s m e hm =>
    obtain ⟨hm53, -, hfit, -⟩ := hu
    rw [value, abs_signed, abs_of_nonneg (by positivity)]
    calc (m : ℚ) * 2 ^ e < 2 ^ 53 * 2 ^ e :=
          mul_lt_mul_of_pos_right (by exact_mod_cast hm53) (by positivity)
      _ ≤ 2 ^ 53 * 2 ^ (971 : ℤ) :=
          mul_le_mul_of_nonneg_left (zpow_le_zpow_right₀ (by norm_num) hfit) (by positivity)
      _ = 2 ^ 1024 := two_pow_1024_eq

/-- A canonical finite value is its own rounding, and encoding keeps it. -/
theorem roundsTo_self {u : UnpackedFloat} (hu : Canonical u) (hf : u.isFinite = true) :
    RoundsTo (unpack .binary64 (pack .binary64 u)) (value u) := by
  cases u with
  | notANumber => simp [UnpackedFloat.isFinite] at hf
  | infinity => simp [UnpackedFloat.isFinite] at hf
  | zero s => exact roundsTo_zero s
  | finite s m e hm =>
    have hu' := hu
    obtain ⟨hm53, he, hfit, hn⟩ := hu'
    rw [unpack_pack_finite hm hm53 he hn, if_pos hfit]
    unfold RoundsTo
    rw [roundNearest_value hu, if_pos (abs_value_lt hu)]
    exact ⟨rfl, rfl⟩

/-! ## Normalising an integer mantissa

Addition, subtraction and the conversions hand an exact integer mantissa and an exponent to
`normalize`, which moves the exponent down to binary64's last place where it is above it, and
then rounds. -/

theorem roundsTo_round (s : Sign) (m : ℕ) (hm : 0 < m) (e : ℤ) :
    RoundsTo (unpack .binary64 (pack .binary64 (UnpackedFloat.round .binary64 s m e)))
      (signed s (m * 2 ^ e)) := by
  have hlog : 2 ^ m.log2 ≤ m := Nat.log2_self_le hm.ne'
  set T := max ((m.log2 : ℤ) + e - 52) (-1074) with hT
  set j := (e - T).toNat with hj
  have hround : UnpackedFloat.round .binary64 s m e =
      roundWithAccuracy .binary64 s (m <<< j) (e - j) .exact := by
    simp only [UnpackedFloat.round, decreaseExponent, targetExponent_totalExponent, ← hT, ← hj]
  -- below the last place the exponent comes down to it, else it stays where it is
  have hside : e - j ≤ -1074 ∨ 2 ^ 52 ≤ m <<< j := by
    rw [Nat.shiftLeft_eq]
    by_cases hlow : e - j ≤ -1074
    · exact Or.inl hlow
    · right
      have hpow : 2 ^ 52 ≤ 2 ^ m.log2 * 2 ^ j := by
        rw [← pow_add]
        exact Nat.pow_le_pow_right two_pos (by omega)
      exact hpow.trans (Nat.mul_le_mul_right _ hlog)
  have hval : ((m <<< j : ℕ) : ℚ) * 2 ^ (e - j) = m * 2 ^ e := by
    rw [Nat.shiftLeft_eq, zpow_sub₀ two_ne_zero, zpow_natCast]
    push_cast
    field_simp
  rw [hround, ← hval]
  exact roundsTo_roundWithAccuracy (describes_exact _) hside

theorem roundsTo_normalize (n e : ℤ) (zs : Sign) :
    RoundsTo (unpack .binary64 (pack .binary64 (UnpackedFloat.normalize .binary64 n e zs)))
      (n * 2 ^ e) := by
  unfold UnpackedFloat.normalize
  rcases hc : compare n 0
  · -- a negative mantissa: round its magnitude with the negative sign
    have hn : n < 0 := Int.compare_eq_lt.1 hc
    have h := roundsTo_round .negative (-n).toNat (by omega) e
    have hcast : (((-n).toNat : ℕ) : ℚ) = -n := by exact_mod_cast Int.toNat_of_nonneg (by omega)
    rwa [hcast, signed_negative, ← neg_mul, neg_neg] at h
  · have hn : n = 0 := Int.compare_eq_eq.1 hc
    simpa [hn] using roundsTo_zero zs
  · have hn : 0 < n := Int.compare_eq_gt.1 hc
    have h := roundsTo_round .positive n.toNat (by omega) e
    have hcast : ((n.toNat : ℕ) : ℚ) = n := by exact_mod_cast Int.toNat_of_nonneg hn.le
    rwa [hcast, signed_positive] at h

/-! ## The operations -/

/-- Canonical inputs meet the product's side condition: a normal mantissa brings the product of
the mantissas to `2^52`, and two subnormal exponents sum below `-1074`. -/
theorem mul_side {m₁ m₂ : ℕ} {e₁ e₂ : ℤ} (h₁ : 0 < m₁) (h₂ : 0 < m₂)
    (hc₁ : 2 ^ 52 ≤ m₁ ∨ e₁ = -1074) (hc₂ : 2 ^ 52 ≤ m₂ ∨ e₂ = -1074) :
    e₁ + e₂ ≤ -1074 ∨ 2 ^ 52 ≤ m₁ * m₂ := by
  rcases hc₁ with hc₁ | hc₁
  · exact Or.inr (hc₁.trans (Nat.le_mul_of_pos_right m₁ h₂))
  rcases hc₂ with hc₂ | hc₂
  · exact Or.inr (hc₂.trans (Nat.le_mul_of_pos_left m₂ h₁))
  · left
    omega

/-- The product of two finite floats is their exact product rounded once. -/
theorem roundsTo_mul {a b : UnpackedFloat} (ha : Canonical a) (hb : Canonical b)
    (ha' : a.isFinite = true) (hb' : b.isFinite = true) :
    RoundsTo (unpack .binary64 (pack .binary64 (UnpackedFloat.mul .binary64 a b)))
      (value a * value b) := by
  cases a with
  | notANumber => simp [UnpackedFloat.isFinite] at ha'
  | infinity => simp [UnpackedFloat.isFinite] at ha'
  | zero sa =>
    cases b with
    | notANumber => simp [UnpackedFloat.isFinite] at hb'
    | infinity => simp [UnpackedFloat.isFinite] at hb'
    | zero sb => simpa [UnpackedFloat.mul, value] using roundsTo_zero (sa * sb)
    | finite sb mb eb hmb => simpa [UnpackedFloat.mul, value] using roundsTo_zero (sa * sb)
  | finite sa ma ea hma =>
    cases b with
    | notANumber => simp [UnpackedFloat.isFinite] at hb'
    | infinity => simp [UnpackedFloat.isFinite] at hb'
    | zero sb => simpa [UnpackedFloat.mul, value] using roundsTo_zero (sa * sb)
    | finite sb mb eb hmb =>
      have h : RoundsTo (unpack .binary64 (pack .binary64
          (roundWithAccuracy .binary64 (sa * sb) (ma * mb) (ea + eb) .exact)))
          (signed (sa * sb) (((ma * mb : ℕ) : ℚ) * 2 ^ (ea + eb))) :=
        roundsTo_roundWithAccuracy (describes_exact _) (mul_side hma hmb ha.2.2.2 hb.2.2.2)
      have hq : signed (sa * sb) (((ma * mb : ℕ) : ℚ) * 2 ^ (ea + eb)) =
          value (.finite sa ma ea hma) * value (.finite sb mb eb hmb) := by
        rw [value, value, ← signed_mul, zpow_add₀ two_ne_zero]
        push_cast
        ring_nf
      rw [hq] at h
      exact h

/-- What `divCore` hands to the rounding step: the quotient of the shifted dividend describes
the exact quotient at the target exponent, and the side condition holds. -/
theorem divCore_spec {m₁ m₂ : ℕ} (e₁ e₂ : ℤ) (h₁ : 0 < m₁) (h₂ : 0 < m₂) :
    let d := divCore .binary64 m₁ e₁ m₂ e₂
    Describes d.2.2 d.1 (m₁ * 2 ^ (e₁ - e₂ - d.2.1).toNat / m₂) ∧
      (e₁ - e₂ - d.2.1).toNat + d.2.1 = e₁ - e₂ ∧ (d.2.1 ≤ -1074 ∨ 2 ^ 52 ≤ d.1) := by
  intro d
  set t := min (e₁ - e₂) (max (((m₁.log2 + 1 + e₁) - (m₂.log2 + 1 + e₂)) - 53) (-1074)) with ht
  set k := (e₁ - e₂ - t).toNat with hk
  have hd : d = (m₁ * 2 ^ k / m₂, t, accuracyOfFraction (m₁ * 2 ^ k % m₂) m₂) := by
    simp only [d, divCore, targetExponent_binary64, totalExponent, Nat.shiftLeft_eq, ← ht, ← hk]
  rw [hd]
  dsimp only
  refine ⟨?_, by omega, ?_⟩
  · -- the quotient and remainder together are the exact quotient
    have h := describes_accuracyOfFraction (m₁ * 2 ^ k / m₂) (Nat.mod_lt (m₁ * 2 ^ k) h₂)
    have hq : ((m₁ * 2 ^ k / m₂ : ℕ) : ℚ) + ((m₁ * 2 ^ k % m₂ : ℕ) : ℚ) / m₂ =
        (m₁ : ℚ) * 2 ^ k / m₂ := by
      have hm₂ : (m₂ : ℚ) ≠ 0 := by exact_mod_cast h₂.ne'
      have := Nat.div_add_mod' (m₁ * 2 ^ k) m₂
      field_simp
      exact_mod_cast this
    rwa [hq] at h
  · -- above the least exponent the dividend is shifted until the quotient has 53 bits
    by_cases hlow : t ≤ -1074
    · exact Or.inl hlow
    · right
      have hlog₁ : 2 ^ m₁.log2 ≤ m₁ := Nat.log2_self_le h₁.ne'
      have hlog₂ : m₂ < 2 ^ (m₂.log2 + 1) := Nat.lt_log2_self
      rw [Nat.le_div_iff_mul_le h₂]
      calc 2 ^ 52 * m₂ ≤ 2 ^ 52 * 2 ^ (m₂.log2 + 1) := Nat.mul_le_mul_left _ hlog₂.le
        _ = 2 ^ (52 + (m₂.log2 + 1)) := by rw [← pow_add]
        _ ≤ 2 ^ (m₁.log2 + k) := Nat.pow_le_pow_right Nat.two_pos (by omega)
        _ ≤ m₁ * 2 ^ k := by rw [pow_add]; exact Nat.mul_le_mul_right _ hlog₁

/-- The quotient of two finite floats, the divisor not zero, is their exact quotient rounded
once. -/
theorem roundsTo_div {a b : UnpackedFloat} (ha : Canonical a) (hb : Canonical b)
    (ha' : a.isFinite = true) (hb' : b.isFinite = true) (hb0 : value b ≠ 0) :
    RoundsTo (unpack .binary64 (pack .binary64 (UnpackedFloat.div .binary64 a b)))
      (value a / value b) := by
  cases b with
  | notANumber => simp [UnpackedFloat.isFinite] at hb'
  | infinity => simp [UnpackedFloat.isFinite] at hb'
  | zero sb => simp [value] at hb0
  | finite sb mb eb hmb =>
    cases a with
    | notANumber => simp [UnpackedFloat.isFinite] at ha'
    | infinity => simp [UnpackedFloat.isFinite] at ha'
    | zero sa => simpa [UnpackedFloat.div, value] using roundsTo_zero (sa / sb)
    | finite sa ma ea hma =>
      set d := divCore .binary64 ma ea mb eb with hd
      obtain ⟨hdesc, hexp, hside⟩ := divCore_spec ea eb hma hmb
      set k := (ea - eb - d.2.1).toNat
      have h : RoundsTo (unpack .binary64 (pack .binary64
          (roundWithAccuracy .binary64 (sa / sb) d.1 d.2.1 d.2.2)))
          (signed (sa / sb) ((ma : ℚ) * 2 ^ k / mb * 2 ^ d.2.1)) :=
        roundsTo_roundWithAccuracy hdesc hside
      have hpow : (2 : ℚ) ^ k * 2 ^ d.2.1 = 2 ^ ea / 2 ^ eb := by
        rw [← zpow_natCast, ← zpow_add₀ two_ne_zero, hexp, zpow_sub₀ two_ne_zero]
      have hq : signed (sa / sb) ((ma : ℚ) * 2 ^ k / mb * 2 ^ d.2.1) =
          value (.finite sa ma ea hma) / value (.finite sb mb eb hmb) := by
        rw [value, value, ← signed_div]
        congr 1
        rw [div_mul_eq_mul_div, mul_assoc, hpow]
        field_simp
      rw [hq] at h
      exact h

/-- Bringing a mantissa down to a smaller exponent keeps its value. -/
theorem value_decreaseExponent (m : ℕ) {e t : ℤ} (ht : t ≤ e) :
    ((decreaseExponent m e t).1 : ℚ) * 2 ^ t = m * 2 ^ e := by
  have hk : ((e - t).toNat : ℤ) + t = e := by omega
  simp only [decreaseExponent, Nat.shiftLeft_eq, Nat.cast_mul, Nat.cast_pow, Nat.cast_ofNat]
  rw [mul_assoc, ← zpow_natCast, ← zpow_add₀ two_ne_zero, hk]

/-- The two finite summands, aligned at the smaller exponent, add to the exact sum. -/
theorem value_alignedSum (sa sb : Sign) (ma mb : ℕ) (ea eb : ℤ) :
    ((sa.apply (decreaseExponent ma ea (min ea eb)).1 +
        sb.apply (decreaseExponent mb eb (min ea eb)).1 : ℤ) : ℚ) * 2 ^ min ea eb =
      signed sa (ma * 2 ^ ea) + signed sb (mb * 2 ^ eb) := by
  rw [Int.cast_add, signed_apply, signed_apply, add_mul]
  have ha := value_decreaseExponent ma (min_le_left ea eb)
  have hb := value_decreaseExponent mb (min_le_right ea eb)
  cases sa <;> cases sb <;> simp only [signed, neg_mul, ha, hb]

/-- The sum of two finite floats is their exact sum rounded once. -/
theorem roundsTo_add {a b : UnpackedFloat} (ha : Canonical a) (hb : Canonical b)
    (ha' : a.isFinite = true) (hb' : b.isFinite = true) :
    RoundsTo (unpack .binary64 (pack .binary64 (UnpackedFloat.add .binary64 a b)))
      (value a + value b) := by
  cases a with
  | notANumber => simp [UnpackedFloat.isFinite] at ha'
  | infinity => simp [UnpackedFloat.isFinite] at ha'
  | zero sa =>
    cases b with
    | notANumber => simp [UnpackedFloat.isFinite] at hb'
    | infinity => simp [UnpackedFloat.isFinite] at hb'
    | zero sb =>
      -- two zeros add to a zero, whichever its sign
      simp only [UnpackedFloat.add, value, add_zero]
      split
      · exact roundsTo_zero sa
      · exact roundsTo_zero .positive
    | finite sb mb eb hmb => simpa [UnpackedFloat.add, value] using roundsTo_self hb hb'
  | finite sa ma ea hma =>
    cases b with
    | notANumber => simp [UnpackedFloat.isFinite] at hb'
    | infinity => simp [UnpackedFloat.isFinite] at hb'
    | zero sb => simpa [UnpackedFloat.add, value] using roundsTo_self ha ha'
    | finite sb mb eb hmb =>
      have h := roundsTo_normalize (sa.apply (decreaseExponent ma ea (min ea eb)).1 +
        sb.apply (decreaseExponent mb eb (min ea eb)).1) (min ea eb) .positive
      rw [value_alignedSum] at h
      exact h

theorem apply_neg_sign (s : Sign) (n : ℤ) : (-s).apply n = -s.apply n := by
  cases s <;> simp [Sign.apply]

theorem signed_neg_sign (s : Sign) (q : ℚ) : signed (-s) q = -signed s q := by
  cases s <;> simp [signed]

/-- The difference of two finite floats is their exact difference rounded once. -/
theorem roundsTo_sub {a b : UnpackedFloat} (ha : Canonical a) (hb : Canonical b)
    (ha' : a.isFinite = true) (hb' : b.isFinite = true) :
    RoundsTo (unpack .binary64 (pack .binary64 (UnpackedFloat.sub .binary64 a b)))
      (value a - value b) := by
  cases a with
  | notANumber => simp [UnpackedFloat.isFinite] at ha'
  | infinity => simp [UnpackedFloat.isFinite] at ha'
  | zero sa =>
    cases b with
    | notANumber => simp [UnpackedFloat.isFinite] at hb'
    | infinity => simp [UnpackedFloat.isFinite] at hb'
    | zero sb =>
      simp only [UnpackedFloat.sub, value, sub_zero]
      split
      · exact roundsTo_zero sa
      · exact roundsTo_zero .positive
    | finite sb mb eb hmb =>
      -- a zero minus a float is the float with its sign turned, exactly
      have h : RoundsTo (unpack .binary64 (pack .binary64 (.finite (-sb) mb eb hmb)))
          (value (.finite (-sb) mb eb hmb)) := roundsTo_self hb hb'
      simpa [UnpackedFloat.sub, value, signed_neg_sign] using h
  | finite sa ma ea hma =>
    cases b with
    | notANumber => simp [UnpackedFloat.isFinite] at hb'
    | infinity => simp [UnpackedFloat.isFinite] at hb'
    | zero sb => simpa [UnpackedFloat.sub, value] using roundsTo_self ha ha'
    | finite sb mb eb hmb =>
      -- the difference is the sum with the second sign turned
      have hv : ((sa.apply (decreaseExponent ma ea (min ea eb)).1 -
          sb.apply (decreaseExponent mb eb (min ea eb)).1 : ℤ) : ℚ) * 2 ^ min ea eb =
          value (.finite sa ma ea hma) - value (.finite sb mb eb hmb) := by
        rw [sub_eq_add_neg, ← apply_neg_sign, value_alignedSum, signed_neg_sign,
          ← sub_eq_add_neg, value, value]
      have h := roundsTo_normalize (sa.apply (decreaseExponent ma ea (min ea eb)).1 -
        sb.apply (decreaseExponent mb eb (min ea eb)).1) (min ea eb) .positive
      rw [hv] at h
      exact h

/-- A natural number converts to the nearest float. -/
theorem roundsTo_ofNat (n : ℕ) :
    RoundsTo (unpack .binary64 (pack .binary64 (UnpackedFloat.ofNat .binary64 n))) n := by
  have h := roundsTo_normalize n 0 .positive
  rw [zpow_zero, mul_one, Int.cast_natCast] at h
  exact h

end Framing.Binary64
