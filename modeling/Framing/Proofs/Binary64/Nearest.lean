import Mathlib.Algebra.Order.Field.Power
import Mathlib.Data.Int.Log
import Mathlib.Data.Rat.Floor
import Mathlib.Tactic.Linarith
import Mathlib.Tactic.Positivity
import Mathlib.Tactic.Ring

/-!
# Rounding a rational to binary64

Every binary64 operation computes its exact rational result and rounds it to the nearest value
with a significand below `2^53`, a tie going to the even significand, and with no place finer
than `2^-1074`. This module states that rounding on `ℚ`, away from bit patterns, and proves
what the geometry needs of it:

* `roundNearest` is monotone (`roundNearest_mono`);
* it fixes every value `n * 2^e` with `|n| < 2^53` and `-1074 ≤ e`
  (`roundNearest_representable`);
* it moves `q` by at most `|q| / 2^53 + 2^-1075` (`abs_roundNearest_sub_le`), and by at most
  `|q| / 2^53` when `q` is a whole multiple of `2^-1074`, as the sum of two floats is
  (`abs_roundNearest_sub_le_of_grid`).

The exponent is not capped above: a rounded value of `2^1024` or more is where a float
overflows, and the modules on the operations say so.
-/

namespace Framing.Binary64

/-! ## Rounding to an integer, ties to even -/

/-- `x` rounded to the nearest integer, a tie going to the even one. -/
def roundEven (x : ℚ) : ℤ :=
  if x - ⌊x⌋ < 1 / 2 then ⌊x⌋
  else if 1 / 2 < x - ⌊x⌋ then ⌊x⌋ + 1
  else if ⌊x⌋ % 2 = 0 then ⌊x⌋ else ⌊x⌋ + 1

theorem floor_le_roundEven (x : ℚ) : ⌊x⌋ ≤ roundEven x := by
  unfold roundEven
  split_ifs <;> omega

theorem roundEven_le_floor_add_one (x : ℚ) : roundEven x ≤ ⌊x⌋ + 1 := by
  unfold roundEven
  split_ifs <;> omega

@[simp] theorem roundEven_intCast (n : ℤ) : roundEven n = n := by
  simp [roundEven]

theorem roundEven_mono {x y : ℚ} (h : x ≤ y) : roundEven x ≤ roundEven y := by
  rcases (Int.floor_mono h).lt_or_eq with hlt | heq
  · -- a whole integer apart: `x` rounds at most to `⌊x⌋ + 1 ≤ ⌊y⌋`
    have hx := roundEven_le_floor_add_one x
    have hy := floor_le_roundEven y
    omega
  · -- one integer part: the fractions are ordered as `x` and `y` are, and decide alike
    have hf : x - ⌊y⌋ ≤ y - ⌊y⌋ := by linarith
    unfold roundEven
    rw [heq]
    split_ifs <;> linarith

theorem roundEven_le_of_le {x : ℚ} {n : ℤ} (h : x ≤ n) : roundEven x ≤ n :=
  (roundEven_mono h).trans_eq (roundEven_intCast n)

theorem le_roundEven_of_le {x : ℚ} {n : ℤ} (h : (n : ℚ) ≤ x) : n ≤ roundEven x :=
  (roundEven_intCast n).symm.trans_le (roundEven_mono h)

theorem roundEven_nonneg {x : ℚ} (h : 0 ≤ x) : 0 ≤ roundEven x :=
  le_roundEven_of_le (by simpa using h)

/-- Rounding to nearest moves a value by at most one half. -/
theorem abs_sub_roundEven_le (x : ℚ) : |x - roundEven x| ≤ 1 / 2 := by
  have h₁ := Int.floor_le x
  have h₂ := Int.lt_floor_add_one x
  unfold roundEven
  rw [abs_le]
  split_ifs <;> push_cast <;> constructor <;> linarith

/-! ## The last place of a binade

In the binade `[2^L, 2^(L+1))` binary64 has fifty-three significand places, so its last place
is `2^(L-52)`; below `2^-1022` the subnormals keep the last place at `2^-1074`. -/

/-- The exponent of the last significand place binary64 has at `q > 0`. -/
def ulpExponent (q : ℚ) : ℤ := max (Int.log 2 q - 52) (-1074)

theorem log_eq_of_bounds {q : ℚ} {L : ℤ} (h₁ : (2 : ℚ) ^ L ≤ q) (h₂ : q < 2 ^ (L + 1)) :
    Int.log 2 q = L := by
  have hq : 0 < q := lt_of_lt_of_le (zpow_pos two_pos L) h₁
  have hle : L ≤ Int.log 2 q :=
    (Int.zpow_le_iff_le_log Nat.one_lt_two hq).1 (by exact_mod_cast h₁)
  have hlt : Int.log 2 q < L + 1 :=
    (Int.lt_zpow_iff_log_lt Nat.one_lt_two hq).1 (by exact_mod_cast h₂)
  omega

theorem two_zpow_log_le {q : ℚ} (hq : 0 < q) : (2 : ℚ) ^ Int.log 2 q ≤ q := by
  exact_mod_cast Int.zpow_log_le_self Nat.one_lt_two hq

theorem lt_two_zpow_log_add_one (q : ℚ) : q < (2 : ℚ) ^ (Int.log 2 q + 1) := by
  exact_mod_cast Int.lt_zpow_succ_log_self Nat.one_lt_two q

theorem log_natCast_mul_two_zpow {n : ℕ} (hn : 0 < n) (e : ℤ) :
    Int.log 2 ((n : ℚ) * 2 ^ e) = Nat.log 2 n + e := by
  have hlo : 2 ^ Nat.log 2 n ≤ n := Nat.pow_log_le_self 2 hn.ne'
  have hhi : n < 2 ^ (Nat.log 2 n + 1) := Nat.lt_pow_succ_log_self one_lt_two n
  apply log_eq_of_bounds
  · calc (2 : ℚ) ^ ((Nat.log 2 n : ℤ) + e) = ((2 ^ Nat.log 2 n : ℕ) : ℚ) * 2 ^ e := by
          rw [zpow_add₀ two_ne_zero, zpow_natCast]; push_cast; rfl
      _ ≤ n * 2 ^ e := by gcongr
  · calc (n : ℚ) * 2 ^ e < ((2 ^ (Nat.log 2 n + 1) : ℕ) : ℚ) * 2 ^ e := by
          gcongr
      _ = 2 ^ ((Nat.log 2 n : ℤ) + e + 1) := by
          rw [add_right_comm, zpow_add₀ two_ne_zero, ← Nat.cast_succ, zpow_natCast]; push_cast; rfl

theorem ulpExponent_mono {q q' : ℚ} (hq : 0 < q) (h : q ≤ q') :
    ulpExponent q ≤ ulpExponent q' := by
  have : Int.log 2 q ≤ Int.log 2 q' := Int.log_mono_right hq h
  unfold ulpExponent
  omega

/-! ## Rounding a magnitude -/

/-- `q ≥ 0` rounded to nearest at the last place of its binade, a tie going to the even
significand. -/
def roundMag (q : ℚ) : ℚ := roundEven (q / 2 ^ ulpExponent q) * 2 ^ ulpExponent q

@[simp] theorem roundMag_zero : roundMag 0 = 0 := by
  simp [roundMag, roundEven]

theorem roundMag_nonneg {q : ℚ} (hq : 0 ≤ q) : 0 ≤ roundMag q := by
  have h := roundEven_nonneg (div_nonneg hq (zpow_pos two_pos (ulpExponent q)).le)
  exact mul_nonneg (by exact_mod_cast h) (zpow_pos two_pos _).le

/-- A rounded magnitude is at most the power of two above its binade, or one last place. -/
theorem roundMag_le_two_zpow (q : ℚ) :
    roundMag q ≤ 2 ^ max (Int.log 2 q + 1) (ulpExponent q) := by
  set E := ulpExponent q
  set k := (Int.log 2 q + 1 - E).toNat
  have hlt : q / 2 ^ E < ((2 ^ k : ℤ) : ℚ) := by
    rw [div_lt_iff₀ (zpow_pos two_pos E)]
    push_cast
    rw [← zpow_natCast, ← zpow_add₀ two_ne_zero]
    calc q < 2 ^ (Int.log 2 q + 1) := lt_two_zpow_log_add_one q
      _ ≤ 2 ^ ((k : ℤ) + E) := zpow_le_zpow_right₀ one_le_two (by omega)
  have hr : roundEven (q / 2 ^ E) ≤ 2 ^ k := roundEven_le_of_le hlt.le
  calc roundMag q = roundEven (q / 2 ^ E) * 2 ^ E := rfl
    _ ≤ ((2 ^ k : ℤ) : ℚ) * 2 ^ E := by gcongr
    _ = 2 ^ max (Int.log 2 q + 1) E := by
        push_cast
        rw [← zpow_natCast, ← zpow_add₀ two_ne_zero]
        congr 1
        omega

/-- Where the last place is not above the leading bit, the leading power of two is a binary64
value, so rounding never goes below it. -/
theorem two_zpow_log_le_roundMag {q : ℚ} (hq : 0 < q) (hE : ulpExponent q ≤ Int.log 2 q) :
    2 ^ Int.log 2 q ≤ roundMag q := by
  set E := ulpExponent q
  set L := Int.log 2 q
  have hpow : (2 : ℚ) ^ L = ((2 ^ (L - E).toNat : ℤ) : ℚ) * 2 ^ E := by
    push_cast
    rw [← zpow_natCast, ← zpow_add₀ two_ne_zero]
    congr 1
    omega
  have hn : ((2 ^ (L - E).toNat : ℤ) : ℚ) ≤ q / 2 ^ E := by
    rw [le_div_iff₀ (zpow_pos two_pos E), ← hpow]
    exact two_zpow_log_le hq
  calc (2 : ℚ) ^ L = ((2 ^ (L - E).toNat : ℤ) : ℚ) * 2 ^ E := hpow
    _ ≤ roundEven (q / 2 ^ E) * 2 ^ E := by gcongr; exact_mod_cast le_roundEven_of_le hn

theorem roundMag_mono {q q' : ℚ} (hq : 0 ≤ q) (h : q ≤ q') : roundMag q ≤ roundMag q' := by
  rcases hq.eq_or_lt with rfl | hq
  · simpa using roundMag_nonneg h
  have hq' : 0 < q' := hq.trans_le h
  have hL : Int.log 2 q ≤ Int.log 2 q' := Int.log_mono_right hq h
  rcases (ulpExponent_mono hq h).eq_or_lt with hE | hE
  · -- one last place for both: round the two scaled values there
    have hs : q / 2 ^ ulpExponent q ≤ q' / 2 ^ ulpExponent q :=
      div_le_div_of_nonneg_right h (zpow_pos two_pos _).le
    unfold roundMag
    rw [← hE]
    gcongr
    exact_mod_cast roundEven_mono hs
  · -- `q'` lies in a higher binade, whose leading power of two separates the two roundings
    calc roundMag q ≤ 2 ^ max (Int.log 2 q + 1) (ulpExponent q) := roundMag_le_two_zpow q
      _ ≤ 2 ^ Int.log 2 q' :=
          zpow_le_zpow_right₀ one_le_two (by unfold ulpExponent at hE ⊢; omega)
      _ ≤ roundMag q' := two_zpow_log_le_roundMag hq' (by unfold ulpExponent at hE ⊢; omega)

/-- A significand below `2^53` at an exponent of at least `-1074` is a binary64 value, and
rounding leaves it alone. -/
theorem roundMag_representable {n : ℕ} {e : ℤ} (hn : n < 2 ^ 53) (he : -1074 ≤ e) :
    roundMag (n * 2 ^ e) = n * 2 ^ e := by
  rcases Nat.eq_zero_or_pos n with rfl | hpos
  · simp
  have hlog : Nat.log 2 n < 53 := Nat.log_lt_of_lt_pow hpos.ne' hn
  have hE : ulpExponent (n * 2 ^ e) ≤ e := by
    unfold ulpExponent
    rw [log_natCast_mul_two_zpow hpos]
    omega
  set E := ulpExponent (n * 2 ^ e)
  have hint : (n : ℚ) * 2 ^ e / 2 ^ E = ((n * 2 ^ (e - E).toNat : ℕ) : ℤ) := by
    push_cast
    rw [mul_div_assoc, ← zpow_sub₀ two_ne_zero, ← zpow_natCast]
    congr 2
    omega
  unfold roundMag
  rw [hint, roundEven_intCast]
  push_cast
  rw [mul_assoc, ← zpow_natCast, ← zpow_add₀ two_ne_zero]
  congr 2
  omega

/-- Rounding moves a magnitude by at most half its last place. -/
theorem abs_roundMag_sub_le (q : ℚ) : |roundMag q - q| ≤ 2 ^ ulpExponent q / 2 := by
  set E := ulpExponent q
  have hE : (0 : ℚ) < 2 ^ E := zpow_pos two_pos E
  calc |roundMag q - q| = |(roundEven (q / 2 ^ E) - q / 2 ^ E) * 2 ^ E| := by
        show |roundEven (q / 2 ^ E) * 2 ^ E - q| = _
        rw [sub_mul, div_mul_cancel₀ q hE.ne']
    _ = |q / 2 ^ E - roundEven (q / 2 ^ E)| * 2 ^ E := by
        rw [abs_mul, abs_of_pos hE, abs_sub_comm]
    _ ≤ 1 / 2 * 2 ^ E := by gcongr; exact abs_sub_roundEven_le _
    _ = 2 ^ E / 2 := by ring

theorem two_zpow_ulpExponent_le {q : ℚ} (hq : 0 < q) :
    (2 : ℚ) ^ ulpExponent q ≤ q / 2 ^ 52 + 2 ^ (-1074 : ℤ) := by
  have hL := two_zpow_log_le hq
  unfold ulpExponent
  rcases le_total (Int.log 2 q - 52) (-1074) with h | h
  · rw [max_eq_right h]
    have : 0 ≤ q / 2 ^ 52 := by positivity
    linarith
  · rw [max_eq_left h, zpow_sub₀ two_ne_zero]
    have : (0 : ℚ) ≤ 2 ^ (-1074 : ℤ) := by positivity
    have : (2 : ℚ) ^ Int.log 2 q / 2 ^ (52 : ℤ) ≤ q / 2 ^ 52 := by
      rw [zpow_ofNat]
      gcongr
    linarith

/-- Above `2^-1022` the last place is relative: at most `q / 2^52`. -/
theorem two_zpow_ulpExponent_le_of_normal {q : ℚ} (hq : 0 < q) (hn : -1022 ≤ Int.log 2 q) :
    (2 : ℚ) ^ ulpExponent q ≤ q / 2 ^ 52 := by
  have hL := two_zpow_log_le hq
  have hE : ulpExponent q = Int.log 2 q - 52 := by
    unfold ulpExponent
    omega
  rw [hE, zpow_sub₀ two_ne_zero, zpow_ofNat]
  gcongr

theorem abs_roundMag_sub_le_of_nonneg {q : ℚ} (hq : 0 ≤ q) :
    |roundMag q - q| ≤ q / 2 ^ 53 + 2 ^ (-1075 : ℤ) := by
  rcases hq.eq_or_lt with rfl | hq
  · simp
  have h₁ := abs_roundMag_sub_le q
  have h₂ := two_zpow_ulpExponent_le hq
  have h₃ : (2 : ℚ) ^ (-1075 : ℤ) = 2 ^ (-1074 : ℤ) / 2 := by
    rw [show (-1075 : ℤ) = -1074 - 1 by norm_num, zpow_sub_one₀ two_ne_zero, div_eq_mul_inv]
  rw [h₃]
  linarith

/-- Above `2^-1022` rounding is off by a relative `2^-53` at most. -/
theorem abs_roundMag_sub_le_of_normal {q : ℚ} (hq : (2 : ℚ) ^ (-1022 : ℤ) ≤ q) :
    |roundMag q - q| ≤ q / 2 ^ 53 := by
  have hpos : 0 < q := lt_of_lt_of_le (by positivity) hq
  have hn : -1022 ≤ Int.log 2 q :=
    (Int.zpow_le_iff_le_log Nat.one_lt_two hpos).1 (by exact_mod_cast hq)
  calc |roundMag q - q| ≤ 2 ^ ulpExponent q / 2 := abs_roundMag_sub_le q
    _ ≤ q / 2 ^ 52 / 2 := by gcongr; exact two_zpow_ulpExponent_le_of_normal hpos hn
    _ = q / 2 ^ 53 := by ring

/-! ## Rounding a signed value

IEEE rounding to nearest is symmetric: the magnitude is rounded and the sign put back. -/

/-- The binary64 rounding of `q`, to nearest with ties to even. The exponent is not capped
above, so the result is the value a float holds unless it reaches `2^1024`. -/
def roundNearest (q : ℚ) : ℚ := if q < 0 then -roundMag (-q) else roundMag q

theorem roundNearest_of_nonneg {q : ℚ} (hq : 0 ≤ q) : roundNearest q = roundMag q := by
  simp [roundNearest, not_lt.2 hq]

@[simp] theorem roundNearest_zero : roundNearest 0 = 0 := by
  simp [roundNearest]

@[simp] theorem roundNearest_neg (q : ℚ) : roundNearest (-q) = -roundNearest q := by
  rcases lt_trichotomy q 0 with h | rfl | h
  · have h' : ¬ -q < 0 := by linarith
    simp [roundNearest, h, h']
  · simp
  · have h' : ¬ q < 0 := by linarith
    simp [roundNearest, h, h']

theorem roundNearest_nonneg {q : ℚ} (hq : 0 ≤ q) : 0 ≤ roundNearest q := by
  rw [roundNearest_of_nonneg hq]
  exact roundMag_nonneg hq

theorem roundNearest_nonpos {q : ℚ} (hq : q ≤ 0) : roundNearest q ≤ 0 := by
  have h := roundNearest_nonneg (neg_nonneg.2 hq)
  rw [roundNearest_neg] at h
  linarith

theorem abs_roundNearest (q : ℚ) : |roundNearest q| = roundNearest |q| := by
  rcases le_or_gt 0 q with h | h
  · rw [abs_of_nonneg h, abs_of_nonneg (roundNearest_nonneg h)]
  · rw [abs_of_neg h, roundNearest_neg, abs_of_nonpos (roundNearest_nonpos h.le)]

/-- Rounding to nearest is monotone: it never reverses the order of two exact results. -/
theorem roundNearest_mono {q q' : ℚ} (h : q ≤ q') : roundNearest q ≤ roundNearest q' := by
  rcases le_or_gt 0 q with hq | hq
  · rw [roundNearest_of_nonneg hq, roundNearest_of_nonneg (hq.trans h)]
    exact roundMag_mono hq h
  rcases le_or_gt 0 q' with hq' | hq'
  · -- the signs differ, and zero separates the two roundings
    exact (roundNearest_nonpos hq.le).trans (roundNearest_nonneg hq')
  · -- both negative: the magnitudes are ordered the other way
    have hm := roundMag_mono (neg_nonneg.2 hq'.le) (neg_le_neg h)
    simp only [roundNearest, hq, hq', if_true]
    linarith

/-- Every binary64 value is its own rounding. -/
theorem roundNearest_representable {n : ℤ} {e : ℤ} (hn : n.natAbs < 2 ^ 53) (he : -1074 ≤ e) :
    roundNearest (n * 2 ^ e) = n * 2 ^ e := by
  rcases le_or_gt 0 n with h | h
  · have hn' : ((n.natAbs : ℕ) : ℚ) = n := by rw [Nat.cast_natAbs, abs_of_nonneg h]
    rw [roundNearest_of_nonneg (by positivity), ← hn']
    exact roundMag_representable hn he
  · have hn' : ((n.natAbs : ℕ) : ℚ) = -n := by
      rw [Nat.cast_natAbs, abs_of_neg h]
      push_cast
      rfl
    have hneg : (n : ℚ) * 2 ^ e = -((n.natAbs : ℕ) * 2 ^ e) := by rw [hn']; ring
    rw [hneg, roundNearest_neg, roundNearest_of_nonneg (by positivity),
      roundMag_representable hn he]

theorem roundNearest_natCast {n : ℕ} (hn : n < 2 ^ 53) : roundNearest n = n := by
  have h : roundNearest (((n : ℤ) : ℚ) * 2 ^ (0 : ℤ)) = ((n : ℤ) : ℚ) * 2 ^ (0 : ℤ) :=
    roundNearest_representable (by simpa using hn) (by norm_num)
  simpa using h

/-- Rounding moves a value by at most a relative `2^-53` and an absolute `2^-1075`. -/
theorem abs_roundNearest_sub_le (q : ℚ) :
    |roundNearest q - q| ≤ |q| / 2 ^ 53 + 2 ^ (-1075 : ℤ) := by
  rcases le_or_gt 0 q with hq | hq
  · rw [roundNearest_of_nonneg hq, abs_of_nonneg hq]
    exact abs_roundMag_sub_le_of_nonneg hq
  · have h := abs_roundMag_sub_le_of_nonneg (neg_nonneg.2 hq.le)
    have hr : roundNearest q = -roundMag (-q) := by simp [roundNearest, hq]
    rw [hr, abs_of_neg hq, ← abs_neg]
    simpa [neg_sub, sub_eq_add_neg, add_comm] using h

theorem abs_roundNearest_sub_le_of_normal {q : ℚ} (hq : (2 : ℚ) ^ (-1022 : ℤ) ≤ |q|) :
    |roundNearest q - q| ≤ |q| / 2 ^ 53 := by
  rcases le_or_gt 0 q with h | h
  · rw [abs_of_nonneg h] at hq ⊢
    rw [roundNearest_of_nonneg h]
    exact abs_roundMag_sub_le_of_normal hq
  · rw [abs_of_neg h] at hq ⊢
    have hm := abs_roundMag_sub_le_of_normal hq
    have hr : roundNearest q = -roundMag (-q) := by simp [roundNearest, h]
    rw [hr, ← abs_neg]
    simpa [neg_sub, sub_eq_add_neg, add_comm] using hm

/-- A whole multiple of `2^-1074`, as every sum or difference of two floats is, is rounded
with a relative error only: below `2^-1022` it is a float already. -/
theorem abs_roundNearest_sub_le_of_grid (k : ℤ) :
    |roundNearest ((k : ℚ) * 2 ^ (-1074 : ℤ)) - k * 2 ^ (-1074 : ℤ)| ≤
      |(k : ℚ) * 2 ^ (-1074 : ℤ)| / 2 ^ 53 := by
  rcases lt_or_ge k.natAbs (2 ^ 53) with hk | hk
  · rw [roundNearest_representable hk le_rfl, sub_self, abs_zero]
    positivity
  · apply abs_roundNearest_sub_le_of_normal
    have hk' : (2 : ℚ) ^ 53 ≤ |(k : ℚ)| := by
      rw [← Int.cast_abs, ← Nat.cast_natAbs]
      exact_mod_cast hk
    have hpow : (2 : ℚ) ^ 53 * 2 ^ (-1074 : ℤ) = 2 ^ (-1021 : ℤ) := by
      rw [← zpow_natCast, ← zpow_add₀ two_ne_zero]
      norm_num
    rw [abs_mul, abs_of_pos (by positivity : (0 : ℚ) < 2 ^ (-1074 : ℤ))]
    calc (2 : ℚ) ^ (-1022 : ℤ) ≤ 2 ^ (-1021 : ℤ) := zpow_le_zpow_right₀ one_le_two (by norm_num)
      _ = 2 ^ 53 * 2 ^ (-1074 : ℤ) := hpow.symm
      _ ≤ |(k : ℚ)| * 2 ^ (-1074 : ℤ) := by gcongr

end Framing.Binary64
