import Framing.Proofs.Binary64.Operations

/-!
# Rounding error of float results

A finite result of an operation has the rounding of its exact value as its value
(`toRat_eq_of_roundsTo`), so it lies within `|q| / 2^53 + 2^-1075` of the exact value `q`.
Every float is a whole multiple of `2^-1074` (`exists_toRat_eq_grid`), and so is the exact sum
or difference of two floats: there the absolute part of the error vanishes
(`abs_toRat_sub_le_of_sub`). The one-sided forms for nonnegative values are what the chains of
bounds in the geometry use.

Each float is also an integer of at most 53 bits on a grid of its own
(`exists_toRat_eq_mul_two_zpow`). On the finer grid of two floats their difference is an
integer too, so a difference no larger than either float needs no rounding: Sterbenz's lemma
(`Float.toRat_sub_of_abs_sub_le`).
-/

namespace Framing.Binary64

open Float.Model Float.Model.UnpackedFloat

/-! ## The least step

The absolute part of a rounding's error is half the least step `2^-1074`: twice it is that
step, and it is far below any scale the geometry works at. -/

theorem two_zpow_neg_1074_eq_two_mul : (2 : ℚ) ^ (-1074 : ℤ) = 2 * 2 ^ (-1075 : ℤ) := by
  rw [← zpow_one_add₀ two_ne_zero]
  norm_num

theorem two_zpow_neg_1075_le : (2 : ℚ) ^ (-1075 : ℤ) ≤ 1 / 2 ^ 100 := by
  rw [one_div, ← zpow_natCast, ← zpow_neg]
  exact zpow_le_zpow_right₀ (by norm_num) (by norm_num)

/-! ## Values on the grid of `2^-1074` -/

theorem exists_value_eq_grid {u : UnpackedFloat} (hu : Canonical u) :
    ∃ k : ℤ, value u = k * 2 ^ (-1074 : ℤ) := by
  cases u with
  | notANumber => exact ⟨0, by simp [value]⟩
  | infinity => exact ⟨0, by simp [value]⟩
  | zero => exact ⟨0, by simp [value]⟩
  | finite s m e hm =>
    obtain ⟨-, he, -, -⟩ := hu
    -- the exponent is at least `-1074`, so the value is an integer number of least steps
    have hpow : (2 : ℚ) ^ e = 2 ^ (e + 1074).toNat * 2 ^ (-1074 : ℤ) := by
      rw [← zpow_natCast, ← zpow_add₀ two_ne_zero]
      congr 1
      omega
    cases s with
    | negative =>
      refine ⟨-((m * 2 ^ (e + 1074).toNat : ℕ) : ℤ), ?_⟩
      rw [value, signed_negative, hpow, Int.cast_neg, Int.cast_natCast, Nat.cast_mul, Nat.cast_pow,
        Nat.cast_ofNat]
      ring
    | positive =>
      refine ⟨((m * 2 ^ (e + 1074).toNat : ℕ) : ℤ), ?_⟩
      rw [value, signed_positive, hpow, Int.cast_natCast, Nat.cast_mul, Nat.cast_pow,
        Nat.cast_ofNat]
      ring

theorem exists_toRat_eq_grid (x : Float) : ∃ k : ℤ, toRat x = k * 2 ^ (-1074 : ℤ) :=
  exists_value_eq_grid (canonical_toModel x)

/-! ## One rounding -/

/-- A finite result has the rounding of its exact value as its value. -/
theorem toRat_eq_of_roundsTo {x : Float} {q : ℚ} (h : RoundsTo x.toModel.unpack q)
    (hx : x.isFinite = true) : toRat x = roundNearest q := by
  by_cases hlt : |roundNearest q| < 2 ^ 1024
  · exact (h.of_abs_lt hlt).2
  · exact absurd (h.of_le_abs (not_lt.1 hlt)) (Float.unpack_ne_infinity hx _)

theorem abs_toRat_sub_le {x : Float} {q : ℚ} (h : RoundsTo x.toModel.unpack q)
    (hx : x.isFinite = true) : |toRat x - q| ≤ |q| / 2 ^ 53 + 2 ^ (-1075 : ℤ) := by
  rw [toRat_eq_of_roundsTo h hx]
  exact abs_roundNearest_sub_le q

/-- The exact difference of two floats rounds with a relative error only. -/
theorem abs_toRat_sub_le_of_sub {x a b : Float} (h : RoundsTo x.toModel.unpack (toRat a - toRat b))
    (hx : x.isFinite = true) :
    |toRat x - (toRat a - toRat b)| ≤ |toRat a - toRat b| / 2 ^ 53 := by
  obtain ⟨k, hk⟩ := exists_toRat_eq_grid a
  obtain ⟨l, hl⟩ := exists_toRat_eq_grid b
  have hgrid : toRat a - toRat b = ((k - l : ℤ) : ℚ) * 2 ^ (-1074 : ℤ) := by
    rw [hk, hl, Int.cast_sub]
    ring
  rw [toRat_eq_of_roundsTo h hx, hgrid]
  exact abs_roundNearest_sub_le_of_grid (k - l)

/-- So does the exact sum of two floats. -/
theorem abs_toRat_sub_le_of_add {x a b : Float} (h : RoundsTo x.toModel.unpack (toRat a + toRat b))
    (hx : x.isFinite = true) :
    |toRat x - (toRat a + toRat b)| ≤ |toRat a + toRat b| / 2 ^ 53 := by
  obtain ⟨k, hk⟩ := exists_toRat_eq_grid a
  obtain ⟨l, hl⟩ := exists_toRat_eq_grid b
  have hgrid : toRat a + toRat b = ((k + l : ℤ) : ℚ) * 2 ^ (-1074 : ℤ) := by
    rw [hk, hl, Int.cast_add]
    ring
  rw [toRat_eq_of_roundsTo h hx, hgrid]
  exact abs_roundNearest_sub_le_of_grid (k + l)

/-! ## One-sided bounds for nonnegative values -/

theorem roundNearest_le_of_nonneg {q : ℚ} (hq : 0 ≤ q) :
    roundNearest q ≤ q + q / 2 ^ 53 + 2 ^ (-1075 : ℤ) := by
  have h := abs_roundNearest_sub_le q
  rw [abs_of_nonneg hq] at h
  linarith [le_abs_self (roundNearest q - q)]

theorem le_roundNearest_of_nonneg {q : ℚ} (hq : 0 ≤ q) :
    q - q / 2 ^ 53 - 2 ^ (-1075 : ℤ) ≤ roundNearest q := by
  have h := abs_roundNearest_sub_le q
  rw [abs_of_nonneg hq] at h
  linarith [neg_abs_le (roundNearest q - q)]

/-- A rounding that lands on a normal value is within a relative `2^-51` of it: the absolute
part of the error is a `2^-53` of the least normal value. -/
theorem abs_roundNearest_sub_le_of_le_roundNearest {q : ℚ} (hq : 0 ≤ q)
    (h : 2 ^ (-1022 : ℤ) ≤ roundNearest q) : |roundNearest q - q| ≤ roundNearest q / 2 ^ 51 := by
  have hη : (2 : ℚ) ^ (-1075 : ℤ) = 2 ^ (-1022 : ℤ) / 2 ^ 53 := by
    rw [div_eq_mul_inv, ← zpow_natCast, ← zpow_neg, ← zpow_add₀ two_ne_zero]
    norm_num
  have herr := abs_roundNearest_sub_le q
  rw [abs_of_nonneg hq, hη] at herr
  have hle : q ≤ roundNearest q + |roundNearest q - q| := by
    linarith [neg_abs_le (roundNearest q - q)]
  linarith

/-! ## Exact differences

The condition `|a - b| ≤ min |a| |b|` says that `a` and `b` have one sign and lie within a
factor two of each other, the form in which Sterbenz stated it. -/

/-- Each float is an integer of at most 53 bits times a power of two no finer than `2^-1074`. -/
theorem exists_toRat_eq_mul_two_zpow (x : Float) :
    ∃ k e : ℤ, k.natAbs < 2 ^ 53 ∧ -1074 ≤ e ∧ toRat x = k * 2 ^ e := by
  have hc := canonical_toModel x
  unfold toRat
  cases hu : x.toModel.unpack with
  | finite s m e hm =>
    rw [hu] at hc
    obtain ⟨hm53, he, -, -⟩ := hc
    refine ⟨s.apply m, e, ?_, he, ?_⟩
    · cases s <;> simpa [Sign.apply] using hm53
    · rw [value, signed_apply]
      cases s <;> simp
  | _ => exact ⟨0, -1074, by norm_num, le_rfl, by simp [value]⟩

/-- A multiple of `2^f` is a multiple of every finer `2^e`. -/
theorem intCast_mul_two_zpow_eq (l : ℤ) {e f : ℤ} (h : e ≤ f) :
    (l : ℚ) * 2 ^ f = ((l * 2 ^ (f - e).toNat : ℤ) : ℚ) * 2 ^ e := by
  push_cast
  rw [mul_assoc, ← zpow_natCast, Int.toNat_of_nonneg (by omega), ← zpow_add₀ two_ne_zero,
    sub_add_cancel]

/-- A multiple of `2^e` no larger than a float's multiple of it is a float's value. -/
theorem roundNearest_of_abs_le {n k e : ℤ} (hk : k.natAbs < 2 ^ 53) (he : -1074 ≤ e)
    (h : |(n : ℚ) * 2 ^ e| ≤ |(k : ℚ) * 2 ^ e|) : roundNearest (n * 2 ^ e) = n * 2 ^ e := by
  have hpos : (0 : ℚ) < 2 ^ e := zpow_pos two_pos e
  rw [abs_mul, abs_mul, abs_of_pos hpos] at h
  have hnk : |n| ≤ |k| := by exact_mod_cast le_of_mul_le_mul_right h hpos
  rw [Int.abs_eq_natAbs, Int.abs_eq_natAbs] at hnk
  exact roundNearest_representable (by omega) he

theorem roundNearest_toRat_sub {a b : Float}
    (h : |toRat a - toRat b| ≤ min |toRat a| |toRat b|) :
    roundNearest (toRat a - toRat b) = toRat a - toRat b := by
  obtain ⟨k, e, hk, he, ha⟩ := exists_toRat_eq_mul_two_zpow a
  obtain ⟨l, f, hl, hf, hb⟩ := exists_toRat_eq_mul_two_zpow b
  rw [ha, hb] at h ⊢
  -- both operands lie on the finer grid, and the one whose grid it is bounds the difference
  rcases le_total e f with hef | hfe
  · rw [intCast_mul_two_zpow_eq l hef, ← sub_mul, ← Int.cast_sub] at h ⊢
    exact roundNearest_of_abs_le hk he (h.trans (min_le_left _ _))
  · rw [intCast_mul_two_zpow_eq k hfe, ← sub_mul, ← Int.cast_sub] at h ⊢
    exact roundNearest_of_abs_le hl hf (h.trans (min_le_right _ _))

/-- Sterbenz's lemma: a difference no larger than either operand is computed exactly. -/
theorem Float.toRat_sub_of_abs_sub_le {a b : Float} (ha : a.isFinite = true)
    (hb : b.isFinite = true) (h : |toRat a - toRat b| ≤ min |toRat a| |toRat b|) :
    (a - b).isFinite = true ∧ toRat (a - b) = toRat a - toRat b := by
  obtain ⟨hfin, hval⟩ := (Float.roundsTo_sub ha hb).of_abs_le a (h.trans (min_le_left _ _))
  exact ⟨hfin, by rw [toRat, hval, roundNearest_toRat_sub h]⟩

end Framing.Binary64
