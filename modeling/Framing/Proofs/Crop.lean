import Framing.Geometry
import Framing.Proofs.Binary64.Integral

/-!
# Pixel counts of a crop

`pixelsOf ratio side` truncates the product of a ratio and an image side. The side converts
exactly, so for a finite ratio the count is the saturated truncation of the exact product
rounded once (`toInt_pixelsOf`), monotone in the ratio. A ratio below zero therefore gives no
positive count, a ratio above one at least the whole side as far as 32 bits reach, zero gives
zero and one the side.

Clamping the ratios first changes nothing on a crop that `Rect.toPixels` accepts
(`toPixelsClamped_eq_of_toPixels`). A start ratio above one could only pass the check on a side
past `2^31 - 1`, where its count and that of `1` both saturate; a length ratio above one passes
only as the whole side, which is also what `1` gives; a negative start passes only as `0`.
-/

namespace Framing

open Binary64 Float.Model Float.Model.UnpackedFloat

/-! ## The count of one ratio -/

section PixelsOf

variable (side : UInt32)

theorem roundsTo_pixelProduct {ratio : Float} (h : ratio.isFinite = true) :
    RoundsTo (ratio * side.toFloat).toModel.unpack (toRat ratio * side.toNat) := by
  obtain ⟨hfin, hval⟩ := Float.toFloat_exact side
  rw [← hval]
  exact Float.roundsTo_mul h hfin

/-- The count of a finite ratio is the saturated truncation of the rounded exact product. -/
theorem toInt_pixelsOf {ratio : Float} (h : ratio.isFinite = true) :
    (pixelsOf ratio side).toInt =
      Int.saturate (-2 ^ 31) (2 ^ 31 - 1) (truncate (roundNearest (toRat ratio * side.toNat))) :=
  toInt_truncateInt32_of_roundsTo (roundsTo_pixelProduct side h)

/-- An infinite ratio counts nothing on an empty side, and the end of its sign otherwise. -/
theorem toInt_pixelsOf_infinity {ratio : Float} {s : Sign}
    (h : ratio.toModel.unpack = .infinity s) :
    (pixelsOf ratio side).toInt =
      if side.toNat = 0 then 0 else if isNegative s then -2 ^ 31 else 2 ^ 31 - 1 := by
  obtain ⟨hfin, hval⟩ := Float.toFloat_exact side
  unfold pixelsOf
  split_ifs with hs
  · -- infinity times zero is NaN, which truncates to zero
    have hzero : toRat side.toFloat = 0 := by rw [hval, hs, Nat.cast_zero]
    exact toInt_truncateInt32_of_notANumber (Float.unpack_infinity_mul_zero h hfin hzero)
  all_goals
    have hpos : 0 < toRat side.toFloat := by
      rw [hval]
      exact_mod_cast Nat.pos_of_ne_zero hs
    rw [toInt_truncateInt32_of_infinity (Float.unpack_infinity_mul h hfin hpos.ne'),
      if_neg (not_lt.2 hpos.le)]
  · rw [if_pos ‹_›]
  · rw [if_neg ‹_›]

theorem pixelsOf_zero : pixelsOf 0 side = 0 := by
  rw [← Int32.toInt_inj, toInt_pixelsOf side Float.isFinite_zero, toRat_zero, zero_mul,
    roundNearest_zero, truncate_zero, saturate_of_mem (by norm_num) (by norm_num),
    Int32.toInt_zero]

/-- The ratio `1` counts the whole side, saturated at `2^31 - 1`. -/
theorem toInt_pixelsOf_one : (pixelsOf 1 side).toInt = min (side.toNat : ℤ) (2 ^ 31 - 1) := by
  have hn : side.toNat < 2 ^ 53 := side.toNat_lt.trans (by norm_num)
  rw [toInt_pixelsOf side Float.isFinite_one, toRat_one, one_mul, roundNearest_natCast hn,
    truncate_natCast]
  unfold Int.saturate
  omega

/-- A ratio below zero counts no pixels. -/
theorem toInt_pixelsOf_nonpos {ratio : Float} (h : ratio < 0) :
    (pixelsOf ratio side).toInt ≤ 0 := by
  rcases (Float.lt_iff_of_isFinite_right Float.isFinite_zero).1 h with hinf | ⟨hfin, hneg⟩
  · rw [toInt_pixelsOf_infinity side hinf]
    split_ifs <;> simp_all [isNegative]
  · rw [toInt_pixelsOf side hfin]
    have hq : toRat ratio * side.toNat ≤ 0 :=
      mul_nonpos_of_nonpos_of_nonneg (by simpa using hneg.le) (Nat.cast_nonneg _)
    have ht := truncate_nonpos (roundNearest_nonpos hq)
    calc Int.saturate (-2 ^ 31) (2 ^ 31 - 1) (truncate (roundNearest (toRat ratio * side.toNat)))
        ≤ Int.saturate (-2 ^ 31) (2 ^ 31 - 1) 0 := saturate_mono ht
      _ = 0 := saturate_of_mem (by norm_num) (by norm_num)

/-- A ratio above one counts at least what `1` counts. -/
theorem toInt_pixelsOf_one_le {ratio : Float} (h : 1 < ratio) :
    (pixelsOf 1 side).toInt ≤ (pixelsOf ratio side).toInt := by
  rw [toInt_pixelsOf_one]
  rcases (Float.lt_iff_of_isFinite_left Float.isFinite_one).1 h with hinf | ⟨hfin, hgt⟩
  · rw [toInt_pixelsOf_infinity side hinf]
    split_ifs <;> simp_all [isNegative]
  · have hn : side.toNat < 2 ^ 53 := side.toNat_lt.trans (by norm_num)
    have hq : (side.toNat : ℚ) ≤ toRat ratio * side.toNat :=
      le_mul_of_one_le_left (Nat.cast_nonneg _) (by simpa using hgt.le)
    have ht : (side.toNat : ℤ) ≤ truncate (roundNearest (toRat ratio * side.toNat)) := by
      have hr := roundNearest_mono hq
      rw [roundNearest_natCast hn] at hr
      exact le_truncate (by exact_mod_cast hr)
    rw [toInt_pixelsOf side hfin]
    calc min (side.toNat : ℤ) (2 ^ 31 - 1) = Int.saturate (-2 ^ 31) (2 ^ 31 - 1) side.toNat := by
          unfold Int.saturate
          omega
      _ ≤ _ := saturate_mono ht

/-- The count of a ratio that is itself a rounded result, finite or overflowed, is the saturated
truncation of the rounded product of its rounding and the side: an overflowed ratio saturates
the count, and so does the product of its rounding. -/
theorem toInt_pixelsOf_of_roundsTo {ratio : Float} {q : ℚ} (h : RoundsTo ratio.toModel.unpack q)
    (hside : 1 ≤ side.toNat) :
    (pixelsOf ratio side).toInt =
      Int.saturate (-2 ^ 31) (2 ^ 31 - 1)
        (truncate (roundNearest (roundNearest q * side.toNat))) := by
  by_cases hlt : |roundNearest q| < 2 ^ 1024
  · obtain ⟨hfin, hval⟩ := h.of_abs_lt hlt
    rw [toInt_pixelsOf side hfin, show toRat ratio = roundNearest q from hval]
  have hN : (1 : ℚ) ≤ side.toNat := by exact_mod_cast hside
  have hbig :
      roundNearest (((1 : ℤ) : ℚ) * 2 ^ (1024 : ℤ)) = ((1 : ℤ) : ℚ) * 2 ^ (1024 : ℤ) :=
    roundNearest_representable (by norm_num) (by norm_num)
  simp only [Int.cast_one, one_mul, zpow_ofNat] at hbig
  have h31 : (2 : ℚ) ^ 31 ≤ 2 ^ 1024 := pow_le_pow_right₀ (by norm_num) (by norm_num)
  have hinf := h.of_le_abs (not_lt.1 hlt)
  by_cases hq : q < 0
  · -- an overflow downward: the product is at most `-2^1024`, and so is its rounding
    rw [if_pos hq] at hinf
    have hr := h.nonpos_of_infinity_negative hinf hlt
    rw [toInt_pixelsOf_infinity side hinf, if_neg (by omega)]
    -- the overflow threshold stays a symbol, not a 309-digit numeral
    generalize (2 : ℚ) ^ 1024 = M at hr hbig h31
    have hp : roundNearest q * side.toNat ≤ -M := by
      have : roundNearest q * (side.toNat - 1) ≤ 0 :=
        mul_nonpos_of_nonpos_of_nonneg (by linarith) (by linarith)
      linarith
    have hy := roundNearest_mono hp
    rw [roundNearest_neg, hbig] at hy
    have ht : truncate (roundNearest (roundNearest q * side.toNat)) ≤ -2 ^ 31 :=
      truncate_le_of_le (by push_cast; linarith)
    rw [saturate_of_le ht]
    rfl
  · rw [if_neg hq] at hinf
    have hr := h.nonneg_of_infinity_positive hinf hlt
    rw [toInt_pixelsOf_infinity side hinf, if_neg (by omega)]
    generalize (2 : ℚ) ^ 1024 = M at hr hbig h31
    have hp : M ≤ roundNearest q * side.toNat := by
      have : 0 ≤ roundNearest q * (side.toNat - 1) :=
        mul_nonneg (by linarith) (by linarith)
      linarith
    have hy := roundNearest_mono hp
    rw [hbig] at hy
    have ht : 2 ^ 31 ≤ truncate (roundNearest (roundNearest q * side.toNat)) :=
      le_truncate (by push_cast; linarith)
    rw [saturate_of_ge (by norm_num) (by omega)]
    rfl

end PixelsOf

/-! ## Clamping an accepted crop

The acceptance check of `Rect.toPixels` gives, on each axis, a nonnegative start, a positive
length, and a sum of the two within the side. -/

section Axis

variable {side : UInt32} {start length : Float}

/-- The start of an accepted axis is unchanged by clamping its ratio. -/
theorem pixelsOf_clamp_start (h₀ : 0 ≤ (pixelsOf start side).toInt)
    (h₁ : 0 < (pixelsOf length side).toInt)
    (h₂ : (pixelsOf start side).toInt + (pixelsOf length side).toInt ≤ side.toNat) :
    pixelsOf (clamp start 0 1) side = pixelsOf start side := by
  by_cases hlt : start < 0
  · -- a negative start passes only as zero, which is what `0` counts
    have h := toInt_pixelsOf_nonpos side hlt
    rw [clamp_of_lt hlt, pixelsOf_zero, ← Int32.toInt_inj, Int32.toInt_zero]
    omega
  by_cases hgt : 1 < start
  · -- a start above one passes only when the side is past `2^31 - 1`: both counts saturate
    have h := toInt_pixelsOf_one_le side hgt
    have hmax := Int32.toInt_lt (pixelsOf start side)
    rw [clamp_of_lt_hi hlt hgt, ← Int32.toInt_inj, toInt_pixelsOf_one] at *
    omega
  · rw [clamp_of_not_lt hlt hgt]

/-- The length of an accepted axis is unchanged by clamping its ratio. -/
theorem pixelsOf_clamp_length (h₀ : 0 ≤ (pixelsOf start side).toInt)
    (h₁ : 0 < (pixelsOf length side).toInt)
    (h₂ : (pixelsOf start side).toInt + (pixelsOf length side).toInt ≤ side.toNat) :
    pixelsOf (clamp length 0 1) side = pixelsOf length side := by
  by_cases hlt : length < 0
  · -- a negative length counts no pixels, which the check refuses
    have h := toInt_pixelsOf_nonpos side hlt
    omega
  by_cases hgt : 1 < length
  · -- a length above one passes only as the whole side, saturated, which is what `1` counts
    have h := toInt_pixelsOf_one_le side hgt
    have hmax := Int32.toInt_lt (pixelsOf length side)
    rw [clamp_of_lt_hi hlt hgt, ← Int32.toInt_inj, toInt_pixelsOf_one] at *
    omega
  · rw [clamp_of_not_lt hlt hgt]

end Axis

/-- The strict mapping accepts exactly the crops whose unchecked pixels fit the image. -/
theorem toPixels_eq_ok_iff {ratio : Rect} {image : Size} {p : PixelRect} :
    ratio.toPixels image = .ok p ↔
      (ratio.scaleToPixels image).fitsIn image = true ∧ ratio.scaleToPixels image = p := by
  unfold Rect.toPixels
  dsimp only
  split
  · rename_i hfits
    simp [hfits]
  · rename_i hfits
    simp [hfits]

/-- On every crop that the strict mapping accepts, the clamping one gives the same pixels. -/
theorem toPixelsClamped_eq_of_toPixels {ratio : Rect} {image : Size} {p : PixelRect}
    (h : ratio.toPixels image = .ok p) : ratio.toPixelsClamped image = p := by
  obtain ⟨hfits, rfl⟩ := toPixels_eq_ok_iff.1 h
  -- read the check as six integer facts first, while its comparisons are still the `decide`s
  -- it was written with; only then open the pixel counts
  simp only [PixelRect.fitsIn, Bool.and_eq_true, decide_eq_true_eq] at hfits
  simp only [Rect.scaleToPixels] at hfits
  obtain ⟨⟨⟨⟨⟨hx, hy⟩, hw⟩, hh⟩, hxw⟩, hyh⟩ := hfits
  simp only [Rect.toPixelsClamped, Rect.clampRatios, Rect.scaleToPixels,
    pixelsOf_clamp_start hx hw hxw, pixelsOf_clamp_length hx hw hxw,
    pixelsOf_clamp_start hy hh hyh, pixelsOf_clamp_length hy hh hyh]

/-- A width ratio just above one: the strict mapping accepts it as the whole side, and the
clamping one agrees. -/
theorem toPixelsClamped_eq_of_toPixels_wide :
    Rect.toPixels ⟨0, 0.25, 1.0000001, 0.5⟩ ⟨400, 300⟩ = .ok ⟨0, 75, 400, 150⟩ ∧
      Rect.toPixelsClamped ⟨0, 0.25, 1.0000001, 0.5⟩ ⟨400, 300⟩ =
        ⟨0, 75, 400, 150⟩ := by
  have h : Rect.toPixels ⟨0, 0.25, 1.0000001, 0.5⟩ ⟨400, 300⟩ = .ok ⟨0, 75, 400, 150⟩ :=
    toPixels_eq_ok_iff.2 ⟨by decide +kernel, by decide +kernel⟩
  exact ⟨h, toPixelsClamped_eq_of_toPixels h⟩

end Framing
