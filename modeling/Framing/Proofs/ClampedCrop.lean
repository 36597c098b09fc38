import Framing.Proofs.Edges
import Framing.Proofs.Binary64.Order

/-!
# The pixels of a clamped crop

`Rect.toPixelsClamped` clamps every ratio into `[0, 1]` before taking it to pixels, and refuses
nothing: it gives a pixel rectangle for every ratio rectangle, NaN, infinities and `-0.0`
included. Each clamped ratio counts between none and all of its side
(`toInt_pixelsOf_clamp_mem`): a NaN passes the clamp and counts nothing, and every other clamped
ratio is a float of `[0, 1]`, which counts between what `0` and `1` count because truncations of
rounded products keep the order of the ratios.

The corner and the size are clamped apart, so the right edge `x + width` can reach twice the
side. Its 32-bit sum exists whenever the side is below `2^30` (`toPixelsClamped_within`). On a
side of exactly `2^30` the ratios `(1, 0, 1, 1)` give `x = width = 2^30`, and the right edge
overflows (`toPixelsClamped_right_overflows`).
-/

namespace Framing

open Binary64 Float.Model Float.Model.UnpackedFloat

/-! ## The count of a clamped ratio -/

section PixelsOf

variable (side : UInt32)

/-- A NaN ratio counts no pixels: the product is NaN, which truncates to zero. -/
theorem toInt_pixelsOf_of_isNaN {ratio : Float} (h : ratio.isNaN = true) :
    (pixelsOf ratio side).toInt = 0 := by
  have hnan : ratio.toModel.unpack = .notANumber := by
    rw [Float.isNaN_eq] at h
    cases hu : ratio.toModel.unpack <;> simp_all [UnpackedFloat.isNaN]
  exact toInt_truncateInt32_of_notANumber (Float.unpack_notANumber_mul hnan)

/-- Finite ratios count pixels in their order. -/
theorem toInt_pixelsOf_le_of_le {ratio ratio' : Float} (h₁ : ratio.isFinite = true)
    (h₂ : ratio'.isFinite = true) (h : toRat ratio ≤ toRat ratio') :
    (pixelsOf ratio side).toInt ≤ (pixelsOf ratio' side).toInt :=
  truncateInt32_mono (roundsTo_pixelProduct side h₁) (roundsTo_pixelProduct side h₂)
    (mul_le_mul_of_nonneg_right h (Nat.cast_nonneg _))

/-- A ratio clamped into `[0, 1]` counts between none and the whole side, the whole side
saturated at `2^31 - 1`. -/
theorem toInt_pixelsOf_clamp_mem (ratio : Float) :
    0 ≤ (pixelsOf (clamp ratio 0 1) side).toInt ∧
      (pixelsOf (clamp ratio 0 1) side).toInt ≤ min (side.toNat : ℤ) (2 ^ 31 - 1) := by
  have hone := toInt_pixelsOf_one side
  by_cases hlt : ratio < 0
  · rw [clamp_of_lt hlt, pixelsOf_zero, Int32.toInt_zero]
    omega
  by_cases hgt : 1 < ratio
  · rw [clamp_of_lt_hi hlt hgt, hone]
    omega
  rw [clamp_of_not_lt hlt hgt]
  cases hnan : ratio.isNaN with
  | true =>
    rw [toInt_pixelsOf_of_isNaN side hnan]
    omega
  | false =>
    -- neither below `0` nor above `1`, and not NaN: a finite float of `[0, 1]`
    have h₀ : 0 ≤ ratio :=
      (Float.not_lt_iff_le hnan (Float.isNaN_eq_false_of_isFinite Float.isFinite_zero)).1 hlt
    have h₁ : ratio ≤ 1 :=
      (Float.not_lt_iff_le (Float.isNaN_eq_false_of_isFinite Float.isFinite_one) hnan).1 hgt
    have hfin := Float.isFinite_of_le_of_le Float.isFinite_zero Float.isFinite_one h₀ h₁
    have hq₀ : toRat 0 ≤ toRat ratio := (Float.le_iff Float.isFinite_zero hfin).1 h₀
    have hq₁ : toRat ratio ≤ toRat 1 := (Float.le_iff hfin Float.isFinite_one).1 h₁
    have hlo := toInt_pixelsOf_le_of_le side Float.isFinite_zero hfin hq₀
    have hhi := toInt_pixelsOf_le_of_le side hfin Float.isFinite_one hq₁
    rw [pixelsOf_zero, Int32.toInt_zero] at hlo
    rw [hone] at hhi
    exact ⟨hlo, hhi⟩

end PixelsOf

/-! ## The clamped crop -/

/-- A clamped crop starts within the image and is no larger than it on each axis, whatever the
ratios. Its right edge exists in 32 bits when the image is narrower than `2^30` pixels, and its
bottom edge when the image is lower than that. -/
theorem toPixelsClamped_within (ratio : Rect) (image : Size) :
    let p := ratio.toPixelsClamped image
    (0 ≤ p.x.toInt ∧ p.x.toInt ≤ image.width.toNat) ∧
      (0 ≤ p.width.toInt ∧ p.width.toInt ≤ image.width.toNat) ∧
      (0 ≤ p.y.toInt ∧ p.y.toInt ≤ image.height.toNat) ∧
      (0 ≤ p.height.toInt ∧ p.height.toInt ≤ image.height.toNat) ∧
      (image.width.toNat < 2 ^ 30 →
        ∃ r, p.right? = some r ∧ r.toInt = p.x.toInt + p.width.toInt) ∧
      (image.height.toNat < 2 ^ 30 →
        ∃ b, p.bottom? = some b ∧ b.toInt = p.y.toInt + p.height.toInt) := by
  obtain ⟨hx₀, hx₁⟩ := toInt_pixelsOf_clamp_mem image.width ratio.x
  obtain ⟨hw₀, hw₁⟩ := toInt_pixelsOf_clamp_mem image.width ratio.width
  obtain ⟨hy₀, hy₁⟩ := toInt_pixelsOf_clamp_mem image.height ratio.y
  obtain ⟨hh₀, hh₁⟩ := toInt_pixelsOf_clamp_mem image.height ratio.height
  simp only [Rect.toPixelsClamped, Rect.clampRatios, Rect.scaleToPixels, PixelRect.right?,
    PixelRect.bottom?]
  refine ⟨⟨hx₀, by omega⟩, ⟨hw₀, by omega⟩, ⟨hy₀, by omega⟩, ⟨hh₀, by omega⟩, fun hW => ?_,
    fun hH => ?_⟩
  · -- each of the two summands is at most the side, so their sum stays below `2^31`
    exact Int32.addChecked?_of_lt (by omega) (by omega)
  · exact Int32.addChecked?_of_lt (by omega) (by omega)

/-- On an image `2^30` pixels wide the whole width, taken from its far edge, is a clamped crop
whose right edge overflows 32 bits. -/
theorem toPixelsClamped_right_overflows :
    Rect.toPixelsClamped ⟨1, 0, 1, 1⟩ ⟨1073741824, 1⟩ = ⟨1073741824, 0, 1073741824, 1⟩ ∧
      PixelRect.right? ⟨1073741824, 0, 1073741824, 1⟩ = none :=
  ⟨by decide +kernel, by decide⟩

end Framing
