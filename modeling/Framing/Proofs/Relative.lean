import Framing.Geometry
import Framing.Proofs.Crop
import Framing.Proofs.Binary64.Error

/-!
# A box inside a frame, cropped in units of the frame

`Rect.relativeTo` expresses a box in units of a frame by one subtraction and two divisions per
axis, and `Rect.toPixels` scales those ratios by the image's sides and truncates them. A box
that lies inside the frame, with its edges added exactly, is accepted as soon as each of its
ratio sides covers a pixel (`toPixels_relativeTo_of_inside`): rounding never pushes such a box
past the image.

The subtraction of two floats rounds with a relative error only, and the rest of the chain adds
three relative errors of `2^-53` and absolute ones of `2^-1075`. Against a side below `2^32` the
two counts of an axis therefore sum to less than one pixel more than the side, and being whole
numbers they sum to at most the side.
-/

namespace Framing

open Binary64

/-- A rectangle whose four fields are finite floats. -/
structure Rect.Finite (r : Rect) : Prop where
  x : r.x.isFinite = true
  y : r.y.isFinite = true
  width : r.width.isFinite = true
  height : r.height.isFinite = true

/-- `r` lies inside `c` when the edges are computed exactly from the values of the fields. -/
structure Rect.InsideExactly (r c : Rect) : Prop where
  left : toRat c.x ≤ toRat r.x
  right : toRat r.x + toRat r.width ≤ toRat c.x + toRat c.width
  top : toRat c.y ≤ toRat r.y
  bottom : toRat r.y + toRat r.height ≤ toRat c.y + toRat c.height

/-! ## The arithmetic of one axis -/

/-- Two ratios of one extent that add up to at most `1 + 2^-53`, each rounded, scaled by a side
below `2^32` and rounded again, add up to less than one more than the side. -/
theorem roundNearest_scaled_ratios_lt {D L E S : ℚ} (hD : 0 ≤ D) (hL : 0 ≤ L) (hE : 0 < E)
    (hS : 0 ≤ S) (hS' : S < 2 ^ 32) (hsum : D + L ≤ E + E / 2 ^ 53) :
    roundNearest (roundNearest (D / E) * S) + roundNearest (roundNearest (L / E) * S) < S + 1 := by
  have hη : (2 : ℚ) ^ (-1075 : ℤ) ≤ 1 / 2 ^ 60 := two_zpow_neg_1075_le.trans (by norm_num)
  have hη0 : (0 : ℚ) ≤ 2 ^ (-1075 : ℤ) := by positivity
  have hratio : D / E + L / E ≤ 1 + 1 / 2 ^ 53 := by
    rw [← add_div, div_le_iff₀ hE]
    linarith
  have hx0 := roundNearest_nonneg (div_nonneg hD hE.le)
  have hw0 := roundNearest_nonneg (div_nonneg hL hE.le)
  -- the two rounded ratios exceed one by a few units of the last place at most
  have hK : roundNearest (D / E) + roundNearest (L / E) ≤ 1 + 1 / 2 ^ 50 := by
    have hx := roundNearest_le_of_nonneg (div_nonneg hD hE.le)
    have hw := roundNearest_le_of_nonneg (div_nonneg hL hE.le)
    linarith
  have hKS : roundNearest (D / E) * S + roundNearest (L / E) * S ≤ (1 + 1 / 2 ^ 50) * S := by
    rw [← add_mul]
    exact mul_le_mul_of_nonneg_right hK hS
  have hA := roundNearest_le_of_nonneg (mul_nonneg hx0 hS)
  have hB := roundNearest_le_of_nonneg (mul_nonneg hw0 hS)
  linarith

/-! ## One axis of the box -/

section Axis

variable {start length origin extent : Float} (side : UInt32)

/-- On one axis of a box inside a frame, the start counts no negative pixels and the start and
the length together count at most the side. -/
theorem pixelsOf_relative_axis (hs : start.isFinite = true) (hl : length.isFinite = true)
    (ho : origin.isFinite = true) (he : extent.isFinite = true) (hl0 : 0 ≤ toRat length)
    (he0 : 0 < toRat extent) (h₁ : toRat origin ≤ toRat start)
    (h₂ : toRat start + toRat length ≤ toRat origin + toRat extent) :
    0 ≤ (pixelsOf ((start - origin) / extent) side).toInt ∧
      (pixelsOf ((start - origin) / extent) side).toInt +
        (pixelsOf (length / extent) side).toInt ≤ side.toNat := by
  set d := toRat start - toRat origin with hd
  have hd0 : 0 ≤ d := by linarith
  have hde : d ≤ toRat extent := by linarith
  -- the offset from the frame's edge: finite, on the grid, at most the extent
  have hsub := Float.roundsTo_sub hs ho
  obtain ⟨hDfin, hDval⟩ := hsub.of_abs_le extent (by
    rw [abs_of_nonneg hd0, abs_of_pos he0]
    exact hde)
  have hD0 : 0 ≤ toRat (start - origin) := by
    rw [toRat, hDval]
    exact roundNearest_nonneg hd0
  have hDle : toRat (start - origin) ≤ d + d / 2 ^ 53 := by
    have h := abs_toRat_sub_le_of_sub hsub hDfin
    rw [abs_of_nonneg hd0] at h
    linarith [le_abs_self (toRat (start - origin) - d)]
  have hDe : toRat (start - origin) ≤ toRat extent := by
    rw [toRat, hDval, ← roundNearest_toRat extent]
    exact roundNearest_mono hde
  -- both ratios are at most one, so finite
  have hext0 : toRat extent ≠ 0 := he0.ne'
  have hX := Float.roundsTo_div hDfin he hext0
  obtain ⟨hXfin, hXval⟩ := hX.of_abs_le 1 (by
    rw [toRat_one, abs_one, abs_div, abs_of_nonneg hD0, abs_of_pos he0]
    exact (div_le_one he0).2 hDe)
  have hW := Float.roundsTo_div hl he hext0
  obtain ⟨hWfin, hWval⟩ := hW.of_abs_le 1 (by
    rw [toRat_one, abs_one, abs_div, abs_of_nonneg hl0, abs_of_pos he0]
    exact (div_le_one he0).2 (by linarith))
  have hXv : toRat ((start - origin) / extent) =
      roundNearest (toRat (start - origin) / toRat extent) := hXval
  have hWv : toRat (length / extent) = roundNearest (toRat length / toRat extent) := hWval
  rw [toInt_pixelsOf side hXfin, toInt_pixelsOf side hWfin, hXv, hWv]
  -- the two products are nonnegative, and together below one more than the side
  have hS0 : (0 : ℚ) ≤ side.toNat := Nat.cast_nonneg _
  have hA0 := roundNearest_nonneg (mul_nonneg (roundNearest_nonneg (div_nonneg hD0 he0.le)) hS0)
  have hB0 := roundNearest_nonneg (mul_nonneg (roundNearest_nonneg (div_nonneg hl0 he0.le)) hS0)
  have hlt := roundNearest_scaled_ratios_lt hD0 hl0 he0 hS0
    (by exact_mod_cast side.toNat_lt) (by linarith)
  have htA := truncate_le hA0
  have htB := truncate_le hB0
  have htA0 := truncate_nonneg hA0
  have htB0 := truncate_nonneg hB0
  have hsum : truncate (roundNearest (roundNearest (toRat (start - origin) / toRat extent) *
      side.toNat)) + truncate (roundNearest (roundNearest (toRat length / toRat extent) *
      side.toNat)) < side.toNat + 1 := by
    exact_mod_cast (lt_of_le_of_lt (add_le_add htA htB) hlt)
  -- saturation only lowers a nonnegative count
  unfold Int.saturate
  omega

end Axis

/-! ## The box -/

/-- A box drawn inside a frame, whose ratio sides each cover a pixel of the image, is a crop of
the image. -/
theorem toPixels_relativeTo_of_inside {c r : Rect} {image : Size} (hc : c.Finite) (hr : r.Finite)
    (hcw : 0 < c.width) (hch : 0 < c.height) (hrw : 0 ≤ r.width) (hrh : 0 ≤ r.height)
    (hin : r.InsideExactly c)
    (hpw : 1 ≤ (r.relativeTo c).width * image.width.toFloat)
    (hph : 1 ≤ (r.relativeTo c).height * image.height.toFloat) :
    (r.relativeTo c).toPixels image = .ok ((r.relativeTo c).scaleToPixels image) := by
  have hcw' : 0 < toRat c.width := by
    simpa using (Float.lt_iff Float.isFinite_zero hc.width).1 hcw
  have hch' : 0 < toRat c.height := by
    simpa using (Float.lt_iff Float.isFinite_zero hc.height).1 hch
  have hrw' : 0 ≤ toRat r.width := by
    simpa using (Float.le_iff Float.isFinite_zero hr.width).1 hrw
  have hrh' : 0 ≤ toRat r.height := by
    simpa using (Float.le_iff Float.isFinite_zero hr.height).1 hrh
  obtain ⟨hx0, hxw⟩ := pixelsOf_relative_axis image.width hr.x hr.width hc.x hc.width hrw' hcw'
    hin.left hin.right
  obtain ⟨hy0, hyh⟩ := pixelsOf_relative_axis image.height hr.y hr.height hc.y hc.height hrh'
    hch' hin.top hin.bottom
  -- a ratio side that covers a pixel as a float counts at least one
  have hw1 : 1 ≤ (pixelsOf (r.relativeTo c).width image.width).toInt :=
    one_le_toInt_truncateInt32 hpw
  have hh1 : 1 ≤ (pixelsOf (r.relativeTo c).height image.height).toInt :=
    one_le_toInt_truncateInt32 hph
  refine toPixels_eq_ok_iff.2 ⟨?_, rfl⟩
  simp only [PixelRect.fitsIn, Bool.and_eq_true, decide_eq_true_eq]
  exact ⟨⟨⟨⟨⟨hx0, hy0⟩, hw1⟩, hh1⟩, hxw⟩, hyh⟩

/-- A box against the right and bottom edges of a fitted image, with ratios that no float holds
exactly, is accepted. -/
theorem toPixels_relativeTo_of_inside_corner :
    (Rect.relativeTo ⟨1000, 55.69749216300943, 520, 623.6050156739811⟩
        ⟨0, 55.69749216300943, 1520, 623.6050156739811⟩).toPixels ⟨2552, 1047⟩ =
      .ok ⟨1678, 0, 873, 1047⟩ := by
  have hp : (Rect.relativeTo ⟨1000, 55.69749216300943, 520, 623.6050156739811⟩
      ⟨0, 55.69749216300943, 1520, 623.6050156739811⟩).scaleToPixels ⟨2552, 1047⟩ =
      ⟨1678, 0, 873, 1047⟩ := by
    decide +kernel
  rw [← hp]
  exact toPixels_relativeTo_of_inside ⟨rfl, rfl, rfl, rfl⟩ ⟨rfl, rfl, rfl, rfl⟩
    (by decide) (by decide) (by decide) (by decide)
    ⟨by decide +kernel, by decide +kernel, by decide +kernel, by decide +kernel⟩
    (by decide) (by decide)

end Framing
