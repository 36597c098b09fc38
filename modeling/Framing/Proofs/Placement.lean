import Framing.Geometry
import Framing.Proofs.Binary64.Error
import Framing.Proofs.Binary64.Order

/-!
# Where a fitted box lands

`Rect.fitIn` either hands back the viewport (an item with a zero side) or centres a box whose
sides are clamped into the viewport's. This module reads the definition as one of those shapes
(`fitIn_sides_eq_clamp`, `fitIn_rect_eq_centredIn`) and proves what they guarantee.

The sides (`fitIn_sides_within`): for a viewport whose sides are not negative (infinite allowed)
and an item whose sides are finite, both fitted sides lie between zero and the viewport's, and one
of them is the viewport's. No NaN reaches the clamps: the side the viewport binds is the
viewport's own, and the other is a finite nonzero item side times a quotient by a finite nonzero
item side, neither of which gives NaN from a viewport side that is not NaN.

The position (`fitIn_inside_up_to_rounding`): in a finite viewport the box starts at or after the
viewport's corner, since the centring gap is not negative; but its far edges are computed
through three roundings and can end one unit in the last place past the viewport's
(`fitIn_right_gt_right`). They never pass the viewport's exact far edge by more than a relative
`2^-51` of the viewport's offset and side.
-/

namespace Framing

open Binary64 Float.Model Float.Model.UnpackedFloat

/-- The box of the given sides centred in `v`. -/
def Rect.centredIn (v : Rect) (width height : Float) : Rect where
  x := v.x + (v.width - width) / 2
  y := v.y + (v.height - height) / 2
  width := width
  height := height

/-! ## The shapes of a fit -/

section Shapes

variable {item v : Rect}

theorem fitIn_of_degenerate (h₀ : (item.width == 0 || item.height == 0) = true) :
    item.fitIn v = ⟨v, 1⟩ := by
  rw [Rect.fitIn, if_pos h₀]

/-- Bound by the viewport's width: the width is the viewport's, the height the item's scaled. -/
theorem fitIn_rect_of_lt (h₀ : (item.width == 0 || item.height == 0) = false)
    (hlt : v.aspectRatio < item.aspectRatio) :
    (item.fitIn v).rect =
      v.centredIn (clamp v.width 0 v.width)
        (clamp (item.height * (v.width / item.width)) 0 v.height) := by
  rw [Rect.fitIn, if_neg (by rw [h₀]; decide), if_pos hlt]
  rfl

/-- Bound by the viewport's height: the height is the viewport's, the width the item's scaled. -/
theorem fitIn_rect_of_not_lt (h₀ : (item.width == 0 || item.height == 0) = false)
    (hlt : ¬ v.aspectRatio < item.aspectRatio) :
    (item.fitIn v).rect =
      v.centredIn (clamp (item.width * (v.height / item.height)) 0 v.width)
        (clamp v.height 0 v.height) := by
  rw [Rect.fitIn, if_neg (by rw [h₀]; decide), if_neg hlt]
  rfl

/-- A fit of an item without a zero side is a centred box. -/
theorem fitIn_rect_eq_centredIn (h₀ : (item.width == 0 || item.height == 0) = false) :
    (item.fitIn v).rect = v.centredIn (item.fitIn v).rect.width (item.fitIn v).rect.height := by
  by_cases hlt : v.aspectRatio < item.aspectRatio
  · rw [fitIn_rect_of_lt h₀ hlt]
    rfl
  · rw [fitIn_rect_of_not_lt h₀ hlt]
    rfl

/-- The side that scales an item side by a viewport side over the other item side is not NaN,
for finite nonzero item sides and a viewport side that is not NaN. -/
theorem isNaN_scaledSide {a b V : Float} (ha : a.isFinite = true) (ha0 : (a == 0) = false)
    (hb : b.isFinite = true) (hb0 : (b == 0) = false) (hV : V.isNaN = false) :
    (a * (V / b)).isNaN = false :=
  Float.isNaN_mul ha (Float.toRat_ne_zero_of_beq ha ha0)
    (Float.isNaN_div hV hb (Float.toRat_ne_zero_of_beq hb hb0))

/-- Each fitted side is a float other than NaN clamped into the viewport's side, and on one axis
that float is the viewport's side itself. -/
theorem fitIn_sides_eq_clamp (hvw : 0 ≤ v.width) (hvh : 0 ≤ v.height)
    (hiw : item.width.isFinite = true) (hih : item.height.isFinite = true) :
    ∃ a b : Float, a.isNaN = false ∧ b.isNaN = false ∧ (a = v.width ∨ b = v.height) ∧
      (item.fitIn v).rect.width = clamp a 0 v.width ∧
      (item.fitIn v).rect.height = clamp b 0 v.height := by
  have hvw' := (Float.isNaN_eq_false_of_le hvw).2
  have hvh' := (Float.isNaN_eq_false_of_le hvh).2
  by_cases h₀ : (item.width == 0 || item.height == 0) = true
  · -- the viewport itself, whose sides clamp into themselves
    rw [fitIn_of_degenerate h₀]
    exact ⟨v.width, v.height, hvw', hvh', Or.inl rfl, (clamp_hi_eq hvw).symm,
      (clamp_hi_eq hvh).symm⟩
  rw [Bool.not_eq_true] at h₀
  have hw0 : (item.width == 0) = false := (Bool.or_eq_false_iff.1 h₀).1
  have hh0 : (item.height == 0) = false := (Bool.or_eq_false_iff.1 h₀).2
  by_cases hlt : v.aspectRatio < item.aspectRatio
  · rw [fitIn_rect_of_lt h₀ hlt]
    exact ⟨v.width, _, hvw', isNaN_scaledSide hih hh0 hiw hw0 hvw', Or.inl rfl, rfl, rfl⟩
  · rw [fitIn_rect_of_not_lt h₀ hlt]
    exact ⟨_, v.height, isNaN_scaledSide hiw hw0 hih hh0 hvh', hvh', Or.inr rfl, rfl, rfl⟩

end Shapes

/-! ## The sides -/

section Sides

variable {item v : Rect}

/-- The box fitted into a viewport whose sides are not negative, for an item with finite sides,
has sides between zero and the viewport's, and on one axis exactly the viewport's. -/
theorem fitIn_sides_within (hvw : 0 ≤ v.width) (hvh : 0 ≤ v.height)
    (hiw : item.width.isFinite = true) (hih : item.height.isFinite = true) :
    0 ≤ (item.fitIn v).rect.width ∧ (item.fitIn v).rect.width ≤ v.width ∧
      0 ≤ (item.fitIn v).rect.height ∧ (item.fitIn v).rect.height ≤ v.height ∧
      ((item.fitIn v).rect.width == v.width || (item.fitIn v).rect.height == v.height) = true := by
  obtain ⟨a, b, ha, hb, htouch, hwd, hht⟩ := fitIn_sides_eq_clamp hvw hvh hiw hih
  obtain ⟨hw₁, hw₂⟩ := clamp_mem ha hvw
  obtain ⟨hh₁, hh₂⟩ := clamp_mem hb hvh
  rw [hwd, hht]
  refine ⟨hw₁, hw₂, hh₁, hh₂, ?_⟩
  -- the bound side clamps to the viewport's, which equals itself
  rcases htouch with rfl | rfl
  · rw [clamp_hi_eq hvw, Float.beq_self_of_isNaN_eq_false ha, Bool.true_or]
  · rw [clamp_hi_eq hvh, Float.beq_self_of_isNaN_eq_false hb, Bool.or_true]

/-- An item of negative width in a viewport of unbounded width is bound by the height: its box
has width zero. -/
theorem fitIn_sides_within_unbounded :
    (0 ≤ (1 / 0 : Float) ∧ 0 ≤ (640 : Float) ∧ (-3 : Float).isFinite = true ∧
        (2 : Float).isFinite = true) ∧
      let f := (Rect.mk 0 0 (-3) 2).fitIn ⟨0, 0, 1 / 0, 640⟩
      0 ≤ f.rect.width ∧ f.rect.width ≤ 1 / 0 ∧ 0 ≤ f.rect.height ∧ f.rect.height ≤ 640 ∧
        (f.rect.width == 1 / 0 || f.rect.height == 640) = true := by
  have h : 0 ≤ (1 / 0 : Float) ∧ 0 ≤ (640 : Float) ∧ (-3 : Float).isFinite = true ∧
      (2 : Float).isFinite = true := ⟨by decide +kernel, by decide +kernel, rfl, rfl⟩
  exact ⟨h, @fitIn_sides_within ⟨0, 0, -3, 2⟩ ⟨0, 0, 1 / 0, 640⟩ h.1 h.2.1 h.2.2.1 h.2.2.2⟩

end Sides

/-! ## Centring on one axis

On one axis the box starts at `X + (V - w) / 2` and ends `w` further, for the viewport's offset
`X`, its side `V` and the box's side `w` in `[0, V]`. The gap `V - w` and its half are rounded
but not negative, so the start is at or after `X`. The end is `X + V` up to the three roundings
of the half gap, the start and the end, each relative to values bounded by `|X| + V`. -/

theorem Float.unpack_two :
    (2 : Float).toModel.unpack = .finite .positive (2 ^ 52) (-51) (by decide) :=
  rfl

theorem Float.isFinite_two : (2 : Float).isFinite = true := rfl

theorem toRat_two : toRat 2 = 2 := by
  rw [toRat, Float.unpack_two, value, signed_positive]
  norm_num

section Centring

variable {X V w : Float}

/-- Half the gap between a side and a smaller nonnegative one is finite, not negative, and at
most half the exact gap plus a relative `2^-52` of it and half the least step. -/
theorem halfGap_bounds (hV : V.isFinite = true) (hw : w.isFinite = true) (hw0 : 0 ≤ toRat w)
    (hwV : toRat w ≤ toRat V) :
    ((V - w) / 2).isFinite = true ∧ 0 ≤ toRat ((V - w) / 2) ∧
      toRat ((V - w) / 2) ≤
        (toRat V - toRat w) / 2 + (toRat V - toRat w) / 2 ^ 52 + 2 ^ (-1075 : ℤ) := by
  have he0 : 0 ≤ toRat V - toRat w := by linarith
  -- the gap, rounded once
  have hsub := Float.roundsTo_sub hV hw
  obtain ⟨hdf, hdv⟩ := hsub.of_abs_le V (by
    rw [abs_of_nonneg he0, abs_of_nonneg (by linarith)]
    linarith)
  have hd0 : 0 ≤ toRat (V - w) := by
    rw [toRat, hdv]
    exact roundNearest_nonneg he0
  have hde := abs_toRat_sub_le_of_sub hsub hdf
  rw [abs_of_nonneg he0] at hde
  have hdle : toRat (V - w) ≤ toRat V - toRat w + (toRat V - toRat w) / 2 ^ 53 := by
    linarith [le_abs_self (toRat (V - w) - (toRat V - toRat w))]
  -- its half, rounded once more
  have hdiv := Float.roundsTo_div hdf Float.isFinite_two (by rw [toRat_two]; norm_num)
  rw [toRat_two] at hdiv
  obtain ⟨hhf, hhv⟩ := hdiv.of_abs_le (V - w) (by
    rw [abs_div, abs_two]
    linarith [abs_nonneg (toRat (V - w))])
  have hh0 : 0 ≤ toRat (V - w) / 2 := by positivity
  refine ⟨hhf, ?_, ?_⟩
  · rw [toRat, hhv]
    exact roundNearest_nonneg hh0
  · rw [toRat, hhv]
    have hr := roundNearest_le_of_nonneg hh0
    linarith

/-- A corner moved by half the gap starts at or after the viewport's. -/
theorem le_add_halfGap (hX : X.isFinite = true) (hV : V.isFinite = true) (hw : w.isFinite = true)
    (hw0 : 0 ≤ toRat w) (hwV : toRat w ≤ toRat V) : X ≤ X + (V - w) / 2 := by
  obtain ⟨hhf, hh0, -⟩ := halfGap_bounds hV hw hw0 hwV
  exact le_of_roundsTo hX (Float.roundsTo_add hX hhf) (by linarith)

/-- The far end of the centred side, when finite, is the viewport's exact far end up to a relative
`2^-51` of `|X| + V` and four least steps. -/
theorem toRat_add_halfGap_add_le (hX : X.isFinite = true) (hV : V.isFinite = true)
    (hw : w.isFinite = true) (hw0 : 0 ≤ toRat w) (hwV : toRat w ≤ toRat V)
    (h : (X + (V - w) / 2 + w).isFinite = true) :
    toRat (X + (V - w) / 2 + w) ≤
      toRat X + toRat V + (|toRat X| + toRat V) / 2 ^ 51 + 2 ^ (-1072 : ℤ) := by
  obtain ⟨hhf, hh0, hhle⟩ := halfGap_bounds hV hw hw0 hwV
  obtain ⟨hAf, -⟩ := Float.isFinite_of_add h
  set x := toRat X
  set h₂ := toRat ((V - w) / 2)
  set a := toRat (X + (V - w) / 2)
  -- the start and the end, each one rounding of a sum of floats
  have hA := abs_toRat_sub_le (Float.roundsTo_add hX hhf) hAf
  have hR := abs_toRat_sub_le (Float.roundsTo_add hAf hw) h
  have hxh : |x + h₂| ≤ |x| + h₂ := by
    simpa [abs_of_nonneg hh0] using abs_add_le x h₂
  have haw : |a + toRat w| ≤ |a| + toRat w := by
    simpa [abs_of_nonneg hw0] using abs_add_le a (toRat w)
  have ha : |a| ≤ |a - (x + h₂)| + |x + h₂| := by
    simpa using abs_add_le (a - (x + h₂)) (x + h₂)
  have hRle := le_abs_self (toRat (X + (V - w) / 2 + w) - (a + toRat w))
  have hAle := le_abs_self (a - (x + h₂))
  have hη : (2 : ℚ) ^ (-1072 : ℤ) = 8 * 2 ^ (-1075 : ℤ) := by
    rw [show (-1072 : ℤ) = 3 + -1075 by norm_num, zpow_add₀ two_ne_zero]
    norm_num
  have hη0 : (0 : ℚ) ≤ 2 ^ (-1075 : ℤ) := by positivity
  have hη1 := two_zpow_neg_1075_le
  have hx0 := abs_nonneg x
  rw [hη]
  linarith

/-- On one axis, a side between zero and the viewport's, centred, starts at or after the
viewport's start, and a finite end passes the viewport's exact end by rounding only. -/
theorem centred_axis (hX : X.isFinite = true) (hV : V.isFinite = true) (hw₁ : 0 ≤ w)
    (hw₂ : w ≤ V) :
    X ≤ X + (V - w) / 2 ∧
      ((X + (V - w) / 2 + w).isFinite = true →
        toRat (X + (V - w) / 2 + w) ≤
          toRat X + toRat V + (|toRat X| + toRat V) / 2 ^ 51 + 2 ^ (-1072 : ℤ)) := by
  have hw := Float.isFinite_of_le_of_le Float.isFinite_zero hV hw₁ hw₂
  have hw0 : 0 ≤ toRat w := Float.toRat_nonneg_of_le hw hw₁
  have hwV : toRat w ≤ toRat V := (Float.le_iff hw hV).1 hw₂
  exact ⟨le_add_halfGap hX hV hw hw0 hwV, toRat_add_halfGap_add_le hX hV hw hw0 hwV⟩

/-- The viewport's own far end, when finite, is its exact far end up to one rounding. -/
theorem toRat_add_le_of_nonneg (hX : X.isFinite = true) (hV : V.isFinite = true)
    (hV0 : 0 ≤ toRat V) (h : (X + V).isFinite = true) :
    toRat (X + V) ≤ toRat X + toRat V + (|toRat X| + toRat V) / 2 ^ 51 + 2 ^ (-1072 : ℤ) := by
  have herr := abs_toRat_sub_le_of_add (Float.roundsTo_add hX hV) h
  have hXV : |toRat X + toRat V| ≤ |toRat X| + toRat V := by
    simpa [abs_of_nonneg hV0] using abs_add_le (toRat X) (toRat V)
  have hle := le_abs_self (toRat (X + V) - (toRat X + toRat V))
  have hη0 : (0 : ℚ) ≤ 2 ^ (-1072 : ℤ) := by positivity
  have hx0 := abs_nonneg (toRat X)
  linarith

end Centring

/-! ## The position -/

section Position

variable {item v : Rect}

/-- The box fitted into a finite viewport with sides not negative, for an item with finite sides,
starts at or after the viewport's corner. Its far edges, when finite, pass the viewport's exact
far edges by rounding only: by a relative `2^-51` of the viewport's offset and side, and four
least steps. -/
theorem fitIn_inside_up_to_rounding (hvx : v.x.isFinite = true) (hvy : v.y.isFinite = true)
    (hvw : v.width.isFinite = true) (hvh : v.height.isFinite = true) (hvw0 : 0 ≤ v.width)
    (hvh0 : 0 ≤ v.height) (hiw : item.width.isFinite = true) (hih : item.height.isFinite = true) :
    v.x ≤ (item.fitIn v).rect.x ∧ v.y ≤ (item.fitIn v).rect.y ∧
      ((item.fitIn v).rect.right.isFinite = true →
        toRat (item.fitIn v).rect.right ≤
          toRat v.x + toRat v.width + (|toRat v.x| + toRat v.width) / 2 ^ 51 + 2 ^ (-1072 : ℤ)) ∧
      ((item.fitIn v).rect.bottom.isFinite = true →
        toRat (item.fitIn v).rect.bottom ≤
          toRat v.y + toRat v.height + (|toRat v.y| + toRat v.height) / 2 ^ 51 +
            2 ^ (-1072 : ℤ)) := by
  by_cases h₀ : (item.width == 0 || item.height == 0) = true
  · -- the viewport itself
    rw [fitIn_of_degenerate h₀]
    exact ⟨Float.le_refl_of_isNaN_eq_false (Float.isNaN_eq_false_of_isFinite hvx),
      Float.le_refl_of_isNaN_eq_false (Float.isNaN_eq_false_of_isFinite hvy),
      toRat_add_le_of_nonneg hvx hvw (Float.toRat_nonneg_of_le hvw hvw0),
      toRat_add_le_of_nonneg hvy hvh (Float.toRat_nonneg_of_le hvh hvh0)⟩
  rw [Bool.not_eq_true] at h₀
  -- a centred box whose sides lie between zero and the viewport's
  obtain ⟨a, b, ha, hb, -, hwd, hht⟩ := fitIn_sides_eq_clamp hvw0 hvh0 hiw hih
  have hw := clamp_mem ha hvw0
  have hh := clamp_mem hb hvh0
  rw [← hwd] at hw
  rw [← hht] at hh
  have hc := fitIn_rect_eq_centredIn (v := v) h₀
  have hx : (item.fitIn v).rect.x = v.x + (v.width - (item.fitIn v).rect.width) / 2 :=
    congrArg Rect.x hc
  have hy : (item.fitIn v).rect.y = v.y + (v.height - (item.fitIn v).rect.height) / 2 :=
    congrArg Rect.y hc
  obtain ⟨hx₁, hx₂⟩ := centred_axis hvx hvw hw.1 hw.2
  obtain ⟨hy₁, hy₂⟩ := centred_axis hvy hvh hh.1 hh.2
  simp only [Rect.right, Rect.bottom, hx, hy]
  exact ⟨hx₁, hy₁, hx₂, hy₂⟩

/-- At the offset `-(2^53 + 2)` the bounds hold for a box of width `0.5 + 2^-53` in a viewport of
width `2.5`, whose right edge passes the viewport's (`fitIn_right_gt_right`). -/
theorem fitIn_inside_up_to_rounding_tie :
    let v : Rect := ⟨-9007199254740994, 0, 2.5, 1⟩
    let item : Rect := ⟨0, 0, 0.5000000000000001, 1⟩
    (v.x.isFinite = true ∧ v.y.isFinite = true ∧ v.width.isFinite = true ∧
        v.height.isFinite = true ∧ 0 ≤ v.width ∧ 0 ≤ v.height ∧ item.width.isFinite = true ∧
        item.height.isFinite = true) ∧
      v.x ≤ (item.fitIn v).rect.x ∧ v.y ≤ (item.fitIn v).rect.y ∧
      ((item.fitIn v).rect.right.isFinite = true →
        toRat (item.fitIn v).rect.right ≤
          toRat v.x + toRat v.width + (|toRat v.x| + toRat v.width) / 2 ^ 51 + 2 ^ (-1072 : ℤ)) ∧
      ((item.fitIn v).rect.bottom.isFinite = true →
        toRat (item.fitIn v).rect.bottom ≤
          toRat v.y + toRat v.height + (|toRat v.y| + toRat v.height) / 2 ^ 51 +
            2 ^ (-1072 : ℤ)) := by
  intro v item
  have h : v.x.isFinite = true ∧ v.y.isFinite = true ∧ v.width.isFinite = true ∧
      v.height.isFinite = true ∧ 0 ≤ v.width ∧ 0 ≤ v.height ∧ item.width.isFinite = true ∧
      item.height.isFinite = true :=
    ⟨by decide +kernel, by decide +kernel, by decide +kernel, by decide +kernel,
      by decide +kernel, by decide +kernel, by decide +kernel, by decide +kernel⟩
  exact ⟨h, fitIn_inside_up_to_rounding h.1 h.2.1 h.2.2.1 h.2.2.2.1 h.2.2.2.2.1 h.2.2.2.2.2.1
    h.2.2.2.2.2.2.1 h.2.2.2.2.2.2.2⟩

/-- The far edge of a fitted box can pass the viewport's. In a viewport of width `2.5` at offset
`-(2^53 + 2)`, a box of width `0.5 + 2^-53` leaves a gap that rounds up to `2`; the start
`-(2^53 + 1)` is a tie that rounds to `-2^53`, and the box ends at `-2^53 + 1`, while the
viewport's right edge `-2^53 + 0.5` is a tie that rounds down to `-2^53`. -/
theorem fitIn_right_gt_right :
    ¬ ((Rect.mk 0 0 0.5000000000000001 1).fitIn ⟨-9007199254740994, 0, 2.5, 1⟩).rect.right ≤
      (Rect.mk (-9007199254740994) 0 2.5 1).right := by
  decide +kernel

end Position

end Framing
