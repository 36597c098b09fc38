import Framing.Geometry
import Framing.Proofs.Relative

/-!
# Two ways from the screen to the image

An on-screen box reaches image pixels either through `Rect.relativeTo` and `Rect.toPixels`
(divide by the fitted rectangle's side, scale by the image side) or through `Fit.toItem`
(divide by the scale factor). In exact arithmetic the two agree, since the fitted side is the
image side times the scale. In binary64 they can fall on the two sides of a whole number, and
the counts differ by one; they never differ by more, as long as the scale is a normal float
(`toPixels_relativeTo_near_toItem`). A subnormal scale is rounded by up to half of itself and
the two paths then part by many pixels (`toPixels_relativeTo_far_from_toItem_subnormal`).

The argument runs on one axis at a time. `ScaledSide L s N` says that the side `L` is `N`
times the scale `s` up to a relative `2^-45`; `Rect.fitIn` gives it on both axes, and from it
the two quotients of any one float lie within a relative `2^-43` of each other, which moves a
saturated truncation by one at most.
-/

namespace Framing

open Binary64 Float.Model Float.Model.UnpackedFloat

/-! ## Saturated truncations of nearby values -/

theorem truncate_add_one_le (q : ℚ) : truncate (q + 1) ≤ truncate q + 1 := by
  unfold truncate
  split_ifs with h₁ h₂ h₂
  · rw [Int.ceil_add_one]
  · linarith
  · -- the step crosses zero: the floor above is at most the ceiling below plus one
    rw [Int.floor_add_one]
    have := Int.floor_le_ceil q
    omega
  · rw [Int.floor_add_one]

/-- Values at most one apart truncate to integers at most one apart. -/
theorem abs_truncate_sub_le {x y : ℚ} (h : |x - y| ≤ 1) : |truncate x - truncate y| ≤ 1 := by
  have h₁ : truncate x ≤ truncate y + 1 :=
    (truncate_mono (by linarith [le_abs_self (x - y)])).trans (truncate_add_one_le y)
  have h₂ : truncate y ≤ truncate x + 1 :=
    (truncate_mono (by linarith [neg_abs_le (x - y)])).trans (truncate_add_one_le x)
  rw [abs_le]
  constructor <;> omega

/-- Two values whose gap is below half a unit plus a small part of the second give 32-bit counts
at most one apart: small values truncate one apart at most, large ones saturate alike. -/
theorem abs_saturate_truncate_sub_le {x y : ℚ} (h : |x - y| ≤ |y| / 2 ^ 33 + 1 / 2) :
    |Int.saturate (-2 ^ 31) (2 ^ 31 - 1) (truncate x) -
      Int.saturate (-2 ^ 31) (2 ^ 31 - 1) (truncate y)| ≤ 1 := by
  rcases le_or_gt |y| (2 ^ 32) with hy | hy
  · have ht := abs_truncate_sub_le (show |x - y| ≤ 1 by linarith)
    rw [abs_le] at ht ⊢
    unfold Int.saturate
    omega
  · rcases lt_abs.1 hy with hy | hy
    · -- far above: both truncations are past `2^31 - 1`
      have hx : (2 : ℚ) ^ 31 ≤ x := by
        rw [abs_of_pos (show (0 : ℚ) < y by linarith)] at h
        linarith [neg_abs_le (x - y)]
      have htx : 2 ^ 31 ≤ truncate x := le_truncate (by exact_mod_cast hx)
      have hty : 2 ^ 31 ≤ truncate y := le_truncate (by push_cast; linarith)
      rw [saturate_of_ge (by norm_num) (by omega), saturate_of_ge (by norm_num) (by omega)]
      simp
    · -- far below: both truncations are past `-2^31`
      have hx : x ≤ -2 ^ 31 := by
        rw [abs_of_neg (show y < 0 by linarith)] at h
        linarith [le_abs_self (x - y)]
      have htx : truncate x ≤ -2 ^ 31 := truncate_le_of_le (by push_cast; exact hx)
      have hty : truncate y ≤ -2 ^ 31 := truncate_le_of_le (by push_cast; linarith)
      rw [saturate_of_le htx, saturate_of_le hty]
      simp

/-! ## Dividing by a side or by the scale -/

/-- The side `L` of a fitted rectangle is `N` image pixels at the scale `s`, up to a relative
`2^-45`, with both floats finite and the scale positive. -/
structure ScaledSide (L s : Float) (N : ℕ) : Prop where
  side_finite : L.isFinite = true
  scale_finite : s.isFinite = true
  scale_pos : 0 < toRat s
  close : |toRat L - N * toRat s| ≤ N * toRat s / 2 ^ 45

/-- The two quotients of one value, by the side and scaled by `N`, or by the scale, round to
values that lie within a relative `2^-33` and half a unit of each other. -/
theorem abs_roundNearest_div_sub_le {d L s N : ℚ} (hs : 0 < s) (hN : 1 ≤ N) (hN' : N < 2 ^ 32)
    (hL : |L - N * s| ≤ N * s / 2 ^ 45) :
    |roundNearest (d / s) - roundNearest (roundNearest (d / L) * N)| ≤
      |roundNearest (roundNearest (d / L) * N)| / 2 ^ 33 + 1 / 2 := by
  have hN0 : (0 : ℚ) < N := by linarith
  have hNs : 0 < N * s := by positivity
  have hL0 : 0 < L := by linarith [neg_abs_le (L - N * s)]
  set b := d / L with hb
  set y := roundNearest (roundNearest b * N) with hy
  -- exactly, `d / s` is `b * N` times `L / (N * s)`, within a relative `2^-45`
  have hab : |d / s - b * N| ≤ |b * N| / 2 ^ 45 := by
    have heq : d / s - b * N = d / (s * L) * (L - N * s) := by
      rw [hb]
      field_simp
    have hbN : |d / (s * L)| * (N * s) = |b * N| := by
      rw [hb, abs_mul (d / L), abs_div, abs_div, abs_mul, abs_of_pos hs, abs_of_pos hL0,
        abs_of_pos hN0]
      field_simp
    rw [heq, abs_mul, ← hbN]
    calc |d / (s * L)| * |L - N * s| ≤ |d / (s * L)| * (N * s / 2 ^ 45) :=
          mul_le_mul_of_nonneg_left hL (abs_nonneg _)
      _ = |d / (s * L)| * (N * s) / 2 ^ 45 := by ring
  have hη : (0 : ℚ) ≤ 2 ^ (-1075 : ℤ) := by positivity
  have hη' : (2 : ℚ) ^ (-1075 : ℤ) ≤ 1 / 2 ^ 40 := two_zpow_neg_1075_le.trans (by norm_num)
  have hNη : N * 2 ^ (-1075 : ℤ) ≤ 2 ^ 32 * 2 ^ (-1075 : ℤ) :=
    mul_le_mul_of_nonneg_right hN'.le hη
  -- the three roundings
  have ha := abs_roundNearest_sub_le (d / s)
  have hbr : |roundNearest b * N - b * N| ≤ |b * N| / 2 ^ 53 + N * 2 ^ (-1075 : ℤ) := by
    have h := abs_roundNearest_sub_le b
    rw [← sub_mul, abs_mul, abs_of_pos hN0, abs_mul, abs_of_pos hN0]
    calc |roundNearest b - b| * N ≤ (|b| / 2 ^ 53 + 2 ^ (-1075 : ℤ)) * N :=
          mul_le_mul_of_nonneg_right h hN0.le
      _ = |b| * N / 2 ^ 53 + N * 2 ^ (-1075 : ℤ) := by ring
  have hyr : |y - roundNearest b * N| ≤ |roundNearest b * N| / 2 ^ 53 + 2 ^ (-1075 : ℤ) :=
    abs_roundNearest_sub_le _
  -- the triangle through `d / s`, `b * N` and `roundNearest b * N`
  have ht₁ := abs_sub_le (roundNearest (d / s)) (d / s) y
  have ht₂ := abs_sub_le (d / s) (b * N) y
  have ht₃ := abs_sub_le (b * N) (roundNearest b * N) y
  have hsz₁ := abs_sub_abs_le_abs_sub (d / s) (b * N)
  have hsz₂ := abs_sub_abs_le_abs_sub (roundNearest b * N) (b * N)
  have hsz₃ := abs_sub_abs_le_abs_sub (b * N) y
  rw [abs_sub_comm (b * N) (roundNearest b * N)] at ht₃
  rw [abs_sub_comm (roundNearest b * N) y] at ht₃
  have hy0 := abs_nonneg y
  linarith

namespace ScaledSide

variable {L s : Float} {side : UInt32}

theorem side_pos (h : ScaledSide L s side.toNat) (hN : 1 ≤ side.toNat) : 0 < toRat L := by
  have hN' : (1 : ℚ) ≤ side.toNat := by exact_mod_cast hN
  have hNs : 0 < (side.toNat : ℚ) * toRat s := by nlinarith [h.scale_pos]
  linarith [neg_abs_le (toRat L - side.toNat * toRat s), h.close]

/-- On a scaled side, any float counted in pixels through the side, or truncated after division
by the scale, gives counts at most one apart. NaN gives zero both ways and an infinity the same
end both ways; a finite value is the case of `abs_roundNearest_div_sub_le`. -/
theorem pixelsOf_div_near (h : ScaledSide L s side.toNat) (hN : 1 ≤ side.toNat) (d : Float) :
    |(pixelsOf (d / L) side).toInt - (Float.truncateInt32 (d / s)).toInt| ≤ 1 := by
  have hL0 := h.side_pos hN
  by_cases hd : d.isFinite = true
  · -- both paths round the same exact quotient
    have hQ := Float.roundsTo_div hd h.side_finite hL0.ne'
    have hA := Float.roundsTo_div hd h.scale_finite h.scale_pos.ne'
    rw [toInt_pixelsOf_of_roundsTo side hQ hN, toInt_truncateInt32_of_roundsTo hA, abs_sub_comm]
    exact abs_saturate_truncate_sub_le (abs_roundNearest_div_sub_le h.scale_pos
      (by exact_mod_cast hN) (by exact_mod_cast side.toNat_lt) h.close)
  · rw [Float.isFinite_eq] at hd
    cases hu : d.toModel.unpack with
    | notANumber =>
      have hp : (pixelsOf (d / L) side).toInt = 0 :=
        toInt_truncateInt32_of_notANumber
          (Float.unpack_notANumber_mul (Float.unpack_notANumber_div hu))
      rw [hp, toInt_truncateInt32_of_notANumber (Float.unpack_notANumber_div hu)]
      simp
    | infinity t =>
      have hQ := Float.unpack_infinity_div hu h.side_finite hL0.ne'
      have hA := Float.unpack_infinity_div hu h.scale_finite h.scale_pos.ne'
      rw [if_neg (not_lt.2 hL0.le)] at hQ
      rw [if_neg (not_lt.2 h.scale_pos.le)] at hA
      rw [toInt_pixelsOf_infinity side hQ, toInt_truncateInt32_of_infinity hA, if_neg (by omega)]
      simp
    | zero => simp [hu, UnpackedFloat.isFinite] at hd
    | finite => simp [hu, UnpackedFloat.isFinite] at hd

end ScaledSide

/-! ## The sides of a fitted rectangle

`Rect.fitIn` divides the viewport's side on the bound axis by the image's side to get the scale,
so that side is the image's side times the scale up to the one rounding of the scale. The free
side is the image's other side times the scale, rounded and clamped into the viewport: the
branch test bounds that product by the viewport's side to a relative `2^-50`, so the clamp moves
it by no more. Both bounds need the scale normal, where rounding errors are relative. -/

/-- When the image is bound by the viewport's width, the exact aspect ratio of the viewport
`X / Y` is below the image's `P / Q`, so the image's height at the scale `X / P` stays within a
relative `2^-50` of the viewport's height. -/
theorem mul_roundNearest_div_le_of_lt {X Y P Q : ℚ} (hX : 0 < X) (hY : 0 < Y) (hP : 0 < P)
    (hQ : 0 < Q) (h : X / Y < P / Q) (hs : 2 ^ (-1022 : ℤ) ≤ roundNearest (X / P)) :
    Q * roundNearest (X / P) ≤ Y + Y / 2 ^ 50 := by
  set s := roundNearest (X / P)
  have herr := abs_roundNearest_sub_le_of_le_roundNearest (div_nonneg hX.le hP.le) hs
  have hsle : s ≤ X / P + s / 2 ^ 51 := by linarith [le_abs_self (s - X / P)]
  have hQX : Q * (X / P) < Y := by
    rw [div_lt_div_iff₀ hY hQ] at h
    rw [mul_div_assoc', div_lt_iff₀ hP]
    linarith
  have hQs : Q * s ≤ Q * (X / P) + Q * s / 2 ^ 51 :=
    calc Q * s ≤ Q * (X / P + s / 2 ^ 51) := mul_le_mul_of_nonneg_left hsle hQ.le
      _ = Q * (X / P) + Q * s / 2 ^ 51 := by ring
  linarith

/-- When the image is bound by the viewport's height, only the rounded aspect ratios compare:
the image's `P / Q` is at most the viewport's `X / Y` up to rounding, so the image's width at the
scale `Y / Q` stays within a relative `2^-50` of the viewport's width. The image's ratio is at
least `2^-32`, which makes the absolute error of each rounding negligible. -/
theorem mul_roundNearest_div_le_of_roundNearest_le {X Y P Q : ℚ} (hX : 0 < X) (hY : 0 < Y)
    (hP : 1 ≤ P) (hQ : 0 < Q) (hQ' : Q < 2 ^ 32)
    (h : roundNearest (P / Q) ≤ roundNearest (X / Y))
    (hs : 2 ^ (-1022 : ℤ) ≤ roundNearest (Y / Q)) :
    P * roundNearest (Y / Q) ≤ X + X / 2 ^ 50 := by
  set s := roundNearest (Y / Q)
  have hη := two_zpow_neg_1075_le
  have hη0 : (0 : ℚ) ≤ 2 ^ (-1075 : ℤ) := by positivity
  have hc : 1 / 2 ^ 32 ≤ P / Q := by
    rw [div_le_div_iff₀ (by norm_num) hQ]
    linarith
  have hca :
      P / Q - P / Q / 2 ^ 53 - 2 ^ (-1075 : ℤ) ≤ X / Y + X / Y / 2 ^ 53 + 2 ^ (-1075 : ℤ) :=
    (le_roundNearest_of_nonneg (by positivity)).trans
      (h.trans (roundNearest_le_of_nonneg (by positivity)))
  have hYX : Y ≤ 2 ^ 34 * X := by
    have ha : 1 / 2 ^ 34 ≤ X / Y := by linarith
    rw [le_div_iff₀ hY] at ha
    linarith
  have hcY : P / Q * Y * (1 - 1 / 2 ^ 53) ≤ X * (1 + 1 / 2 ^ 53) + 2 * 2 ^ (-1075 : ℤ) * Y :=
    calc P / Q * Y * (1 - 1 / 2 ^ 53) = (P / Q - P / Q / 2 ^ 53) * Y := by ring
      _ ≤ (X / Y + X / Y / 2 ^ 53 + 2 * 2 ^ (-1075 : ℤ)) * Y :=
        mul_le_mul_of_nonneg_right (by linarith) hY.le
      _ = X * (1 + 1 / 2 ^ 53) + 2 * 2 ^ (-1075 : ℤ) * Y := by field_simp
  have hηY : 2 ^ (-1075 : ℤ) * Y ≤ X / 2 ^ 60 :=
    calc (2 : ℚ) ^ (-1075 : ℤ) * Y ≤ 1 / 2 ^ 100 * (2 ^ 34 * X) :=
          mul_le_mul hη hYX hY.le (by norm_num)
      _ ≤ X / 2 ^ 60 := by linarith
  -- the scale against its exact value
  have herr := abs_roundNearest_sub_le_of_le_roundNearest (div_nonneg hY.le hQ.le) hs
  have hsle : s ≤ Y / Q + s / 2 ^ 51 := by linarith [le_abs_self (s - Y / Q)]
  have hPs : P * s ≤ P / Q * Y + P * s / 2 ^ 51 :=
    calc P * s ≤ P * (Y / Q + s / 2 ^ 51) := mul_le_mul_of_nonneg_left hsle (by linarith)
      _ = P / Q * Y + P * s / 2 ^ 51 := by ring
  linarith

/-- A finite float over a positive 32-bit count is finite, the rounding of the quotient. -/
theorem toRat_div_toFloat {V : Float} {n : UInt32} (hV : V.isFinite = true) (hn : 1 ≤ n.toNat) :
    (V / n.toFloat).isFinite = true ∧ toRat (V / n.toFloat) = roundNearest (toRat V / n.toNat) := by
  obtain ⟨hnf, hnv⟩ := Float.toFloat_exact n
  have hN : (1 : ℚ) ≤ n.toNat := by exact_mod_cast hn
  have hR := Float.roundsTo_div hV hnf (by rw [hnv]; positivity)
  rw [hnv] at hR
  exact hR.of_abs_le V (by
    rw [abs_div, abs_of_pos (by positivity : (0 : ℚ) < n.toNat)]
    exact div_le_self (abs_nonneg _) hN)

theorem toFloat_beq_zero {n : UInt32} (hn : 1 ≤ n.toNat) : (n.toFloat == 0) = false := by
  obtain ⟨hf, hv⟩ := Float.toFloat_exact n
  rw [Bool.eq_false_iff, ne_eq, Float.beq_iff hf Float.isFinite_zero, hv, toRat_zero,
    Nat.cast_eq_zero]
  omega

/-- A finite nonnegative side clamped into itself stays as it is. -/
theorem clamp_self {V : Float} (hV : V.isFinite = true) (hV0 : 0 ≤ toRat V) : clamp V 0 V = V :=
  clamp_of_not_lt (by rw [Float.lt_iff hV Float.isFinite_zero, toRat_zero]; exact not_lt.2 hV0)
    (by rw [Float.lt_iff hV hV]; exact lt_irrefl _)

namespace ScaledSide

variable {V s : Float} {n : UInt32}

/-- The side that the scale was divided from is the image's side times the scale. -/
theorem of_div (hV : V.isFinite = true) (hV0 : 0 < toRat V)
    (hn : 1 ≤ n.toNat) (hs : 2 ^ (-1022 : ℤ) ≤ toRat (V / n.toFloat)) :
    ScaledSide V (V / n.toFloat) n.toNat := by
  obtain ⟨hfin, hsv⟩ := toRat_div_toFloat hV hn
  rw [hsv] at hs
  refine ⟨hV, hfin, hsv ▸ lt_of_lt_of_le (by positivity) hs, ?_⟩
  rw [hsv]
  have herr := abs_roundNearest_sub_le_of_le_roundNearest (div_nonneg hV0.le (by positivity)) hs
  -- times the side count, the error of the scale is the error of the side
  have heq : toRat V - n.toNat * roundNearest (toRat V / n.toNat) =
      n.toNat * (toRat V / n.toNat - roundNearest (toRat V / n.toNat)) := by
    field_simp
  have hNs : 0 ≤ (n.toNat : ℚ) * roundNearest (toRat V / n.toNat) :=
    mul_nonneg (Nat.cast_nonneg _) (le_trans (by positivity) hs)
  rw [heq, abs_mul, Nat.abs_cast, abs_sub_comm]
  calc (n.toNat : ℚ) * |roundNearest (toRat V / n.toNat) - toRat V / n.toNat|
      ≤ n.toNat * (roundNearest (toRat V / n.toNat) / 2 ^ 51) :=
        mul_le_mul_of_nonneg_left herr (Nat.cast_nonneg _)
    _ ≤ n.toNat * roundNearest (toRat V / n.toNat) / 2 ^ 45 := by linarith

/-- The image's side times the scale, clamped into a viewport's side that it passes by a relative
`2^-50` at most, is the image's side times the scale. -/
theorem of_clamp_mul (hV : V.isFinite = true) (hs : s.isFinite = true)
    (hn : 1 ≤ n.toNat) (hs0 : 2 ^ (-1022 : ℤ) ≤ toRat s)
    (hup : n.toNat * toRat s ≤ toRat V + toRat V / 2 ^ 50) :
    ScaledSide (clamp (n.toFloat * s) 0 V) s n.toNat := by
  obtain ⟨hnf, hnv⟩ := Float.toFloat_exact n
  have hp := Float.roundsTo_mul hnf hs
  rw [hnv] at hp
  have hs0' : 0 < toRat s := lt_of_lt_of_le (by positivity) hs0
  have hq0 : 0 ≤ (n.toNat : ℚ) * toRat s := by positivity
  have hqn : 2 ^ (-1022 : ℤ) ≤ (n.toNat : ℚ) * toRat s :=
    le_trans hs0 (le_mul_of_one_le_left hs0'.le (by exact_mod_cast hn))
  have herr := abs_roundNearest_sub_le_of_normal (hqn.trans (le_abs_self _))
  rw [abs_of_nonneg hq0] at herr
  unfold clamp
  split_ifs with h₀ h₁
  · -- a nonnegative product is not below zero
    have hlt := roundNearest_lt_of_roundsTo_lt hp Float.isFinite_zero h₀
    rw [toRat_zero] at hlt
    exact absurd hlt (not_lt.2 (roundNearest_nonneg hq0))
  · -- clamped to the viewport's side, which the product passed by one rounding at most
    have hlt := toRat_lt_of_lt_roundsTo hV hp h₁
    refine ⟨hV, hs, hs0', ?_⟩
    rw [abs_le]
    constructor <;> linarith [le_abs_self (roundNearest (n.toNat * toRat s) - n.toNat * toRat s)]
  · -- the product stays, and is finite: an overflow would lie past the viewport's side
    have hfin : (n.toFloat * s).isFinite = true := by
      by_cases hlt : |roundNearest (n.toNat * toRat s)| < 2 ^ 1024
      · exact (hp.of_abs_lt hlt).1
      · have hinf := hp.of_le_abs (not_lt.1 hlt)
        rw [if_neg (not_lt.2 hq0)] at hinf
        exact absurd ((Float.lt_iff_of_isFinite_left hV).2 (Or.inl hinf)) h₁
    refine ⟨hfin, hs, hs0', ?_⟩
    rw [toRat_eq_of_roundsTo hp hfin]
    linarith

end ScaledSide

section FitIn

variable {v : Rect} {w h : Float}

theorem fitIn_ofSize_of_lt (h₀ : (w == 0 || h == 0) = false)
    (hlt : v.aspectRatio < (Rect.ofSize w h).aspectRatio) :
    ((Rect.ofSize w h).fitIn v).scale = v.width / w ∧
      ((Rect.ofSize w h).fitIn v).rect.width = clamp v.width 0 v.width ∧
      ((Rect.ofSize w h).fitIn v).rect.height = clamp (h * (v.width / w)) 0 v.height := by
  have h₀' : ((Rect.ofSize w h).width == 0 || (Rect.ofSize w h).height == 0) = false := h₀
  rw [Rect.fitIn, if_neg (by rw [h₀']; decide), if_pos hlt]
  exact ⟨rfl, rfl, rfl⟩

theorem fitIn_ofSize_of_not_lt (h₀ : (w == 0 || h == 0) = false)
    (hlt : ¬ v.aspectRatio < (Rect.ofSize w h).aspectRatio) :
    ((Rect.ofSize w h).fitIn v).scale = v.height / h ∧
      ((Rect.ofSize w h).fitIn v).rect.width = clamp (w * (v.height / h)) 0 v.width ∧
      ((Rect.ofSize w h).fitIn v).rect.height = clamp v.height 0 v.height := by
  have h₀' : ((Rect.ofSize w h).width == 0 || (Rect.ofSize w h).height == 0) = false := h₀
  rw [Rect.fitIn, if_neg (by rw [h₀']; decide), if_neg hlt]
  exact ⟨rfl, rfl, rfl⟩

/-- An image of positive sides fitted into a viewport of positive finite sides, at a normal
scale, has both fitted sides scaled from its pixel sides. -/
theorem scaledSide_fitIn {W H : UInt32} (hW : 1 ≤ W.toNat) (hH : 1 ≤ H.toNat)
    (hvw : v.width.isFinite = true) (hvh : v.height.isFinite = true)
    (hvw0 : 0 < toRat v.width) (hvh0 : 0 < toRat v.height)
    (hs : 2 ^ (-1022 : ℤ) ≤ toRat ((Rect.ofSize W.toFloat H.toFloat).fitIn v).scale) :
    ScaledSide ((Rect.ofSize W.toFloat H.toFloat).fitIn v).rect.width
        ((Rect.ofSize W.toFloat H.toFloat).fitIn v).scale W.toNat ∧
      ScaledSide ((Rect.ofSize W.toFloat H.toFloat).fitIn v).rect.height
        ((Rect.ofSize W.toFloat H.toFloat).fitIn v).scale H.toNat := by
  obtain ⟨hWf, hWv⟩ := Float.toFloat_exact W
  have hW' : (1 : ℚ) ≤ W.toNat := by exact_mod_cast hW
  have hH32 : (H.toNat : ℚ) < 2 ^ 32 := by exact_mod_cast H.toNat_lt
  have h₀ : (W.toFloat == 0 || H.toFloat == 0) = false := by
    rw [toFloat_beq_zero hW, toFloat_beq_zero hH]
    rfl
  -- the viewport's aspect ratio is rounded from its sides, the image's is finite
  have hva := Float.roundsTo_div hvw hvh hvh0.ne'
  obtain ⟨hiaf, hiav⟩ := toRat_div_toFloat hWf hH
  rw [hWv] at hiav
  by_cases hcmp : v.aspectRatio < (Rect.ofSize W.toFloat H.toFloat).aspectRatio
  · -- bound by the width: the scale is the viewport's width over the image's
    obtain ⟨hsc, hwd, hht⟩ := fitIn_ofSize_of_lt h₀ hcmp
    rw [hsc] at hs ⊢
    rw [hwd, hht]
    obtain ⟨hsf, hsv⟩ := toRat_div_toFloat hvw hW
    refine ⟨?_, ScaledSide.of_clamp_mul hvh hsf hH hs ?_⟩
    · rw [clamp_self hvw hvw0.le]
      exact ScaledSide.of_div hvw hvw0 hW hs
    · have hlt := roundNearest_lt_of_roundsTo_lt hva hiaf hcmp
      rw [hiav] at hlt
      have hex : toRat v.width / toRat v.height < W.toNat / H.toNat :=
        not_le.1 fun h => absurd (roundNearest_mono h) (not_le.2 hlt)
      rw [hsv] at hs ⊢
      exact mul_roundNearest_div_le_of_lt hvw0 hvh0 (by positivity) (by positivity) hex hs
  · -- bound by the height: the scale is the viewport's height over the image's
    obtain ⟨hsc, hwd, hht⟩ := fitIn_ofSize_of_not_lt h₀ hcmp
    rw [hsc] at hs ⊢
    rw [hwd, hht]
    obtain ⟨hsf, hsv⟩ := toRat_div_toFloat hvh hH
    refine ⟨ScaledSide.of_clamp_mul hvw hsf hW hs ?_, ?_⟩
    · have hle := le_roundNearest_of_not_lt hva hiaf hcmp
      rw [hiav] at hle
      rw [hsv] at hs ⊢
      exact mul_roundNearest_div_le_of_roundNearest_le hvw0 hvh0 hW' (by positivity) hH32 hle hs
    · rw [clamp_self hvh hvh0.le]
      exact ScaledSide.of_div hvh hvh0 hH hs

end FitIn

/-! ## The two paths -/

/-- A box drawn over an image fitted into a viewport, cropped through its ratios of the fitted
rectangle, lands within one pixel of the truncations of the box mapped back by the scale, on
every field, as long as the scale is a normal float. -/
theorem toPixels_relativeTo_near_toItem {v r : Rect} {image : Size} {px : PixelRect}
    (hW : 1 ≤ image.width.toNat) (hH : 1 ≤ image.height.toNat)
    (hvw : v.width.isFinite = true) (hvh : v.height.isFinite = true)
    (hvw0 : 0 < v.width) (hvh0 : 0 < v.height)
    (hs : 2 ^ (-1022 : ℤ) ≤
      toRat ((Rect.ofSize image.width.toFloat image.height.toFloat).fitIn v).scale)
    (h : (r.relativeTo
      ((Rect.ofSize image.width.toFloat image.height.toFloat).fitIn v).rect).toPixels image =
        .ok px) :
    let f := (Rect.ofSize image.width.toFloat image.height.toFloat).fitIn v
    |px.x.toInt - (Float.truncateInt32 (f.toItem r).x).toInt| ≤ 1 ∧
      |px.y.toInt - (Float.truncateInt32 (f.toItem r).y).toInt| ≤ 1 ∧
      |px.width.toInt - (Float.truncateInt32 (f.toItem r).width).toInt| ≤ 1 ∧
      |px.height.toInt - (Float.truncateInt32 (f.toItem r).height).toInt| ≤ 1 := by
  intro f
  obtain ⟨-, rfl⟩ := toPixels_eq_ok_iff.1 h
  have hvw0' : 0 < toRat v.width := by simpa using (Float.lt_iff Float.isFinite_zero hvw).1 hvw0
  have hvh0' : 0 < toRat v.height := by simpa using (Float.lt_iff Float.isFinite_zero hvh).1 hvh0
  obtain ⟨hx, hy⟩ := scaledSide_fitIn hW hH hvw hvh hvw0' hvh0' hs
  -- a field and its mapped-back twin divide one difference or one side by the fitted side and
  -- by the scale
  exact ⟨hx.pixelsOf_div_near hW _, hy.pixelsOf_div_near hH _, hx.pixelsOf_div_near hW _,
    hy.pixelsOf_div_near hH _⟩

/-- A small box near the lower right of a wide image in a landscape viewport is accepted, and its
pixels lie within one of the box mapped back by the scale. -/
theorem toPixels_relativeTo_near_toItem_landscape :
    (Rect.relativeTo
        ⟨1293.0721003134797, 623.3150470219435, 8.934169278996865, 19.059561128526646⟩
        ((Rect.ofSize (2552 : UInt32).toFloat (1047 : UInt32).toFloat).fitIn
          ⟨0, 0, 1520, 735⟩).rect).toPixels ⟨2552, 1047⟩ = .ok ⟨2171, 953, 15, 32⟩ ∧
    let f :=
      (Rect.ofSize (2552 : UInt32).toFloat (1047 : UInt32).toFloat).fitIn ⟨0, 0, 1520, 735⟩
    let r : Rect :=
      ⟨1293.0721003134797, 623.3150470219435, 8.934169278996865, 19.059561128526646⟩
    |(2171 : Int32).toInt - (Float.truncateInt32 (f.toItem r).x).toInt| ≤ 1 ∧
      |(953 : Int32).toInt - (Float.truncateInt32 (f.toItem r).y).toInt| ≤ 1 ∧
      |(15 : Int32).toInt - (Float.truncateInt32 (f.toItem r).width).toInt| ≤ 1 ∧
      |(32 : Int32).toInt - (Float.truncateInt32 (f.toItem r).height).toInt| ≤ 1 := by
  have hok : (Rect.relativeTo
      ⟨1293.0721003134797, 623.3150470219435, 8.934169278996865, 19.059561128526646⟩
      ((Rect.ofSize (2552 : UInt32).toFloat (1047 : UInt32).toFloat).fitIn
        ⟨0, 0, 1520, 735⟩).rect).toPixels ⟨2552, 1047⟩ = .ok ⟨2171, 953, 15, 32⟩ :=
    toPixels_eq_ok_iff.2 ⟨by decide +kernel, by decide +kernel⟩
  have hnear := @toPixels_relativeTo_near_toItem ⟨0, 0, 1520, 735⟩ _ ⟨2552, 1047⟩ _
    (by decide) (by decide) rfl rfl (by decide) (by decide) (by decide +kernel) hok
  exact ⟨hok, hnear⟩

/-- The bound needs the normal scale. An image `2^20` pixels wide and one high, in a viewport
`1.5 * 2^-1054` wide, is fitted at the scale `2^-1073`, rounded up from `1.5 * 2^-1074`. The
whole fitted rectangle is cropped to all `1048576` columns, while its width mapped back by the
scale truncates to `786432`. -/
theorem toPixels_relativeTo_far_from_toItem_subnormal :
    let v : Rect := ⟨0, 0, Float.ofBits 1572864, 1⟩
    let f := (Rect.ofSize (1048576 : UInt32).toFloat (1 : UInt32).toFloat).fitIn v
    toRat f.scale < 2 ^ (-1022 : ℤ) ∧
      (f.rect.relativeTo f.rect).toPixels ⟨1048576, 1⟩ = .ok ⟨0, 0, 1048576, 1⟩ ∧
      Float.truncateInt32 (f.toItem f.rect).width = 786432 := by
  intro v f
  -- the kernel computes the scale, `2 * 2^-1074`, and both paths
  exact ⟨by decide +kernel, toPixels_eq_ok_iff.2 ⟨by decide +kernel, by decide +kernel⟩,
    by decide +kernel⟩

/-- The two paths do not always give the same pixels: this box is accepted with its top at row
`953`, while its top mapped back by the scale truncates to row `952`. -/
theorem toPixels_relativeTo_y_ne_toItem :
    (Rect.relativeTo
        ⟨1293.0721003134797, 623.3150470219435, 8.934169278996865, 19.059561128526646⟩
        ((Rect.ofSize (2552 : UInt32).toFloat (1047 : UInt32).toFloat).fitIn
          ⟨0, 0, 1520, 735⟩).rect).toPixels ⟨2552, 1047⟩ = .ok ⟨2171, 953, 15, 32⟩ ∧
      Float.truncateInt32 (((Rect.ofSize (2552 : UInt32).toFloat (1047 : UInt32).toFloat).fitIn
        ⟨0, 0, 1520, 735⟩).toItem
          ⟨1293.0721003134797, 623.3150470219435, 8.934169278996865, 19.059561128526646⟩).y =
        952 :=
  ⟨toPixels_eq_ok_iff.2 ⟨by decide +kernel, by decide +kernel⟩, by decide +kernel⟩

end Framing
