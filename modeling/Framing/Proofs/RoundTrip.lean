import Framing.Geometry
import Framing.Proofs.Relative

/-!
# Mapping to the viewport and back

`Fit.toViewport` scales a rectangle by the fit's scale and shifts its position by the fitted
rectangle's corner; `Fit.toItem` shifts back and divides. In exact arithmetic the two undo each
other. In binary64 a round trip moves a field by a few units in its last place, a position can
lose its low bits against a large offset, and a scaled field that underflows carries an absolute
error of up to `2^-1074` that the way back multiplies by the inverse scale.

`Fit.round_trips_near` bounds both round trips field by field (`Rect.Near`) whenever the result
is finite, and `Fit.toItem_toViewport_not_beq` is a round trip that does not return its box. A
finite result has finite operands at every step (`Float.isFinite_of_add` and its siblings), so
nothing is assumed of the fitted rectangle or the box. Each bound chains the error of every
rounding: a relative `2^-53`, exact sums and differences apart, and an absolute `2^-1075`.
-/

namespace Framing

open Binary64

/-- Each field of `a` lies within `2^-50` of the magnitude of the field of `b`, plus `ox` or `oy`
on the positions, and within a further `e`, of that field. -/
structure Rect.Near (a b : Rect) (ox oy e : ℚ) : Prop where
  x : |toRat a.x - toRat b.x| ≤ (|toRat b.x| + ox) / 2 ^ 50 + e
  y : |toRat a.y - toRat b.y| ≤ (|toRat b.y| + oy) / 2 ^ 50 + e
  width : |toRat a.width - toRat b.width| ≤ |toRat b.width| / 2 ^ 50 + e
  height : |toRat a.height - toRat b.height| ≤ |toRat b.height| / 2 ^ 50 + e

/-! ## Chains of roundings -/

/-- Scaling by `s`, shifting by `o`, shifting back and dividing by `s`, each step rounded,
returns `x` within `2^-50` of `|x| + |o| / |s|` and `2^-1074` of `1 + 1 / |s|`. The shift costs
the low bits of `x * s` against `o`, and an underflow of the product grows by `1 / |s|` on the
way back. -/
theorem abs_sub_le_of_scale_shift {x o s p t d R : ℚ} (hs : s ≠ 0)
    (hp : |p - x * s| ≤ |x * s| / 2 ^ 53 + 2 ^ (-1075 : ℤ))
    (ht : |t - (o + p)| ≤ |o + p| / 2 ^ 53)
    (hd : |d - (t - o)| ≤ |t - o| / 2 ^ 53)
    (hR : |R - d / s| ≤ |d / s| / 2 ^ 53 + 2 ^ (-1075 : ℤ)) :
    |R - x| ≤ (|x| + |o| / |s|) / 2 ^ 50 + 2 ^ (-1074 : ℤ) * (1 + 1 / |s|) := by
  have hS : 0 < |s| := abs_pos.2 hs
  rw [two_zpow_neg_1074_eq_two_mul]
  have hη0 : (0 : ℚ) ≤ 2 ^ (-1075 : ℤ) := by positivity
  -- the half step becomes a name, which `linarith` takes as an atom and never evaluates
  generalize (2 : ℚ) ^ (-1075 : ℤ) = η at hp hR hη0 ⊢
  rw [abs_mul] at hp
  -- the error of the shifted difference against the exact product, through the three roundings
  have hP : |p| ≤ |x| * |s| + |x| * |s| / 2 ^ 53 + η := by
    linarith [abs_sub_abs_le_abs_sub p (x * s), abs_mul x s]
  have hto : |t - o| ≤ |t - (o + p)| + |p| :=
    calc |t - o| = |(t - (o + p)) + p| := by ring_nf
      _ ≤ |t - (o + p)| + |p| := abs_add_le _ _
  have hE : |d - x * s| ≤ |d - (t - o)| + |t - (o + p)| + |p - x * s| :=
    calc |d - x * s| = |(d - (t - o)) + (t - (o + p)) + (p - x * s)| := by ring_nf
      _ ≤ |d - (t - o)| + |t - (o + p)| + |p - x * s| := abs_add_three _ _ _
  have hop := abs_add_le o p
  have hE' : |d - x * s| ≤ |o| / 2 ^ 52 + |x| * |s| / 2 ^ 51 + η * (1 + 1 / 2 ^ 51) := by
    linarith [abs_nonneg o, mul_nonneg (abs_nonneg x) hS.le]
  -- divided by the scale
  have hA : |d / s - x| ≤ |o| / |s| / 2 ^ 52 + |x| / 2 ^ 51 + η / |s| * (1 + 1 / 2 ^ 51) := by
    have heq : d / s - x = (d - x * s) / s := by field_simp
    rw [heq, abs_div]
    calc |d - x * s| / |s| ≤ (|o| / 2 ^ 52 + |x| * |s| / 2 ^ 51 + η * (1 + 1 / 2 ^ 51)) / |s| :=
          div_le_div_of_nonneg_right hE' hS.le
      _ = |o| / |s| / 2 ^ 52 + |x| / 2 ^ 51 + η / |s| * (1 + 1 / 2 ^ 51) := by field_simp
  have hds : |d / s| ≤ |x| + |d / s - x| := by linarith [abs_sub_abs_le_abs_sub (d / s) x]
  have hRx := abs_sub_le R (d / s) x
  have hos : 0 ≤ |o| / |s| := by positivity
  have hηs : 0 ≤ η / |s| := by positivity
  have hx0 := abs_nonneg x
  rw [show 2 * η * (1 + 1 / |s|) = 2 * η + 2 * (η / |s|) by ring]
  linarith

/-- Shifting by `-o`, dividing by `s`, scaling by `s` and shifting by `o`, each step rounded,
returns `x` within `2^-50` of `|x| + |o|` and `2^-1074` of `1 + |s|`. -/
theorem abs_sub_le_of_shift_scale {x o s d q p R : ℚ} (hs : s ≠ 0)
    (hd : |d - (x - o)| ≤ |x - o| / 2 ^ 53)
    (hq : |q - d / s| ≤ |d / s| / 2 ^ 53 + 2 ^ (-1075 : ℤ))
    (hp : |p - q * s| ≤ |q * s| / 2 ^ 53 + 2 ^ (-1075 : ℤ))
    (hR : |R - (o + p)| ≤ |o + p| / 2 ^ 53) :
    |R - x| ≤ (|x| + |o|) / 2 ^ 50 + 2 ^ (-1074 : ℤ) * (1 + |s|) := by
  have hS : 0 < |s| := abs_pos.2 hs
  rw [two_zpow_neg_1074_eq_two_mul]
  have hη0 : (0 : ℚ) ≤ 2 ^ (-1075 : ℤ) := by positivity
  -- the half step becomes a name, which `linarith` takes as an atom and never evaluates
  generalize (2 : ℚ) ^ (-1075 : ℤ) = η at hq hp hη0 ⊢
  -- the shifted value, before and after the division and the product
  have hD : |d| ≤ (|x| + |o|) * (1 + 1 / 2 ^ 53) := by
    linarith [abs_sub_abs_le_abs_sub d (x - o), abs_sub x o]
  have hqs : |q * s - d| ≤ |d| / 2 ^ 53 + η * |s| := by
    have heq : q * s - d = (q - d / s) * s := by field_simp
    rw [heq, abs_mul]
    calc |q - d / s| * |s| ≤ (|d / s| / 2 ^ 53 + η) * |s| := mul_le_mul_of_nonneg_right hq hS.le
      _ = |d| / 2 ^ 53 + η * |s| := by rw [abs_div]; field_simp
  have hQ : |q * s| ≤ |d| + |d| / 2 ^ 53 + η * |s| := by
    linarith [abs_sub_abs_le_abs_sub (q * s) d]
  have hpd : |p - d| ≤ |p - q * s| + |q * s - d| := abs_sub_le p (q * s) d
  have hsum : |o + p - x| ≤ |p - d| + |d - (x - o)| :=
    calc |o + p - x| = |(p - d) + (d - (x - o))| := by ring_nf
      _ ≤ |p - d| + |d - (x - o)| := abs_add_le _ _
  have hxo := abs_sub x o
  have hop : |o + p| ≤ |x| + |o + p - x| := by linarith [abs_sub_abs_le_abs_sub (o + p) x]
  have hRx : |R - x| ≤ |R - (o + p)| + |o + p - x| :=
    calc |R - x| = |(R - (o + p)) + (o + p - x)| := by ring_nf
      _ ≤ |R - (o + p)| + |o + p - x| := abs_add_le _ _
  have hηs : 0 ≤ η * |s| := by positivity
  have hx0 := abs_nonneg x
  have ho0 := abs_nonneg o
  linarith

/-! ## One field there and back

A size has no shift: its round trips are those of a position at offset zero, where the shifts
are exact. -/

section Field

variable {o x s : Float}

theorem abs_toRat_scale_shift_sub_le (hs : s.isFinite = true) (hs0 : toRat s ≠ 0)
    (h : ((o + x * s - o) / s).isFinite = true) :
    |toRat ((o + x * s - o) / s) - toRat x| ≤
      (|toRat x| + |toRat o| / |toRat s|) / 2 ^ 50 + 2 ^ (-1074 : ℤ) * (1 + 1 / |toRat s|) := by
  -- a finite result has finite operands all the way down
  have hd := Float.isFinite_of_div h
  obtain ⟨ht, ho⟩ := Float.isFinite_of_sub hd
  obtain ⟨-, hp⟩ := Float.isFinite_of_add ht
  obtain ⟨hx, -⟩ := Float.isFinite_of_mul hp
  exact abs_sub_le_of_scale_shift hs0 (abs_toRat_sub_le (Float.roundsTo_mul hx hs) hp)
    (abs_toRat_sub_le_of_add (Float.roundsTo_add ho hp) ht)
    (abs_toRat_sub_le_of_sub (Float.roundsTo_sub ht ho) hd)
    (abs_toRat_sub_le (Float.roundsTo_div hd hs hs0) h)

theorem abs_toRat_scale_sub_le (hs : s.isFinite = true) (hs0 : toRat s ≠ 0)
    (h : (x * s / s).isFinite = true) :
    |toRat (x * s / s) - toRat x| ≤
      |toRat x| / 2 ^ 50 + 2 ^ (-1074 : ℤ) * (1 + 1 / |toRat s|) := by
  have hp := Float.isFinite_of_div h
  obtain ⟨hx, -⟩ := Float.isFinite_of_mul hp
  have hbound := @abs_sub_le_of_scale_shift (toRat x) 0 (toRat s) (toRat (x * s)) (toRat (x * s))
    (toRat (x * s)) (toRat (x * s / s)) hs0 (abs_toRat_sub_le (Float.roundsTo_mul hx hs) hp)
    (by rw [zero_add, sub_self, abs_zero]; positivity)
    (by rw [sub_zero, sub_self, abs_zero]; positivity)
    (abs_toRat_sub_le (Float.roundsTo_div hp hs hs0) h)
  simpa using hbound

theorem abs_toRat_shift_scale_sub_le (hs : s.isFinite = true) (hs0 : toRat s ≠ 0)
    (h : (o + (x - o) / s * s).isFinite = true) :
    |toRat (o + (x - o) / s * s) - toRat x| ≤
      (|toRat x| + |toRat o|) / 2 ^ 50 + 2 ^ (-1074 : ℤ) * (1 + |toRat s|) := by
  obtain ⟨ho, hp⟩ := Float.isFinite_of_add h
  obtain ⟨hq, -⟩ := Float.isFinite_of_mul hp
  have hd := Float.isFinite_of_div hq
  obtain ⟨hx, -⟩ := Float.isFinite_of_sub hd
  exact abs_sub_le_of_shift_scale hs0 (abs_toRat_sub_le_of_sub (Float.roundsTo_sub hx ho) hd)
    (abs_toRat_sub_le (Float.roundsTo_div hd hs hs0) hq)
    (abs_toRat_sub_le (Float.roundsTo_mul hq hs) hp)
    (abs_toRat_sub_le_of_add (Float.roundsTo_add ho hp) h)

theorem abs_toRat_unscale_sub_le (hs : s.isFinite = true) (hs0 : toRat s ≠ 0)
    (h : (x / s * s).isFinite = true) :
    |toRat (x / s * s) - toRat x| ≤ |toRat x| / 2 ^ 50 + 2 ^ (-1074 : ℤ) * (1 + |toRat s|) := by
  obtain ⟨hq, -⟩ := Float.isFinite_of_mul h
  have hx := Float.isFinite_of_div hq
  have hbound := @abs_sub_le_of_shift_scale (toRat x) 0 (toRat s) (toRat x) (toRat (x / s))
    (toRat (x / s * s)) (toRat (x / s * s)) hs0
    (by rw [sub_zero, sub_self, abs_zero]; positivity)
    (abs_toRat_sub_le (Float.roundsTo_div hx hs hs0) hq)
    (abs_toRat_sub_le (Float.roundsTo_mul hq hs) h)
    (by rw [zero_add, sub_self, abs_zero]; positivity)
  simpa using hbound

end Field

/-! ## Round trips of a rectangle -/

namespace Fit

variable {f : Fit} {r : Rect}

theorem toItem_toViewport_near (hs : f.scale.isFinite = true) (hs0 : toRat f.scale ≠ 0)
    (h : (f.toItem (f.toViewport r)).Finite) :
    (f.toItem (f.toViewport r)).Near r (|toRat f.rect.x| / |toRat f.scale|)
      (|toRat f.rect.y| / |toRat f.scale|) (2 ^ (-1074 : ℤ) * (1 + 1 / |toRat f.scale|)) :=
  ⟨abs_toRat_scale_shift_sub_le hs hs0 h.x, abs_toRat_scale_shift_sub_le hs hs0 h.y,
    abs_toRat_scale_sub_le hs hs0 h.width, abs_toRat_scale_sub_le hs hs0 h.height⟩

theorem toViewport_toItem_near (hs : f.scale.isFinite = true) (hs0 : toRat f.scale ≠ 0)
    (h : (f.toViewport (f.toItem r)).Finite) :
    (f.toViewport (f.toItem r)).Near r |toRat f.rect.x| |toRat f.rect.y|
      (2 ^ (-1074 : ℤ) * (1 + |toRat f.scale|)) :=
  ⟨abs_toRat_shift_scale_sub_le hs hs0 h.x, abs_toRat_shift_scale_sub_le hs hs0 h.y,
    abs_toRat_unscale_sub_le hs hs0 h.width, abs_toRat_unscale_sub_le hs hs0 h.height⟩

/-- At a finite nonzero scale, each round trip between item and viewport that ends in finite
fields returns the rectangle up to rounding: within `2^-50` of each field's magnitude, plus the
fitted corner's offset measured in the coordinates the trip starts from, and within `2^-1074`
times the factor by which the way back magnifies an underflow. -/
theorem round_trips_near (hs : f.scale.isFinite = true) (hs0 : toRat f.scale ≠ 0) :
    ((f.toItem (f.toViewport r)).Finite →
      (f.toItem (f.toViewport r)).Near r (|toRat f.rect.x| / |toRat f.scale|)
        (|toRat f.rect.y| / |toRat f.scale|) (2 ^ (-1074 : ℤ) * (1 + 1 / |toRat f.scale|))) ∧
    ((f.toViewport (f.toItem r)).Finite →
      (f.toViewport (f.toItem r)).Near r |toRat f.rect.x| |toRat f.rect.y|
        (2 ^ (-1074 : ℤ) * (1 + |toRat f.scale|))) :=
  ⟨toItem_toViewport_near hs hs0, toViewport_toItem_near hs hs0⟩

/-- The round trips of a tenth at scale three, both within the bounds. -/
theorem round_trips_near_tenth :
    let f : Fit := ⟨⟨0, 0, 1, 1⟩, 3⟩
    let r : Rect := ⟨0.1, 0, 1, 1⟩
    ((f.toItem (f.toViewport r)).Finite →
      (f.toItem (f.toViewport r)).Near r (|toRat f.rect.x| / |toRat f.scale|)
        (|toRat f.rect.y| / |toRat f.scale|) (2 ^ (-1074 : ℤ) * (1 + 1 / |toRat f.scale|))) ∧
    ((f.toViewport (f.toItem r)).Finite →
      (f.toViewport (f.toItem r)).Near r |toRat f.rect.x| |toRat f.rect.y|
        (2 ^ (-1074 : ℤ) * (1 + |toRat f.scale|))) :=
  round_trips_near rfl (by decide +kernel)

/-- A round trip need not return its rectangle: a tenth scaled by three is
`0.30000000000000004`, which divided by three is `0.10000000000000002`. -/
theorem toItem_toViewport_not_beq :
    (Fit.toItem ⟨⟨0, 0, 1, 1⟩, 3⟩ (Fit.toViewport ⟨⟨0, 0, 1, 1⟩, 3⟩ ⟨0.1, 0, 1, 1⟩) ==
      ⟨0.1, 0, 1, 1⟩) = false := by
  decide +kernel

end Fit

end Framing
