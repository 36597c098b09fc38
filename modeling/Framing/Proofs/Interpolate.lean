import Framing.Proofs.Relative

/-!
# The ends of an interpolation

`Rect.interpolate start stop factor` moves each field as `start + factor * (stop - start)`. At
the factor `0` the product is a zero whenever the difference is finite, and adding it gives the
start back (`interpolate_endpoints`). At the factor `1` the product is the difference itself, and
the sum lands on the stop exactly when nothing was lost in the difference: the sum of the start
and the exact difference is the stop, a float already. By Sterbenz's lemma nothing is lost when
each field of the stop has the sign of the start's and lies within a factor two of it
(`interpolate_one_of_withinFactorTwo`).

Neither end holds in general. A difference that rounds misses the stop: from `1` to `0.1` the
difference is `-0.9` rounded, and `1` plus it is `0.09999999999999998`. A difference that
overflows misses the start as well, since zero times an infinity is NaN
(`interpolate_misses_endpoints`).
-/

namespace Framing

open Binary64

/-! ## One field -/

section Field

variable {a b : Float}

/-- With a finite difference, the point at factor `0` has the value of the start. -/
theorem interpolate_zero_field (ha : a.isFinite = true) (hd : (b - a).isFinite = true) :
    (a + 0 * (b - a)).isFinite = true ∧ toRat (a + 0 * (b - a)) = toRat a := by
  -- zero times a finite difference is a zero
  have hz := Float.roundsTo_mul Float.isFinite_zero hd
  rw [toRat_zero, zero_mul, ← toRat_zero] at hz
  obtain ⟨hzf, hzv⟩ := hz.of_eq_toRat
  have hs := Float.roundsTo_add ha hzf
  rw [hzv, toRat_zero, add_zero] at hs
  exact hs.of_eq_toRat

/-- With a difference computed exactly, the point at factor `1` has the value of the stop. -/
theorem interpolate_one_field (ha : a.isFinite = true) (hb : b.isFinite = true)
    (hexact : toRat (b - a) = toRat b - toRat a) :
    (a + 1 * (b - a)).isFinite = true ∧ toRat (a + 1 * (b - a)) = toRat b := by
  -- an exact difference is finite, and one times it is itself
  have hd := Float.roundsTo_sub hb ha
  rw [← hexact] at hd
  obtain ⟨hdf, -⟩ := hd.of_eq_toRat
  have hw := Float.roundsTo_mul Float.isFinite_one hdf
  rw [toRat_one, one_mul] at hw
  obtain ⟨hwf, hwv⟩ := hw.of_eq_toRat
  -- the start plus the exact difference is the stop
  have hs := Float.roundsTo_add ha hwf
  rw [hwv, hexact, add_sub_cancel] at hs
  exact hs.of_eq_toRat

end Field

/-! ## The rectangle -/

/-- The four differences `stop.f - start.f`, taken in binary64, are finite. -/
structure Rect.GapsFinite (start stop : Rect) : Prop where
  x : (stop.x - start.x).isFinite = true
  y : (stop.y - start.y).isFinite = true
  width : (stop.width - start.width).isFinite = true
  height : (stop.height - start.height).isFinite = true

/-- The four differences `stop.f - start.f` are computed exactly: each float holds the exact
difference of the two values. -/
structure Rect.GapsExact (start stop : Rect) : Prop where
  x : toRat (stop.x - start.x) = toRat stop.x - toRat start.x
  y : toRat (stop.y - start.y) = toRat stop.y - toRat start.y
  width : toRat (stop.width - start.width) = toRat stop.width - toRat start.width
  height : toRat (stop.height - start.height) = toRat stop.height - toRat start.height

/-- Matching fields of one sign, each within a factor two of the other: no difference is
larger than either of its fields. -/
structure Rect.WithinFactorTwo (start stop : Rect) : Prop where
  x : |toRat stop.x - toRat start.x| ≤ min |toRat stop.x| |toRat start.x|
  y : |toRat stop.y - toRat start.y| ≤ min |toRat stop.y| |toRat start.y|
  width : |toRat stop.width - toRat start.width| ≤ min |toRat stop.width| |toRat start.width|
  height : |toRat stop.height - toRat start.height| ≤ min |toRat stop.height| |toRat start.height|

/-- Fields within a factor two of each other have exact differences. -/
theorem Rect.WithinFactorTwo.gapsExact {start stop : Rect} (hs : start.Finite) (he : stop.Finite)
    (h : start.WithinFactorTwo stop) : start.GapsExact stop :=
  ⟨(Float.toRat_sub_of_abs_sub_le he.x hs.x h.x).2, (Float.toRat_sub_of_abs_sub_le he.y hs.y h.y).2,
    (Float.toRat_sub_of_abs_sub_le he.width hs.width h.width).2,
    (Float.toRat_sub_of_abs_sub_le he.height hs.height h.height).2⟩

/-- Finite rectangles are equal field by field exactly when their fields have the same
values. -/
theorem Rect.beq_eq_true_iff {a b : Rect} (ha : a.Finite) (hb : b.Finite) :
    (a == b) = true ↔ toRat a.x = toRat b.x ∧ toRat a.y = toRat b.y ∧
      toRat a.width = toRat b.width ∧ toRat a.height = toRat b.height := by
  simp only [BEq.beq, Rect.beq, Bool.and_eq_true]
  rw [← Float.beq_iff ha.x hb.x, ← Float.beq_iff ha.y hb.y, ← Float.beq_iff ha.width hb.width,
    ← Float.beq_iff ha.height hb.height]
  simp only [BEq.beq, and_assoc]

section Ends

variable {start stop : Rect}

/-- With no difference overflowing, the factor `0` gives the start. -/
theorem interpolate_zero_beq (hs : start.Finite) (hg : start.GapsFinite stop) :
    (start.interpolate stop 0 == start) = true := by
  obtain ⟨hxf, hx⟩ := interpolate_zero_field hs.x hg.x
  obtain ⟨hyf, hy⟩ := interpolate_zero_field hs.y hg.y
  obtain ⟨hwf, hw⟩ := interpolate_zero_field hs.width hg.width
  obtain ⟨hhf, hh⟩ := interpolate_zero_field hs.height hg.height
  exact (Rect.beq_eq_true_iff (a := start.interpolate stop 0) ⟨hxf, hyf, hwf, hhf⟩ hs).2
    ⟨hx, hy, hw, hh⟩

/-- With every difference exact, the factor `1` gives the stop. -/
theorem interpolate_one_beq (hs : start.Finite) (he : stop.Finite) (hg : start.GapsExact stop) :
    (start.interpolate stop 1 == stop) = true := by
  obtain ⟨hxf, hx⟩ := interpolate_one_field hs.x he.x hg.x
  obtain ⟨hyf, hy⟩ := interpolate_one_field hs.y he.y hg.y
  obtain ⟨hwf, hw⟩ := interpolate_one_field hs.width he.width hg.width
  obtain ⟨hhf, hh⟩ := interpolate_one_field hs.height he.height hg.height
  exact (Rect.beq_eq_true_iff (a := start.interpolate stop 1) ⟨hxf, hyf, hwf, hhf⟩ he).2
    ⟨hx, hy, hw, hh⟩

/-- Between finite rectangles, the factor `0` gives the start when no difference overflows, and
the factor `1` gives the stop when every difference is exact. -/
theorem interpolate_endpoints (hs : start.Finite) (he : stop.Finite) :
    (start.GapsFinite stop → (start.interpolate stop 0 == start) = true) ∧
      (start.GapsExact stop → (start.interpolate stop 1 == stop) = true) :=
  ⟨interpolate_zero_beq hs, interpolate_one_beq hs he⟩

/-- Between finite rectangles whose matching fields lie within a factor two of each other, the
factor `1` gives the stop: by Sterbenz's lemma every difference is exact. -/
theorem interpolate_one_of_withinFactorTwo (hs : start.Finite) (he : stop.Finite)
    (h : start.WithinFactorTwo stop) : (start.interpolate stop 1 == stop) = true :=
  interpolate_one_beq hs he (h.gapsExact hs he)

end Ends

/-- The rectangles of the interpolation tests, whose differences are all exact. -/
theorem interpolate_endpoints_exact :
    (Rect.Finite ⟨-3.5, 2.25, 10, 7.5⟩ ∧ Rect.Finite ⟨12, -8, 0.5, 30⟩) ∧
      (Rect.GapsFinite ⟨-3.5, 2.25, 10, 7.5⟩ ⟨12, -8, 0.5, 30⟩ →
          (Rect.interpolate ⟨-3.5, 2.25, 10, 7.5⟩ ⟨12, -8, 0.5, 30⟩ 0 ==
            ⟨-3.5, 2.25, 10, 7.5⟩) = true) ∧
        (Rect.GapsExact ⟨-3.5, 2.25, 10, 7.5⟩ ⟨12, -8, 0.5, 30⟩ →
          (Rect.interpolate ⟨-3.5, 2.25, 10, 7.5⟩ ⟨12, -8, 0.5, 30⟩ 1 ==
            ⟨12, -8, 0.5, 30⟩) = true) := by
  have h : Rect.Finite ⟨-3.5, 2.25, 10, 7.5⟩ ∧ Rect.Finite ⟨12, -8, 0.5, 30⟩ :=
    ⟨⟨rfl, rfl, rfl, rfl⟩, ⟨rfl, rfl, rfl, rfl⟩⟩
  exact ⟨h, interpolate_endpoints h.1 h.2⟩

/-- From `1` to `0.1` the factor `1` gives `0.09999999999999998`, and across the whole range of
floats the factor `0` gives NaN. -/
theorem interpolate_misses_endpoints :
    (Rect.interpolate ⟨1, 0, 0, 0⟩ ⟨0.1, 0, 0, 0⟩ 1 == ⟨0.1, 0, 0, 0⟩) = false ∧
      (Rect.interpolate ⟨-1e308, 0, 0, 0⟩ ⟨1e308, 0, 0, 0⟩ 0 == ⟨-1e308, 0, 0, 0⟩) = false := by
  decide +kernel

end Framing
