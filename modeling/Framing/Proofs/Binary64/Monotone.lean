import Framing.Proofs.Binary64.Order
import Framing.Proofs.Binary64.Integral

/-!
# Monotone arithmetic

Rounding to nearest is monotone, and a result that overflows becomes the infinity on the side
of its exact value, which lies past every finite float on that side. So of two rounded results
the one of larger exact value is at least the other in IEEE order (`RoundsTo.le_of_le`): the
infinities sit at the two ends of the order, and an overflow on the wrong side cannot happen.

From it, multiplying by a finite float of fixed sign keeps or reverses the order of finite
factors, and adding a finite float keeps the order of any two floats other than NaN, infinities
included: a finite float plus an infinity is that infinity. Rounding to the nearest unsigned
integer is monotone too, so a whole side computed through both stays in order.
-/

namespace Framing.Binary64

open Float.Model Float.Model.UnpackedFloat

/-! ## The ends of the order -/

section Ends

variable {x y : Float}

/-- The negative infinity is at or below every float but NaN. -/
theorem Float.le_of_unpack_infinity_negative (hx : x.toModel.unpack = .infinity .negative)
    (hy : y.isNaN = false) : x ≤ y := by
  rw [Float.le_iff_compare, hx]
  rw [Float.isNaN_eq] at hy
  cases hv : y.toModel.unpack with
  | notANumber => simp [hv, UnpackedFloat.isNaN] at hy
  | infinity s => cases s <;> rfl
  | zero => rfl
  | finite => rfl

/-- The positive infinity is at or above every float but NaN. -/
theorem Float.le_of_unpack_infinity_positive (hy : y.toModel.unpack = .infinity .positive)
    (hx : x.isNaN = false) : x ≤ y := by
  rw [Float.le_iff_compare, hy]
  rw [Float.isNaN_eq] at hx
  cases hu : x.toModel.unpack with
  | notANumber => simp [hu, UnpackedFloat.isNaN] at hx
  | infinity s => cases s <;> rfl
  | zero => rfl
  | finite s => cases s <;> rfl

/-- Only the positive infinity is at or above it. -/
theorem Float.unpack_eq_infinity_positive_of_le (hx : x.toModel.unpack = .infinity .positive)
    (h : x ≤ y) : y.toModel.unpack = .infinity .positive := by
  rw [Float.le_iff_compare, hx] at h
  cases hv : y.toModel.unpack with
  | infinity s =>
    cases s with
    | positive => rfl
    | negative => rw [hv] at h; exact absurd h (by decide)
  | _ => simp_all [UnpackedFloat.compare]

end Ends

/-! ## Rounded results in order -/

section Rounded

variable {x y : Float} {q q' : ℚ}

/-- A rounded result that stays finite has a value above `-2^1024`, so a result of larger exact
value cannot overflow downward. -/
theorem RoundsTo.unpack_eq_infinity_positive (hy : RoundsTo y.toModel.unpack q')
    (hlt : ¬ |roundNearest q'| < 2 ^ 1024) (hq : |roundNearest q| < 2 ^ 1024) (h : q ≤ q') :
    y.toModel.unpack = .infinity .positive := by
  have hinf := hy.of_le_abs (not_lt.1 hlt)
  have hq' : ¬ q' < 0 := by
    intro hneg
    rw [if_pos hneg] at hinf
    have hdown := hy.nonpos_of_infinity_negative hinf hlt
    have hmono := roundNearest_mono h
    have hbelow := (abs_lt.1 hq).1
    generalize (2 : ℚ) ^ 1024 = M at hdown hbelow
    linarith
  rwa [if_neg hq'] at hinf

/-- Of two rounded results, the one of larger exact value is at least the other. -/
theorem RoundsTo.le_of_le (hx : RoundsTo x.toModel.unpack q) (hy : RoundsTo y.toModel.unpack q')
    (h : q ≤ q') : x ≤ y := by
  by_cases hxf : |roundNearest q| < 2 ^ 1024
  · obtain ⟨hxfin, hxv⟩ := hx.of_abs_lt hxf
    by_cases hyf : |roundNearest q'| < 2 ^ 1024
    · -- both finite: their values are the two roundings, in order
      obtain ⟨hyfin, hyv⟩ := hy.of_abs_lt hyf
      rw [Float.le_iff hxfin hyfin, toRat, toRat, hxv, hyv]
      exact roundNearest_mono h
    · exact Float.le_of_unpack_infinity_positive (hy.unpack_eq_infinity_positive hyf hxf h)
        (Float.isNaN_eq_false_of_isFinite hxfin)
  · -- `x` overflowed: downward it is the least float, upward so did `y`
    have hinf := hx.of_le_abs (not_lt.1 hxf)
    by_cases hq : q < 0
    · rw [if_pos hq] at hinf
      exact Float.le_of_unpack_infinity_negative hinf hy.isNaN_eq_false
    · rw [if_neg hq] at hinf
      have hxr := hx.nonneg_of_infinity_positive hinf hxf
      have hyr : 2 ^ 1024 ≤ |roundNearest q'| :=
        hxr.trans ((roundNearest_mono h).trans (le_abs_self _))
      have hyinf := hy.of_le_abs hyr
      rw [if_neg (fun hq' => hq (h.trans_lt hq'))] at hyinf
      exact Float.le_of_unpack_infinity_positive hyinf hx.isNaN_eq_false

end Rounded

/-! ## Sums and products -/

section Operations

variable {a p p' f₁ f₂ d : Float}

/-- A finite float plus an infinity is that infinity. -/
theorem Float.unpack_add_infinity {s : Sign} (ha : a.isFinite = true)
    (hp : p.toModel.unpack = .infinity s) : (a + p).toModel.unpack = .infinity s := by
  show unpack .binary64 (pack .binary64 (UnpackedFloat.add .binary64 _ _)) = _
  rw [Float.isFinite_eq] at ha
  rw [hp]
  cases hu : a.toModel.unpack with
  | notANumber => simp [hu, UnpackedFloat.isFinite] at ha
  | infinity => simp [hu, UnpackedFloat.isFinite] at ha
  | zero => simp [UnpackedFloat.add, unpack_pack_infinity]
  | finite => simp [UnpackedFloat.add, unpack_pack_infinity]

/-- A finite float plus a float other than NaN is not NaN. -/
theorem Float.isNaN_add (ha : a.isFinite = true) (hp : p.isNaN = false) :
    (a + p).isNaN = false := by
  by_cases hpf : p.isFinite = true
  · exact (Float.roundsTo_add ha hpf).isNaN_eq_false
  · -- an infinity, which the sum keeps
    rw [Float.isNaN_eq] at hp ⊢
    rw [Float.isFinite_eq] at hpf
    cases hv : p.toModel.unpack with
    | notANumber => simp [hv, UnpackedFloat.isNaN] at hp
    | infinity s => rw [Float.unpack_add_infinity ha hv]; rfl
    | zero => simp [hv, UnpackedFloat.isFinite] at hpf
    | finite => simp [hv, UnpackedFloat.isFinite] at hpf

/-- Adding a finite float keeps the order of two floats, infinities included. -/
theorem Float.add_le_add_left (ha : a.isFinite = true) (h : p ≤ p') : a + p ≤ a + p' := by
  obtain ⟨hpn, hp'n⟩ := Float.isNaN_eq_false_of_le h
  by_cases hpf : p.isFinite = true
  · rcases (Float.le_iff_of_isFinite_left hpf).1 h with hinf | ⟨hp'f, hle⟩
    · -- `p'` is the positive infinity, and so is the sum
      exact Float.le_of_unpack_infinity_positive (Float.unpack_add_infinity ha hinf)
        (Float.isNaN_add ha hpn)
    · exact (Float.roundsTo_add ha hpf).le_of_le (Float.roundsTo_add ha hp'f) (by linarith)
  · -- `p` is an infinity: the negative one is below every sum, the positive one forces `p'`
    rw [Float.isNaN_eq] at hpn
    rw [Float.isFinite_eq] at hpf
    cases hv : p.toModel.unpack with
    | notANumber => simp [hv, UnpackedFloat.isNaN] at hpn
    | zero => simp [hv, UnpackedFloat.isFinite] at hpf
    | finite => simp [hv, UnpackedFloat.isFinite] at hpf
    | infinity s =>
      cases s with
      | negative =>
        exact Float.le_of_unpack_infinity_negative (Float.unpack_add_infinity ha hv)
          (Float.isNaN_add ha hp'n)
      | positive =>
        have hv' := Float.unpack_eq_infinity_positive_of_le hv h
        exact Float.le_of_unpack_infinity_positive (Float.unpack_add_infinity ha hv')
          (Float.isNaN_add ha hpn)

/-- Multiplying finite factors by a finite float of nonnegative value keeps their order. -/
theorem Float.mul_le_mul_of_toRat_nonneg (hf₁ : f₁.isFinite = true) (hf₂ : f₂.isFinite = true)
    (hd : d.isFinite = true) (hd0 : 0 ≤ toRat d) (h : f₁ ≤ f₂) : f₁ * d ≤ f₂ * d :=
  (Float.roundsTo_mul hf₁ hd).le_of_le (Float.roundsTo_mul hf₂ hd)
    (mul_le_mul_of_nonneg_right ((Float.le_iff hf₁ hf₂).1 h) hd0)

/-- Multiplying finite factors by a finite float of nonpositive value reverses their order. -/
theorem Float.mul_le_mul_of_toRat_nonpos (hf₁ : f₁.isFinite = true) (hf₂ : f₂.isFinite = true)
    (hd : d.isFinite = true) (hd0 : toRat d ≤ 0) (h : f₁ ≤ f₂) : f₂ * d ≤ f₁ * d :=
  (Float.roundsTo_mul hf₂ hd).le_of_le (Float.roundsTo_mul hf₁ hd)
    (mul_le_mul_of_nonpos_right ((Float.le_iff hf₁ hf₂).1 h) hd0)

end Operations

/-! ## Rounding to a whole number -/

/-- Rounding halves away from zero is monotone. -/
theorem roundHalfAway_mono {q q' : ℚ} (h : q ≤ q') : roundHalfAway q ≤ roundHalfAway q' := by
  unfold roundHalfAway
  split_ifs with hq hq'
  · -- both negative: the magnitudes are in the other order
    exact neg_le_neg (Int.floor_le_floor (by linarith))
  · -- a negative value rounds to at most zero, a nonnegative one to at least zero
    have h₁ : 0 ≤ ⌊-q + 1 / 2⌋ := Int.floor_nonneg.2 (by linarith)
    have h₂ : 0 ≤ ⌊q' + 1 / 2⌋ := Int.floor_nonneg.2 (by linarith)
    omega
  · exact absurd (lt_of_le_of_lt h ‹q' < 0›) ‹¬ q < 0›
  · exact Int.floor_le_floor (by linarith)

/-- Of two finite floats, the larger rounds to at least the unsigned integer of the other. -/
theorem toNat_roundUInt32_mono {x y : Float} (hx : x.isFinite = true) (hy : y.isFinite = true)
    (h : toRat x ≤ toRat y) : (Float.roundUInt32 x).toNat ≤ (Float.roundUInt32 y).toNat := by
  rw [toNat_roundUInt32_of_isFinite hx, toNat_roundUInt32_of_isFinite hy]
  exact Int.toNat_le_toNat (saturate_mono (roundHalfAway_mono h))

end Framing.Binary64
