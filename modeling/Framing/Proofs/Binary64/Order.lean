import Framing.Geometry
import Framing.Proofs.Binary64.Operations

/-!
# The order of floats other than NaN

IEEE comparison is a partial order only because of NaN. Two floats that are not NaN always
compare, and comparing them the other way round swaps the answer (`compare_swap`), so on them
"not below" means "at or above" (`Float.not_lt_iff_le`), and each one equals itself. A float at
or above another is not NaN, which is how a hypothesis `0 ≤ x` rules NaN out.

No NaN comes out of an operation that gets none and multiplies or divides by a finite nonzero
float: finite operands give a rounded result, an infinite one an infinity. Clamping a float
other than NaN into `[lo, hi]`, with `lo ≤ hi`, therefore lands in that range.
-/

namespace Framing.Binary64

open Float.Model Float.Model.UnpackedFloat

/-! ## Comparing decoded floats -/

/-- Comparing the other way round swaps the answer; NaN compares with nothing either way. -/
theorem UnpackedFloat.compare_swap (a b : UnpackedFloat) :
    b.compare a = (a.compare b).map Ordering.swap := by
  cases a with
  | notANumber => cases b <;> rfl
  | infinity s =>
    cases b with
    | notANumber => rfl
    | infinity t => cases s <;> cases t <;> rfl
    | zero t => cases s <;> rfl
    | finite t => cases s <;> cases t <;> rfl
  | zero s =>
    cases b with
    | notANumber => rfl
    | infinity t => cases t <;> rfl
    | zero t => rfl
    | finite t => cases t <;> rfl
  | finite s m e hm =>
    cases b with
    | notANumber => rfl
    | infinity t => cases t <;> rfl
    | zero t => cases s <;> rfl
    | finite t n f hn =>
      -- same signs compare exponents, then mantissas, each of which swaps
      cases s <;> cases t <;>
        simp [UnpackedFloat.compare, ← Int.compare_swap e f, ← Nat.compare_swap m n,
          Ordering.swap_then]

theorem UnpackedFloat.compare_self {a : UnpackedFloat} (ha : a.isNaN = false) :
    a.compare a = some .eq := by
  cases a with
  | notANumber => simp [UnpackedFloat.isNaN] at ha
  | infinity s => cases s <;> rfl
  | zero s => rfl
  | finite s m e hm => cases s <;> simp [UnpackedFloat.compare]

theorem UnpackedFloat.exists_compare_eq_some {a b : UnpackedFloat} (ha : a.isNaN = false)
    (hb : b.isNaN = false) : ∃ o, a.compare b = some o := by
  unfold UnpackedFloat.compare
  split <;> simp_all [UnpackedFloat.isNaN]

theorem Float.isNaN_eq (x : Float) : x.isNaN = x.toModel.unpack.isNaN := rfl

/-! ## Floats other than NaN -/

section Order

variable {a b : Float}

/-- Only floats other than NaN compare with `≤`. -/
theorem Float.isNaN_eq_false_of_le (h : a ≤ b) : a.isNaN = false ∧ b.isNaN = false := by
  rw [Float.le_iff_compare] at h
  rw [Float.isNaN_eq, Float.isNaN_eq]
  cases ha : a.toModel.unpack <;> cases hb : b.toModel.unpack <;>
    simp_all [UnpackedFloat.compare, UnpackedFloat.isNaN]

theorem Float.lt_irrefl (a : Float) : ¬ a < a := by
  rw [Float.lt_iff_compare]
  by_cases ha : a.isNaN = false
  · rw [UnpackedFloat.compare_self ha]
    simp
  · rw [Float.isNaN_eq, Bool.not_eq_false] at ha
    cases hu : a.toModel.unpack <;> simp_all [UnpackedFloat.isNaN, UnpackedFloat.compare]

/-- Two floats other than NaN are ordered one way or the other. -/
theorem Float.not_lt_iff_le (ha : a.isNaN = false) (hb : b.isNaN = false) :
    ¬ a < b ↔ b ≤ a := by
  rw [Float.lt_iff_compare, Float.le_iff_compare,
    UnpackedFloat.compare_swap a.toModel.unpack b.toModel.unpack]
  obtain ⟨o, ho⟩ := UnpackedFloat.exists_compare_eq_some ha hb
  rw [ho]
  cases o <;> simp

theorem Float.le_refl_of_isNaN_eq_false (ha : a.isNaN = false) : a ≤ a :=
  (Float.not_lt_iff_le ha ha).1 (Float.lt_irrefl a)

theorem Float.beq_self_of_isNaN_eq_false (ha : a.isNaN = false) : (a == a) = true := by
  change (a.toModel.unpack.compare a.toModel.unpack == some .eq) = true
  rw [UnpackedFloat.compare_self ha]
  rfl

/-- A float between two finite floats is finite. -/
theorem Float.isFinite_of_le_of_le {x : Float} (ha : a.isFinite = true) (hb : b.isFinite = true)
    (h₁ : a ≤ x) (h₂ : x ≤ b) : x.isFinite = true := by
  rcases (Float.le_iff_of_isFinite_left ha).1 h₁ with hinf | ⟨hx, -⟩
  · -- the positive infinity is above every finite float
    rw [Float.le_iff_compare, hinf] at h₂
    rw [Float.isFinite_eq] at hb
    cases hv : b.toModel.unpack <;> simp_all [UnpackedFloat.compare, UnpackedFloat.isFinite]
  · exact hx

/-- A finite float is at most a rounded result whose exact value it does not pass. -/
theorem le_of_roundsTo {x y : Float} {q : ℚ} (hx : x.isFinite = true)
    (hy : RoundsTo y.toModel.unpack q) (h : toRat x ≤ q) : x ≤ y := by
  have hr : toRat x ≤ roundNearest q := by
    simpa [roundNearest_toRat] using roundNearest_mono h
  by_cases hlt : |roundNearest q| < 2 ^ 1024
  · obtain ⟨hfin, hval⟩ := hy.of_abs_lt hlt
    rw [Float.le_iff hx hfin, show toRat y = roundNearest q from hval]
    exact hr
  · -- an overflow: upward, since the rounding is not below the value of `x`
    have hinf := hy.of_le_abs (not_lt.1 hlt)
    have hq : ¬ q < 0 := by
      intro hq
      have hneg := roundNearest_nonpos hq.le
      have hx' := (abs_lt.1 (abs_toRat_lt x)).1
      rw [abs_of_nonpos hneg] at hlt
      generalize (2 : ℚ) ^ 1024 = M at hlt hx'
      linarith
    rw [if_neg hq] at hinf
    exact (Float.le_iff_of_isFinite_left hx).2 (Or.inl hinf)

theorem Float.toRat_nonneg_of_le (ha : a.isFinite = true) (h : 0 ≤ a) : 0 ≤ toRat a := by
  simpa using (Float.le_iff Float.isFinite_zero ha).1 h

theorem Float.isNaN_eq_false_of_isFinite (ha : a.isFinite = true) : a.isNaN = false := by
  rw [Float.isFinite_eq] at ha
  rw [Float.isNaN_eq]
  cases hu : a.toModel.unpack <;> simp_all [UnpackedFloat.isFinite, UnpackedFloat.isNaN]

/-- A finite float other than zero decodes to a finite form. -/
theorem Float.exists_unpack_finite (ha : a.isFinite = true) (ha0 : toRat a ≠ 0) :
    ∃ s m e hm, a.toModel.unpack = .finite s m e hm := by
  rw [Float.isFinite_eq] at ha
  unfold toRat at ha0
  cases hu : a.toModel.unpack with
  | notANumber => simp [hu, UnpackedFloat.isFinite] at ha
  | infinity => simp [hu, UnpackedFloat.isFinite] at ha
  | zero => simp [hu, value] at ha0
  | finite s m e hm => exact ⟨s, m, e, hm, rfl⟩

theorem Float.toRat_ne_zero_of_beq (ha : a.isFinite = true) (h : (a == 0) = false) :
    toRat a ≠ 0 := by
  intro h0
  rw [← toRat_zero, ← Float.beq_iff ha Float.isFinite_zero] at h0
  rw [h0] at h
  cases h

end Order

/-! ## Operations that give no NaN -/

theorem RoundsTo.isNaN_eq_false {u : UnpackedFloat} {q : ℚ} (h : RoundsTo u q) :
    u.isNaN = false := by
  unfold RoundsTo at h
  split at h
  · cases u <;> simp_all [UnpackedFloat.isFinite, UnpackedFloat.isNaN]
  · rw [h]
    rfl

section Operations

variable {a b : Float}

/-- A finite nonzero float times any float but NaN is not NaN. -/
theorem Float.isNaN_mul (ha : a.isFinite = true) (ha0 : toRat a ≠ 0) (hb : b.isNaN = false) :
    (a * b).isNaN = false := by
  by_cases hbf : b.isFinite = true
  · exact (Float.roundsTo_mul ha hbf).isNaN_eq_false
  -- an infinity: a nonzero finite value times it is an infinity
  obtain ⟨s, m, e, hm, hu⟩ := Float.exists_unpack_finite ha ha0
  rw [Float.isNaN_eq] at hb
  rw [Float.isFinite_eq] at hbf
  show (unpack .binary64 (pack .binary64 (UnpackedFloat.mul .binary64 _ _))).isNaN = false
  rw [hu]
  cases hv : b.toModel.unpack with
  | notANumber => simp [hv, UnpackedFloat.isNaN] at hb
  | infinity t => simp [UnpackedFloat.mul, unpack_pack_infinity, UnpackedFloat.isNaN]
  | zero => simp [hv, UnpackedFloat.isFinite] at hbf
  | finite => simp [hv, UnpackedFloat.isFinite] at hbf

/-- Any float but NaN over a finite nonzero float is not NaN. -/
theorem Float.isNaN_div (ha : a.isNaN = false) (hb : b.isFinite = true) (hb0 : toRat b ≠ 0) :
    (a / b).isNaN = false := by
  by_cases haf : a.isFinite = true
  · exact (Float.roundsTo_div haf hb hb0).isNaN_eq_false
  -- an infinity over a nonzero finite value is an infinity
  obtain ⟨s, m, e, hm, hv⟩ := Float.exists_unpack_finite hb hb0
  rw [Float.isNaN_eq] at ha
  rw [Float.isFinite_eq] at haf
  show (unpack .binary64 (pack .binary64 (UnpackedFloat.div .binary64 _ _))).isNaN = false
  rw [hv]
  cases hu : a.toModel.unpack with
  | notANumber => simp [hu, UnpackedFloat.isNaN] at ha
  | infinity t => simp [UnpackedFloat.div, unpack_pack_infinity, UnpackedFloat.isNaN]
  | zero => simp [hu, UnpackedFloat.isFinite] at haf
  | finite => simp [hu, UnpackedFloat.isFinite] at haf

end Operations

/-! ## Clamping a float -/

section Clamp

variable {v lo hi : Float}

/-- A float other than NaN, clamped into a range whose ends are in order, lies in the range. -/
theorem clamp_mem (hv : v.isNaN = false) (h : lo ≤ hi) : lo ≤ clamp v lo hi ∧ clamp v lo hi ≤ hi := by
  obtain ⟨hlo, hhi⟩ := Float.isNaN_eq_false_of_le h
  unfold clamp
  split_ifs with h₁ h₂
  · exact ⟨Float.le_refl_of_isNaN_eq_false hlo, h⟩
  · exact ⟨h, Float.le_refl_of_isNaN_eq_false hhi⟩
  · exact ⟨(Float.not_lt_iff_le hv hlo).1 h₁, (Float.not_lt_iff_le hhi hv).1 h₂⟩

/-- The upper end, clamped into a range whose ends are in order, stays as it is. -/
theorem clamp_hi_eq (h : lo ≤ hi) : clamp hi lo hi = hi := by
  obtain ⟨hlo, hhi⟩ := Float.isNaN_eq_false_of_le h
  exact clamp_of_not_lt ((Float.not_lt_iff_le hhi hlo).2 h) (Float.lt_irrefl hi)

end Clamp

end Framing.Binary64
