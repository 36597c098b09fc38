import Framing.Proofs.Binary64.Rounding

/-!
# Float arithmetic as rounded rationals

A `Float` stands for the rational `toRat x` (NaN and the infinities for `0`). The sum,
difference, product and quotient of two finite floats is their exact result rounded to nearest
with ties to even (`RoundsTo`): finite while the rounding stays below `2^1024` in magnitude, the
infinity on its side beyond. Finite floats compare as their rationals do, and every 32-bit
unsigned integer converts exactly.
-/

namespace Framing.Binary64

open Float.Model Float.Model.UnpackedFloat

/-- The rational a float stands for; NaN and the infinities read as `0`. -/
def toRat (x : Float) : ℚ := value x.toModel.unpack

theorem canonical_toModel (x : Float) : Canonical x.toModel.unpack := canonical_unpack _

theorem Float.isFinite_eq (x : Float) : x.isFinite = x.toModel.unpack.isFinite := rfl

theorem roundNearest_toRat (x : Float) : roundNearest (toRat x) = toRat x :=
  roundNearest_value (canonical_toModel x)

theorem abs_toRat_lt (x : Float) : |toRat x| < 2 ^ 1024 := abs_value_lt (canonical_toModel x)

/-! ## Rounded results

`RoundsTo u q` splits on whether the rounding of `q` stays below `2^1024`. Any float whose value
bounds `q` settles the split, since rounding is monotone and fixes that value. -/

theorem RoundsTo.of_abs_lt {u : UnpackedFloat} {q : ℚ} (h : RoundsTo u q)
    (hq : |roundNearest q| < 2 ^ 1024) : u.isFinite = true ∧ value u = roundNearest q := by
  unfold RoundsTo at h
  rwa [if_pos hq] at h

/-- A result whose exact value is bounded by the value of some float is finite. -/
theorem RoundsTo.of_abs_le {u : UnpackedFloat} {q : ℚ} (h : RoundsTo u q) (y : Float)
    (hq : |q| ≤ |toRat y|) : u.isFinite = true ∧ value u = roundNearest q := by
  refine h.of_abs_lt ?_
  calc |roundNearest q| = roundNearest |q| := abs_roundNearest q
    _ ≤ roundNearest |toRat y| := roundNearest_mono hq
    _ = |toRat y| := by rw [← abs_roundNearest, roundNearest_toRat]
    _ < 2 ^ 1024 := abs_toRat_lt y

/-- A result whose exact value is already a float's value is finite and holds that value. -/
theorem RoundsTo.of_eq_toRat {x y : Float} (h : RoundsTo x.toModel.unpack (toRat y)) :
    x.isFinite = true ∧ toRat x = toRat y := by
  obtain ⟨hfin, hval⟩ := h.of_abs_le y le_rfl
  exact ⟨hfin, by rw [toRat, hval, roundNearest_toRat]⟩

/-- A result whose rounding reaches `2^1024` is the infinity on the side of its exact value. -/
theorem RoundsTo.of_le_abs {u : UnpackedFloat} {q : ℚ} (h : RoundsTo u q)
    (hq : 2 ^ 1024 ≤ |roundNearest q|) :
    u = .infinity (if q < 0 then .negative else .positive) := by
  unfold RoundsTo at h
  rwa [if_neg (not_lt.2 hq)] at h

/-! ## The four operations -/

section Operations

variable {a b : Float}

theorem Float.roundsTo_add (ha : a.isFinite = true) (hb : b.isFinite = true) :
    RoundsTo (a + b).toModel.unpack (toRat a + toRat b) :=
  Binary64.roundsTo_add (canonical_toModel a) (canonical_toModel b) ha hb

theorem Float.roundsTo_sub (ha : a.isFinite = true) (hb : b.isFinite = true) :
    RoundsTo (a - b).toModel.unpack (toRat a - toRat b) :=
  Binary64.roundsTo_sub (canonical_toModel a) (canonical_toModel b) ha hb

theorem Float.roundsTo_mul (ha : a.isFinite = true) (hb : b.isFinite = true) :
    RoundsTo (a * b).toModel.unpack (toRat a * toRat b) :=
  Binary64.roundsTo_mul (canonical_toModel a) (canonical_toModel b) ha hb

theorem Float.roundsTo_div (ha : a.isFinite = true) (hb : b.isFinite = true) (hb0 : toRat b ≠ 0) :
    RoundsTo (a / b).toModel.unpack (toRat a / toRat b) :=
  Binary64.roundsTo_div (canonical_toModel a) (canonical_toModel b) ha hb hb0

/-- An infinity times a finite float of nonzero value is an infinity, its sign the product of
the two signs. -/
theorem Float.unpack_infinity_mul {s : Sign} (ha : a.toModel.unpack = .infinity s)
    (hb : b.isFinite = true) (hb0 : toRat b ≠ 0) :
    (a * b).toModel.unpack = .infinity (if toRat b < 0 then -s else s) := by
  show unpack .binary64 (pack .binary64 (UnpackedFloat.mul .binary64 _ _)) = _
  unfold toRat at hb0 ⊢
  rw [Float.isFinite_eq] at hb
  rw [ha]
  cases hu : b.toModel.unpack with
  | notANumber => simp [hu, UnpackedFloat.isFinite] at hb
  | infinity => simp [hu, UnpackedFloat.isFinite] at hb
  | zero => simp [hu, value] at hb0
  | finite t m e hm =>
    have hpos : (0 : ℚ) < m * 2 ^ e := by positivity
    cases s <;> cases t <;>
      simp [UnpackedFloat.mul, unpack_pack_infinity, value, hpos, not_lt.2 hpos.le]

/-- An infinity times a float of value zero is NaN. -/
theorem Float.unpack_infinity_mul_zero {s : Sign} (ha : a.toModel.unpack = .infinity s)
    (hb : b.isFinite = true) (hb0 : toRat b = 0) : (a * b).toModel.unpack = .notANumber := by
  show unpack .binary64 (pack .binary64 (UnpackedFloat.mul .binary64 _ _)) = _
  unfold toRat at hb0
  rw [Float.isFinite_eq] at hb
  rw [ha]
  cases hu : b.toModel.unpack with
  | notANumber => simp [hu, UnpackedFloat.isFinite] at hb
  | infinity => simp [hu, UnpackedFloat.isFinite] at hb
  | zero => simp [UnpackedFloat.mul, unpack_pack_notANumber]
  | finite t m e hm =>
    have hpos : (0 : ℚ) < m * 2 ^ e := by positivity
    rw [hu] at hb0
    exact absurd hb0 (by
      cases t <;> simp only [value, signed_negative, signed_positive, neg_ne_zero] <;>
        exact hpos.ne')

theorem Float.unpack_notANumber_mul (ha : a.toModel.unpack = .notANumber) :
    (a * b).toModel.unpack = .notANumber := by
  show unpack .binary64 (pack .binary64 (UnpackedFloat.mul .binary64 _ _)) = _
  rw [ha]
  simp [UnpackedFloat.mul, unpack_pack_notANumber]

theorem Float.unpack_notANumber_div (ha : a.toModel.unpack = .notANumber) :
    (a / b).toModel.unpack = .notANumber := by
  show unpack .binary64 (pack .binary64 (UnpackedFloat.div .binary64 _ _)) = _
  rw [ha]
  simp [UnpackedFloat.div, unpack_pack_notANumber]

/-- An infinity over a finite float of nonzero value is an infinity, its sign the quotient of the
two signs. -/
theorem Float.unpack_infinity_div {s : Sign} (ha : a.toModel.unpack = .infinity s)
    (hb : b.isFinite = true) (hb0 : toRat b ≠ 0) :
    (a / b).toModel.unpack = .infinity (if toRat b < 0 then -s else s) := by
  show unpack .binary64 (pack .binary64 (UnpackedFloat.div .binary64 _ _)) = _
  unfold toRat at hb0 ⊢
  rw [Float.isFinite_eq] at hb
  rw [ha]
  cases hu : b.toModel.unpack with
  | notANumber => simp [hu, UnpackedFloat.isFinite] at hb
  | infinity => simp [hu, UnpackedFloat.isFinite] at hb
  | zero => simp [hu, value] at hb0
  | finite t m e hm =>
    have hpos : (0 : ℚ) < m * 2 ^ e := by positivity
    cases s <;> cases t <;>
      simp [UnpackedFloat.div, unpack_pack_infinity, value, hpos, not_lt.2 hpos.le]

end Operations

/-! ## Finite results

NaN in gives NaN out, and an infinity gives an infinity or NaN, whatever the other operand: a
finite sum, difference or product has finite operands, and a finite quotient a finite dividend
(a finite value over an infinity is zero). -/

theorem isFinite_of_unpack_pack {u : UnpackedFloat}
    (h : (unpack .binary64 (pack .binary64 u)).isFinite = true) : u.isFinite = true := by
  cases u with
  | notANumber => simp [unpack_pack_notANumber, UnpackedFloat.isFinite] at h
  | infinity s => simp [unpack_pack_infinity, UnpackedFloat.isFinite] at h
  | zero => rfl
  | finite => rfl

section FiniteResults

variable {x y : UnpackedFloat}

theorem UnpackedFloat.isFinite_of_add (h : (UnpackedFloat.add .binary64 x y).isFinite = true) :
    x.isFinite = true ∧ y.isFinite = true := by
  cases x <;> cases y <;> simp [UnpackedFloat.add, UnpackedFloat.isFinite] at h ⊢
  -- two infinities give an infinity or NaN
  split_ifs at h

theorem UnpackedFloat.isFinite_of_sub (h : (UnpackedFloat.sub .binary64 x y).isFinite = true) :
    x.isFinite = true ∧ y.isFinite = true := by
  cases x <;> cases y <;> simp [UnpackedFloat.sub, UnpackedFloat.isFinite] at h ⊢
  split_ifs at h

theorem UnpackedFloat.isFinite_of_mul (h : (UnpackedFloat.mul .binary64 x y).isFinite = true) :
    x.isFinite = true ∧ y.isFinite = true := by
  cases x <;> cases y <;> simp [UnpackedFloat.mul, UnpackedFloat.isFinite] at h ⊢

theorem UnpackedFloat.isFinite_of_div (h : (UnpackedFloat.div .binary64 x y).isFinite = true) :
    x.isFinite = true := by
  cases x <;> cases y <;> simp [UnpackedFloat.div, UnpackedFloat.isFinite] at h ⊢

variable {a b : Float}

theorem Float.isFinite_of_add (h : (a + b).isFinite = true) :
    a.isFinite = true ∧ b.isFinite = true :=
  UnpackedFloat.isFinite_of_add (isFinite_of_unpack_pack h)

theorem Float.isFinite_of_sub (h : (a - b).isFinite = true) :
    a.isFinite = true ∧ b.isFinite = true :=
  UnpackedFloat.isFinite_of_sub (isFinite_of_unpack_pack h)

theorem Float.isFinite_of_mul (h : (a * b).isFinite = true) :
    a.isFinite = true ∧ b.isFinite = true :=
  UnpackedFloat.isFinite_of_mul (isFinite_of_unpack_pack h)

theorem Float.isFinite_of_div (h : (a / b).isFinite = true) : a.isFinite = true :=
  UnpackedFloat.isFinite_of_div (isFinite_of_unpack_pack h)

end FiniteResults

/-! ## Comparisons

A comparison of two floats compares their decoded forms, and on canonical finite forms that is
the comparison of values (`compare_eq`). Against a finite float, an infinity lies on its own
side and NaN on neither. -/

theorem Float.lt_iff_compare (a b : Float) :
    a < b ↔ a.toModel.unpack.compare b.toModel.unpack = some .lt := by
  change decide (a.toModel < b.toModel) = true ↔ _
  rw [decide_eq_true_iff]
  change (a.toModel.unpack.compare b.toModel.unpack == some .lt) = true ↔ _
  simp

theorem Float.le_iff_compare (a b : Float) :
    a ≤ b ↔ (a.toModel.unpack.compare b.toModel.unpack).any Ordering.isLE := by
  change decide (a.toModel ≤ b.toModel) = true ↔ _
  rw [decide_eq_true_iff]
  rfl

section Comparisons

variable {a b : Float}

theorem Float.lt_iff (ha : a.isFinite = true) (hb : b.isFinite = true) :
    a < b ↔ toRat a < toRat b := by
  rw [Float.lt_iff_compare, compare_eq (canonical_toModel a) (canonical_toModel b) ha hb]
  simp [toRat, compare_lt_iff_lt]

theorem Float.le_iff (ha : a.isFinite = true) (hb : b.isFinite = true) :
    a ≤ b ↔ toRat a ≤ toRat b := by
  rw [Float.le_iff_compare, compare_eq (canonical_toModel a) (canonical_toModel b) ha hb]
  simp [toRat, Ordering.isLE_iff_ne_gt, compare_gt_iff_gt]

theorem Float.beq_iff (ha : a.isFinite = true) (hb : b.isFinite = true) :
    (a == b) = true ↔ toRat a = toRat b := by
  change (a.toModel.unpack.compare b.toModel.unpack == some .eq) = true ↔ _
  rw [compare_eq (canonical_toModel a) (canonical_toModel b) ha hb]
  simp [toRat]

theorem Float.unpack_ne_infinity (ha : a.isFinite = true) (s : Sign) :
    a.toModel.unpack ≠ .infinity s := by
  intro h
  rw [Float.isFinite_eq, h] at ha
  simp [UnpackedFloat.isFinite] at ha

/-- Below a finite float lie the negative infinity and the finite floats of smaller value. -/
theorem Float.lt_iff_of_isFinite_right (hb : b.isFinite = true) :
    a < b ↔ a.toModel.unpack = .infinity .negative ∨ (a.isFinite = true ∧ toRat a < toRat b) := by
  by_cases ha : a.isFinite = true
  · simp [Float.lt_iff ha hb, ha, Float.unpack_ne_infinity ha]
  · -- NaN compares with nothing, an infinity with everything finite
    rw [Float.lt_iff_compare, Float.isFinite_eq]
    rw [Float.isFinite_eq] at ha hb
    cases hu : a.toModel.unpack with
    | notANumber => simp [UnpackedFloat.compare, UnpackedFloat.isFinite]
    | infinity s =>
      cases s <;> cases hv : b.toModel.unpack <;>
        simp_all [UnpackedFloat.compare, UnpackedFloat.isFinite]
    | zero => simp [hu, UnpackedFloat.isFinite] at ha
    | finite => simp [hu, UnpackedFloat.isFinite] at ha

/-- Above a finite float lie the positive infinity and the finite floats of larger value. -/
theorem Float.lt_iff_of_isFinite_left (ha : a.isFinite = true) :
    a < b ↔ b.toModel.unpack = .infinity .positive ∨ (b.isFinite = true ∧ toRat a < toRat b) := by
  by_cases hb : b.isFinite = true
  · simp [Float.lt_iff ha hb, hb, Float.unpack_ne_infinity hb]
  · rw [Float.lt_iff_compare, Float.isFinite_eq]
    rw [Float.isFinite_eq] at ha hb
    cases hv : b.toModel.unpack with
    | notANumber =>
      cases hu : a.toModel.unpack <;> simp [UnpackedFloat.compare, UnpackedFloat.isFinite]
    | infinity s =>
      cases s <;> cases hu : a.toModel.unpack <;>
        simp_all [UnpackedFloat.compare, UnpackedFloat.isFinite]
    | zero => simp [hv, UnpackedFloat.isFinite] at hb
    | finite => simp [hv, UnpackedFloat.isFinite] at hb

/-- At or above a finite float lie the positive infinity and the finite floats of no smaller
value. -/
theorem Float.le_iff_of_isFinite_left (ha : a.isFinite = true) :
    a ≤ b ↔ b.toModel.unpack = .infinity .positive ∨ (b.isFinite = true ∧ toRat a ≤ toRat b) := by
  by_cases hb : b.isFinite = true
  · simp [Float.le_iff ha hb, hb, Float.unpack_ne_infinity hb]
  · rw [Float.le_iff_compare, Float.isFinite_eq]
    rw [Float.isFinite_eq] at ha hb
    cases hv : b.toModel.unpack with
    | notANumber =>
      cases hu : a.toModel.unpack <;> simp [UnpackedFloat.compare, UnpackedFloat.isFinite]
    | infinity s =>
      cases s <;> cases hu : a.toModel.unpack <;>
        simp_all [UnpackedFloat.compare, UnpackedFloat.isFinite]
    | zero => simp [hv, UnpackedFloat.isFinite] at hb
    | finite => simp [hv, UnpackedFloat.isFinite] at hb

end Comparisons

/-! ## Comparisons with rounded results

A rounded result that overflowed is the infinity on the side of its exact value, and its
rounding is at least `2^1024` in magnitude, past every finite float. So a comparison between a
finite float and a rounded result reads as a comparison with the rounding of the exact value,
overflow or not. -/

section RoundedComparisons

variable {x y : Float} {q : ℚ}

theorem RoundsTo.nonneg_of_infinity_positive {u : UnpackedFloat} (h : RoundsTo u q)
    (hu : u = .infinity .positive) (hlt : ¬ |roundNearest q| < 2 ^ 1024) :
    2 ^ 1024 ≤ roundNearest q := by
  have hinf := h.of_le_abs (not_lt.1 hlt)
  have hq : ¬ q < 0 := by
    intro hq
    rw [hu, if_pos hq] at hinf
    cases hinf
  rw [abs_of_nonneg (roundNearest_nonneg (not_lt.1 hq))] at hlt
  exact not_lt.1 hlt

theorem RoundsTo.nonpos_of_infinity_negative {u : UnpackedFloat} (h : RoundsTo u q)
    (hu : u = .infinity .negative) (hlt : ¬ |roundNearest q| < 2 ^ 1024) :
    roundNearest q ≤ -2 ^ 1024 := by
  have hinf := h.of_le_abs (not_lt.1 hlt)
  have hq : q < 0 := by
    by_contra hq
    rw [hu, if_neg hq] at hinf
    cases hinf
  rw [abs_of_nonpos (roundNearest_nonpos hq.le)] at hlt
  exact le_neg.2 (not_lt.1 hlt)

/-- A finite float below a rounded result lies below the rounding of its exact value. -/
theorem toRat_lt_of_lt_roundsTo (hx : x.isFinite = true) (hy : RoundsTo y.toModel.unpack q)
    (h : x < y) : toRat x < roundNearest q := by
  by_cases hlt : |roundNearest q| < 2 ^ 1024
  · obtain ⟨hfin, hval⟩ := hy.of_abs_lt hlt
    have h' := (Float.lt_iff hx hfin).1 h
    rwa [show toRat y = roundNearest q from hval] at h'
  · rcases (Float.lt_iff_of_isFinite_left hx).1 h with hpos | ⟨hfin, -⟩
    · -- the result overflowed upward, past every finite value
      have hr := hy.nonneg_of_infinity_positive hpos hlt
      exact (le_abs_self _).trans_lt ((abs_toRat_lt x).trans_le hr)
    · exact absurd (hy.of_le_abs (not_lt.1 hlt)) (Float.unpack_ne_infinity hfin _)

/-- A rounded result below a finite float has its rounding below that float's value. -/
theorem roundNearest_lt_of_roundsTo_lt (hx : RoundsTo x.toModel.unpack q) (hy : y.isFinite = true)
    (h : x < y) : roundNearest q < toRat y := by
  by_cases hlt : |roundNearest q| < 2 ^ 1024
  · obtain ⟨hfin, hval⟩ := hx.of_abs_lt hlt
    have h' := (Float.lt_iff hfin hy).1 h
    rwa [show toRat x = roundNearest q from hval] at h'
  · rcases (Float.lt_iff_of_isFinite_right hy).1 h with hneg | ⟨hfin, -⟩
    · have hr := hx.nonpos_of_infinity_negative hneg hlt
      exact hr.trans_lt (abs_lt.1 (abs_toRat_lt y)).1
    · exact absurd (hx.of_le_abs (not_lt.1 hlt)) (Float.unpack_ne_infinity hfin _)

/-- A rounded result not below a finite float has its rounding at least that float's value. -/
theorem le_roundNearest_of_not_lt (hx : RoundsTo x.toModel.unpack q) (hy : y.isFinite = true)
    (h : ¬ x < y) : toRat y ≤ roundNearest q := by
  by_cases hlt : |roundNearest q| < 2 ^ 1024
  · obtain ⟨hfin, hval⟩ := hx.of_abs_lt hlt
    have h' := not_lt.1 (mt (Float.lt_iff hfin hy).2 h)
    rwa [show toRat x = roundNearest q from hval] at h'
  · -- an overflow downward would lie below `y`, so the overflow was upward
    have hinf := hx.of_le_abs (not_lt.1 hlt)
    by_cases hq : q < 0
    · rw [if_pos hq] at hinf
      exact absurd ((Float.lt_iff_of_isFinite_right hy).2 (Or.inl hinf)) h
    · rw [if_neg hq] at hinf
      have hr := hx.nonneg_of_infinity_positive hinf hlt
      exact ((abs_lt.1 (abs_toRat_lt y)).2.trans_le hr).le

end RoundedComparisons

/-! ## Exact constants -/

theorem Float.unpack_zero : (0 : Float).toModel.unpack = .zero .positive := rfl

theorem Float.unpack_one :
    (1 : Float).toModel.unpack = .finite .positive (2 ^ 52) (-52) (by decide) :=
  rfl

theorem Float.isFinite_zero : (0 : Float).isFinite = true := rfl

theorem Float.isFinite_one : (1 : Float).isFinite = true := rfl

@[simp] theorem toRat_zero : toRat 0 = 0 := by
  rw [toRat, Float.unpack_zero]
  rfl

@[simp] theorem toRat_one : toRat 1 = 1 := by
  rw [toRat, Float.unpack_one, value, signed_positive]
  norm_num

/-- A 32-bit unsigned integer converts to the float of the same value. -/
theorem Float.toFloat_exact (n : UInt32) :
    n.toFloat.isFinite = true ∧ toRat n.toFloat = n.toNat := by
  have hn : n.toNat < 2 ^ 53 := n.toNat_lt.trans (by norm_num)
  have hlt : |roundNearest (n.toNat : ℚ)| < 2 ^ 1024 :=
    calc |roundNearest (n.toNat : ℚ)| = n.toNat := by
          rw [roundNearest_natCast hn, abs_of_nonneg (Nat.cast_nonneg _)]
      _ < 2 ^ 53 := by exact_mod_cast hn
      _ ≤ 2 ^ 1024 := pow_le_pow_right₀ (by norm_num) (by norm_num)
  have h := (roundsTo_ofNat n.toNat).of_abs_lt hlt
  rw [roundNearest_natCast hn] at h
  exact h

end Framing.Binary64
