import Framing.Number
import Framing.Proofs.Binary64.Operations

/-!
# Whole numbers from floats

`Float.truncateInt32` truncates toward zero and saturates into `[-2^31, 2^31 - 1]`, NaN giving
`0` and an infinity the end on its side. On the result of an operation whose exact value is
`q`, that is the saturated truncation of the rounding of `q`, finite result or infinity alike
(`toInt_truncateInt32_of_roundsTo`). Truncation of rounded results is therefore monotone in the
exact values, which is what the pixel bounds of a crop rest on.

`Float.roundUInt32` rounds a finite float to the nearest integer, halves away from zero, and
saturates into `[0, 2^32 - 1]` (`toNat_roundUInt32_of_isFinite`); the shifts of
`FloatParts.nearest` are the floor of the value plus a half.
-/

namespace Framing.Binary64

open Float.Model Float.Model.UnpackedFloat

/-! ## Truncation and saturation on integers -/

/-- Truncation toward zero. -/
def truncate (q : ℚ) : ℤ := if q < 0 then ⌈q⌉ else ⌊q⌋

theorem truncate_of_nonneg {q : ℚ} (hq : 0 ≤ q) : truncate q = ⌊q⌋ := by
  simp [truncate, not_lt.2 hq]

theorem truncate_of_neg {q : ℚ} (hq : q < 0) : truncate q = ⌈q⌉ := by
  simp [truncate, hq]

@[simp] theorem truncate_zero : truncate 0 = 0 := by
  simp [truncate]

@[simp] theorem truncate_intCast (n : ℤ) : truncate n = n := by
  unfold truncate
  split_ifs <;> simp

@[simp] theorem truncate_natCast (n : ℕ) : truncate n = n := by
  simpa using truncate_intCast n

theorem truncate_mono {q q' : ℚ} (h : q ≤ q') : truncate q ≤ truncate q' := by
  unfold truncate
  split_ifs with hq hq'
  · exact Int.ceil_mono h
  · -- the signs differ, and zero separates the two truncations
    have h₁ : ⌈q⌉ ≤ 0 := Int.ceil_le.2 (by simpa using hq.le)
    have h₂ : 0 ≤ ⌊q'⌋ := Int.floor_nonneg.2 (not_lt.1 hq')
    omega
  · exact absurd (lt_of_le_of_lt h ‹q' < 0›) hq
  · exact Int.floor_mono h

theorem truncate_nonpos {q : ℚ} (hq : q ≤ 0) : truncate q ≤ 0 := by
  simpa using truncate_mono hq

theorem truncate_nonneg {q : ℚ} (hq : 0 ≤ q) : 0 ≤ truncate q := by
  simpa using truncate_mono hq

theorem truncate_le {q : ℚ} (hq : 0 ≤ q) : (truncate q : ℚ) ≤ q := by
  rw [truncate_of_nonneg hq]
  exact Int.floor_le q

theorem le_truncate {q : ℚ} {n : ℤ} (h : (n : ℚ) ≤ q) : n ≤ truncate q := by
  simpa using truncate_mono h

theorem truncate_le_of_le {q : ℚ} {n : ℤ} (h : q ≤ n) : truncate q ≤ n := by
  simpa using truncate_mono h

section Saturate

variable {lo hi : ℤ}

theorem saturate_mono {n n' : ℤ} (h : n ≤ n') : Int.saturate lo hi n ≤ Int.saturate lo hi n' := by
  unfold Int.saturate
  omega

theorem saturate_of_mem {n : ℤ} (h₁ : lo ≤ n) (h₂ : n ≤ hi) : Int.saturate lo hi n = n := by
  unfold Int.saturate
  omega

theorem saturate_of_le {n : ℤ} (h : n ≤ lo) : Int.saturate lo hi n = lo := by
  unfold Int.saturate
  omega

theorem saturate_of_ge {n : ℤ} (h₁ : lo ≤ hi) (h₂ : hi ≤ n) : Int.saturate lo hi n = hi := by
  unfold Int.saturate
  omega

theorem saturate_mem (h : lo ≤ hi) (n : ℤ) :
    lo ≤ Int.saturate lo hi n ∧ Int.saturate lo hi n ≤ hi := by
  unfold Int.saturate
  omega

end Saturate

/-! ## The parts of a float, truncated -/

/-- The integer part of `m * 2^e` as `towardZero` computes it, by a shift either way. -/
theorem floor_natCast_mul_two_zpow (m : ℕ) (e : ℤ) :
    ⌊(m : ℚ) * 2 ^ e⌋ = ((if 0 ≤ e then m * 2 ^ e.toNat else m / 2 ^ e.natAbs : ℕ) : ℤ) := by
  split_ifs with he
  · have h : (m : ℚ) * 2 ^ e = ((m * 2 ^ e.toNat : ℕ) : ℚ) := by
      rw [Nat.cast_mul, Nat.cast_pow, Nat.cast_ofNat, ← zpow_natCast, Int.toNat_of_nonneg he]
    rw [h, Int.floor_natCast]
  · have h : (m : ℚ) * 2 ^ e = (m : ℚ) / ((2 ^ e.natAbs : ℕ) : ℚ) := by
      rw [Nat.cast_pow, Nat.cast_ofNat, div_eq_mul_inv, ← zpow_natCast, ← zpow_neg,
        Int.natCast_natAbs, abs_of_neg (not_le.1 he), neg_neg]
    rw [h, Rat.floor_natCast_div_natCast, Int.natCast_ediv]

theorem towardZero_ofUnpacked {u : UnpackedFloat} (hu : u.isFinite = true) :
    FloatParts.towardZero (ofUnpacked u) = some (truncate (value u)) := by
  cases u with
  | notANumber => simp [UnpackedFloat.isFinite] at hu
  | infinity => simp [UnpackedFloat.isFinite] at hu
  | zero s =>
    cases s <;> simp only [ofUnpacked, FloatParts.towardZero, isNegative, value, Nat.zero_div,
      zero_mul, Nat.cast_zero, neg_zero, ite_self, truncate_zero]
  | finite s m e hm =>
    have hpos : (0 : ℚ) < m * 2 ^ e := by positivity
    cases s with
    | negative =>
      -- a negative value truncates up: its ceiling is minus the floor of its magnitude
      simp only [ofUnpacked, FloatParts.towardZero, isNegative, if_true, value, signed_negative,
        truncate_of_neg (neg_lt_zero.2 hpos), Int.ceil_neg, floor_natCast_mul_two_zpow, Nat.pow_eq]
    | positive =>
      simp only [ofUnpacked, FloatParts.towardZero, isNegative, Bool.false_eq_true, if_false,
        value, signed_positive, truncate_of_nonneg hpos.le, floor_natCast_mul_two_zpow, Nat.pow_eq]

/-! ## Truncating a float -/

theorem toInt_truncateInt32 (x : Float) :
    (Float.truncateInt32 x).toInt =
      Float.toRange FloatParts.towardZero (-2 ^ 31) (2 ^ 31 - 1) x := by
  rw [Float.truncateInt32, show Int.pow 2 31 = 2 ^ 31 from rfl]
  have h : -2 ^ 31 ≤ Float.toRange FloatParts.towardZero (-2 ^ 31) (2 ^ 31 - 1) x ∧
      Float.toRange FloatParts.towardZero (-2 ^ 31) (2 ^ 31 - 1) x ≤ 2 ^ 31 - 1 := by
    unfold Float.toRange
    split
    · omega
    · split <;> omega
    · exact saturate_mem (by omega) _
  exact Int32.toInt_ofInt_of_le h.1 (by omega)

theorem toInt_truncateInt32_of_isFinite {x : Float} (hx : x.isFinite = true) :
    (Float.truncateInt32 x).toInt = Int.saturate (-2 ^ 31) (2 ^ 31 - 1) (truncate (toRat x)) := by
  rw [Float.isFinite_eq] at hx
  have ht := towardZero_ofUnpacked hx
  rw [toInt_truncateInt32, Float.toRange, ofFloat_eq_ofUnpacked, toRat]
  -- a finite float reads as finite parts, which the last branch truncates
  cases hu : x.toModel.unpack with
  | notANumber => simp [hu, UnpackedFloat.isFinite] at hx
  | infinity => simp [hu, UnpackedFloat.isFinite] at hx
  | zero s =>
    simp only [hu, ofUnpacked] at ht ⊢
    simp [ht]
  | finite s m e hm =>
    simp only [hu, ofUnpacked] at ht ⊢
    simp [ht]

theorem toInt_truncateInt32_of_infinity {x : Float} {s : Sign}
    (hx : x.toModel.unpack = .infinity s) :
    (Float.truncateInt32 x).toInt = if isNegative s then -2 ^ 31 else 2 ^ 31 - 1 := by
  rw [toInt_truncateInt32, Float.toRange, ofFloat_eq_ofUnpacked, hx]
  cases s <;> simp [ofUnpacked, isNegative]

theorem toInt_truncateInt32_of_notANumber {x : Float} (hx : x.toModel.unpack = .notANumber) :
    (Float.truncateInt32 x).toInt = 0 := by
  rw [toInt_truncateInt32, Float.toRange, ofFloat_eq_ofUnpacked, hx]
  rfl

/-- A float of at least one truncates to at least one. -/
theorem one_le_toInt_truncateInt32 {x : Float} (h : 1 ≤ x) : 1 ≤ (Float.truncateInt32 x).toInt := by
  rcases (Float.le_iff_of_isFinite_left Float.isFinite_one).1 h with hinf | ⟨hfin, hle⟩
  · rw [toInt_truncateInt32_of_infinity hinf]
    simp [isNegative]
  · have ht : 1 ≤ truncate (toRat x) := le_truncate (by simpa using hle)
    rw [toInt_truncateInt32_of_isFinite hfin]
    calc (1 : ℤ) = Int.saturate (-2 ^ 31) (2 ^ 31 - 1) 1 :=
          (saturate_of_mem (by norm_num) (by norm_num)).symm
      _ ≤ _ := saturate_mono ht

/-- The truncation of a rounded result is the saturated truncation of the rounded exact value:
past `2^1024` the result is an infinity, and the saturation gives the same end. -/
theorem toInt_truncateInt32_of_roundsTo {x : Float} {q : ℚ} (h : RoundsTo x.toModel.unpack q) :
    (Float.truncateInt32 x).toInt =
      Int.saturate (-2 ^ 31) (2 ^ 31 - 1) (truncate (roundNearest q)) := by
  by_cases hlt : |roundNearest q| < 2 ^ 1024
  · obtain ⟨hfin, hval⟩ := h.of_abs_lt hlt
    rw [toInt_truncateInt32_of_isFinite hfin, toRat, hval]
  · have hbig : (2 : ℚ) ^ 31 ≤ |roundNearest q| :=
      le_trans (pow_le_pow_right₀ (by norm_num) (by norm_num)) (not_lt.1 hlt)
    rw [toInt_truncateInt32_of_infinity (h.of_le_abs (not_lt.1 hlt))]
    by_cases hq : q < 0
    · -- a negative overflow: the rounding is at most `-2^31`, and so is its truncation
      have hr : roundNearest q ≤ -2 ^ 31 := by
        rw [abs_of_nonpos (roundNearest_nonpos hq.le)] at hbig
        linarith
      have ht : truncate (roundNearest q) ≤ -2 ^ 31 := truncate_le_of_le (by push_cast; exact hr)
      rw [if_pos hq, isNegative, if_pos rfl, saturate_of_le ht]
    · have hr : 2 ^ 31 ≤ roundNearest q := by
        rwa [abs_of_nonneg (roundNearest_nonneg (not_lt.1 hq))] at hbig
      have ht : 2 ^ 31 ≤ truncate (roundNearest q) := le_truncate (by push_cast; exact hr)
      rw [if_neg hq]
      simp only [isNegative, Bool.false_eq_true, if_false]
      rw [saturate_of_ge (by norm_num) (by omega)]

/-- Truncation of rounded results never reverses the order of their exact values. -/
theorem truncateInt32_mono {x y : Float} {q q' : ℚ} (hx : RoundsTo x.toModel.unpack q)
    (hy : RoundsTo y.toModel.unpack q') (h : q ≤ q') :
    (Float.truncateInt32 x).toInt ≤ (Float.truncateInt32 y).toInt := by
  rw [toInt_truncateInt32_of_roundsTo hx, toInt_truncateInt32_of_roundsTo hy]
  exact saturate_mono (truncate_mono (roundNearest_mono h))

/-! ## Rounding a float to the nearest whole number -/

/-- Rounding to the nearest integer, a half away from zero. -/
def roundHalfAway (q : ℚ) : ℤ := if q < 0 then -⌊-q + 1 / 2⌋ else ⌊q + 1 / 2⌋

theorem roundHalfAway_le {q : ℚ} {n : ℤ} (h0 : 0 ≤ n) (h : q < n + 1 / 2) :
    roundHalfAway q ≤ n := by
  unfold roundHalfAway
  split_ifs with hq
  · have : 0 ≤ ⌊-q + 1 / 2⌋ := Int.floor_nonneg.2 (by linarith)
    omega
  · have : ⌊q + 1 / 2⌋ < n + 1 := Int.floor_lt.2 (by push_cast; linarith)
    omega

/-- A nonnegative value at least `n - 1/2` rounds to at least `n`. -/
theorem le_roundHalfAway {q : ℚ} {n : ℤ} (hq : 0 ≤ q) (h : n - 1 / 2 ≤ q) :
    n ≤ roundHalfAway q := by
  rw [roundHalfAway, if_neg (not_lt.2 hq)]
  exact Int.le_floor.2 (by linarith)

/-- The nearest integer to `m * 2^e`, halves up, as `nearest` computes it by shifts. -/
theorem floor_natCast_mul_two_zpow_add_half (m : ℕ) (e : ℤ) :
    ⌊(m : ℚ) * 2 ^ e + 1 / 2⌋ =
      ((if 0 ≤ e then m * 2 ^ e.toNat else (2 * m + 2 ^ e.natAbs) / 2 ^ (e.natAbs + 1) : ℕ) :
        ℤ) := by
  split_ifs with he
  · have h : (m : ℚ) * 2 ^ e = ((m * 2 ^ e.toNat : ℕ) : ℚ) := by
      rw [Nat.cast_mul, Nat.cast_pow, Nat.cast_ofNat, ← zpow_natCast, Int.toNat_of_nonneg he]
    rw [h, Int.floor_eq_iff]
    push_cast
    constructor <;> linarith
  · -- a negative exponent: the shift of `2m + 2^|e|` by `|e| + 1` is the floor of the half-up value
    have h : (m : ℚ) * 2 ^ e + 1 / 2 =
        ((2 * m + 2 ^ e.natAbs : ℕ) : ℚ) / ((2 ^ (e.natAbs + 1) : ℕ) : ℚ) := by
      set a := e.natAbs with ha
      have he' : e = -(a : ℤ) := by omega
      rw [he', zpow_neg, zpow_natCast]
      push_cast
      field_simp
      ring
    rw [h, Rat.floor_natCast_div_natCast, Int.natCast_ediv]

theorem nearest_ofUnpacked {u : UnpackedFloat} (hu : u.isFinite = true) :
    FloatParts.nearest (ofUnpacked u) = some (roundHalfAway (value u)) := by
  cases u with
  | notANumber => simp [UnpackedFloat.isFinite] at hu
  | infinity => simp [UnpackedFloat.isFinite] at hu
  | zero s =>
    -- zero is the mantissa `0`, and `2^1074` shifted by `1075` is `0`
    have h0 : (2 * 0 + Nat.pow 2 (-1074 : ℤ).natAbs) / Nat.pow 2 ((-1074 : ℤ).natAbs + 1) = 0 :=
      Nat.div_eq_of_lt (by
        rw [Nat.pow_eq, Nat.pow_eq, Nat.mul_zero, Nat.zero_add]
        exact Nat.pow_lt_pow_right (by norm_num) (Nat.lt_succ_self _))
    have hr : roundHalfAway 0 = 0 := by norm_num [roundHalfAway]
    simp only [ofUnpacked, FloatParts.nearest, value, hr,
      if_neg (show ¬ (0 : ℤ) ≤ -1074 by norm_num), h0]
    cases s <;> rfl
  | finite s m e hm =>
    have hpos : (0 : ℚ) < m * 2 ^ e := by positivity
    cases s with
    | negative =>
      -- a negative value rounds as its magnitude does, with the sign put back
      simp only [ofUnpacked, FloatParts.nearest, isNegative, if_true, value, signed_negative,
        roundHalfAway, if_pos (neg_lt_zero.2 hpos), neg_neg, floor_natCast_mul_two_zpow_add_half,
        Nat.pow_eq]
    | positive =>
      simp only [ofUnpacked, FloatParts.nearest, isNegative, Bool.false_eq_true, if_false, value,
        signed_positive, roundHalfAway, if_neg (not_lt.2 hpos.le),
        floor_natCast_mul_two_zpow_add_half, Nat.pow_eq]

/-- A finite float rounds to the nearest integer, halves away from zero, saturated into
`[0, 2^32 - 1]`. -/
theorem toNat_roundUInt32_of_isFinite {x : Float} (hx : x.isFinite = true) :
    (Float.roundUInt32 x).toNat =
      (Int.saturate 0 (2 ^ 32 - 1) (roundHalfAway (toRat x))).toNat := by
  rw [Float.isFinite_eq] at hx
  have hn := nearest_ofUnpacked hx
  have hr : Float.toRange FloatParts.nearest 0 (Int.pow 2 32 - 1) x =
      Int.saturate 0 (2 ^ 32 - 1) (roundHalfAway (toRat x)) := by
    rw [Float.toRange, ofFloat_eq_ofUnpacked, toRat, show Int.pow 2 32 = 2 ^ 32 from rfl]
    cases hu : x.toModel.unpack with
    | notANumber => simp [hu, UnpackedFloat.isFinite] at hx
    | infinity => simp [hu, UnpackedFloat.isFinite] at hx
    | zero s =>
      simp only [hu, ofUnpacked] at hn ⊢
      simp [hn]
    | finite s m e hm =>
      simp only [hu, ofUnpacked] at hn ⊢
      simp [hn]
  obtain ⟨h₁, h₂⟩ := saturate_mem (show (0 : ℤ) ≤ 2 ^ 32 - 1 by norm_num)
    (roundHalfAway (toRat x))
  rw [Float.roundUInt32, hr]
  refine UInt32.toNat_ofNat_of_lt' ?_
  norm_num at h₂ ⊢
  omega

/-- A finite float below `k + 1/2` rounds to at most `k`. -/
theorem toNat_roundUInt32_le {x : Float} {k : ℕ} (hx : x.isFinite = true)
    (h : toRat x < k + 1 / 2) : (Float.roundUInt32 x).toNat ≤ k := by
  rw [toNat_roundUInt32_of_isFinite hx]
  have hr := roundHalfAway_le (show (0 : ℤ) ≤ k by positivity) (by exact_mod_cast h)
  unfold Int.saturate
  omega

/-- A finite nonnegative float at least `k - 1/2` rounds to at least `k`, for `k` of 32 bits. -/
theorem le_toNat_roundUInt32 {x : Float} {k : ℕ} (hx : x.isFinite = true) (hx0 : 0 ≤ toRat x)
    (hk : k < 2 ^ 32) (h : k - 1 / 2 ≤ toRat x) : k ≤ (Float.roundUInt32 x).toNat := by
  rw [toNat_roundUInt32_of_isFinite hx]
  have hr := le_roundHalfAway (n := k) hx0 (by exact_mod_cast h)
  unfold Int.saturate
  omega

end Framing.Binary64
