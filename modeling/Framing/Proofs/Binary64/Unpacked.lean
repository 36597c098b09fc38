import Mathlib
import Framing.Number
import Framing.Proofs.Binary64.Nearest

/-!
# Unpacked binary64 values

Core models a `Float` as sixty-four bits and computes on `UnpackedFloat`: a sign, a positive
mantissa and an exponent, or a zero, an infinity or NaN. This module gives an unpacked float its
rational value, names the canonical forms that decoding produces, and proves the round trips
every operation crosses:

* decoding any bit pattern gives a canonical form (`canonical_unpack`);
* encoding a rounded finite result and decoding it gives it back while its exponent is at most
  `971`, and the infinity of its sign above that (`unpack_pack_finite`);
* on canonical forms, IEEE comparison is comparison of the values (`compare_eq`).

It also shows that the library's own reading of the bits, `FloatParts.ofFloat`, is this
decoding (`ofFloat_eq_ofUnpacked`), so the conversions to integers can be read through it.
-/

namespace Framing.Binary64

open Float.Model Float.Model.UnpackedFloat

/-! ## Values and canonical forms -/

/-- `q` with the sign `s`. -/
def signed : Sign → ℚ → ℚ
  | .negative, q => -q
  | .positive, q => q

@[simp] theorem signed_negative (q : ℚ) : signed .negative q = -q := rfl

@[simp] theorem signed_positive (q : ℚ) : signed .positive q = q := rfl

/-- The rational an unpacked float stands for; NaN and the infinities are given `0`. -/
def value : UnpackedFloat → ℚ
  | .finite s m e _ => signed s (m * 2 ^ e)
  | _ => 0

/-- The shapes decoding gives: a finite value has a mantissa below `2^53` at an exponent in
`[-1074, 971]`, its leading bit at `2^52` unless the exponent is the least. -/
def Canonical : UnpackedFloat → Prop
  | .finite _ m e _ => m < 2 ^ 53 ∧ -1074 ≤ e ∧ e ≤ 971 ∧ (2 ^ 52 ≤ m ∨ e = -1074)
  | _ => True

/-! ## The fields of a bit pattern

Decoding reads three fields off the word; as naturals they are a quotient and a remainder. -/

theorem toNat_unpackMantissa (b : BitVec Format.binary64.numBits) :
    (unpackMantissa b).toNat = b.toNat % 2 ^ 52 := by
  simp [unpackMantissa, Nat.shiftRight_eq_div_pow]

theorem toNat_unpackExponent (b : BitVec Format.binary64.numBits) :
    (unpackExponent b).toNat = b.toNat / 2 ^ 52 % 2 ^ 11 := by
  simp [unpackExponent, Nat.shiftRight_eq_div_pow]

theorem toNat_unpackSign (b : BitVec Format.binary64.numBits) :
    (unpackSign b).toNat = b.toNat / 2 ^ 63 % 2 := by
  simp [unpackSign, Nat.shiftRight_eq_div_pow]

theorem toNat_packComponents (s : Sign) (ev : BitVec 11) (mv : BitVec 52) :
    (packComponents .binary64 s ev mv).toNat =
      s.toBitVec.toNat * 2 ^ 63 + ev.toNat * 2 ^ 52 + mv.toNat := by
  simp only [packComponents, BitVec.toNat_append]
  rw [← Nat.shiftLeft_add_eq_or_of_lt mv.isLt, ← Nat.shiftLeft_add_eq_or_of_lt ev.isLt]
  simp [Nat.shiftLeft_eq]
  ring

theorem ofBitVec_eq (v : BitVec 1) :
    Sign.ofBitVec v = if v.toNat = 0 then .positive else .negative := by
  simp [Sign.ofBitVec, ← BitVec.toNat_inj]

theorem toNat_toBitVec_lt (s : Sign) : s.toBitVec.toNat < 2 := s.toBitVec.isLt

theorem ofBitVec_toBitVec (s : Sign) : Sign.ofBitVec s.toBitVec = s := by
  cases s <;> rfl

theorem toNat_one_append (mv : BitVec 52) : (1#1 ++ mv).toNat = 2 ^ 52 + mv.toNat := by
  rw [BitVec.toNat_append, ← Nat.shiftLeft_add_eq_or_of_lt mv.isLt]
  simp [Nat.shiftLeft_eq]

@[simp] theorem exponentBias_binary64 : Format.binary64.exponentBias = 1023 := rfl

theorem eq_allOnes_iff (ev : BitVec 11) : ev = -1#11 ↔ ev.toNat = 2047 := by
  rw [← BitVec.toNat_inj]
  simp

theorem eq_zero_iff_toNat {w : ℕ} (v : BitVec w) : v = 0#w ↔ v.toNat = 0 := by
  rw [← BitVec.toNat_inj]
  simp

/-! ## Decoding -/

/-- Decoding gives a canonical form: the subnormals sit at exponent `-1074` below `2^52`, the
normal numbers carry their leading bit at `2^52`. -/
theorem canonical_unpack (b : BitVec Format.binary64.numBits) : Canonical (unpack .binary64 b) := by
  have hm : (unpackMantissa b).toNat < 2 ^ 52 := (unpackMantissa b).isLt
  have he : (unpackExponent b).toNat < 2 ^ 11 := (unpackExponent b).isLt
  unfold UnpackedFloat.unpack
  dsimp only
  split_ifs with hinf hnan hsub
  · trivial
  · trivial
  · trivial
  · -- a subnormal: exponent field zero
    rw [eq_zero_iff_toNat] at hsub
    simp only [Canonical, hsub, exponentBias_binary64]
    omega
  · -- a normal number
    rw [eq_allOnes_iff] at hinf
    rw [eq_zero_iff_toNat] at hsub
    simp only [Canonical, toNat_one_append, exponentBias_binary64]
    omega

theorem unpackSign_packComponents (s : Sign) (ev : BitVec 11) (mv : BitVec 52) :
    Sign.ofBitVec (unpackSign (packComponents .binary64 s ev mv)) = s := by
  have hs := toNat_toBitVec_lt s
  rw [ofBitVec_eq, toNat_unpackSign, toNat_packComponents]
  have hv : (s.toBitVec.toNat * 2 ^ 63 + ev.toNat * 2 ^ 52 + mv.toNat) / 2 ^ 63 % 2 =
      s.toBitVec.toNat := by
    have := ev.isLt
    have := mv.isLt
    omega
  rw [hv]
  cases s <;> rfl

theorem unpack_packComponents_normal (s : Sign) (ev : BitVec 11) (mv : BitVec 52)
    (h₀ : ev.toNat ≠ 0) (h₁ : ev.toNat ≠ 2047) :
    unpack .binary64 (packComponents .binary64 s ev mv) =
      .finite s (2 ^ 52 + mv.toNat) ((ev.toNat : ℤ) - 1075) (by omega) := by
  have hinf : ¬ ev = -1#11 := by rw [eq_allOnes_iff]; exact h₁
  have hsub : ¬ ev = 0#11 := by rw [eq_zero_iff_toNat]; exact h₀
  unfold UnpackedFloat.unpack
  simp only [unpackMantissa_packComponents, unpackExponent_packComponents,
    unpackSign_packComponents]
  rw [if_neg hinf, if_neg hsub]
  simp [toNat_one_append]

theorem unpack_packComponents_subnormal (s : Sign) (mv : BitVec 52) (h₀ : mv.toNat ≠ 0) :
    unpack .binary64 (packComponents .binary64 s 0#11 mv) =
      .finite s mv.toNat (-1074) (by omega) := by
  have hmv : ¬ mv = 0#52 := by rw [eq_zero_iff_toNat]; exact h₀
  unfold UnpackedFloat.unpack
  simp only [unpackMantissa_packComponents, unpackExponent_packComponents,
    unpackSign_packComponents]
  simp [hmv]

/-! ## Encoding and decoding again -/

theorem unpack_pack_zero (s : Sign) : unpack .binary64 (pack .binary64 (.zero s)) = .zero s := by
  cases s <;> rfl

theorem unpack_pack_infinity (s : Sign) :
    unpack .binary64 (pack .binary64 (.infinity s)) = .infinity s := by
  cases s <;> rfl

theorem unpack_pack_notANumber : unpack .binary64 (pack .binary64 .notANumber) = .notANumber :=
  rfl

/-- A rounded finite result survives encoding while its exponent fits in eleven bits, and
becomes the infinity of its sign above that. -/
theorem unpack_pack_finite {s : Sign} {m : ℕ} {e : ℤ} (hm0 : 0 < m) (hm : m < 2 ^ 53)
    (he : -1074 ≤ e) (hn : 2 ^ 52 ≤ m ∨ e = -1074) :
    unpack .binary64 (pack .binary64 (.finite s m e hm0)) =
      if e ≤ 971 then .finite s m e hm0 else .infinity s := by
  have hbias : (e + (Format.binary64.exponentBias : ℤ) +
      (Format.binary64.mantissaBitsWithoutImplicit : ℤ)).toNat = (e + 1075).toNat := by
    simp only [exponentBias_binary64]
    omega
  have hbits : (2 : ℕ) ^ Format.binary64.exponentBits = 2048 := rfl
  have hmb : Format.binary64.mantissaBits = 53 := rfl
  unfold UnpackedFloat.pack
  dsimp only
  rw [hbias, hbits, hmb]
  by_cases hfit : e ≤ 971
  · rw [if_pos hfit, if_neg (by omega)]
    by_cases hnorm : 2 ^ 52 ≤ m
    · -- normal: the exponent field is `e + 1075`, the mantissa field `m` less its leading bit
      have hlog : m.log2 = 52 := (Nat.log2_eq_iff hm0.ne').2 ⟨hnorm, hm⟩
      have hev : (BitVec.ofNat 11 (e + 1075).toNat).toNat = (e + 1075).toNat := by
        simp only [BitVec.toNat_ofNat]
        omega
      have hmv : (BitVec.ofNat 52 m).toNat = m - 2 ^ 52 := by
        simp only [BitVec.toNat_ofNat]
        omega
      have hm' : 2 ^ 52 + (m - 2 ^ 52) = m := by omega
      have he' : (((e + 1075).toNat : ℕ) : ℤ) - 1075 = e := by omega
      rw [if_pos (by omega), unpack_packComponents_normal _ _ _ (by omega) (by omega)]
      simp only [hmv, hev, hm', he']
    · -- subnormal: exponent field zero, the mantissa as it is
      have hlog : m.log2 ≠ 52 := fun h => hnorm ((Nat.log2_eq_iff hm0.ne').1 h).1
      have hmv : (BitVec.ofNat 52 m).toNat = m := by
        simp only [BitVec.toNat_ofNat]
        omega
      have he' : e = -1074 := by omega
      rw [if_neg (by omega), unpack_packComponents_subnormal _ _ (by omega)]
      simp only [hmv, he']
  · rw [if_neg hfit, if_pos (by omega)]
    exact unpack_pack_infinity s

/-! ## Comparison

IEEE comparison on unpacked floats looks at the exponent first and the mantissa second. On
canonical forms that is the order of the values: a larger exponent means a normal mantissa of at
least `2^52`, which outweighs any mantissa below `2^53` one binade lower. -/

theorem mul_two_zpow_lt_of_exponent_lt {m₁ m₂ : ℕ} {e₁ e₂ : ℤ} (h₁ : m₁ < 2 ^ 53)
    (h₂ : 2 ^ 52 ≤ m₂) (he : e₁ < e₂) : (m₁ : ℚ) * 2 ^ e₁ < m₂ * 2 ^ e₂ := by
  have h₁' : (m₁ : ℚ) < 2 ^ 53 := by exact_mod_cast h₁
  have h₂' : (2 : ℚ) ^ 52 ≤ m₂ := by exact_mod_cast h₂
  calc (m₁ : ℚ) * 2 ^ e₁ < 2 ^ 53 * 2 ^ e₁ := by gcongr
    _ = 2 ^ 52 * 2 ^ (e₁ + 1) := by rw [zpow_add₀ two_ne_zero]; ring
    _ ≤ m₂ * 2 ^ e₂ := by
        have : (2 : ℚ) ^ (e₁ + 1) ≤ 2 ^ e₂ := zpow_le_zpow_right₀ one_le_two (by omega)
        gcongr

/-- For two canonical positive values, the exponent-then-mantissa order is the order of the
values. -/
theorem compare_exponent_then_mantissa {m₁ m₂ : ℕ} {e₁ e₂ : ℤ}
    (h₁ : m₁ < 2 ^ 53 ∧ -1074 ≤ e₁ ∧ (2 ^ 52 ≤ m₁ ∨ e₁ = -1074))
    (h₂ : m₂ < 2 ^ 53 ∧ -1074 ≤ e₂ ∧ (2 ^ 52 ≤ m₂ ∨ e₂ = -1074)) :
    (compare e₁ e₂).then (compare m₁ m₂) = compare ((m₁ : ℚ) * 2 ^ e₁) (m₂ * 2 ^ e₂) := by
  rcases lt_trichotomy e₁ e₂ with he | rfl | he
  · have hn : 2 ^ 52 ≤ m₂ := by omega
    have hv := mul_two_zpow_lt_of_exponent_lt h₁.1 hn he
    rw [compare_lt_iff_lt.2 he, compare_lt_iff_lt.2 hv]
    rfl
  · rw [compare_eq_iff_eq.2 rfl]
    rcases lt_trichotomy m₁ m₂ with hm | rfl | hm
    · have hv : (m₁ : ℚ) * 2 ^ e₁ < m₂ * 2 ^ e₁ := by gcongr
      rw [compare_lt_iff_lt.2 hm, compare_lt_iff_lt.2 hv]
      rfl
    · rw [compare_eq_iff_eq.2 rfl, compare_eq_iff_eq.2 rfl]
      rfl
    · have hv : (m₂ : ℚ) * 2 ^ e₁ < m₁ * 2 ^ e₁ := by gcongr
      rw [compare_gt_iff_gt.2 hm, compare_gt_iff_gt.2 hv]
      rfl
  · have hn : 2 ^ 52 ≤ m₁ := by omega
    have hv := mul_two_zpow_lt_of_exponent_lt h₂.1 hn he
    rw [compare_gt_iff_gt.2 he, compare_gt_iff_gt.2 hv]
    rfl

theorem compare_neg_neg (x y : ℚ) : compare (-x) (-y) = (compare x y).swap := by
  rcases lt_trichotomy x y with h | rfl | h
  · rw [compare_lt_iff_lt.2 h, compare_gt_iff_gt.2 (neg_lt_neg h)]
    rfl
  · rw [compare_eq_iff_eq.2 rfl, compare_eq_iff_eq.2 rfl]
    rfl
  · rw [compare_gt_iff_gt.2 h, compare_lt_iff_lt.2 (neg_lt_neg h)]
    rfl

/-- IEEE comparison of two canonical finite values (zeros included) is comparison of their
rationals; `-0` and `0` compare equal. -/
theorem compare_eq {a b : UnpackedFloat} (ha : Canonical a) (hb : Canonical b)
    (ha' : a.isFinite = true) (hb' : b.isFinite = true) :
    a.compare b = some (compare (value a) (value b)) := by
  have hpos : ∀ {m : ℕ} (e : ℤ), 0 < m → (0 : ℚ) < m * 2 ^ e := fun _ hm => by positivity
  cases a with
  | notANumber => simp [UnpackedFloat.isFinite] at ha'
  | infinity => simp [UnpackedFloat.isFinite] at ha'
  | zero sa =>
    cases b with
    | notANumber => simp [UnpackedFloat.isFinite] at hb'
    | infinity => simp [UnpackedFloat.isFinite] at hb'
    | zero sb => simp [UnpackedFloat.compare, value]
    | finite sb mb eb hmb =>
      cases sb with
      | negative =>
        simp [UnpackedFloat.compare, value, compare_gt_iff_gt.2 (neg_neg_of_pos (hpos eb hmb))]
      | positive => simp [UnpackedFloat.compare, value, compare_lt_iff_lt.2 (hpos eb hmb)]
  | finite sa ma ea hma =>
    cases b with
    | notANumber => simp [UnpackedFloat.isFinite] at hb'
    | infinity => simp [UnpackedFloat.isFinite] at hb'
    | zero sb =>
      cases sa with
      | negative =>
        simp [UnpackedFloat.compare, value, compare_lt_iff_lt.2 (neg_neg_of_pos (hpos ea hma))]
      | positive => simp [UnpackedFloat.compare, value, compare_gt_iff_gt.2 (hpos ea hma)]
    | finite sb mb eb hmb =>
      have hca : ma < 2 ^ 53 ∧ -1074 ≤ ea ∧ (2 ^ 52 ≤ ma ∨ ea = -1074) := ⟨ha.1, ha.2.1, ha.2.2.2⟩
      have hcb : mb < 2 ^ 53 ∧ -1074 ≤ eb ∧ (2 ^ 52 ≤ mb ∨ eb = -1074) := ⟨hb.1, hb.2.1, hb.2.2.2⟩
      cases sa <;> cases sb
      · simp only [UnpackedFloat.compare, value, signed_negative, compare_neg_neg,
          compare_exponent_then_mantissa hca hcb]
      · have h : -((ma : ℚ) * 2 ^ ea) < mb * 2 ^ eb := by
          linarith [hpos ea hma, hpos eb hmb]
        simp [UnpackedFloat.compare, value, compare_lt_iff_lt.2 h]
      · have h : -((mb : ℚ) * 2 ^ eb) < ma * 2 ^ ea := by
          linarith [hpos ea hma, hpos eb hmb]
        simp [UnpackedFloat.compare, value, compare_gt_iff_gt.2 h]
      · simp only [UnpackedFloat.compare, value, signed_positive,
          compare_exponent_then_mantissa hca hcb]

/-! ## The library's reading of the bits

`FloatParts.ofFloat` reads the sign, exponent and fraction fields straight off the word, as the
text and integer conversions need them. It is the decoding above in other clothes. -/

/-- Whether a sign is the negative one. -/
def isNegative : Sign → Bool
  | .negative => true
  | .positive => false

/-- The `FloatParts` of a decoded value; a zero is the mantissa `0` at the least exponent. -/
def ofUnpacked : UnpackedFloat → FloatParts
  | .notANumber => .nan
  | .infinity s => .infinite (isNegative s)
  | .zero s => .finite (isNegative s) 0 (-1074)
  | .finite s m e _ => .finite (isNegative s) m e

theorem isNegative_ofBitVec (b : BitVec Format.binary64.numBits) :
    isNegative (Sign.ofBitVec (unpackSign b)) = decide (b.toNat / 2 ^ 63 % 2 = 1) := by
  rw [ofBitVec_eq, toNat_unpackSign]
  by_cases h : b.toNat / 2 ^ 63 % 2 = 0
  · rw [if_pos h]
    simp only [isNegative, false_eq_decide_iff]
    omega
  · rw [if_neg h]
    simp only [isNegative, true_eq_decide_iff]
    omega

theorem ofFloat_eq_ofUnpacked (x : Float) :
    FloatParts.ofFloat x = ofUnpacked x.toModel.unpack := by
  have hb : x.toBits.toNat = x.toModel.toBits.toBitVec.toNat := rfl
  unfold FloatParts.ofFloat Float.Model.unpack UnpackedFloat.unpack
  simp only [hb, eq_allOnes_iff, eq_zero_iff_toNat, toNat_unpackExponent, toNat_unpackMantissa]
  split_ifs <;> simp_all [ofUnpacked, isNegative_ofBitVec, toNat_one_append, toNat_unpackMantissa]

end Framing.Binary64
