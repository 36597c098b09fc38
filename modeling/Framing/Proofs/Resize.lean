import Framing.Geometry
import Framing.Proofs.Fit

/-!
# Bounding the longer side

`Size.scaledToLargestSide` keeps an image or gives its bound side the limit and scales the other
side by `scaleSide`. For an image and a limit that are not zero it takes one of four branches
(`scaledToLargestSide_cases`): a portrait image is kept below the limit and bound by its height
otherwise, any other image is kept up to the limit and bound by its width beyond.

`scaleSide o c t` rounds `o * t / c` through a rounded product and a rounded quotient, both
finite since the product of two 32-bit counts is below `2^64`. The two roundings move the
quotient by a relative `2^-51` at most, which cannot carry it past a half: so the side is at most
every count that bounds the exact ratio (`scaleSide_le`), and at least one by its `max`.

Together these give the bounds of a resize (`scaledToLargestSide_bounds`): each side stays
between one and the image's, and at most the limit; the orientation is kept; and a resized image
has the limit on its bound side.
-/

namespace Framing

open Binary64

/-! ## The scaled side -/

section ScaleSide

variable {o c t : UInt32}

/-- The product of two 32-bit counts is finite in binary64, the rounding of the exact product:
that product is below `2^64`, itself a float. -/
theorem toRat_toFloat_mul_toFloat (o t : UInt32) :
    (o.toFloat * t.toFloat).isFinite = true ∧
      toRat (o.toFloat * t.toFloat) = roundNearest (o.toNat * t.toNat) := by
  obtain ⟨hof, hov⟩ := Float.toFloat_exact o
  obtain ⟨htf, htv⟩ := Float.toFloat_exact t
  have hp := Float.roundsTo_mul hof htf
  rw [hov, htv] at hp
  have hbig : roundNearest (((1 : ℤ) : ℚ) * 2 ^ (64 : ℤ)) = ((1 : ℤ) : ℚ) * 2 ^ (64 : ℤ) :=
    roundNearest_representable (by norm_num) (by norm_num)
  simp only [Int.cast_one, one_mul, zpow_ofNat] at hbig
  have hprod : (o.toNat : ℚ) * t.toNat ≤ 2 ^ 64 := by
    have h : o.toNat * t.toNat ≤ 2 ^ 32 * 2 ^ 32 :=
      Nat.mul_le_mul o.toNat_lt.le t.toNat_lt.le
    exact_mod_cast h.trans (by norm_num)
  refine hp.of_abs_lt ?_
  rw [abs_of_nonneg (roundNearest_nonneg (by positivity))]
  calc roundNearest ((o.toNat : ℚ) * t.toNat) ≤ roundNearest (2 ^ 64) := roundNearest_mono hprod
    _ = 2 ^ 64 := hbig
    _ < 2 ^ 1024 := pow_lt_pow_right₀ (by norm_num) (by norm_num)

/-- The quotient that `scaleSide` rounds: the exact product rounded, divided by the constrained
side, and rounded again. -/
theorem toRat_scaleQuotient (hc : 1 ≤ c.toNat) :
    (o.toFloat * t.toFloat / c.toFloat).isFinite = true ∧
      toRat (o.toFloat * t.toFloat / c.toFloat) =
        roundNearest (roundNearest (o.toNat * t.toNat) / c.toNat) := by
  obtain ⟨hpf, hpv⟩ := toRat_toFloat_mul_toFloat o t
  rw [← hpv]
  exact toRat_div_toFloat hpf hc

theorem one_le_scaleSide : 1 ≤ (scaleSide o c t).toNat := by
  rw [scaleSide, UInt32.toNat_max]
  exact le_max_left _ _

/-- A rounded value divided by a divisor of at least one and rounded again lies within a
relative `2^-51` and an absolute `4 · 2^-1075` of the exact quotient. -/
theorem abs_roundNearest_quotient_sub_le {n c : ℚ} (hn : 0 ≤ n) (hc : 1 ≤ c) :
    |roundNearest (roundNearest n / c) - n / c| ≤ n / c / 2 ^ 51 + 4 * 2 ^ (-1075 : ℤ) := by
  have hc0 : 0 < c := by linarith
  have hη0 : (0 : ℚ) ≤ 2 ^ (-1075 : ℤ) := by positivity
  set P := roundNearest n with hP
  set r := n / c with hr
  have hr0 : 0 ≤ r := div_nonneg hn hc0.le
  -- the product, rounded, then divided
  have hPn : |P - n| ≤ n / 2 ^ 53 + 2 ^ (-1075 : ℤ) := by
    simpa [abs_of_nonneg hn] using abs_roundNearest_sub_le n
  have hPc : |P / c - r| ≤ r / 2 ^ 53 + 2 ^ (-1075 : ℤ) := by
    rw [hr, ← sub_div, abs_div, abs_of_pos hc0, div_le_iff₀ hc0]
    have hηc : (2 : ℚ) ^ (-1075 : ℤ) ≤ 2 ^ (-1075 : ℤ) * c := le_mul_of_one_le_right hη0 hc
    calc |P - n| ≤ n / 2 ^ 53 + 2 ^ (-1075 : ℤ) := hPn
      _ ≤ n / 2 ^ 53 + 2 ^ (-1075 : ℤ) * c := by linarith
      _ = (n / c / 2 ^ 53 + 2 ^ (-1075 : ℤ)) * c := by field_simp
  -- the quotient, rounded again
  have hQ := abs_roundNearest_sub_le (P / c)
  rw [abs_of_nonneg (div_nonneg (roundNearest_nonneg hn) hc0.le)] at hQ
  have hPc' : P / c ≤ r + r / 2 ^ 53 + 2 ^ (-1075 : ℤ) := by
    linarith [le_abs_self (P / c - r)]
  have ht := abs_sub_le (roundNearest (P / c)) (P / c) r
  linarith

/-- Two roundings keep the quotient of a ratio bounded by a 32-bit count `k` below `k + 1/2`. -/
theorem roundNearest_quotient_lt {n c k : ℚ} (hn : 0 ≤ n) (hc : 1 ≤ c) (hk : k < 2 ^ 32)
    (h : n ≤ c * k) : roundNearest (roundNearest n / c) < k + 1 / 2 := by
  have hc0 : 0 < c := by linarith
  have hr : n / c ≤ k := (div_le_iff₀ hc0).2 (by linarith)
  have hr0 : 0 ≤ n / c := div_nonneg hn hc0.le
  have herr := abs_roundNearest_quotient_sub_le hn hc
  have hη := two_zpow_neg_1075_le
  linarith [le_abs_self (roundNearest (roundNearest n / c) - n / c)]

/-- The scaled side is at most every count `k` of 32 bits, at least one, with `o * t ≤ c * k`. -/
theorem scaleSide_le {k : ℕ} (hc : 1 ≤ c.toNat) (hk : 1 ≤ k) (hk' : k < 2 ^ 32)
    (h : o.toNat * t.toNat ≤ c.toNat * k) : (scaleSide o c t).toNat ≤ k := by
  obtain ⟨hQf, hQv⟩ := toRat_scaleQuotient (o := o) (t := t) hc
  have hlt := roundNearest_quotient_lt (n := (o.toNat : ℚ) * t.toNat) (by positivity)
    (show (1 : ℚ) ≤ c.toNat by exact_mod_cast hc) (show (k : ℚ) < 2 ^ 32 by exact_mod_cast hk')
    (by exact_mod_cast h)
  have hround := toNat_roundUInt32_le hQf (hQv ▸ hlt)
  rw [scaleSide, UInt32.toNat_max]
  exact max_le (by simpa using hk) hround

end ScaleSide

/-! ## The four outcomes -/

section Outcomes

variable {s : Size} {limit : UInt32}

/-- An image and a limit that are not zero take one of four branches: a portrait image is kept
below the limit and bound by its height from it on; any other is kept up to the limit and bound
by its width beyond. -/
theorem scaledToLargestSide_cases (hw : 1 ≤ s.width.toNat) (hh : 1 ≤ s.height.toNat)
    (hL : 1 ≤ limit.toNat) :
    (s.width.toNat < s.height.toNat ∧ s.height.toNat < limit.toNat ∧
        s.scaledToLargestSide limit = .ok s) ∨
      (s.width.toNat < s.height.toNat ∧ limit.toNat ≤ s.height.toNat ∧
        s.scaledToLargestSide limit = .ok ⟨scaleSide s.width s.height limit, limit⟩) ∨
      (s.height.toNat ≤ s.width.toNat ∧ s.width.toNat ≤ limit.toNat ∧
        s.scaledToLargestSide limit = .ok s) ∨
      (s.height.toNat ≤ s.width.toNat ∧ limit.toNat < s.width.toNat ∧
        s.scaledToLargestSide limit = .ok ⟨limit, scaleSide s.height s.width limit⟩) := by
  have hL0 : limit ≠ 0 := fun h => by simp [h] at hL
  have hne : s.isEmpty = false := by
    simp only [Size.isEmpty, Bool.or_eq_false_iff, beq_eq_false_iff_ne, ne_eq,
      ← UInt32.toNat_inj, UInt32.toNat_zero]
    omega
  unfold Size.scaledToLargestSide Size.isPortrait
  rw [if_neg hL0, if_neg (by rw [hne]; decide)]
  by_cases hp : s.width < s.height
  · have hp' := UInt32.lt_iff_toNat_lt.1 hp
    rw [if_pos (by simpa using hp)]
    by_cases hlt : s.height < limit
    · exact .inl ⟨hp', UInt32.lt_iff_toNat_lt.1 hlt, by rw [if_pos hlt]⟩
    · exact .inr (.inl ⟨hp', by simpa [UInt32.lt_iff_toNat_lt] using hlt, by rw [if_neg hlt]⟩)
  · have hp' : s.height.toNat ≤ s.width.toNat := by simpa [UInt32.lt_iff_toNat_lt] using hp
    rw [if_neg (by simpa using hp)]
    by_cases hle : s.width ≤ limit
    · exact .inr (.inr (.inl ⟨hp', UInt32.le_iff_toNat_le.1 hle, by rw [if_pos hle]⟩))
    · exact .inr (.inr (.inr ⟨hp', by simpa [UInt32.le_iff_toNat_le] using hle,
        by rw [if_neg hle]⟩))

/-- A resize of an image and a limit that are not zero succeeds. Each side of the result lies
between one and the image's side, and at most the limit; the result is no wider than tall when
the image is portrait, and no taller than wide otherwise; and a result that is not the image has
the limit on the side that binds it. -/
theorem scaledToLargestSide_bounds (hw : 1 ≤ s.width.toNat) (hh : 1 ≤ s.height.toNat)
    (hL : 1 ≤ limit.toNat) :
    ∃ out, s.scaledToLargestSide limit = .ok out ∧
      1 ≤ out.width.toNat ∧ out.width.toNat ≤ s.width.toNat ∧
      1 ≤ out.height.toNat ∧ out.height.toNat ≤ s.height.toNat ∧
      out.width.toNat ≤ limit.toNat ∧ out.height.toNat ≤ limit.toNat ∧
      (s.width.toNat < s.height.toNat → out.width.toNat ≤ out.height.toNat) ∧
      (s.height.toNat ≤ s.width.toNat → out.height.toNat ≤ out.width.toNat) ∧
      (out ≠ s → (s.width.toNat < s.height.toNat → out.height = limit) ∧
        (s.height.toNat ≤ s.width.toNat → out.width = limit)) := by
  have hL' : limit.toNat < 2 ^ 32 := limit.toNat_lt
  rcases scaledToLargestSide_cases hw hh hL with
    ⟨hp, hlt, hres⟩ | ⟨hp, hle, hres⟩ | ⟨hp, hle, hres⟩ | ⟨hp, hlt, hres⟩
  · -- a portrait image below the limit is kept
    exact ⟨s, hres, hw, le_rfl, hh, le_rfl, by omega, by omega, fun _ => by omega,
      fun _ => by omega, fun h => absurd rfl h⟩
  · -- a portrait image bound by its height: the width scales by `limit / height ≤ 1`
    have h₁ : (scaleSide s.width s.height limit).toNat ≤ s.width.toNat :=
      scaleSide_le (by omega) hw s.width.toNat_lt (by rw [Nat.mul_comm]; exact Nat.mul_le_mul_right _ hle)
    have h₂ : (scaleSide s.width s.height limit).toNat ≤ limit.toNat :=
      scaleSide_le (by omega) hL hL' (Nat.mul_le_mul_right _ hp.le)
    exact ⟨_, hres, one_le_scaleSide, h₁, hL, hle, h₂, le_rfl, fun _ => h₂,
      fun h => absurd h (by omega), fun _ => ⟨fun _ => rfl, fun h => absurd h (by omega)⟩⟩
  · -- any other image up to the limit is kept
    exact ⟨s, hres, hw, le_rfl, hh, le_rfl, hle, by omega, fun h => absurd h (by omega),
      fun _ => hp, fun h => absurd rfl h⟩
  · -- any other image bound by its width: the height scales by `limit / width < 1`
    have h₁ : (scaleSide s.height s.width limit).toNat ≤ s.height.toNat :=
      scaleSide_le (by omega) hh s.height.toNat_lt
        (by rw [Nat.mul_comm]; exact Nat.mul_le_mul_right _ hlt.le)
    have h₂ : (scaleSide s.height s.width limit).toNat ≤ limit.toNat :=
      scaleSide_le (by omega) hL hL' (Nat.mul_le_mul_right _ hp)
    exact ⟨_, hres, hL, hlt.le, one_le_scaleSide, h₁, le_rfl, h₂,
      fun h => absurd h (by omega), fun _ => h₂, fun _ => ⟨fun h => absurd h (by omega),
        fun _ => rfl⟩⟩

/-- A thin strip bound by its width: its height scales to nothing and is kept at one pixel. -/
theorem scaledToLargestSide_bounds_thin :
    (1 ≤ (10000 : UInt32).toNat ∧ 1 ≤ (1 : UInt32).toNat ∧ 1 ≤ (100 : UInt32).toNat) ∧
      let s : Size := ⟨10000, 1⟩
      ∃ out, s.scaledToLargestSide 100 = .ok out ∧
        1 ≤ out.width.toNat ∧ out.width.toNat ≤ s.width.toNat ∧
        1 ≤ out.height.toNat ∧ out.height.toNat ≤ s.height.toNat ∧
        out.width.toNat ≤ (100 : UInt32).toNat ∧ out.height.toNat ≤ (100 : UInt32).toNat ∧
        (s.width.toNat < s.height.toNat → out.width.toNat ≤ out.height.toNat) ∧
        (s.height.toNat ≤ s.width.toNat → out.height.toNat ≤ out.width.toNat) ∧
        (out ≠ s → (s.width.toNat < s.height.toNat → out.height = 100) ∧
          (s.height.toNat ≤ s.width.toNat → out.width = 100)) := by
  have h : 1 ≤ (10000 : UInt32).toNat ∧ 1 ≤ (1 : UInt32).toNat ∧ 1 ≤ (100 : UInt32).toNat :=
    ⟨by decide, by decide, by decide⟩
  exact ⟨h, @scaledToLargestSide_bounds ⟨10000, 1⟩ 100 h.1 h.2.1 h.2.2⟩

example : (Size.mk 10000 1).scaledToLargestSide 100 = .ok ⟨100, 1⟩ := by rfl

example : (Size.mk 3000 4000).scaledToLargestSide 2048 = .ok ⟨1536, 2048⟩ := by rfl

end Outcomes

end Framing
