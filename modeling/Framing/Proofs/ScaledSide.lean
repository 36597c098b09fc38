import Framing.Proofs.Resize

/-!
# The scaled side, rounded

`scaleSide o c t` rounds the binary64 quotient of the rounded product `o * t` by `c` to the
nearest whole number, halves up. The two roundings move the quotient by a relative `2^-51` at
most (`abs_roundNearest_quotient_sub_le`), far less than a half on any ratio below `2^32`
(`abs_scaleQuotient_sub_lt`). So a
side scaled by its own constraint comes back unchanged (`scaleSide_self`), even where the
product `o * c` is no float, and a scaled side is always within one of the ratio rounded in
exact arithmetic (`exactScaledSide`, `toNat_scaleSide_near`).

While `o * t < 2^52` it is that exact rounding (`toNat_scaleSide_of_lt`): the product is then a
float, and a ratio of denominator `c` that is not a half-integer stays `1 / (2c)` away from
every half-integer, more than the quotient's one rounding can cross. Beyond, the quotient can
round onto a half: an image `2669542067 × 2703296011` bound to `2251681408` gets the width
`2223566423`, where the exact ratio rounds to `2223566422`
(`scaledToLargestSide_scaled_side_ne_exact`).

For the resize this gives its fixed points. An image is kept exactly when its longer side is
within the limit (`scaledToLargestSide_eq_self_iff`), a portrait image as high as the limit
included: that one goes through the scaling branch, where its width is scaled by one. Every
result lies within the limit, so resizing it again with the same limit keeps it.
-/

namespace Framing

open Binary64

/-! ## The scaled side against its quotient

`scaleSide o c t` is the rounding of the quotient `toRat_scaleQuotient` names; a bound on that
quotient by a half around a count bounds the side by the count. -/

section ScaleSide

variable {o c t : UInt32}

/-- A quotient below `k + 1/2` gives a side of at most `max 1 k`. -/
theorem toNat_scaleSide_le_max {k : ℕ} (hc : 1 ≤ c.toNat)
    (h : roundNearest (roundNearest (o.toNat * t.toNat) / c.toNat) < k + 1 / 2) :
    (scaleSide o c t).toNat ≤ max 1 k := by
  obtain ⟨hQf, hQv⟩ := toRat_scaleQuotient (o := o) (t := t) hc
  have hround := toNat_roundUInt32_le hQf (by rw [hQv]; exact h)
  rw [scaleSide, UInt32.toNat_max]
  exact max_le_max (by simp) hround

/-- A quotient of at least `k - 1/2`, for `k` of 32 bits, gives a side of at least `max 1 k`. -/
theorem max_le_toNat_scaleSide {k : ℕ} (hc : 1 ≤ c.toNat) (hk : k < 2 ^ 32)
    (h : k - 1 / 2 ≤ roundNearest (roundNearest (o.toNat * t.toNat) / c.toNat)) :
    max 1 k ≤ (scaleSide o c t).toNat := by
  obtain ⟨hQf, hQv⟩ := toRat_scaleQuotient (o := o) (t := t) hc
  have hQ0 : 0 ≤ toRat (o.toFloat * t.toFloat / c.toFloat) := by
    rw [hQv]
    exact roundNearest_nonneg (div_nonneg (roundNearest_nonneg (by positivity)) (by positivity))
  have hround := le_toNat_roundUInt32 hQf hQ0 hk (by rw [hQv]; exact h)
  rw [scaleSide, UInt32.toNat_max]
  exact max_le_max (by simp) hround

/-- The quotient of a ratio below `2^32` is within a quarter of it. -/
theorem abs_scaleQuotient_sub_lt (hc : 1 ≤ c.toNat)
    (hr : (o.toNat : ℚ) * t.toNat / c.toNat < 2 ^ 32) :
    |roundNearest (roundNearest (o.toNat * t.toNat) / c.toNat) - o.toNat * t.toNat / c.toNat| <
      1 / 4 := by
  have herr := abs_roundNearest_quotient_sub_le (n := (o.toNat : ℚ) * t.toNat) (by positivity)
    (show (1 : ℚ) ≤ c.toNat by exact_mod_cast hc)
  have hη := two_zpow_neg_1075_le
  have hr0 : (0 : ℚ) ≤ o.toNat * t.toNat / c.toNat := by positivity
  linarith

/-- Scaling by a target equal to the constrained side keeps the other side, for all sides of
32 bits: the quotient of `o * c` by `c` comes back within a quarter of `o`. -/
theorem scaleSide_self (ho : 1 ≤ o.toNat) (hc : 1 ≤ c.toNat) : scaleSide o c c = o := by
  have hc0 : (c.toNat : ℚ) ≠ 0 := by exact_mod_cast (show c.toNat ≠ 0 by omega)
  have hr : (o.toNat : ℚ) * c.toNat / c.toNat = o.toNat := by
    field_simp
  have hnear := abs_scaleQuotient_sub_lt (o := o) (t := c) hc
    (by rw [hr]; exact_mod_cast o.toNat_lt)
  rw [hr, abs_lt] at hnear
  have h₁ := toNat_scaleSide_le_max (o := o) (t := c) (k := o.toNat) hc (by linarith)
  have h₂ := max_le_toNat_scaleSide (o := o) (t := c) hc o.toNat_lt (by linarith)
  rw [max_eq_right ho] at h₁ h₂
  exact UInt32.toNat_inj.1 (le_antisymm h₁ h₂)

end ScaleSide

/-! ## The ratio rounded in exact arithmetic -/

/-- The ratio `o * t / c` rounded to the nearest whole number, halves up, in exact arithmetic,
and at least one. -/
def exactScaledSide (o c t : ℕ) : ℕ := max 1 ((2 * o * t + c) / (2 * c))

section Exact

variable {o c t : ℕ}

/-- The rounded ratio `N` brackets the ratio within a half, and stays `1 / (2c)` clear of the
half above: `(N - 1/2) c ≤ o t` and `o t + 1/2 ≤ (N + 1/2) c`. -/
theorem roundedRatio_bracket (hc : 1 ≤ c) :
    ((((2 * o * t + c) / (2 * c) : ℕ) : ℚ) - 1 / 2) * c ≤ (o : ℚ) * t ∧
      (o : ℚ) * t + 1 / 2 ≤ ((((2 * o * t + c) / (2 * c) : ℕ) : ℚ) + 1 / 2) * c := by
  have h₁ := Nat.div_mul_le_self (2 * o * t + c) (2 * c)
  have h₂ := Nat.lt_div_mul_add (a := 2 * o * t + c) (show 0 < 2 * c by omega)
  generalize (2 * o * t + c) / (2 * c) = N at h₁ h₂ ⊢
  have h₁' : (N : ℚ) * (2 * c) ≤ 2 * o * t + c := by exact_mod_cast h₁
  have h₂' : (2 * o * t + c : ℚ) + 1 ≤ N * (2 * c) + 2 * c := by
    exact_mod_cast (show 2 * o * t + c + 1 ≤ N * (2 * c) + 2 * c by omega)
  constructor <;> linarith

/-- A ratio of a side at most its constraint rounds to at most the target. -/
theorem roundedRatio_le (hc : 1 ≤ c) (hoc : o ≤ c) : (2 * o * t + c) / (2 * c) ≤ t := by
  have h : 2 * o * t ≤ 2 * c * t := Nat.mul_le_mul_right t (Nat.mul_le_mul_left 2 hoc)
  exact Nat.lt_succ_iff.1 ((Nat.div_lt_iff_lt_mul (by omega)).2 (by nlinarith))

end Exact

/-! ## One rounding of a ratio

While the product is a float the quotient is rounded once. Below `2^52` the halves are floats
and the rounding moves a ratio of denominator `c < 2^32` by far less than `1 / (2c)`. -/

/-- A half below a count of at most `2^52` is a float. -/
theorem roundNearest_natCast_sub_half {N : ℕ} (h : N ≤ 2 ^ 52) :
    roundNearest ((N : ℚ) - 1 / 2) = N - 1 / 2 := by
  have hgrid : ((2 * N - 1 : ℤ) : ℚ) * 2 ^ (-1 : ℤ) = N - 1 / 2 := by
    push_cast
    rw [zpow_neg_one]
    ring
  rw [← hgrid]
  exact roundNearest_representable (by omega) (by norm_num)

/-- A ratio `p / c` that is `1 / (2c)` clear of the half `n + 1/2` rounds below it, for `p`
below `2^52` and `c` of 32 bits. -/
theorem roundNearest_div_lt_add_half {p c n : ℚ} (hp : 0 ≤ p) (hp52 : p + 1 ≤ 2 ^ 52)
    (hc : 0 < c) (hc32 : c < 2 ^ 32) (h : p + 1 / 2 ≤ (n + 1 / 2) * c) :
    roundNearest (p / c) < n + 1 / 2 := by
  have herr := roundNearest_le_of_nonneg (div_nonneg hp hc.le)
  have hη := two_zpow_neg_1075_le
  have hcη : c * 2 ^ (-1075 : ℤ) ≤ (2 : ℚ) ^ 32 * (1 / 2 ^ 100) :=
    mul_le_mul hc32.le hη (by positivity) (by positivity)
  have hscaled : c * roundNearest (p / c) < c * (n + 1 / 2) := by
    calc c * roundNearest (p / c)
        ≤ c * (p / c + p / c / 2 ^ 53 + 2 ^ (-1075 : ℤ)) := mul_le_mul_of_nonneg_left herr hc.le
      _ = p + p / 2 ^ 53 + c * 2 ^ (-1075 : ℤ) := by
          field_simp
      _ < c * (n + 1 / 2) := by linarith
  exact lt_of_mul_lt_mul_left hscaled hc.le

section ScaleSideExact

variable {o c t : UInt32}

/-- While the product `o * t` is below `2^52`, the scaled side is the ratio rounded in exact
arithmetic. The product is then a float, so the quotient is rounded once, and a ratio that is
not a half-integer keeps further from one than that rounding moves it. -/
theorem toNat_scaleSide_of_lt (hc : 1 ≤ c.toNat) (hoc : o.toNat ≤ c.toNat)
    (h : o.toNat * t.toNat < 2 ^ 52) :
    (scaleSide o c t).toNat = exactScaledSide o.toNat c.toNat t.toNat := by
  obtain ⟨hlo, hhi⟩ := roundedRatio_bracket (o := o.toNat) (t := t.toNat) hc
  have hNt := roundedRatio_le (t := t.toNat) hc hoc
  unfold exactScaledSide
  generalize (2 * o.toNat * t.toNat + c.toNat) / (2 * c.toNat) = N at hlo hhi hNt ⊢
  have ht32 := t.toNat_lt
  have hc0 : (0 : ℚ) < c.toNat := by exact_mod_cast hc
  -- the product is a float, so the quotient is rounded once
  have hprod : roundNearest ((o.toNat : ℚ) * t.toNat) = o.toNat * t.toNat := by
    exact_mod_cast roundNearest_natCast (n := o.toNat * t.toNat) (by omega)
  have hprod' : (o.toNat : ℚ) * t.toNat + 1 ≤ 2 ^ 52 := by
    exact_mod_cast (show o.toNat * t.toNat + 1 ≤ 2 ^ 52 by omega)
  -- from below: `N - 1/2` is a float, and rounding is monotone
  have hlow : (N : ℚ) - 1 / 2 ≤ roundNearest (o.toNat * t.toNat / c.toNat) := by
    rw [← roundNearest_natCast_sub_half (N := N) (by omega)]
    exact roundNearest_mono ((le_div_iff₀ hc0).2 hlo)
  -- from above: the one rounding stays below the gap of `1 / (2c)` to the next half
  have hup := roundNearest_div_lt_add_half (by positivity) hprod' hc0
    (by exact_mod_cast c.toNat_lt) hhi
  have h₁ := toNat_scaleSide_le_max (o := o) (t := t) (k := N) hc (by rw [hprod]; exact hup)
  have h₂ := max_le_toNat_scaleSide (o := o) (t := t) (k := N) hc (by omega)
    (by rw [hprod]; exact hlow)
  exact le_antisymm h₁ h₂

/-- A scaled side is within one of the ratio rounded in exact arithmetic, whatever the size of
the product. -/
theorem toNat_scaleSide_near (hc : 1 ≤ c.toNat) (hoc : o.toNat ≤ c.toNat) :
    (scaleSide o c t).toNat ≤ exactScaledSide o.toNat c.toNat t.toNat + 1 ∧
      exactScaledSide o.toNat c.toNat t.toNat ≤ (scaleSide o c t).toNat + 1 := by
  obtain ⟨hlo, hhi⟩ := roundedRatio_bracket (o := o.toNat) (t := t.toNat) hc
  have hNt := roundedRatio_le (t := t.toNat) hc hoc
  unfold exactScaledSide
  generalize (2 * o.toNat * t.toNat + c.toNat) / (2 * c.toNat) = N at hlo hhi hNt ⊢
  have ht32 := t.toNat_lt
  have hc0 : (0 : ℚ) < c.toNat := by exact_mod_cast hc
  set r := (o.toNat : ℚ) * t.toNat / c.toNat with hr
  -- the ratio is within a half of `N`, and below `2^32`
  have hlo' : (N : ℚ) - 1 / 2 ≤ r := by
    rw [hr, le_div_iff₀ hc0]
    exact hlo
  have hhi' : r < N + 1 / 2 := by
    rw [hr, div_lt_iff₀ hc0]
    linarith
  have hr32 : r < 2 ^ 32 := by
    have : (N : ℚ) + 1 ≤ 2 ^ 32 := by exact_mod_cast (show N + 1 ≤ 2 ^ 32 by omega)
    linarith
  -- the quotient is within a quarter of the ratio
  have hnear := abs_scaleQuotient_sub_lt (o := o) (t := t) hc hr32
  rw [abs_lt] at hnear
  constructor
  · -- above: below `(N + 1) + 1/2`
    have h := toNat_scaleSide_le_max (o := o) (t := t) (k := N + 1) hc (by push_cast; linarith)
    omega
  · -- below: at least `(N - 1) - 1/2`, when `N` is not zero
    rcases Nat.eq_zero_or_pos N with h0 | hpos
    · have := one_le_scaleSide (o := o) (c := c) (t := t)
      omega
    · have h := max_le_toNat_scaleSide (o := o) (t := t) (k := N - 1) hc (by omega)
        (by rw [Nat.cast_pred hpos]; linarith)
      omega

end ScaleSideExact

/-! ## Fixed points of a resize -/

section Resize

variable {s : Size} {limit : UInt32}

/-- A portrait image from the limit on is bound by its height. -/
theorem scaledToLargestSide_of_portrait (hw : 1 ≤ s.width.toNat) (hh : 1 ≤ s.height.toNat)
    (hL : 1 ≤ limit.toNat) (hp : s.width.toNat < s.height.toNat)
    (hle : limit.toNat ≤ s.height.toNat) :
    s.scaledToLargestSide limit = .ok ⟨scaleSide s.width s.height limit, limit⟩ := by
  rcases scaledToLargestSide_cases hw hh hL with
    ⟨-, hlt, -⟩ | ⟨-, -, hres⟩ | ⟨hp', -, -⟩ | ⟨hp', -, -⟩
  · omega
  · exact hres
  all_goals omega

/-- Any other image past the limit is bound by its width. -/
theorem scaledToLargestSide_of_landscape (hw : 1 ≤ s.width.toNat) (hh : 1 ≤ s.height.toNat)
    (hL : 1 ≤ limit.toNat) (hp : s.height.toNat ≤ s.width.toNat)
    (hlt : limit.toNat < s.width.toNat) :
    s.scaledToLargestSide limit = .ok ⟨limit, scaleSide s.height s.width limit⟩ := by
  rcases scaledToLargestSide_cases hw hh hL with
    ⟨hp', -, -⟩ | ⟨hp', -, -⟩ | ⟨-, hle, -⟩ | ⟨-, -, hres⟩
  · omega
  · omega
  · omega
  · exact hres

/-- A resize of an image and a limit that are not zero has both sides between one and the
limit. -/
theorem scaledToLargestSide_within_limit (hw : 1 ≤ s.width.toNat) (hh : 1 ≤ s.height.toNat)
    (hL : 1 ≤ limit.toNat) :
    ∃ out, s.scaledToLargestSide limit = .ok out ∧ 1 ≤ out.width.toNat ∧ 1 ≤ out.height.toNat ∧
      out.width.toNat ≤ limit.toNat ∧ out.height.toNat ≤ limit.toNat := by
  rcases scaledToLargestSide_cases hw hh hL with
    ⟨hp, hlt, hres⟩ | ⟨hp, hle, hres⟩ | ⟨hp, hle, hres⟩ | ⟨hp, hlt, hres⟩
  · exact ⟨s, hres, hw, hh, by omega, by omega⟩
  · exact ⟨_, hres, one_le_scaleSide, hL,
      scaleSide_le (by omega) hL limit.toNat_lt (Nat.mul_le_mul_right _ hp.le), le_rfl⟩
  · exact ⟨s, hres, hw, hh, hle, by omega⟩
  · exact ⟨_, hres, hL, one_le_scaleSide, le_rfl,
      scaleSide_le (by omega) hL limit.toNat_lt (Nat.mul_le_mul_right _ hp)⟩

/-- An image is kept exactly when its longer side is within the limit. A portrait image as high
as the limit goes through the scaling branch, and comes back because its width is scaled by
one. -/
theorem scaledToLargestSide_eq_self_iff (hw : 1 ≤ s.width.toNat) (hh : 1 ≤ s.height.toNat)
    (hL : 1 ≤ limit.toNat) :
    s.scaledToLargestSide limit = .ok s ↔ max s.width.toNat s.height.toNat ≤ limit.toNat := by
  rcases scaledToLargestSide_cases hw hh hL with
    ⟨hp, hlt, hres⟩ | ⟨hp, hle, hres⟩ | ⟨hp, hle, hres⟩ | ⟨hp, hlt, hres⟩
  · -- a portrait image below the limit is kept
    simp only [hres, true_iff]
    omega
  · -- bound by its height, it is kept exactly when the height is the limit
    rw [hres, Except.ok.injEq]
    constructor
    · intro h
      have hlim : limit.toNat = s.height.toNat := congrArg (fun s : Size => s.height.toNat) h
      omega
    · intro hmax
      have hlim : limit = s.height := UInt32.toNat_inj.1 (by omega)
      rw [hlim, scaleSide_self hw hh]
  · -- any other image up to the limit is kept
    simp only [hres, true_iff]
    omega
  · -- bound by its width, its width becomes the limit, which is below it
    rw [hres, Except.ok.injEq]
    constructor
    · intro h
      have hlim : limit.toNat = s.width.toNat := congrArg (fun s : Size => s.width.toNat) h
      omega
    · intro hmax
      omega

/-- A resize keeps an image exactly when its longer side is within the limit, and resizing its
result again with the same limit keeps that result. -/
theorem scaledToLargestSide_eq_self_iff_idem (hw : 1 ≤ s.width.toNat)
    (hh : 1 ≤ s.height.toNat) (hL : 1 ≤ limit.toNat) :
    (s.scaledToLargestSide limit = .ok s ↔ max s.width.toNat s.height.toNat ≤ limit.toNat) ∧
      ∃ out, s.scaledToLargestSide limit = .ok out ∧ out.scaledToLargestSide limit = .ok out := by
  obtain ⟨out, hres, hw', hh', hwL, hhL⟩ := scaledToLargestSide_within_limit hw hh hL
  exact ⟨scaledToLargestSide_eq_self_iff hw hh hL, out, hres,
    (scaledToLargestSide_eq_self_iff hw' hh' hL).2 (max_le hwL hhL)⟩

/-- The tallest portrait image bound by its own height, where the product of its sides is no
float, is kept. -/
theorem scaledToLargestSide_eq_self_iff_idem_tallest :
    (1 ≤ (4294967294 : UInt32).toNat ∧ 1 ≤ (4294967295 : UInt32).toNat ∧
      1 ≤ (4294967295 : UInt32).toNat) ∧
      let s : Size := ⟨4294967294, 4294967295⟩
      (s.scaledToLargestSide 4294967295 = .ok s ↔
          max s.width.toNat s.height.toNat ≤ (4294967295 : UInt32).toNat) ∧
        ∃ out, s.scaledToLargestSide 4294967295 = .ok out ∧
          out.scaledToLargestSide 4294967295 = .ok out := by
  have h : 1 ≤ (4294967294 : UInt32).toNat ∧ 1 ≤ (4294967295 : UInt32).toNat ∧
      1 ≤ (4294967295 : UInt32).toNat := ⟨by decide, by decide, by decide⟩
  exact ⟨h, @scaledToLargestSide_eq_self_iff_idem ⟨4294967294, 4294967295⟩ 4294967295
    h.1 h.2.1 h.2.2⟩

/-- In both scaling branches the side not set to the limit is the ratio rounded in exact
arithmetic while the product of the other side and the limit is below `2^52`, and within one of
it at any size. -/
theorem scaledToLargestSide_scaled_side (hw : 1 ≤ s.width.toNat) (hh : 1 ≤ s.height.toNat)
    (hL : 1 ≤ limit.toNat) :
    (s.width.toNat < s.height.toNat → limit.toNat ≤ s.height.toNat →
      ∃ v : UInt32, s.scaledToLargestSide limit = .ok ⟨v, limit⟩ ∧
        (s.width.toNat * limit.toNat < 2 ^ 52 →
          v.toNat = exactScaledSide s.width.toNat s.height.toNat limit.toNat) ∧
        v.toNat ≤ exactScaledSide s.width.toNat s.height.toNat limit.toNat + 1 ∧
        exactScaledSide s.width.toNat s.height.toNat limit.toNat ≤ v.toNat + 1) ∧
    (s.height.toNat ≤ s.width.toNat → limit.toNat < s.width.toNat →
      ∃ v : UInt32, s.scaledToLargestSide limit = .ok ⟨limit, v⟩ ∧
        (s.height.toNat * limit.toNat < 2 ^ 52 →
          v.toNat = exactScaledSide s.height.toNat s.width.toNat limit.toNat) ∧
        v.toNat ≤ exactScaledSide s.height.toNat s.width.toNat limit.toNat + 1 ∧
        exactScaledSide s.height.toNat s.width.toNat limit.toNat ≤ v.toNat + 1) :=
  ⟨fun hp hle => ⟨_, scaledToLargestSide_of_portrait hw hh hL hp hle,
      toNat_scaleSide_of_lt hh hp.le, toNat_scaleSide_near hh hp.le⟩,
    fun hp hlt => ⟨_, scaledToLargestSide_of_landscape hw hh hL hp hlt,
      toNat_scaleSide_of_lt hw hp, toNat_scaleSide_near hw hp⟩⟩

/-- A portrait image bound by its height, from the tests of the resize. -/
theorem scaledToLargestSide_scaled_side_tall :
    (1 ≤ (3000 : UInt32).toNat ∧ 1 ≤ (4000 : UInt32).toNat ∧ 1 ≤ (1000 : UInt32).toNat) ∧
      let s : Size := ⟨3000, 4000⟩
      (s.width.toNat < s.height.toNat → (1000 : UInt32).toNat ≤ s.height.toNat →
        ∃ v : UInt32, s.scaledToLargestSide 1000 = .ok ⟨v, 1000⟩ ∧
          (s.width.toNat * (1000 : UInt32).toNat < 2 ^ 52 →
            v.toNat = exactScaledSide s.width.toNat s.height.toNat (1000 : UInt32).toNat) ∧
          v.toNat ≤ exactScaledSide s.width.toNat s.height.toNat (1000 : UInt32).toNat + 1 ∧
          exactScaledSide s.width.toNat s.height.toNat (1000 : UInt32).toNat ≤ v.toNat + 1) ∧
      (s.height.toNat ≤ s.width.toNat → (1000 : UInt32).toNat < s.width.toNat →
        ∃ v : UInt32, s.scaledToLargestSide 1000 = .ok ⟨1000, v⟩ ∧
          (s.height.toNat * (1000 : UInt32).toNat < 2 ^ 52 →
            v.toNat = exactScaledSide s.height.toNat s.width.toNat (1000 : UInt32).toNat) ∧
          v.toNat ≤ exactScaledSide s.height.toNat s.width.toNat (1000 : UInt32).toNat + 1 ∧
          exactScaledSide s.height.toNat s.width.toNat (1000 : UInt32).toNat ≤ v.toNat + 1) := by
  have h : 1 ≤ (3000 : UInt32).toNat ∧ 1 ≤ (4000 : UInt32).toNat ∧
      1 ≤ (1000 : UInt32).toNat := ⟨by decide, by decide, by decide⟩
  exact ⟨h, @scaledToLargestSide_scaled_side ⟨3000, 4000⟩ 1000 h.1 h.2.1 h.2.2⟩

/-- Past `2^52` the quotient can round onto a half: the width of this image bound by its height
is one more than the ratio rounded in exact arithmetic. -/
theorem scaledToLargestSide_scaled_side_ne_exact :
    (Size.mk 2669542067 2703296011).scaledToLargestSide 2251681408 =
        .ok ⟨2223566423, 2251681408⟩ ∧
      exactScaledSide 2669542067 2703296011 2251681408 = 2223566422 :=
  ⟨by rfl, by decide⟩

end Resize

end Framing
