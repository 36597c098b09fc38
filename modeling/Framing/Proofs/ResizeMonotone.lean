import Framing.Proofs.ScaledSide
import Framing.Proofs.Binary64.Monotone

/-!
# Raising the limit

A resize bounds one side by the limit and scales the other by the same factor. Both branches
of each orientation are one formula: a portrait image gets the height `min height limit` and
its width scaled to it (`scaledToLargestSide_portrait_eq`), any other image the width
`min width limit` and its height scaled to it (`scaledToLargestSide_landscape_eq`). Where the
image is kept, that is a scaling by one, which `scaleSide_self` shows gives the side back.

`scaleSide` grows with its target: the rounded product, the rounded quotient and the rounding
to a whole number are each monotone (`scaleSide_mono`). As `min side limit` grows with the
limit, raising the limit never shrinks either side of the result, across the switch from the
scaling branch to the one that keeps the image as well (`scaledToLargestSide_mono_limit`).
-/

namespace Framing

open Binary64

section ScaleSide

variable {o c t t' : UInt32}

/-- A larger target gives a scaled side at least as large. -/
theorem scaleSide_mono (hc : 1 ≤ c.toNat) (h : t.toNat ≤ t'.toNat) :
    (scaleSide o c t).toNat ≤ (scaleSide o c t').toNat := by
  obtain ⟨hQf, hQv⟩ := toRat_scaleQuotient (o := o) (t := t) hc
  obtain ⟨hQf', hQv'⟩ := toRat_scaleQuotient (o := o) (t := t') hc
  -- the rounded product, then the rounded quotient, grow with the target
  have hprod : roundNearest ((o.toNat : ℚ) * t.toNat) ≤ roundNearest ((o.toNat : ℚ) * t'.toNat) :=
    roundNearest_mono (mul_le_mul_of_nonneg_left (by exact_mod_cast h) (by positivity))
  have hquot : toRat (o.toFloat * t.toFloat / c.toFloat) ≤
      toRat (o.toFloat * t'.toFloat / c.toFloat) := by
    rw [hQv, hQv']
    exact roundNearest_mono (div_le_div_of_nonneg_right hprod (by positivity))
  rw [scaleSide, scaleSide, UInt32.toNat_max, UInt32.toNat_max]
  exact max_le_max le_rfl (toNat_roundUInt32_mono hQf hQf' hquot)

end ScaleSide

section Resize

variable {s : Size} {limit : UInt32}

/-- A portrait image gets the height `min height limit`, and its width scaled to it. -/
theorem scaledToLargestSide_portrait_eq (hw : 1 ≤ s.width.toNat) (hh : 1 ≤ s.height.toNat)
    (hL : 1 ≤ limit.toNat) (hp : s.width.toNat < s.height.toNat) :
    s.scaledToLargestSide limit =
      .ok ⟨scaleSide s.width s.height (min s.height limit), min s.height limit⟩ := by
  rcases scaledToLargestSide_cases hw hh hL with
    ⟨-, hlt, hres⟩ | ⟨-, hle, hres⟩ | ⟨hp', -, -⟩ | ⟨hp', -, -⟩
  · -- kept below the limit: the width scaled by one
    have hmin : min s.height limit = s.height :=
      UInt32.toNat_inj.1 (by rw [UInt32.toNat_min]; omega)
    rw [hres, hmin, scaleSide_self hw hh]
  · have hmin : min s.height limit = limit :=
      UInt32.toNat_inj.1 (by rw [UInt32.toNat_min]; omega)
    rw [hres, hmin]
  · omega
  · omega

/-- Any other image gets the width `min width limit`, and its height scaled to it. -/
theorem scaledToLargestSide_landscape_eq (hw : 1 ≤ s.width.toNat) (hh : 1 ≤ s.height.toNat)
    (hL : 1 ≤ limit.toNat) (hp : s.height.toNat ≤ s.width.toNat) :
    s.scaledToLargestSide limit =
      .ok ⟨min s.width limit, scaleSide s.height s.width (min s.width limit)⟩ := by
  rcases scaledToLargestSide_cases hw hh hL with
    ⟨hp', -, -⟩ | ⟨hp', -, -⟩ | ⟨-, hle, hres⟩ | ⟨-, hlt, hres⟩
  · omega
  · omega
  · -- kept up to the limit: the height scaled by one
    have hmin : min s.width limit = s.width :=
      UInt32.toNat_inj.1 (by rw [UInt32.toNat_min]; omega)
    rw [hres, hmin, scaleSide_self hh hw]
  · have hmin : min s.width limit = limit :=
      UInt32.toNat_inj.1 (by rw [UInt32.toNat_min]; omega)
    rw [hres, hmin]

/-- Raising the limit never shrinks either side of a resize. -/
theorem scaledToLargestSide_mono_limit {limit₁ limit₂ : UInt32} (hw : 1 ≤ s.width.toNat)
    (hh : 1 ≤ s.height.toNat) (hL : 1 ≤ limit₁.toNat) (hle : limit₁.toNat ≤ limit₂.toNat) :
    ∃ out₁ out₂, s.scaledToLargestSide limit₁ = .ok out₁ ∧
      s.scaledToLargestSide limit₂ = .ok out₂ ∧
      out₁.width.toNat ≤ out₂.width.toNat ∧ out₁.height.toNat ≤ out₂.height.toNat := by
  have hL₂ : 1 ≤ limit₂.toNat := hL.trans hle
  by_cases hp : s.width.toNat < s.height.toNat
  · -- bound by the height, which is `min height limit` and grows with the limit
    have hmin : (min s.height limit₁).toNat ≤ (min s.height limit₂).toNat := by
      rw [UInt32.toNat_min, UInt32.toNat_min]
      omega
    exact ⟨_, _, scaledToLargestSide_portrait_eq hw hh hL hp,
      scaledToLargestSide_portrait_eq hw hh hL₂ hp, scaleSide_mono hh hmin, hmin⟩
  · -- bound by the width, likewise
    have hmin : (min s.width limit₁).toNat ≤ (min s.width limit₂).toNat := by
      rw [UInt32.toNat_min, UInt32.toNat_min]
      omega
    exact ⟨_, _, scaledToLargestSide_landscape_eq hw hh hL (by omega),
      scaledToLargestSide_landscape_eq hw hh hL₂ (by omega), hmin, scaleSide_mono hw hmin⟩

/-- A portrait image bound by its height at the lower limit and kept at the higher one. -/
theorem scaledToLargestSide_mono_limit_across :
    (1 ≤ (3000 : UInt32).toNat ∧ 1 ≤ (4000 : UInt32).toNat ∧ 1 ≤ (1000 : UInt32).toNat ∧
      (1000 : UInt32).toNat ≤ (5000 : UInt32).toNat) ∧
      ∃ out₁ out₂, (Size.mk 3000 4000).scaledToLargestSide 1000 = .ok out₁ ∧
        (Size.mk 3000 4000).scaledToLargestSide 5000 = .ok out₂ ∧
        out₁.width.toNat ≤ out₂.width.toNat ∧ out₁.height.toNat ≤ out₂.height.toNat := by
  have h : 1 ≤ (3000 : UInt32).toNat ∧ 1 ≤ (4000 : UInt32).toNat ∧ 1 ≤ (1000 : UInt32).toNat ∧
      (1000 : UInt32).toNat ≤ (5000 : UInt32).toNat := ⟨by decide, by decide, by decide, by decide⟩
  exact ⟨h, scaledToLargestSide_mono_limit (s := ⟨3000, 4000⟩) h.1 h.2.1 h.2.2.1 h.2.2.2⟩

example : (Size.mk 4000 3000).scaledToLargestSide 1000 = .ok ⟨1000, 750⟩ ∧
    (Size.mk 4000 3000).scaledToLargestSide 2000 = .ok ⟨2000, 1500⟩ := by
  constructor <;> rfl

end Resize

end Framing
