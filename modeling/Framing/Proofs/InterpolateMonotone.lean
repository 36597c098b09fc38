import Framing.Proofs.Interpolate
import Framing.Proofs.Binary64.Monotone

/-!
# Interpolation moves one way

Each field of `Rect.interpolate start stop factor` is `start + factor * (stop - start)`. A
finite difference has the sign of the exact one, since rounding keeps signs; multiplying by it
keeps the order of the factors when it is at least zero and reverses it when it is at most
zero; and adding the start keeps the order of the products, also where a large factor made
one of them an infinity. So along a field that rises from start to stop a larger factor never
gives a smaller value, and along one that falls never a larger one
(`interpolate_mono_factor`), in IEEE order, signed zeros and infinities included.

The argument needs the factor to enter each field once, in one product added to the start:
each operation is then monotone in what the factor changes.
-/

namespace Framing

open Binary64

/-! ## One field -/

section Field

variable {a b f₁ f₂ : Float}

/-- With a finite difference and finite factors in order, the point of the larger factor is no
nearer the start: past the other on a rising field, short of it on a falling one. -/
theorem interpolate_field_mono (ha : a.isFinite = true) (hb : b.isFinite = true)
    (hd : (b - a).isFinite = true) (hf₁ : f₁.isFinite = true) (hf₂ : f₂.isFinite = true)
    (hf : f₁ ≤ f₂) :
    (a ≤ b → a + f₁ * (b - a) ≤ a + f₂ * (b - a)) ∧
      (b ≤ a → a + f₂ * (b - a) ≤ a + f₁ * (b - a)) := by
  -- the difference is the exact one rounded, so it has the exact one's sign
  have hdv : toRat (b - a) = roundNearest (toRat b - toRat a) :=
    toRat_eq_of_roundsTo (Float.roundsTo_sub hb ha) hd
  constructor
  · intro hab
    have hd0 : 0 ≤ toRat (b - a) := by
      rw [hdv]
      exact roundNearest_nonneg (sub_nonneg.2 ((Float.le_iff ha hb).1 hab))
    exact Float.add_le_add_left ha (Float.mul_le_mul_of_toRat_nonneg hf₁ hf₂ hd hd0 hf)
  · intro hba
    have hd0 : toRat (b - a) ≤ 0 := by
      rw [hdv]
      exact roundNearest_nonpos (sub_nonpos.2 ((Float.le_iff hb ha).1 hba))
    exact Float.add_le_add_left ha (Float.mul_le_mul_of_toRat_nonpos hf₁ hf₂ hd hd0 hf)

end Field

/-! ## The rectangle -/

section Rectangle

variable {start stop : Rect} {f₁ f₂ : Float}

/-- Between finite rectangles whose differences are finite, a larger finite factor moves each
field no less far: a field that rises from start to stop does not fall, and one that falls
does not rise. -/
theorem interpolate_mono_factor (hs : start.Finite) (he : stop.Finite)
    (hg : start.GapsFinite stop) (hf₁ : f₁.isFinite = true) (hf₂ : f₂.isFinite = true)
    (hf : f₁ ≤ f₂) :
    ((start.x ≤ stop.x → (start.interpolate stop f₁).x ≤ (start.interpolate stop f₂).x) ∧
        (stop.x ≤ start.x → (start.interpolate stop f₂).x ≤ (start.interpolate stop f₁).x)) ∧
      ((start.y ≤ stop.y → (start.interpolate stop f₁).y ≤ (start.interpolate stop f₂).y) ∧
        (stop.y ≤ start.y → (start.interpolate stop f₂).y ≤ (start.interpolate stop f₁).y)) ∧
      ((start.width ≤ stop.width →
          (start.interpolate stop f₁).width ≤ (start.interpolate stop f₂).width) ∧
        (stop.width ≤ start.width →
          (start.interpolate stop f₂).width ≤ (start.interpolate stop f₁).width)) ∧
      ((start.height ≤ stop.height →
          (start.interpolate stop f₁).height ≤ (start.interpolate stop f₂).height) ∧
        (stop.height ≤ start.height →
          (start.interpolate stop f₂).height ≤ (start.interpolate stop f₁).height)) :=
  ⟨interpolate_field_mono hs.x he.x hg.x hf₁ hf₂ hf,
    interpolate_field_mono hs.y he.y hg.y hf₁ hf₂ hf,
    interpolate_field_mono hs.width he.width hg.width hf₁ hf₂ hf,
    interpolate_field_mono hs.height he.height hg.height hf₁ hf₂ hf⟩

/-- A rising and a falling field across most of the range of floats, where the larger factor
carries both to their infinities. -/
theorem interpolate_mono_factor_overflow :
    let start : Rect := ⟨-1, 2, 0, 5⟩
    let stop : Rect := ⟨1e308, -1e308, 0, 5⟩
    (start.Finite ∧ stop.Finite ∧ start.GapsFinite stop ∧ (0.5 : Float).isFinite = true ∧
        (1e300 : Float).isFinite = true ∧ (0.5 : Float) ≤ 1e300) ∧
      ((start.x ≤ stop.x → (start.interpolate stop 0.5).x ≤ (start.interpolate stop 1e300).x) ∧
          (stop.x ≤ start.x →
            (start.interpolate stop 1e300).x ≤ (start.interpolate stop 0.5).x)) ∧
        ((start.y ≤ stop.y → (start.interpolate stop 0.5).y ≤ (start.interpolate stop 1e300).y) ∧
          (stop.y ≤ start.y →
            (start.interpolate stop 1e300).y ≤ (start.interpolate stop 0.5).y)) ∧
        ((start.width ≤ stop.width →
            (start.interpolate stop 0.5).width ≤ (start.interpolate stop 1e300).width) ∧
          (stop.width ≤ start.width →
            (start.interpolate stop 1e300).width ≤ (start.interpolate stop 0.5).width)) ∧
        ((start.height ≤ stop.height →
            (start.interpolate stop 0.5).height ≤ (start.interpolate stop 1e300).height) ∧
          (stop.height ≤ start.height →
            (start.interpolate stop 1e300).height ≤ (start.interpolate stop 0.5).height)) := by
  intro start stop
  have h : start.Finite ∧ stop.Finite ∧ start.GapsFinite stop ∧ (0.5 : Float).isFinite = true ∧
      (1e300 : Float).isFinite = true ∧ (0.5 : Float) ≤ 1e300 :=
    ⟨⟨by decide +kernel, by decide +kernel, by decide +kernel, by decide +kernel⟩,
      ⟨by decide +kernel, by decide +kernel, by decide +kernel, by decide +kernel⟩,
      ⟨by decide +kernel, by decide +kernel, by decide +kernel, by decide +kernel⟩,
      by decide +kernel, by decide +kernel, by decide +kernel⟩
  exact ⟨h, interpolate_mono_factor h.1 h.2.1 h.2.2.1 h.2.2.2.1 h.2.2.2.2.1 h.2.2.2.2.2⟩

example : (Rect.interpolate ⟨-1, 2, 0, 5⟩ ⟨1e308, -1e308, 0, 5⟩ 1e300).x = Float.inf ∧
    (Rect.interpolate ⟨-1, 2, 0, 5⟩ ⟨1e308, -1e308, 0, 5⟩ 1e300).y = -Float.inf := by
  decide +kernel

end Rectangle

end Framing
