import Framing.Proofs.Crop

/-!
# The edges of an accepted crop

`PixelRect.right?` and `PixelRect.bottom?` add in 32 bits and fail on overflow, while
`Rect.toPixels` checks a crop against the image with exact sums. An accepted crop has a corner
that is not negative and a size of at least one pixel, and its edges, whenever they exist, lie
within the image (`toPixels_edges`). They exist whenever the image's side fits in 31 bits, since
then the exact edge is at most that side.

A wider side lets an accepted crop pass `2^31 - 1`: each half of a side of `2^32 - 1` pixels
saturates at `2^31 - 1`, the check accepts their sum `2^32 - 2`, and the right edge overflows
(`toPixels_right_overflows`).
-/

namespace Framing

/-! ## Checked addition -/

/-- A checked sum that exists is the exact sum. -/
theorem Int32.addChecked?_eq_some_iff {a b c : Int32} :
    Int32.addChecked? a b = some c ↔ c.toInt = a.toInt + b.toInt := by
  unfold Int32.addChecked?
  rw [show Int.pow 2 31 = 2 ^ 31 from rfl]
  dsimp only
  split_ifs with h
  · rw [Option.some.injEq, ← Int32.toInt_inj, Int32.toInt_ofInt_of_le h.1 h.2, eq_comm]
  · -- out of range, no 32-bit value is the sum
    simp only [false_iff]
    intro hc
    have h₁ := Int32.le_toInt c
    have h₂ := Int32.toInt_lt c
    omega

/-- A sum in range is computed. -/
theorem Int32.addChecked?_of_lt {a b : Int32} (h₁ : -2 ^ 31 ≤ a.toInt + b.toInt)
    (h₂ : a.toInt + b.toInt < 2 ^ 31) :
    ∃ c, Int32.addChecked? a b = some c ∧ c.toInt = a.toInt + b.toInt :=
  ⟨Int32.ofInt (a.toInt + b.toInt), Int32.addChecked?_eq_some_iff.2 (Int32.toInt_ofInt_of_le h₁ h₂),
    Int32.toInt_ofInt_of_le h₁ h₂⟩

/-! ## One axis of an accepted crop -/

section Axis

variable {start length : Int32} {side : ℕ}

/-- An accepted axis ends within the side when its sum exists, and its sum exists when the
side fits in 31 bits. -/
theorem addChecked?_axis (h₀ : 0 ≤ start.toInt) (h₁ : 0 < length.toInt)
    (h₂ : start.toInt + length.toInt ≤ side) :
    (∀ e, Int32.addChecked? start length = some e → e.toInt ≤ side) ∧
      (side < 2 ^ 31 → ∃ e, Int32.addChecked? start length = some e ∧ e.toInt ≤ side) := by
  refine ⟨fun e he => ?_, fun hs => ?_⟩
  · rw [Int32.addChecked?_eq_some_iff.1 he]
    exact h₂
  · obtain ⟨e, he, hv⟩ := Int32.addChecked?_of_lt
      (show -2 ^ 31 ≤ start.toInt + length.toInt by omega)
      (show start.toInt + length.toInt < 2 ^ 31 by omega)
    exact ⟨e, he, by rw [hv]; exact h₂⟩

end Axis

/-! ## The crop -/

/-- An accepted crop starts inside the image and covers at least one pixel each way; its right and
bottom edges, whenever the 32-bit sums exist, are at most the image's sides, and they exist when
those sides fit in 31 bits. -/
theorem toPixels_edges {ratio : Rect} {image : Size} {p : PixelRect}
    (h : ratio.toPixels image = .ok p) :
    0 ≤ p.x.toInt ∧ 0 ≤ p.y.toInt ∧ 1 ≤ p.width.toInt ∧ 1 ≤ p.height.toInt ∧
      (∀ r, p.right? = some r → r.toInt ≤ image.width.toNat) ∧
      (∀ b, p.bottom? = some b → b.toInt ≤ image.height.toNat) ∧
      (image.width.toNat < 2 ^ 31 → ∃ r, p.right? = some r ∧ r.toInt ≤ image.width.toNat) ∧
      (image.height.toNat < 2 ^ 31 →
        ∃ b, p.bottom? = some b ∧ b.toInt ≤ image.height.toNat) := by
  obtain ⟨hfits, rfl⟩ := toPixels_eq_ok_iff.1 h
  simp only [PixelRect.fitsIn, Bool.and_eq_true, decide_eq_true_eq] at hfits
  obtain ⟨⟨⟨⟨⟨hx, hy⟩, hw⟩, hh⟩, hxw⟩, hyh⟩ := hfits
  obtain ⟨hr₁, hr₂⟩ := addChecked?_axis hx hw hxw
  obtain ⟨hb₁, hb₂⟩ := addChecked?_axis hy hh hyh
  exact ⟨hx, hy, hw, hh, hr₁, hb₁, fun hs => hr₂ (by exact_mod_cast hs),
    fun hs => hb₂ (by exact_mod_cast hs)⟩

/-- Half of each side of an image `2^31 - 1` pixels wide, at its widest, is accepted, and both
edges exist. -/
theorem toPixels_edges_widest :
    Rect.toPixels ⟨0.5, 0, 0.5, 1⟩ ⟨2147483647, 1⟩ = .ok ⟨1073741823, 0, 1073741823, 1⟩ ∧
      (0 ≤ (1073741823 : Int32).toInt ∧ 0 ≤ (0 : Int32).toInt ∧ 1 ≤ (1073741823 : Int32).toInt ∧
        1 ≤ (1 : Int32).toInt ∧
        (∀ r, PixelRect.right? ⟨1073741823, 0, 1073741823, 1⟩ = some r →
          r.toInt ≤ (2147483647 : UInt32).toNat) ∧
        (∀ b, PixelRect.bottom? ⟨1073741823, 0, 1073741823, 1⟩ = some b →
          b.toInt ≤ (1 : UInt32).toNat) ∧
        ((2147483647 : UInt32).toNat < 2 ^ 31 →
          ∃ r, PixelRect.right? ⟨1073741823, 0, 1073741823, 1⟩ = some r ∧
            r.toInt ≤ (2147483647 : UInt32).toNat) ∧
        ((1 : UInt32).toNat < 2 ^ 31 →
          ∃ b, PixelRect.bottom? ⟨1073741823, 0, 1073741823, 1⟩ = some b ∧
            b.toInt ≤ (1 : UInt32).toNat)) := by
  have hok : Rect.toPixels ⟨0.5, 0, 0.5, 1⟩ ⟨2147483647, 1⟩ = .ok ⟨1073741823, 0, 1073741823, 1⟩ :=
    toPixels_eq_ok_iff.2 ⟨by decide +kernel, by decide +kernel⟩
  exact ⟨hok, toPixels_edges hok⟩

/-- On an image `2^32 - 1` pixels wide, the crop of two halves is accepted, and its right edge
overflows 32 bits. -/
theorem toPixels_right_overflows :
    Rect.toPixels ⟨0.5, 0, 0.5, 1⟩ ⟨4294967295, 1⟩ = .ok ⟨2147483647, 0, 2147483647, 1⟩ ∧
      PixelRect.right? ⟨2147483647, 0, 2147483647, 1⟩ = none :=
  ⟨toPixels_eq_ok_iff.2 ⟨by decide +kernel, by decide +kernel⟩, by decide⟩

end Framing
