import Framing.Number

/-!
# Geometry

Rectangles in binary64 coordinates, the placement of an item inside a viewport, and images in
whole pixels. Every edge, ratio and mapping is a single float operation per field, in the order
written, so the theorems about them are theorems about rounded arithmetic. A crop is given as
ratios of an image's sides and becomes a rectangle of pixels, checked against the image or
clamped into it; a share copy bounds the longer side. An operation on an image either gives its
result or one of the errors of `GeometryError`.
-/

namespace Framing

/-! ## Clamping

`clamp v lo hi` tests the lower bound first, so with `hi < lo` a value below `lo` gives `lo`. The
tests are strict comparisons, so a value that compares with neither bound (a NaN float) is
returned as it is.
-/

/-- `v` moved into `[lo, hi]`: `lo` if `v < lo`, else `hi` if `hi < v`, else `v`. -/
def clamp {α : Type} [LT α] [DecidableLT α] (v lo hi : α) : α :=
  if v < lo then lo else if hi < v then hi else v

theorem clamp_of_lt {α : Type} [LT α] [DecidableLT α] {v lo hi : α} (h : v < lo) :
    clamp v lo hi = lo := by
  simp [clamp, h]

theorem clamp_of_lt_hi {α : Type} [LT α] [DecidableLT α] {v lo hi : α} (h₁ : ¬ v < lo)
    (h₂ : hi < v) : clamp v lo hi = hi := by
  simp [clamp, h₁, h₂]

/-- A value that is below neither bound stays as it is. -/
theorem clamp_of_not_lt {α : Type} [LT α] [DecidableLT α] {v lo hi : α} (h₁ : ¬ v < lo)
    (h₂ : ¬ hi < v) : clamp v lo hi = v := by
  simp [clamp, h₁, h₂]

/-! ## Rectangles

A rectangle is a corner and a size in binary64 coordinates. Its edges and aspect ratio are single
float operations, equality compares the four fields with IEEE equality, and interpolation moves
each field separately.
-/

/-- A rectangle with top-left corner `(x, y)`. -/
structure Rect where
  x : Float
  y : Float
  width : Float
  height : Float
deriving Repr, Inhabited

namespace Rect

/-- The rectangle of the given size at the origin. -/
def ofSize (width height : Float) : Rect := ⟨0, 0, width, height⟩

/-- The right edge, `x + width`. -/
def right (r : Rect) : Float := r.x + r.width

/-- The bottom edge, `y + height`. -/
def bottom (r : Rect) : Float := r.y + r.height

/-- Width over height. -/
def aspectRatio (r : Rect) : Float := r.width / r.height

/-- Field-wise IEEE equality: a NaN field makes two rectangles differ, and `0.0` equals
`-0.0`. -/
def beq (a b : Rect) : Bool :=
  a.x == b.x && a.y == b.y && a.width == b.width && a.height == b.height

instance : BEq Rect := ⟨beq⟩

/-- The point `factor` of the way from `start` to `stop`, field by field, as
`start + factor * (stop - start)`: `0` gives `start`, `1` gives `stop` up to rounding, and other
factors extrapolate. -/
def interpolate (start stop : Rect) (factor : Float) : Rect where
  x := start.x + factor * (stop.x - start.x)
  y := start.y + factor * (stop.y - start.y)
  width := start.width + factor * (stop.width - start.width)
  height := start.height + factor * (stop.height - start.height)

end Rect

/-- A value whose position and size can be set one field at a time. -/
class Placeable (α : Type) where
  setX : α → Float → α
  setY : α → Float → α
  setWidth : α → Float → α
  setHeight : α → Float → α

instance : Placeable Rect where
  setX r v := { r with x := v }
  setY r v := { r with y := v }
  setWidth r v := { r with width := v }
  setHeight r v := { r with height := v }

/-- Gives `target` the position and size of `r`, setting `x`, `y`, `width` and `height` in
that order. -/
def Rect.placeInto {α : Type} [Placeable α] (r : Rect) (target : α) : α :=
  Placeable.setHeight (Placeable.setWidth (Placeable.setY (Placeable.setX target r.x) r.y)
    r.width) r.height

/-- Placing a rectangle into another rectangle copies all four fields. -/
theorem Rect.placeInto_rect (r target : Rect) : r.placeInto target = r := rfl

/-! ## Fitting an item into a viewport

`Rect.fitIn` places the largest box of the item's aspect ratio inside the viewport, centred, and
records the scale from item to viewport coordinates. `Fit.toViewport` and `Fit.toItem` map
rectangles across with that scale; `Rect.relativeTo` expresses one rectangle in units of
another.
-/

/-- A placement of an item inside a viewport: where it lands and by what factor it was scaled. -/
structure Fit where
  rect : Rect
  scale : Float
deriving Repr, Inhabited

/-- Fits `item` into `viewport`. An item with a zero side fills the viewport at scale `1`.
Otherwise the item is bound by the viewport's width when its aspect ratio is the larger one, by
the height else; the free side is scaled, both sides are clamped into the viewport, and the box
is centred. -/
def Rect.fitIn (item viewport : Rect) : Fit :=
  if item.width == 0 || item.height == 0 then ⟨viewport, 1⟩
  else
    let (scale, width, height) :=
      if viewport.aspectRatio < item.aspectRatio then
        let s := viewport.width / item.width
        (s, viewport.width, item.height * s)
      else
        let s := viewport.height / item.height
        (s, item.width * s, viewport.height)
    let width := clamp width 0 viewport.width
    let height := clamp height 0 viewport.height
    { rect :=
        { x := viewport.x + (viewport.width - width) / 2
          y := viewport.y + (viewport.height - height) / 2
          width, height }
      scale }

namespace Fit

/-- Maps a rectangle in item coordinates to viewport coordinates. -/
def toViewport (f : Fit) (r : Rect) : Rect where
  x := f.rect.x + r.x * f.scale
  y := f.rect.y + r.y * f.scale
  width := r.width * f.scale
  height := r.height * f.scale

/-- Maps a rectangle in viewport coordinates back to item coordinates. -/
def toItem (f : Fit) (r : Rect) : Rect where
  x := (r.x - f.rect.x) / f.scale
  y := (r.y - f.rect.y) / f.scale
  width := r.width / f.scale
  height := r.height / f.scale

end Fit

/-- `g` in units of `frame`: offsets from its corner and sizes, divided by its sides. -/
def Rect.relativeTo (g frame : Rect) : Rect where
  x := (g.x - frame.x) / frame.width
  y := (g.y - frame.y) / frame.height
  width := g.width / frame.width
  height := g.height / frame.height

/-! ## Image sizes and pixel rectangles

An image size is two unsigned 32-bit counts. A pixel rectangle has signed 32-bit fields; its
right and bottom edges exist only when the sum fits in 32 bits.
-/

/-- The width and height of an image in pixels. -/
structure Size where
  width : UInt32
  height : UInt32
deriving DecidableEq, Repr, Inhabited

namespace Size

/-- An image without pixels: one of its sides is zero. -/
def isEmpty (s : Size) : Bool := s.width == 0 || s.height == 0

/-- Taller than wide. -/
def isPortrait (s : Size) : Bool := s.width < s.height

end Size

/-- A rectangle of whole pixels. -/
structure PixelRect where
  x : Int32
  y : Int32
  width : Int32
  height : Int32
deriving DecidableEq, Repr, Inhabited

/-- `a + b` when the sum is a signed 32-bit integer, `none` when it overflows. -/
def Int32.addChecked? (a b : Int32) : Option Int32 :=
  let s := a.toInt + b.toInt
  if -Int.pow 2 31 ≤ s ∧ s < Int.pow 2 31 then some (Int32.ofInt s) else none

namespace PixelRect

/-- The right edge `x + width`, or `none` when it overflows. -/
def right? (p : PixelRect) : Option Int32 := Int32.addChecked? p.x p.width

/-- The bottom edge `y + height`, or `none` when it overflows. -/
def bottom? (p : PixelRect) : Option Int32 := Int32.addChecked? p.y p.height

end PixelRect

/-! ## Geometry errors

The three ways an image operation refuses its input, and the sentence for each. A rectangle in a
sentence is written with its field names, each coordinate in `Notation.compact`.
-/

/-- Why an image operation refused its input. -/
inductive GeometryError where
  /-- The crop, in pixels, leaves the image or covers no pixel. -/
  | invalidCrop (ratio : Rect) (image : Size)
  /-- A bound of zero for the longer side. -/
  | invalidLargestSide (side : UInt32)
  /-- An image with a zero side. -/
  | emptyImage (image : Size)
deriving Repr

/-- The rectangle as `Rect { x: 0.6, y: 0.0, width: 0.5, height: 0.5 }`. -/
def Rect.describe (r : Rect) : String :=
  let f := Notation.compact.write
  "Rect \x7b x: " ++ f r.x ++ ", y: " ++ f r.y ++ ", width: " ++ f r.width ++ ", height: " ++
    f r.height ++ " \x7d"

/-- `WxH` in decimal. -/
def Size.describe (s : Size) : String := toString s.width ++ "x" ++ toString s.height

/-- The sentence that reports the error. -/
def GeometryError.message : GeometryError → String
  | .invalidCrop ratio image =>
    "invalid cropping rectangle " ++ ratio.describe ++ " for " ++ image.describe ++ " image"
  | .invalidLargestSide side => "largest side must be positive, got " ++ toString side
  | .emptyImage image => "image has no pixels (" ++ image.describe ++ ")"

/-! ## Cropping by ratios

A crop is given as a rectangle of ratios of the image's sides. Each ratio times its side is
truncated toward zero into a signed 32-bit pixel count (NaN gives zero, values past the range
its end). `Rect.toPixels` refuses a crop that starts left of or above the image, is empty, or
reaches past its right or bottom edge; `Rect.toPixelsClamped` first clamps every ratio into
`[0, 1]` and refuses nothing.
-/

/-- `ratio * side` truncated toward zero into a pixel count. -/
def pixelsOf (ratio : Float) (side : UInt32) : Int32 :=
  Float.truncateInt32 (ratio * side.toFloat)

/-- Whether a pixel rectangle is a crop of the image: a nonnegative corner, a positive size, and
edges (summed without overflow) at most the image's sides. -/
def PixelRect.fitsIn (p : PixelRect) (image : Size) : Bool :=
  0 ≤ p.x.toInt && 0 ≤ p.y.toInt && 0 < p.width.toInt && 0 < p.height.toInt &&
    p.x.toInt + p.width.toInt ≤ image.width.toNat &&
    p.y.toInt + p.height.toInt ≤ image.height.toNat

namespace Rect

/-- Every ratio of `r` taken to pixels of `image`, with no check. -/
def scaleToPixels (r : Rect) (image : Size) : PixelRect where
  x := pixelsOf r.x image.width
  y := pixelsOf r.y image.height
  width := pixelsOf r.width image.width
  height := pixelsOf r.height image.height

/-- The pixels of the crop `ratio`, or `invalidCrop` when they are not a crop of the image. -/
def toPixels (ratio : Rect) (image : Size) : Except GeometryError PixelRect :=
  let p := ratio.scaleToPixels image
  if p.fitsIn image then .ok p else .error (.invalidCrop ratio image)

/-- Each ratio clamped into `[0, 1]`, a NaN kept. -/
def clampRatios (r : Rect) : Rect :=
  ⟨clamp r.x 0 1, clamp r.y 0 1, clamp r.width 0 1, clamp r.height 0 1⟩

/-- The pixels of the crop `ratio` after clamping each ratio into `[0, 1]`. -/
def toPixelsClamped (ratio : Rect) (image : Size) : PixelRect :=
  ratio.clampRatios.scaleToPixels image

end Rect

/-! ## Bounding the longer side

`Size.scaledToLargestSide` shrinks an image so that its longer side is at most a limit, keeping
the aspect ratio and never enlarging. A portrait image is bound by its height; a landscape or
square one by its width. The free side is rounded to the nearest pixel, halves up, and is at
least one pixel. The limit comes from `ResizeOptions`, which hold nothing else; the function
takes the limit they hold.
-/

/-- The bound on the longer side used when none is given. -/
def defaultLargestSide : UInt32 := 2048

/-- How a share copy is made: the bound on its longer side, in pixels. -/
structure ResizeOptions where
  largestSide : UInt32
deriving DecidableEq, Repr

/-- The options used when none are given. -/
def ResizeOptions.default : ResizeOptions := ⟨defaultLargestSide⟩

/-- The side `other * target / constrained`, rounded to the nearest whole pixel (a half away
from zero), computed in binary64 with the product first, and at least `1`. -/
def scaleSide (other constrained target : UInt32) : UInt32 :=
  max 1 (Float.roundUInt32 (other.toFloat * target.toFloat / constrained.toFloat))

/-- The size with the longer side at most `limit`. A zero limit and an empty image are refused,
the limit first. A portrait image is kept when `height < limit`, else its height becomes
`limit`; any other is kept when `width ≤ limit`, else its width becomes `limit`. -/
def Size.scaledToLargestSide (s : Size) (limit : UInt32) : Except GeometryError Size :=
  if limit = 0 then .error (.invalidLargestSide limit)
  else if s.isEmpty then .error (.emptyImage s)
  else if s.isPortrait then
    if s.height < limit then .ok s else .ok ⟨scaleSide s.width s.height limit, limit⟩
  else if s.width ≤ limit then .ok s
  else .ok ⟨limit, scaleSide s.height s.width limit⟩

/-- A zero bound is refused whatever the image. -/
theorem Size.scaledToLargestSide_zero (s : Size) :
    s.scaledToLargestSide 0 = .error (.invalidLargestSide 0) := by
  simp [Size.scaledToLargestSide]

/-- The default bound passes the check on the limit: with the default options only an empty image
is refused. -/
theorem Size.scaledToLargestSide_default_isOk (s : Size) :
    (s.scaledToLargestSide ResizeOptions.default.largestSide).isOk = !s.isEmpty := by
  have hlimit : ResizeOptions.default.largestSide ≠ 0 := by decide
  unfold Size.scaledToLargestSide
  cases s.isEmpty
  · -- a nonempty image gets a size on every branch
    simp only [hlimit, Bool.false_eq_true, if_false]
    split <;> split <;> rfl
  · simp [hlimit, Except.isOk, Except.toBool]

end Framing
