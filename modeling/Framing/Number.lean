/-!
# Numbers

What the library does with the digits of a number. A `Float` is read off its bits into exact
parts; writing one, in the shortest decimal that reads back or with a fixed number of places,
and truncating or rounding one into a fixed-width integer are exact `Nat` and `Int` arithmetic
on those parts. Reading a literal rounds its decimal to the nearest binary64 value.
-/

namespace Framing

/-! ## Parts of a binary64 value

A `Float` is read off its bit pattern into a sign, an integer mantissa and a power of two, so
that every later rule about its text or its integer part is exact `Nat` arithmetic. Zero keeps
its sign: `-0.0` is `finite true 0 (-1074)`.
-/

/-- What the sixty-four bits of a binary64 value describe. A finite value is
`(-1)^sign * mantissa * 2^exponent`. -/
inductive FloatParts where
  | nan
  | infinite (negative : Bool)
  | finite (negative : Bool) (mantissa : Nat) (exponent : Int)
deriving DecidableEq, Repr

namespace FloatParts

/-- The sign bit, the eleven exponent bits and the fifty-two fraction bits of `x`; a normal
number gets its hidden bit, a subnormal one the least exponent. -/
def ofFloat (x : Float) : FloatParts :=
  let b := x.toBits.toNat
  let negative := b / Nat.pow 2 63 % 2 = 1
  let e : Nat := b / Nat.pow 2 52 % Nat.pow 2 11
  let f : Nat := b % Nat.pow 2 52
  if e = 2047 then
    if f = 0 then .infinite negative else .nan
  else if e = 0 then .finite negative f (-1074)
  else .finite negative (Nat.pow 2 52 + f) ((e : Int) - 1075)

end FloatParts

/-! ## Decimals

A decimal is a digit string times a power of ten. This module writes one out in the two
layouts the library prints: positionally (`0.00125`, `1500`) and with an exponent (`1.25e-3`).
-/

/-- The number `digits * 10 ^ exponent`. -/
structure Decimal where
  digits : Nat
  exponent : Int
deriving DecidableEq, Repr

namespace Decimal

/-- Moves trailing zeros of the digits into the exponent, so that a nonzero decimal has one
spelling. -/
def normalize (d : Decimal) : Decimal :=
  if h : d.digits ≠ 0 ∧ d.digits % 10 = 0 then
    normalize ⟨d.digits / 10, d.exponent + 1⟩
  else d
termination_by d.digits
decreasing_by exact Nat.div_lt_self (Nat.pos_of_ne_zero h.1) (by decide)

/-- The decimal digits of a natural number, most significant first. -/
def digitList (n : Nat) : List Char := (toString n).toList

/-- The exponent of the leading digit: `d` lies in `[10^e, 10^(e+1))` for `e = d.leading`. -/
def leading (d : Decimal) : Int := d.exponent + (digitList d.digits).length - 1

/-- Writes `d` without an exponent; a whole number gets `.0` when `pointZero` is set. -/
def positional (d : Decimal) (pointZero : Bool) : String :=
  let s := digitList d.digits
  if 0 ≤ d.exponent then
    String.ofList (s ++ List.replicate d.exponent.toNat '0') ++ (if pointZero then ".0" else "")
  else
    let f := d.exponent.natAbs
    if f < s.length then
      String.ofList (s.take (s.length - f) ++ '.' :: s.drop (s.length - f))
    else
      String.ofList ('0' :: '.' :: List.replicate (f - s.length) '0' ++ s)

/-- Writes `d` as one digit, the other digits after a point if there are any, and the exponent
of the leading digit after an `e`, as in `1e16` and `2.5e-7`. -/
def scientific (d : Decimal) : String :=
  match digitList d.digits with
  | [] => "0e0"
  | c :: rest =>
    String.ofList (if rest.isEmpty then [c] else c :: '.' :: rest) ++ "e" ++ toString d.leading

end Decimal

/-! ## The shortest decimal that reads back

A positive binary64 value `m * 2^q` is the nearest float to every real in an interval around it.
The decimal chosen for it is the one with the fewest digits in that interval; of two such
decimals on the same grid the nearer, and an exact tie goes to the upper one. All comparisons
are exact cross-multiplications in `Nat`.
-/

namespace Decimal

/-- Compares `a * 10^i` with `n * 2^j` exactly. -/
def compareScaled (a : Nat) (i : Int) (n : Nat) (j : Int) : Ordering :=
  compare (a * Nat.pow 10 i.toNat * Nat.pow 2 (-j).toNat)
    (n * Nat.pow 2 j.toNat * Nat.pow 10 (-i).toNat)

/-- The reals that round to a positive binary64 value: the ends `lower * 2^scale` and
`upper * 2^scale`, which belong to it when `closed` holds. -/
structure RoundingInterval where
  lower : Nat
  upper : Nat
  scale : Int
  closed : Bool
deriving DecidableEq, Repr

/-- The rounding interval of `m * 2^q`: half a unit to each side, except that a power of two
above the subnormal range has a gap below it half as wide. Ties round to an even mantissa,
so the ends are included exactly when `m` is even. -/
def RoundingInterval.of (m : Nat) (q : Int) : RoundingInterval where
  lower := if m = Nat.pow 2 52 ∧ q > -1074 then 4 * m - 1 else 4 * m - 2
  upper := 4 * m + 2
  scale := q - 2
  closed := m % 2 = 0

/-- Whether the decimal lies in the interval. -/
def RoundingInterval.contains (r : RoundingInterval) (d : Decimal) : Bool :=
  let below := compareScaled d.digits d.exponent r.lower r.scale
  let above := compareScaled d.digits d.exponent r.upper r.scale
  (below == .gt || (r.closed && below == .eq)) && (above == .lt || (r.closed && above == .eq))

/-- The least `k` with `m * 2^q < 10^k`, for `m > 0`. The estimate from the bit length is
at most one below it, and the search looks a little further on either side. -/
def scaleOf (m : Nat) (q : Int) : Int :=
  let bits : Int := (m.log2 : Int) + q
  let estimate := Int.fdiv (bits * 78913) 262144
  let candidates := [estimate - 1, estimate, estimate + 1, estimate + 2, estimate + 3]
  (candidates.find? (fun k => compareScaled 1 k m q == .gt)).getD (estimate + 3)

/-- The largest multiple of `10^j` at or below `m * 2^q`, counted in units of `10^j`. -/
def gridFloor (m : Nat) (q j : Int) : Nat :=
  (m * Nat.pow 2 q.toNat * Nat.pow 10 (-j).toNat) / (Nat.pow 2 (-q).toNat * Nat.pow 10 j.toNat)

/-- The neighbours of `m * 2^q` on the grid `10^j` that lie in its rounding interval: the
nearer of the two if both do, the upper one on an exact tie. -/
def onGrid (m : Nat) (q j : Int) : Option Decimal :=
  let r := RoundingInterval.of m q
  let a := gridFloor m q j
  let below : Decimal := ⟨a, j⟩
  let above : Decimal := ⟨a + 1, j⟩
  match r.contains below, r.contains above with
  | true, true =>
    -- the midpoint `(2a + 1) * 10^j / 2` against the value
    if compareScaled (2 * a + 1) j m (q + 1) == .gt then some below else some above
  | true, false => some below
  | false, true => some above
  | false, false => none

/-- The exact value `m * 2^q` as a decimal. -/
def ofBinary (m : Nat) (q : Int) : Decimal :=
  if 0 ≤ q then ⟨m * Nat.pow 2 q.toNat, 0⟩ else ⟨m * Nat.pow 5 q.natAbs, q⟩

/-- The decimal with the fewest significant digits that reads back as the positive binary64
value `m * 2^q`. Seventeen digits always suffice; the exact value stands behind them. -/
def shortest (m : Nat) (q : Int) : Decimal :=
  let k := scaleOf m q
  let found := (List.range 17).findSome? (fun n => onGrid m q (k - (n + 1 : Nat)))
  (found.getD (ofBinary m q)).normalize

end Decimal

/-! ## Writing a float

Two layouts of the shortest decimal (`Notation`) and one of a fixed number of places
(`fixed`). NaN is written `NaN` without a sign, the infinities `inf` and `-inf`, and a negative
zero keeps its sign.
-/

/-- Which layout the shortest decimal of a float gets. -/
structure Notation where
  /-- A value whose leading digit has exponent `e` with `lo ≤ e < hi` is written positionally,
  any other with an exponent; `none` writes every value positionally. -/
  positional : Option (Int × Int)
  /-- A whole number written positionally keeps one fractional digit, as in `1.0`. -/
  pointZero : Bool
deriving DecidableEq, Repr

namespace Notation

/-- Positional from `1e-4` up to below `1e16`, with an exponent elsewhere, and `1.0` for a whole
number: the form of a coordinate inside a message. -/
def compact : Notation := ⟨some (-4, 16), true⟩

/-- Always positional and `1` for a whole number: the form of a value in a sentence. -/
def plain : Notation := ⟨none, false⟩

/-- The text of a sign. -/
def signText (negative : Bool) : String := if negative then "-" else ""

/-- Writes `x` in the notation `n`. -/
def write (n : Notation) (x : Float) : String :=
  match FloatParts.ofFloat x with
  | .nan => "NaN"
  | .infinite negative => signText negative ++ "inf"
  | .finite negative m q =>
    if m = 0 then signText negative ++ (if n.pointZero then "0.0" else "0")
    else
      let d := Decimal.shortest m q
      let inRange := match n.positional with
        | none => true
        | some (lo, hi) => lo ≤ d.leading ∧ d.leading < hi
      signText negative ++ (if inRange then d.positional n.pointZero else d.scientific)

end Notation

/-- `num / den` rounded to the nearest natural number, a half going to the even neighbour. -/
def roundHalfEven (num den : Nat) : Nat :=
  let q := num / den
  let r := num % den
  if 2 * r < den then q
  else if den < 2 * r then q + 1
  else if q % 2 = 0 then q else q + 1

/-- Writes the exact value of `x` rounded to `places` digits after the point, a half going to
the even neighbour; a negative value keeps its sign even when it rounds to zero. -/
def fixed (places : Nat) (x : Float) : String :=
  match FloatParts.ofFloat x with
  | .nan => "NaN"
  | .infinite negative => Notation.signText negative ++ "inf"
  | .finite negative m q =>
    let n := roundHalfEven (m * Nat.pow 2 q.toNat * Nat.pow 10 places) (Nat.pow 2 (-q).toNat)
    let s := Decimal.digitList n
    let padded := List.replicate (places + 1 - s.length) '0' ++ s
    let body := if places = 0 then padded
      else padded.take (padded.length - places) ++ '.' :: padded.drop (padded.length - places)
    Notation.signText negative ++ String.ofList body

/-! ## Reading numbers

`readFloat` reads a decimal literal, with an optional sign, point and exponent, or one of the
words `inf`, `infinity` and `nan` in any case, and rounds it to the nearest binary64 value.
`readUInt32` reads an unsigned 32-bit integer. Both take the whole text: no blank around it,
no digit separator, no other base.
-/

/-- Why a text is not a float literal. -/
inductive FloatTextError where
  | empty
  | invalid
deriving DecidableEq, Repr

/-- The sentence that reports a float literal error. -/
def FloatTextError.message : FloatTextError → String
  | .empty => "cannot parse float from empty string"
  | .invalid => "invalid float literal"

/-- Why a text is not an unsigned integer. -/
inductive NumeralError where
  | empty
  | invalidDigit
  | tooLarge
deriving DecidableEq, Repr

/-- The sentence that reports an integer literal error. -/
def NumeralError.message : NumeralError → String
  | .empty => "cannot parse integer from empty string"
  | .invalidDigit => "invalid digit found in string"
  | .tooLarge => "number too large to fit in target type"

namespace Decimal

/-- The value of a list of decimal digits; the empty list is zero. -/
def ofDigitChars (cs : List Char) : Nat :=
  cs.foldl (fun n c => 10 * n + (c.toNat - '0'.toNat)) 0

/-- Reads `digits [. digits] [e [sign] digits]` with a digit somewhere before the exponent,
taking all of `cs`. -/
def ofLiteral? (cs : List Char) : Option Decimal :=
  let whole := cs.takeWhile Char.isDigit
  let afterWhole := cs.dropWhile Char.isDigit
  let (fraction, rest) := match afterWhole with
    | '.' :: r => (r.takeWhile Char.isDigit, r.dropWhile Char.isDigit)
    | r => ([], r)
  if whole.isEmpty && fraction.isEmpty then none
  else
    let digits := ofDigitChars (whole ++ fraction)
    let shift : Int := -(fraction.length : Int)
    match rest with
    | [] => some ⟨digits, shift⟩
    | e :: r =>
      if e = 'e' ∨ e = 'E' then
        let (negative, r) := match r with
          | '-' :: r => (true, r)
          | '+' :: r => (false, r)
          | r => (false, r)
        if !r.isEmpty && r.all Char.isDigit then
          let n : Int := ofDigitChars r
          some ⟨digits, shift + (if negative then -n else n)⟩
        else none
      else none

/-- The binary64 value nearest to the nonnegative decimal `d`. A decimal far beyond the largest
float is infinite and one far below half the least subnormal is zero, which spares the exact
rounding a huge power of ten. -/
def toFloat (d : Decimal) : Float :=
  if d.digits = 0 then 0
  else if 310 < d.leading then 1 / 0
  else if d.leading < -326 then 0
  else Float.ofScientific d.digits (decide (d.exponent < 0)) d.exponent.natAbs

end Decimal

/-- Whether the text is one of the words for infinity and NaN, compared without case. -/
def specialFloat? (cs : List Char) : Option Float :=
  let word := String.ofList (cs.map Char.toLower)
  if word = "inf" ∨ word = "infinity" then some (1 / 0)
  else if word = "nan" then some (0 / 0)
  else none

/-- Reads a float literal: an optional `+` or `-`, then a decimal literal or a word for
infinity or NaN; the value is rounded to the nearest binary64 value. -/
def readFloat (s : String) : Except FloatTextError Float :=
  match s.toList with
  | [] => .error .empty
  | c :: cs =>
    let (negative, body) :=
      if c = '-' then (true, cs) else if c = '+' then (false, cs) else (false, c :: cs)
    let signed := fun (x : Float) => if negative then -x else x
    if body.isEmpty then .error .invalid
    else match Decimal.ofLiteral? body with
      | some d => .ok (signed d.toFloat)
      | none => match specialFloat? body with
        | some x => .ok (signed x)
        | none => .error .invalid

/-- Reads digits into a number at most `bound`, failing at the first character that is no digit
or at the first digit that takes the number past the bound. -/
def readBounded (bound : Nat) : Nat → List Char → Except NumeralError Nat
  | n, [] => .ok n
  | n, c :: cs =>
    if c.isDigit then
      let m := 10 * n + (c.toNat - '0'.toNat)
      if bound < m then .error .tooLarge else readBounded bound m cs
    else .error .invalidDigit

/-- Reads an unsigned 32-bit integer: an optional `+` and at least one digit. -/
def readUInt32 (s : String) : Except NumeralError UInt32 :=
  let digits := match s.toList with
    | '+' :: r => if r.isEmpty then none else some r
    | r => if r.isEmpty then some [] else some r
  match digits with
  | none => .error .invalidDigit
  | some [] => .error .empty
  | some cs => (readBounded (Nat.pow 2 32 - 1) 0 cs).map Nat.toUInt32

/-! ## Whole numbers from floats

A float becomes a fixed-width integer in two steps: an integer in `Int` by a rounding rule, then
the nearest value of the target range. NaN becomes zero and an infinity the end of the range on
its side.
-/

namespace FloatParts

/-- The integer part of a finite value, rounding toward zero. -/
def towardZero : FloatParts → Option Int
  | .finite negative m e =>
    let n : Nat := if 0 ≤ e then m * Nat.pow 2 e.toNat else m / Nat.pow 2 e.natAbs
    some (if negative then -(n : Int) else n)
  | _ => none

/-- The integer nearest to a finite value, a half going away from zero. -/
def nearest : FloatParts → Option Int
  | .finite negative m e =>
    let n : Nat :=
      if 0 ≤ e then m * Nat.pow 2 e.toNat
      else (2 * m + Nat.pow 2 e.natAbs) / Nat.pow 2 (e.natAbs + 1)
    some (if negative then -(n : Int) else n)
  | _ => none

end FloatParts

/-- `n` moved into `[lo, hi]`. -/
def Int.saturate (lo hi n : Int) : Int := max lo (min hi n)

/-- The value of `x` as an integer of `[lo, hi]`, by the rounding rule `round`; NaN gives zero and
an infinity the end on its side. -/
def Float.toRange (round : FloatParts → Option Int) (lo hi : Int) (x : Float) : Int :=
  match FloatParts.ofFloat x with
  | .nan => 0
  | .infinite negative => if negative then lo else hi
  | p => Int.saturate lo hi ((round p).getD 0)

/-- `x` truncated toward zero into a signed 32-bit integer. -/
def Float.truncateInt32 (x : Float) : Int32 :=
  Int32.ofInt (Float.toRange FloatParts.towardZero (-Int.pow 2 31) (Int.pow 2 31 - 1) x)

/-- `x` rounded to the nearest unsigned 32-bit integer, a half away from zero. -/
def Float.roundUInt32 (x : Float) : UInt32 :=
  (Float.toRange FloatParts.nearest 0 (Int.pow 2 32 - 1) x).toNat.toUInt32

end Framing
