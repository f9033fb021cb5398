import AccessWindows.Text.Basic

/-!
# Floating-point numbers and their decimals

A `Binary64` is a number that a 64-bit floating-point word can hold, without its sign: a whole
number below `2 ^ 53` times a power of two not below `2 ^ (-1074)`. `ofRatio?` rounds a fraction to
the nearest such number, and products and quotients are rounded once from their exact values.

Of all decimals that round to a number, `shortest` takes one with the fewest digits, and of those
the nearest. To find it, the two neighbours of the number on the grids of 1, 2, ... 17 digits are
tested in whole-number arithmetic; the first grid on which one of them rounds to the number wins.

A decimal is written with or without an exponent, depending on where its leading digit stands. A
`DecimalFormat` fixes the bounds between the two. An exponent has a sign and no leading zeros.
-/

set_option autoImplicit false

namespace AccessWindows

/-! ## Magnitudes -/

/-- The number `significand * 2 ^ exponent`. -/
structure Binary64 where
  significand : Nat
  exponent : Int
deriving DecidableEq, Repr

namespace Binary64

/-- The least exponent. -/
def minExponent : Int := -1074

/-- The greatest exponent. -/
def maxExponent : Int := 971

/-- Zero. -/
def zero : Binary64 := ⟨0, minExponent⟩

/-- `base ^ k` as a whole number; one where `k` is negative. -/
def power (base : Nat) (k : Int) : Nat := Nat.pow base k.toNat

/-- Least significand of full precision. -/
def fullSignificand : Nat := Nat.pow 2 52

/-- Numerator of the number as a fraction. -/
def numerator (x : Binary64) : Nat := x.significand * power 2 x.exponent

/-- Denominator of the number as a fraction. -/
def denominator (x : Binary64) : Nat := power 2 (-x.exponent)

/-- The whole number nearest to `n / d`; halves go to the even neighbour. -/
def roundDiv (n d : Nat) : Nat :=
  let q := n / d
  let twice := 2 * (n % d)
  if twice < d then q else if d < twice then q + 1 else q + q % 2

/-- Exponent of the leading bit of `n / d`, for positive `n` and `d`. -/
def leadingBit (n d : Nat) : Int :=
  let e : Int := n.log2 - d.log2
  if d * power 2 e ≤ n * power 2 (-e) then e else e - 1

/-- The nearest number to `n / d`, unless that is beyond the greatest one. -/
def ofRatio? (n d : Nat) : Option Binary64 :=
  if n = 0 then some zero
  else
    let e := max (leadingBit n d - 52) minExponent
    let m := roundDiv (n * power 2 (-e)) (d * power 2 e)
    let x : Binary64 := if m = 2 * fullSignificand then ⟨fullSignificand, e + 1⟩ else ⟨m, e⟩
    if maxExponent < x.exponent then none else some x

/-- The product, unless it is beyond the greatest number. -/
def mul? (x y : Binary64) : Option Binary64 :=
  ofRatio? (x.numerator * y.numerator) (x.denominator * y.denominator)

/-- The quotient, unless it is beyond the greatest number. -/
def div? (x y : Binary64) : Option Binary64 :=
  ofRatio? (x.numerator * y.denominator) (x.denominator * y.numerator)

/-- Greatest power of ten that is a number. -/
def maxPower : Nat := 308

/-- `10 ^ k` rounded to a number, for `k` at most `maxPower`. -/
def powerOfTen (k : Nat) : Binary64 := (ofRatio? (power 10 k) 1).getD zero

/-- Multiply by a power of ten in at most `steps` divisions by the greatest one and one more step;
nothing if the result is beyond the greatest number. -/
def scale? : Nat → Binary64 → Int → Option Binary64
  | 0, x, _ => some x
  | steps + 1, x, k =>
      if x.significand = 0 then some zero
      else if k.natAbs ≤ maxPower then
        if 0 ≤ k then x.mul? (powerOfTen k.natAbs) else x.div? (powerOfTen k.natAbs)
      else if 0 ≤ k then none
      else do scale? steps (← x.div? (powerOfTen maxPower)) (k + maxPower)

/-- `significand * 10 ^ k` in floating-point steps: the significand is rounded first, then
multiplied or divided by a rounded power of ten. A significand below `2 ^ 64` is zero after two
divisions by the greatest power, so four steps are enough. -/
def ofDecimal? (significand : Nat) (k : Int) : Option Binary64 := do
  scale? 4 (← ofRatio? significand 1) k

end Binary64

/-! ## Shortest decimals -/

/-- The number `digits * 10 ^ exponent`. -/
structure Decimal where
  digits : Nat
  exponent : Int
deriving DecidableEq, Repr

namespace Binary64

/-- Exponent of the leading decimal digit of `n / d`, for positive `n` and `d`: a fraction at or
above one has one digit less before the point than its whole part, one below one is multiplied by
ten until it is not. -/
def leadingDigit (n d : Nat) : Int :=
  if d ≤ n then ((Digits.plain (n / d)).length : Int) - 1
  else -(((List.range 400).find? fun k : Nat => decide (d ≤ n * power 10 k)).getD 0 : Nat)

/-- Distance of two whole numbers. -/
def distance (a b : Nat) : Nat := (a - b) + (b - a)

/-- The nearest decimal with `count` digits that rounds to the number, if there is one. All sizes
are measured in quarters of the last place of the significand; the place below the least significand
is half as wide. -/
def onGrid? (x : Binary64) (count : Nat) : Option Decimal :=
  let narrow := x.significand = fullSignificand ∧ minExponent < x.exponent
  let value := 4 * x.significand
  let low := if narrow then value - 1 else value - 2
  let high := value + 2
  let e := leadingDigit x.numerator x.denominator - ((count : Int) - 1)
  let unit := power 2 (x.exponent - 2) * power 10 (-e)
  let step := power 2 (2 - x.exponent) * power 10 e
  let down := value * unit / step
  let rounds := fun (c : Nat) =>
    if x.significand % 2 = 0 then low * unit ≤ c * step ∧ c * step ≤ high * unit
    else low * unit < c * step ∧ c * step < high * unit
  let off := fun (c : Nat) => distance (c * step) (value * unit)
  if rounds down ∧ 0 < down then
    if rounds (down + 1) ∧
        (off (down + 1) < off down ∨ off (down + 1) = off down ∧ down % 2 = 1) then
      some ⟨down + 1, e⟩
    else some ⟨down, e⟩
  else if rounds (down + 1) then some ⟨down + 1, e⟩
  else none

/-- Drop zeros at the end of the digits. -/
def dropZeros : Nat → Decimal → Decimal
  | 0, x => x
  | steps + 1, x =>
      if x.digits ≠ 0 ∧ x.digits % 10 = 0 then dropZeros steps ⟨x.digits / 10, x.exponent + 1⟩
      else x

/-- The shortest decimal that rounds to the number; seventeen digits are always enough. -/
def shortest (x : Binary64) : Decimal :=
  if x.significand = 0 then ⟨0, 0⟩
  else dropZeros 17 (((List.range 17).findSome? fun k => x.onGrid? (k + 1)).getD ⟨0, 0⟩)

end Binary64

/-! ## Texts of decimals -/

/-- How decimals are laid out: those whose leading digit has an exponent from `least` through
`greatest` are written without an exponent, and all others with one. -/
structure DecimalFormat where
  least : Int
  greatest : Int

namespace DecimalFormat

/-- Without an exponent: a point, and at least one digit on each side of it. -/
def positional (ds : List Char) (leading : Int) : List Char :=
  if leading < 0 then
    '0' :: '.' :: (List.replicate ((-leading).toNat - 1) '0' ++ ds)
  else
    let whole := leading.toNat + 1
    let after := ds.drop whole
    (ds.take whole ++ List.replicate (whole - ds.length) '0') ++
      '.' :: (if after = [] then ['0'] else after)

/-- With an exponent: one digit, a point if more follow, and the signed exponent. -/
def scientific (ds : List Char) (leading : Int) : List Char :=
  let after := ds.drop 1
  ds.take 1 ++ (if after = [] then [] else '.' :: after) ++
    'e' :: (if leading < 0 then '-' else '+') :: Digits.plain leading.natAbs

/-- The text of a decimal. -/
def text (f : DecimalFormat) (x : Decimal) : List Char :=
  let ds := Digits.plain x.digits
  let leading := x.exponent + ds.length - 1
  if f.least ≤ leading ∧ leading ≤ f.greatest then positional ds leading
  else scientific ds leading

end DecimalFormat

end AccessWindows
