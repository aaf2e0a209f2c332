/-
# Decimal numbers in double precision

`Decimal.nearest?` rounds a decimal to the nearest number of double precision, and `Binary.shortest`
is the shortest decimal that is rounded to a given number; of several the nearest.
-/

namespace Emend.Number

/-- The number `digits · 10 ^ exponent`. -/
structure Decimal where
  digits : Nat
  exponent : Int
  deriving Repr, DecidableEq

/-- The number `mantissa · 2 ^ exponent`. -/
structure Binary where
  mantissa : Nat
  exponent : Int
  deriving Repr, DecidableEq

/-- A positive quotient. -/
structure Ratio where
  num : Nat
  den : Nat
  deriving Repr, DecidableEq

namespace Ratio

/-- A quotient times a power. -/
def scale (r : Ratio) (base : Nat) (exponent : Int) : Ratio :=
  if 0 ≤ exponent then { r with num := r.num * base.pow exponent.toNat }
  else { r with den := r.den * base.pow (-exponent).toNat }

/-- The greatest whole number that is not greater. -/
def floor (r : Ratio) : Nat := r.num / r.den

/-- The nearest whole number; of two, the even one. -/
def round (r : Ratio) : Nat :=
  let whole := r.floor
  let twice := 2 * (r.num % r.den)
  if twice < r.den then whole
  else if r.den < twice then whole + 1
  else whole + whole % 2

/-- Whether one quotient is less than another. -/
def isLess (r s : Ratio) : Bool := r.num * s.den < s.num * r.den

/-- The number of places, at most `fuel`, by which a quotient below one has to be shifted to reach
one. -/
def placesBelow (r : Ratio) : (fuel : Nat) → Nat
  | 0 => 0
  | fuel + 1 => if r.den ≤ r.num then 0 else placesBelow { r with num := r.num * 10 } fuel + 1

/-- The power of ten of the first digit. -/
def leadingPower (r : Ratio) : Int :=
  if r.den ≤ r.num then ((Nat.toDigits 10 r.floor).length : Int) - 1
  else -(r.placesBelow 400 : Nat)

end Ratio

/-! ## Rounding -/

/-- The mantissas of double precision are less than this. -/
def mantissaBound : Nat := 1 <<< 53

/-- The least exponent of double precision. -/
def leastExponent : Int := -1074

/-- The greatest exponent of double precision. -/
def greatestExponent : Int := 971

/-- Decimals from this power of ten on are too great for double precision, and those below its
inverse too small. -/
def farPower : Int := 400

/-- The number of double precision nearest to a decimal, if it is not too great.  Of two, the one
with the even mantissa. -/
def Decimal.nearest? (d : Decimal) : Option Binary :=
  let power := ((Nat.toDigits 10 d.digits).length : Int) + d.exponent
  if d.digits = 0 || power < -farPower then some { mantissa := 0, exponent := leastExponent }
  else if farPower < power then none
  else
    let ratio := Ratio.scale { num := d.digits, den := 1 } 10 d.exponent
    let guess : Int := (ratio.num.log2 : Int) - ratio.den.log2 - 53
    let first := max guess leastExponent
    let exponent :=
      if mantissaBound ≤ (ratio.scale 2 (-first)).floor then first + 1 else first
    let mantissa := (ratio.scale 2 (-exponent)).round
    let rounded : Binary :=
      if mantissa = mantissaBound then { mantissa := mantissa / 2, exponent := exponent + 1 }
      else { mantissa, exponent }
    if greatestExponent < rounded.exponent then none else some rounded

/-! ## The shortest decimal -/

namespace Binary

/-- A number as a quotient. -/
def ratio (b : Binary) : Ratio := Ratio.scale { num := b.mantissa, den := 1 } 2 b.exponent

/-- The least number that is rounded to this one, or the bound below it. -/
def lower (b : Binary) : Ratio :=
  if b.mantissa = mantissaBound / 2 && leastExponent < b.exponent then
    Ratio.scale { num := 4 * b.mantissa - 1, den := 1 } 2 (b.exponent - 2)
  else Ratio.scale { num := 2 * b.mantissa - 1, den := 1 } 2 (b.exponent - 1)

/-- The greatest number that is rounded to this one, or the bound above it. -/
def upper (b : Binary) : Ratio :=
  Ratio.scale { num := 2 * b.mantissa + 1, den := 1 } 2 (b.exponent - 1)

/-- Whether a decimal is rounded to this number. -/
def isNear (b : Binary) (d : Decimal) : Bool :=
  let ratio := Ratio.scale { num := d.digits, den := 1 } 10 d.exponent
  if b.mantissa % 2 = 0 then !ratio.isLess b.lower && !b.upper.isLess ratio
  else b.lower.isLess ratio && ratio.isLess b.upper

/-- The shortest decimal, of `count` digits or more, that is rounded to this number; there is one
of fewer than `count + fuel` digits. -/
def shortestFrom (b : Binary) (power : Int) (count : Nat) : (fuel : Nat) → Decimal
  | 0 => { digits := 0, exponent := 0 }
  | fuel + 1 =>
    let exponent := power - (count : Int) + 1
    let scaled := b.ratio.scale 10 (-exponent)
    let below : Decimal := { digits := scaled.floor, exponent }
    let above : Decimal :=
      if scaled.floor + 1 = 10 ^ count then { digits := 1, exponent := exponent + count }
      else { digits := scaled.floor + 1, exponent }
    let aboveIsNearer := scaled.den < 2 * (scaled.num % scaled.den)
    let (nearer, farther) := if aboveIsNearer then (above, below) else (below, above)
    if b.isNear nearer then nearer
    else if b.isNear farther then farther
    else shortestFrom b power (count + 1) fuel

/-- The shortest decimal that is rounded to this number. -/
def shortest (b : Binary) : Decimal :=
  if b.mantissa = 0 then { digits := 0, exponent := 0 }
  else shortestFrom b b.ratio.leadingPower 1 17

end Binary

/-- A decimal with a point and at least one digit on each side of it, and no power of ten. -/
def Decimal.text (d : Decimal) : String :=
  let digits := Nat.toDigits 10 d.digits
  if 0 ≤ d.exponent then
    let zeros := if d.digits = 0 then 0 else d.exponent.toNat
    String.ofList (digits ++ List.replicate zeros '0' ++ ['.', '0'])
  else
    let places := (-d.exponent).toNat
    let padded := List.replicate (places + 1 - digits.length) '0' ++ digits
    String.ofList (padded.take (padded.length - places) ++ ['.']
      ++ padded.drop (padded.length - places))

end Emend.Number
