/-!
# Binary floating-point numbers

A number is carried as its 64 bits, so that two numbers are the same exactly when their bits are,
and everything about it is computed in exact integer arithmetic. Every finite number is an integer
multiple of the least positive one, `2 ^ (-1074)`; that integer decides order and truncation.
-/

namespace TypedTree

/-- A floating-point number of 64 bits: sign, 11 exponent bits and 52 fraction bits. -/
structure Binary64 where
  bits : UInt64
deriving DecidableEq, Repr, Inhabited

namespace Binary64

def fraction (x : Binary64) : Nat :=
  x.bits.toNat % Nat.pow 2 52

def exponentBits (x : Binary64) : Nat :=
  x.bits.toNat / Nat.pow 2 52 % Nat.pow 2 11

/-- The sign bit. -/
def isNegative (x : Binary64) : Bool :=
  Nat.pow 2 63 ≤ x.bits.toNat

/-- Neither infinite nor a NaN. -/
def isFinite (x : Binary64) : Bool :=
  x.exponentBits != 2047

def isNaN (x : Binary64) : Bool :=
  x.exponentBits == 2047 && x.fraction != 0

/-- Positive or negative zero. -/
def isZero (x : Binary64) : Bool :=
  x.exponentBits == 0 && x.fraction == 0

/-- The significand `m` of the magnitude `m * 2 ^ x.exponent`. -/
def significand (x : Binary64) : Nat :=
  if x.exponentBits = 0 then x.fraction else Nat.pow 2 52 + x.fraction

/-- How far the significand is shifted up from the least exponent, `-1074`. -/
def shift (x : Binary64) : Nat :=
  x.exponentBits - 1

/-- The magnitude as a multiple of `2 ^ (-1074)`. An infinity counts as `2 ^ 2098`, which lies
above every finite magnitude. -/
def magnitude (x : Binary64) : Nat :=
  x.significand * Nat.pow 2 x.shift

/-- The signed multiple of `2 ^ (-1074)`. -/
def units (x : Binary64) : Int :=
  if x.isNegative then -(x.magnitude : Int) else x.magnitude

/-- Numerical order. A NaN is ordered with nothing, and the two zeros are equal. -/
def compare? (x y : Binary64) : Option Ordering :=
  if x.isNaN || y.isNaN then none else some (compare x.units y.units)

/-- The integer part of the magnitude of a finite number. -/
def wholePart (x : Binary64) : Nat :=
  x.magnitude / Nat.pow 2 1074

/-- A finite number without its fraction, rounded toward zero. -/
def truncate (x : Binary64) : Int :=
  if x.isNegative then -(x.wholePart : Int) else x.wholePart

def ofSign (negative : Bool) (magnitudeBits : Nat) : Binary64 :=
  ⟨UInt64.ofNat (if negative then Nat.pow 2 63 + magnitudeBits else magnitudeBits)⟩

def infinityBits : Nat := 2047 * Nat.pow 2 52

/-- The magnitude bits of the NaN without payload. -/
def quietBits : Nat := infinityBits + Nat.pow 2 51

/-- Quotient rounded to the nearest integer, a half to the even neighbour. -/
def roundHalfEven (numerator denominator : Nat) : Nat :=
  let quotient := numerator / denominator
  let twice := 2 * (numerator % denominator)
  if twice < denominator then quotient
  else if denominator < twice then quotient + 1
  else quotient + quotient % 2

/-- Magnitude bits of the number nearest to `numerator / denominator`, a half to the even
neighbour; a quotient beyond the range becomes infinity. -/
def nearestBits (numerator denominator : Nat) : Nat :=
  if numerator = 0 then 0
  else
    let estimate : Int := (numerator.log2 : Int) - denominator.log2 - 52
    let scaled := numerator * Nat.pow 2 (-estimate).toNat
    let below := scaled < Nat.pow 2 52 * denominator * Nat.pow 2 estimate.toNat
    let exponent := max (-1074) (if below then estimate - 1 else estimate)
    let rounded := roundHalfEven (numerator * Nat.pow 2 (-exponent).toNat)
      (denominator * Nat.pow 2 exponent.toNat)
    min infinityBits ((exponent + 1074).toNat * Nat.pow 2 52 + rounded)

/-- The number nearest to a signed quotient. -/
def ofRatio (negative : Bool) (numerator denominator : Nat) : Binary64 :=
  ofSign negative (nearestBits numerator denominator)

/-- The number nearest to an integer. -/
def ofInt (n : Int) : Binary64 :=
  ofRatio (n < 0) n.natAbs 1

/-- Whether the fraction lies on the even side, so that a tie rounds to this number. -/
def isEven (x : Binary64) : Bool :=
  x.significand % 2 == 0

end Binary64

end TypedTree
