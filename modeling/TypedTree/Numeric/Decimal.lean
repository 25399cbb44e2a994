import TypedTree.Numeric.Binary64

/-!
# Decimal spellings of floating-point numbers

The text of a number has the fewest digits that read back as the same number, and among those the
nearest. It is positional between `1e-4` and `1e16` and scientific outside. Reading a decimal
rounds to the nearest number.
-/

namespace TypedTree

/-- The value `digits * 10 ^ exponent`. -/
structure Decimal where
  digits : Nat
  exponent : Int
deriving DecidableEq, Repr

def decimalDigits (n : Nat) : List Char :=
  Nat.toDigits 10 n

namespace Decimal

/-- A quotient of naturals, for exact comparison. -/
structure Ratio where
  numerator : Nat
  denominator : Nat

/-- Whether the first quotient is at most the second. -/
def Ratio.le (x y : Ratio) : Bool :=
  x.numerator * y.denominator ≤ y.numerator * x.denominator

/-- Whether the first quotient is less than the second. -/
def Ratio.lt (x y : Ratio) : Bool :=
  x.numerator * y.denominator < y.numerator * x.denominator

def ratio (d : Decimal) : Ratio :=
  ⟨d.digits * Nat.pow 10 d.exponent.toNat, Nat.pow 10 (-d.exponent).toNat⟩

/-- The magnitude of a finite number. -/
def exact (x : Binary64) : Ratio :=
  ⟨x.magnitude, Nat.pow 2 1074⟩

/-- The midpoint between a finite number's magnitude and the next one below. The step below a
power of two is half the step above it. -/
def lowerBound (x : Binary64) : Ratio :=
  if x.fraction = 0 ∧ 1 < x.exponentBits then
    ⟨(4 * x.significand - 1) * Nat.pow 2 x.shift, 4 * Nat.pow 2 1074⟩
  else
    ⟨(2 * x.significand - 1) * Nat.pow 2 x.shift, 2 * Nat.pow 2 1074⟩

/-- The midpoint between a finite number's magnitude and the next one above. -/
def upperBound (x : Binary64) : Ratio :=
  ⟨(2 * x.significand + 1) * Nat.pow 2 x.shift, 2 * Nat.pow 2 1074⟩

/-- Whether the decimal reads back as the magnitude of `x`: it lies between the two midpoints, and
on one of them only if a tie rounds to `x`. -/
def readsBack (x : Binary64) (d : Decimal) : Bool :=
  if x.isEven then (lowerBound x).le d.ratio && d.ratio.le (upperBound x)
  else (lowerBound x).lt d.ratio && d.ratio.lt (upperBound x)

/-- The position of the leading digit: the greatest `e` with `10 ^ e` at most the quotient, which
is at least `10 ^ (-400)`. -/
def leadingExponent (r : Ratio) : Int :=
  ((decimalDigits (r.numerator * Nat.pow 10 400 / r.denominator)).length : Int) - 401

/-- The two neighbours of a quotient on the grid of multiples of `10 ^ exponent`. -/
def neighbours (r : Ratio) (exponent : Int) : Decimal × Decimal :=
  let below :=
    r.numerator * Nat.pow 10 (-exponent).toNat / (r.denominator * Nat.pow 10 exponent.toNat)
  (⟨below, exponent⟩, ⟨below + 1, exponent⟩)

/-- Whether the upper neighbour on a grid is at least as near as the lower one. -/
def upperIsNearer (r : Ratio) (below above : Decimal) : Bool :=
  let low := below.ratio
  let high := above.ratio
  let sum : Ratio := ⟨low.numerator + high.numerator, low.denominator⟩
  sum.le ⟨2 * r.numerator, r.denominator⟩

/-- The nearer of the two grid neighbours that read back, if one does. -/
def onGrid? (x : Binary64) (exponent : Int) : Option Decimal :=
  let r := exact x
  let (below, above) := neighbours r exponent
  match readsBack x below, readsBack x above with
  | true, true => some (if upperIsNearer r below above then above else below)
  | true, false => some below
  | false, true => some above
  | false, false => none

/-- Moves the trailing zeros of the digits into the exponent. -/
def normalizeWith : Nat → Decimal → Decimal
  | 0, d => d
  | fuel + 1, d =>
    if d.digits % 10 = 0 then normalizeWith fuel ⟨d.digits / 10, d.exponent + 1⟩ else d

/-- The decimal without trailing zeros. -/
def normalize (d : Decimal) : Decimal :=
  normalizeWith (decimalDigits d.digits).length d

/-- The shortest decimal that reads back as the magnitude of a finite number other than zero.
Seventeen digits always suffice. -/
def shortest (x : Binary64) : Decimal :=
  let leading := leadingExponent (exact x)
  let grids := (List.range 17).map fun (count : Nat) => leading - count
  match grids.findSome? (onGrid? x) with
  | some d => d.normalize
  | none => (neighbours (exact x) (leading - 16)).1.normalize

/-- The exponent of the first digit. -/
def scientificExponent (d : Decimal) : Int :=
  d.exponent + (decimalDigits d.digits).length - 1

/-- Digits around a point, with at least one on either side. -/
def positional (d : Decimal) : List Char :=
  let digits := decimalDigits d.digits
  if 0 ≤ d.exponent then
    digits ++ List.replicate d.exponent.toNat '0' ++ ['.', '0']
  else
    let places := (-d.exponent).toNat
    if places < digits.length then
      digits.take (digits.length - places) ++ '.' :: digits.drop (digits.length - places)
    else
      '0' :: '.' :: List.replicate (places - digits.length) '0' ++ digits

/-- One digit in front of the point, no point behind a single digit, then the exponent. -/
def scientific (d : Decimal) : List Char :=
  let exponent := (toString d.scientificExponent).toList
  match decimalDigits d.digits with
  | [] => []
  | [digit] => digit :: 'e' :: exponent
  | digit :: rest => digit :: '.' :: rest ++ 'e' :: exponent

end Decimal

namespace Binary64

/-- The text of a number's magnitude, zero included. -/
def magnitudeText (x : Binary64) : List Char :=
  if x.isZero then ['0', '.', '0']
  else
    let d := Decimal.shortest x
    if -4 ≤ d.scientificExponent ∧ d.scientificExponent < 16 then d.positional else d.scientific

/-- The text of a number. The sign of zero is kept, the sign of a NaN is not shown. -/
def text (x : Binary64) : String :=
  if x.isNaN then "NaN"
  else
    let magnitude := if x.isFinite then x.magnitudeText else ['i', 'n', 'f']
    String.ofList (if x.isNegative then '-' :: magnitude else magnitude)

end Binary64

/-! ## Reading -/

/-- The value of a run of decimal digits. -/
def digitsValue (digits : List Char) : Nat :=
  digits.foldl (fun n c => 10 * n + (c.toNat - '0'.toNat)) 0

/-- Why a text is not a number. -/
inductive FloatFault where
  | empty
  | invalid
deriving DecidableEq, Repr

namespace FloatFault

def message : FloatFault → String
  | empty => "cannot parse float from empty string"
  | invalid => "invalid float literal"

end FloatFault

namespace Binary64

/-- The number nearest to `digits * 10 ^ exponent`. Exponents that put the value far outside the
range are decided by the position of the leading digit alone. -/
def ofDecimal (negative : Bool) (digits : Nat) (exponent : Int) : Binary64 :=
  let top := exponent + (decimalDigits digits).length
  if digits = 0 then ofSign negative 0
  else if 400 < top then ofSign negative infinityBits
  else if top < -400 then ofSign negative 0
  else ofRatio negative (digits * Nat.pow 10 exponent.toNat) (Nat.pow 10 (-exponent).toNat)

/-- A signed decimal exponent: an optional sign and at least one digit. -/
def readExponent? (text : List Char) : Option Int :=
  let (negative, digits) := match text with
    | '-' :: rest => (true, rest)
    | '+' :: rest => (false, rest)
    | rest => (false, rest)
  if digits.isEmpty || !digits.all Char.isDigit then none
  else
    let value : Int := digitsValue digits
    some (if negative then -value else value)

/-- A number without its sign: a name in any case, or digits with at most one point, at least one
digit, and an optional exponent. -/
def readUnsigned? (negative : Bool) (text : List Char) : Option Binary64 :=
  let name := String.ofList (text.map Char.toLower)
  if name = "inf" ∨ name = "infinity" then some (ofSign negative infinityBits)
  else if name = "nan" then some (ofSign negative quietBits)
  else
    let whole := text.takeWhile Char.isDigit
    let afterWhole := text.drop whole.length
    let (places, rest) := match afterWhole with
      | '.' :: tail => (tail.takeWhile Char.isDigit, tail.dropWhile Char.isDigit)
      | tail => ([], tail)
    let exponent? := match rest with
      | [] => some 0
      | c :: tail => if c = 'e' ∨ c = 'E' then readExponent? tail else none
    if whole.isEmpty && places.isEmpty then none
    else exponent?.map fun exponent =>
      ofDecimal negative (digitsValue (whole ++ places)) (exponent - places.length)

/-- Reads a number: an optional sign, then a name or digits. -/
def parse (text : String) : Except FloatFault Binary64 :=
  let read (negative : Bool) (rest : List Char) : Except FloatFault Binary64 :=
    match readUnsigned? negative rest with
    | some x => .ok x
    | none => .error .invalid
  match text.toList with
  | [] => .error .empty
  | '-' :: rest => read true rest
  | '+' :: rest => read false rest
  | rest => read false rest

end Binary64

end TypedTree
