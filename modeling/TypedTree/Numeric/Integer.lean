/-!
# Integers of 64 bits

Reading of signed decimal integers, and conversions that stop at the ends of the range.
-/

namespace TypedTree

/-- Why a text is not an integer. -/
inductive IntegerFault where
  | empty
  | invalidDigit
  | tooLarge
  | tooSmall
deriving DecidableEq, Repr

namespace IntegerFault

def message : IntegerFault → String
  | empty => "cannot parse integer from empty string"
  | invalidDigit => "invalid digit found in string"
  | tooLarge => "number too large to fit in target type"
  | tooSmall => "number too small to fit in target type"

end IntegerFault

namespace Integer

def least : Int := -0x8000000000000000

def greatest : Int := 0x7FFFFFFFFFFFFFFF

/-- The nearest integer of the range. -/
def saturate (n : Int) : Int64 :=
  Int64.ofInt (max least (min greatest n))

/-- The integer itself, if it lies in the range. -/
def ofInt? (n : Int) : Option Int64 :=
  if least ≤ n ∧ n ≤ greatest then some (Int64.ofInt n) else none

/-- Appends digits to a value that lies in the range. The first character that is no digit, or that
leaves the range, decides. -/
def readDigits (negative : Bool) (value : Int) : List Char → Except IntegerFault Int
  | [] => .ok value
  | c :: rest =>
    if c.isDigit then
      let digit : Int := c.toNat - '0'.toNat
      let next := if negative then 10 * value - digit else 10 * value + digit
      if next < least then .error .tooSmall
      else if greatest < next then .error .tooLarge
      else readDigits negative next rest
    else .error .invalidDigit

/-- Digits behind an optional sign; a sign alone is no integer. -/
def readSigned : List Char → Except IntegerFault Int
  | [] => .error .empty
  | ['+'] => .error .invalidDigit
  | ['-'] => .error .invalidDigit
  | '-' :: digits => readDigits true 0 digits
  | '+' :: digits => readDigits false 0 digits
  | digits => readDigits false 0 digits

/-- Reads an optional sign and decimal digits. -/
def parse (text : String) : Except IntegerFault Int64 :=
  (readSigned text.toList).map Int64.ofInt

end Integer

end TypedTree
