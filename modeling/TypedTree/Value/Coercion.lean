import TypedTree.Numeric.Decimal
import TypedTree.Numeric.Integer
import TypedTree.Text.Trim
import TypedTree.Text.Utf8
import TypedTree.Ty.Basic
import TypedTree.Value.Text

/-!
# Coercion

Turning scalar values towards the scalar type asked for, also under optionals. What has no coercion
passes through and is left to validation.
-/

namespace TypedTree

/-- A text that does not spell the number asked for. -/
inductive CoercionFault where
  | integer (text : String) (fault : IntegerFault)
  | float (text : String) (fault : FloatFault)
deriving DecidableEq, Repr

def CoercionFault.message : CoercionFault → String
  | .integer text fault => s!"invalid literal for int: '{text}' ({fault.message})"
  | .float text fault => s!"could not convert string to float: '{text}' ({fault.message})"

/-- The text without white space at its ends. -/
def trimmed (text : String) : String :=
  String.ofList (Text.trim text.toList)

/-- Coerces to an integer: truth values count one and zero, finite numbers lose their fraction and
stop at the ends of the range, strings are read. -/
def coerceToInt : Value → Except CoercionFault Value
  | .bool b => .ok (.int (if b then 1 else 0))
  | .float x => .ok (if x.isFinite then .int (Integer.saturate x.truncate) else .float x)
  | .str s =>
    match Integer.parse (trimmed s) with
    | .ok n => .ok (.int n)
    | .error fault => .error (.integer s fault)
  | v => .ok v

/-- Coerces to a floating-point number: integers are rounded to the nearest, strings are read. -/
def coerceToFloat : Value → Except CoercionFault Value
  | .int n => .ok (.float (.ofInt n.toInt))
  | .str s =>
    match Binary64.parse (trimmed s) with
    | .ok x => .ok (.float x)
    | .error fault => .error (.float s fault)
  | v => .ok v

/-- Coerces to a truth value: integers other than zero and strings that are not empty are true. -/
def coerceToBool : Value → Value
  | .int n => .bool (n != 0)
  | .str s => .bool (s != "")
  | v => v

/-- Coerces to a string: numbers and truth values become their texts. -/
def coerceToText : Value → Value
  | .int n => .str (toString n.toInt)
  | .float x => .str x.text
  | .bool b => .str (boolText b)
  | v => v

/-- Coerces to bytes: strings become their encoding. -/
def coerceToBytes : Value → Value
  | .str s => .bytes (Text.encode s)
  | v => v

def Scalar.coerce : Scalar → Value → Except CoercionFault Value
  | .int, v => coerceToInt v
  | .float, v => coerceToFloat v
  | .bool, v => .ok (coerceToBool v)
  | .str, v | .symbol _, v | .symbolRef, v => .ok (coerceToText v)
  | .bytes, v => .ok (coerceToBytes v)
  | .none, v => .ok v

def Ty.coerce : Ty → Value → Except CoercionFault Value
  | .optional inner, v => if v.isNone then .ok v else inner.coerce v
  | .scalar s, v => s.coerce v
  | _, v => .ok v

end TypedTree
