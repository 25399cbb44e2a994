import TypedTree.Validation.Mismatch

/-!
# Instance errors

Why a record cannot be constructed, changed or compared. An error names the causes; its wording
needs the catalog only for names and texts. A change in place that fails leaves something behind as
well.
-/

namespace TypedTree

/-- A failure on an instance of a record type. -/
inductive InstanceError where
  | typeMismatch (type : TypeId) (field : String) (value : Value) (reason : Mismatch)
  | checkFailed (type : TypeId) (field : String) (value : Value) (message : String)
  | rootCheckFailed (type : TypeId) (message : String)
  | missingField (type : TypeId) (field : String)
  | unexpectedArgument (type : TypeId) (field : String)
  | duplicateArgument (type : TypeId) (field : String)
  | notInstantiable (type : TypeId)
  | frozen (type : TypeId) (field : String)
  | unknownField (type : TypeId) (field : String)
  | duplicateSymbol (name : String) (scope : TypeId)
  | unhashable (value : Value)
  | conversionFailed (type : TypeId) (field : String) (value : Value) (message : String)
  | unorderedValues (left right : Value)
  | unorderedRecords (left right : TypeId)

namespace InstanceError

def field? : InstanceError → Option String
  | .typeMismatch _ field _ _ => some field
  | .checkFailed _ field _ _ => some field
  | .missingField _ field => some field
  | .unexpectedArgument _ field => some field
  | .duplicateArgument _ field => some field
  | .frozen _ field => some field
  | .unknownField _ field => some field
  | .conversionFailed _ field _ _ => some field
  | _ => none

def message (c : Catalog) : InstanceError → String
  | .typeMismatch t field value reason =>
    s!"in `{c.typeName t}.{field}` validation, got `{value.text c}`: {reason.message c}"
  | .checkFailed t field value text =>
    s!"in `{c.typeName t}.{field}` validation, `{value.text c}` was rejected: {text}"
  | .rootCheckFailed t text => s!"`{c.typeName t}` instance failed validation: {text}"
  | .missingField t field => s!"missing required argument `{field}` for `{c.typeName t}`"
  | .unexpectedArgument t field => s!"`{c.typeName t}` got an unexpected argument `{field}`"
  | .duplicateArgument t field => s!"argument `{field}` passed twice to `{c.typeName t}`"
  | .notInstantiable t => s!"trying to instantiate abstract type `{c.typeName t}`"
  | .frozen t field =>
    s!"trying to modify field `{field}` of a frozen `{c.typeName t}` instance"
  | .unknownField t field => s!"`{c.typeName t}` has no field `{field}`"
  | .duplicateSymbol name scope =>
    s!"symbol `{name}` is declared more than once in `{c.typeName scope}` scope"
  | .unhashable value =>
    s!"unhashable value `{value.text c}` used as set element or mapping key"
  | .conversionFailed t field value text =>
    s!"cannot convert `{value.text c}` for `{c.typeName t}.{field}`: {text}"
  | .unorderedValues left right =>
    s!"`{left.text c}` and `{right.text c}` cannot be ordered"
  | .unorderedRecords left right =>
    s!"`{c.typeName left}` and `{c.typeName right}` cannot be ordered"

end InstanceError

/-- What a change in place comes to: what is there afterwards or, beside the error, what a failed
change leaves there. -/
abbrev InPlace (ε σ : Type) := Except (ε × σ) σ

namespace InPlace

variable {ε ε' σ τ : Type}

/-- What is there afterwards, whether the change fails or not. -/
def left : InPlace ε σ → σ
  | .ok x => x
  | .error (_, x) => x

/-- A change of a part, as a change of the whole that it is put back into. -/
def within (put : σ → τ) : InPlace ε σ → InPlace ε τ
  | .ok x => .ok (put x)
  | .error (e, x) => .error (e, put x)

def relabelError (f : ε → ε') : InPlace ε σ → InPlace ε' σ
  | .ok x => .ok x
  | .error (e, x) => .error (f e, x)

end InPlace

end TypedTree
