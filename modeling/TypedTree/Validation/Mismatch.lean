import TypedTree.Ty.Text

/-!
# Mismatches

Why a value does not match a type description: the reason at the place where the first part fails,
wrapped once for each container around it.
-/

namespace TypedTree

/-- Why a value does not match. -/
inductive Mismatch where
  | shape (expected : Ty) (found : Value)
  | alternatives (expected : Ty) (found : Value)
  | literal (expected : Ty) (found : Value)
  | pattern (expected : SymbolPattern) (found : String)
  | length (expected found : Nat)
  | element (index : Nat) (reason : Mismatch)
  | key (key : Value) (reason : Mismatch)
  | entry (key : Value) (reason : Mismatch)

namespace Mismatch

/-- The position of the element that fails, in a tuple, list or set. For a wrong length it is the
first position that only one of the two sides has. -/
def index? : Mismatch → Option Nat
  | .length expected found => some (min found expected)
  | .element i _ => some i
  | _ => none

def message (c : Catalog) : Mismatch → String
  | .shape expected found =>
    s!"expected {expected.text c}, got {found.kindName c} `{found.text c}`"
  | .alternatives expected found =>
    s!"`{found.text c}` fails for all the alternatives of {expected.text c}"
  | .literal expected found => s!"`{found.text c}` does not match {expected.text c}"
  | .pattern expected found =>
    s!"`{found}` does not match symbol pattern `{expected.source}`"
  | .length expected found =>
    s!"tuple contains {found} elements instead of {expected} " ++
      s!"(mismatch at index {min found expected})"
  | .element i reason => s!"invalid value at index {i}: {reason.message c}"
  | .key k reason => s!"invalid key `{k.text c}`: {reason.message c}"
  | .entry k reason => s!"invalid value for key `{k.text c}`: {reason.message c}"

end Mismatch

end TypedTree
