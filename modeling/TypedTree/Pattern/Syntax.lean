import TypedTree.Unicode.CaseMapping

/-!
# Regular expressions

Assertions about a position, and expressions built from them and from sets of characters. The
functions that build expressions keep them small: what matches only the empty text is not
repeated, a choice between single characters is a class, and what all alternatives start with
stands in front of them once.
-/

namespace TypedTree.Pattern

open Unicode (CodePointSet)

/-- A condition on the words around a position. -/
inductive WordCondition where
  | boundary
  | noBoundary
  | start
  | stop
  | startHalf
  | stopHalf
deriving DecidableEq, Repr

/-- A condition on a position between two characters. -/
inductive Assertion where
  | textStart
  | textEnd
  | lineStart
  | lineEnd
  /-- The start of a line that ends with a carriage return, a line feed, or both. -/
  | anyLineStart
  /-- The end of a line that ends with a carriage return, a line feed, or both. -/
  | anyLineEnd
  /-- A condition on words, which are those of ASCII or those of all scripts. -/
  | word (condition : WordCondition) (ascii : Bool)
deriving DecidableEq, Repr

/-- A regular expression. -/
inductive Regex where
  | empty
  /-- One character of a set. A class that is confined to ASCII differs from another one with the
  same members, although it matches the same. -/
  | chars (set : CodePointSet) (ascii : Bool)
  | assert (condition : Assertion)
  | seq (a b : Regex)
  | alt (a b : Regex)
  /-- At least `least` repetitions, and at most `most` if there is a bound. A lazy repetition
  prefers fewer. -/
  | repeated (a : Regex) (least : Nat) (most : Option Nat) (lazily : Bool)
  /-- A part whose place in a match can be asked for by its number. -/
  | group (index : Nat) (a : Regex)
deriving DecidableEq, Repr, Inhabited

namespace Regex

/-- One character of a set. A single character stands for itself, however it was written. -/
def oneOf (set : CodePointSet) (ascii : Bool) : Regex :=
  chars set (ascii && !set.isSingle && !set.ranges.isEmpty)

/-- Whether the expression matches the empty text only. -/
def isEmptyOnly : Regex → Bool
  | empty => true
  | chars _ _ => false
  | assert _ => true
  | seq a b => a.isEmptyOnly && b.isEmptyOnly
  | alt a b => a.isEmptyOnly && b.isEmptyOnly
  | repeated a _ _ _ => a.isEmptyOnly
  | group _ a => a.isEmptyOnly

/-- Whether the expression is a single character. -/
def isLiteral : Regex → Bool
  | chars set _ => set.isSingle
  | _ => false

/-! ### Sequences -/

/-- One expression behind another. Sequences lean to the right and hold nothing empty. -/
def andThen : Regex → Regex → Regex
  | empty, c => c
  | seq a b, c => seq a (b.andThen c)
  | a, empty => a
  | a, c => seq a c

def sequence (parts : List Regex) : Regex :=
  parts.foldr andThen empty

/-- The parts of a sequence; any other expression is its own only one. -/
def factors : Regex → List Regex
  | empty => []
  | seq a b => a.factors ++ b.factors
  | a => [a]

/-- The parts of a sequence, where neighbouring single characters make one piece. -/
def pieces (a : Regex) : List (List Regex) :=
  a.factors.splitBy fun b c => b.isLiteral && c.isLiteral

/-! ### Repetition -/

/-- The expression repeated. One that matches the empty text only is repeated at most once. -/
def repeatBetween (a : Regex) (least : Nat) (most : Option Nat) (lazily : Bool) : Regex :=
  let (least, most) :=
    if a.isEmptyOnly then (min least 1, some (min (most.getD 1) 1)) else (least, most)
  if most = some 0 then empty
  else if least = 1 ∧ most = some 1 then a
  else repeated a least most lazily

/-! ### Choice -/

/-- The alternatives of a choice; any other expression is its own only one. -/
def alternatives : Regex → List Regex
  | alt a b => a.alternatives ++ b.alternatives
  | a => [a]

/-- The set of an expression that matches one character. -/
def set? : Regex → Option CodePointSet
  | chars set _ => some set
  | _ => none

/-- A choice between alternatives. What matches one character makes one class if all of them are
single characters, or if none is. -/
def plainChoice (parts : List Regex) : Regex :=
  let sets := parts.filterMap set?
  if sets.length = parts.length ∧ (sets.all (·.isSingle) ∨ sets.all (!·.isSingle)) then
    oneOf (.unions sets) false
  else
    match parts.getLast? with
    | none => chars .empty false
    | some last => parts.dropLast.foldr alt last

/-- The longest list that two lists start with. -/
def sharedStart {α : Type} [DecidableEq α] : List α → List α → List α
  | a :: as, b :: bs => if a = b then a :: sharedStart as bs else []
  | _, _ => []

/-- The pieces that all of several sequences start with. Something is shared only if each of them
has two pieces or more. -/
def sharedPieces : List (List (List Regex)) → List (List Regex)
  | [] => []
  | first :: rest =>
    if (first :: rest).all (2 ≤ ·.length) then rest.foldl sharedStart first else []

/-- The choice between expressions. What all of them start with stands once in front of a choice
between what follows. -/
def choice (parts : List Regex) : Regex :=
  match parts.flatMap alternatives with
  | [part] => part
  | parts =>
    let split := parts.map pieces
    match sharedPieces split with
    | [] => plainChoice parts
    | shared =>
      let rests := split.map fun ps => sequence (ps.drop shared.length).flatten
      sequence (shared.flatten ++ [plainChoice (rests.flatMap alternatives)])

end Regex

end TypedTree.Pattern
