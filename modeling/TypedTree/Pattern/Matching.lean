import TypedTree.Pattern.Syntax

/-!
# Matching

An expression moves a set of positions of a text to the set of positions where a match that starts
at one of them can end. A text matches when that set is not empty for the set of all positions. Sets
of positions are decreasing lists: what a repetition adds in a round stands mostly in front of what
it has reached before.
-/

namespace TypedTree.Pattern

open Unicode (CodePointSet)

/-- Whether the character at a position, if there is one, belongs to the set. -/
def inSetAt (text : Array Char) (set : CodePointSet) (position : Nat) : Bool :=
  match text[position]? with
  | some c => set.contains c.toNat
  | none => false

/-- Whether the character at a position, if there is one, is a word character. -/
def wordAt (text : Array Char) (ascii : Bool) (position : Nat) : Bool :=
  match text[position]? with
  | some c => if ascii then c.isAlphanum || c == '_' else Unicode.isWordCharacter c
  | none => false

/-- Whether a property of positions holds in front of a position. -/
def before (holds : Nat → Bool) : Nat → Bool
  | 0 => false
  | position + 1 => holds position

/-- Whether the condition holds where a word character is in front or not, and behind or not. -/
def WordCondition.holds (front behind : Bool) : WordCondition → Bool
  | .boundary => front != behind
  | .noBoundary => front == behind
  | .start => !front && behind
  | .stop => front && !behind
  | .startHalf => !front
  | .stopHalf => !behind

def Assertion.holds (text : Array Char) (position : Nat) (assertion : Assertion) : Bool :=
  let feed (position : Nat) := text[position]? == some '\n'
  let carriage (position : Nat) := text[position]? == some '\r'
  match assertion with
  | .textStart => position == 0
  | .textEnd => position == text.size
  | .lineStart => position == 0 || before feed position
  | .lineEnd => position == text.size || feed position
  | .anyLineStart =>
    position == 0 || before feed position || (before carriage position && !feed position)
  | .anyLineEnd =>
    position == text.size || carriage position || (feed position && !before carriage position)
  | .word condition ascii =>
    condition.holds (before (wordAt text ascii) position) (wordAt text ascii position)

/-- The positions of a decreasing list that another one lacks. -/
def newPositions (positions seen : List Nat) : List Nat :=
  let step (state : List Nat × List Nat) (p : Nat) :=
    let later := state.2.dropWhile (p < ·)
    (if later.head? = some p then state.1 else p :: state.1, later)
  (positions.foldl step ([], seen)).1.reverse

/-- The positions of two decreasing lists that have none in common, in decreasing order. -/
def mergePositions (a b : List Nat) : List Nat :=
  a.merge b (fun p q => q ≤ p)

/-- All positions reached from `frontier` in at most `rounds` steps, added to those seen. -/
def reach (step : List Nat → List Nat) : Nat → List Nat → List Nat → List Nat
  | 0, seen, _ => seen
  | rounds + 1, seen, frontier =>
    let next := newPositions (step frontier) seen
    if next.isEmpty then seen else reach step rounds (mergePositions seen next) next

/-- The positions reached by exactly `count` steps. Positions that a step does not change stay. -/
def stepTimes (step : List Nat → List Nat) : Nat → List Nat → List Nat
  | 0, positions => positions
  | count + 1, positions =>
    let next := step positions
    if next = positions then positions else stepTimes step count next

namespace Regex

/-- The positions where matches that start at one of the given positions can end. -/
def ends (text : Array Char) : Regex → List Nat → List Nat
  | .empty, positions => positions
  | .chars set _, positions => (positions.filter (inSetAt text set)).map (· + 1)
  | .assert condition, positions => positions.filter fun p => condition.holds text p
  | .seq a b, positions => b.ends text (a.ends text positions)
  | .alt a b, positions =>
    let first := a.ends text positions
    mergePositions first (newPositions (b.ends text positions) first)
  | .repeated a least most _, positions =>
    let start := stepTimes (a.ends text) least positions
    match most with
    | none => reach (a.ends text) (text.size + 1) start start
    | some bound => reach (a.ends text) (bound - least) start start
  | .group _ a, positions => a.ends text positions

/-- Whether the expression matches somewhere in the text. -/
def isMatch (r : Regex) (text : String) : Bool :=
  let chars := text.toList.toArray
  !(r.ends chars (List.range (chars.size + 1)).reverse).isEmpty

end Regex

end TypedTree.Pattern
