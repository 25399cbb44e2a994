import TypedTree.Pattern.Footprint
import TypedTree.Pattern.Syntax

/-!
# The size of an expression

An expression whose automaton is too large is refused. The automaton is built twice, to be read
forward and backward; both have to fit. Read forward it also marks where groups begin and end.
-/

namespace TypedTree.Pattern

namespace Regex

/-- Whether an expression never matches because a class in it has no members. -/
def hasEmptyClass : Regex → Bool
  | empty => false
  | chars set _ => set.ranges.isEmpty
  | assert _ => false
  | seq a b => a.hasEmptyClass || b.hasEmptyClass
  | alt a b => a.hasEmptyClass || b.hasEmptyClass
  | repeated a _ _ _ => a.hasEmptyClass
  | group _ a => a.hasEmptyClass

/-- Whether every match takes a character. -/
def takesText : Regex → Bool
  | empty => false
  | chars _ _ => true
  | assert _ => false
  | seq a b => a.takesText || b.takesText
  | alt a b => a.takesText && b.takesText
  | repeated a least _ _ => least != 0 && a.takesText
  | group _ a => a.takesText

/-- Whether every match starts where the given condition holds. -/
def startsAt (condition : Assertion) : Regex → Bool
  | empty => false
  | chars _ _ => false
  | assert c => c = condition
  | seq a b => a.startsAt condition || (a.isEmptyOnly && b.startsAt condition)
  | alt a b => a.startsAt condition && b.startsAt condition
  | repeated a least _ _ => least != 0 && a.startsAt condition
  | group _ a => a.startsAt condition

/-- Whether every match ends where the given condition holds. -/
def endsAt (condition : Assertion) : Regex → Bool
  | empty => false
  | chars _ _ => false
  | assert c => c = condition
  | seq a b => b.endsAt condition || (b.isEmptyOnly && a.endsAt condition)
  | alt a b => a.endsAt condition && b.endsAt condition
  | repeated a least _ _ => least != 0 && a.endsAt condition
  | group _ a => a.endsAt condition

/-- The bytes of an expression that is a word, in the order in which they are read. -/
def word? (direction : Direction) (a : Regex) : Option (List Nat) :=
  match a.factors with
  | [] => none
  | parts =>
    if parts.all isLiteral then
      let bytes := (parts.filterMap set?).flatMap fun set =>
        set.ranges.toList.flatMap fun range => encodedPoint range.1
      some (if direction = .forward then bytes else bytes.reverse)
    else none

/-- What a choice between the given alternatives adds to an automaton, and one alone. Words make
a tree. -/
def addAlternatives (direction : Direction) (a : Regex) (parts : List (Footprint → Footprint)) :
    Footprint → Footprint :=
  match a.alternatives with
  | [_] => Footprint.addChoice parts
  | alternatives =>
    match alternatives.mapM (word? direction) with
    | some words => Footprint.addWords words
    | none => Footprint.addChoice parts

/-- What each of the alternatives of an expression adds to an automaton. -/
def parts (direction : Direction) : Regex → List (Footprint → Footprint)
  | empty => [(·.addStates 1)]
  | chars set _ => [Footprint.addClass direction set]
  | assert _ => [(·.addStates 1)]
  | seq a b =>
    let a := addAlternatives direction a (a.parts direction)
    let b := addAlternatives direction b (b.parts direction)
    match direction with
    | .forward => [b ∘ a]
    | .backward => [a ∘ b]
  | alt a b => a.parts direction ++ b.parts direction
  | repeated a least most _ =>
    let part := addAlternatives direction a (a.parts direction)
    [Footprint.addRepetition part (a.takesText && !a.hasEmptyClass) least most]
  | group _ a =>
    let part := addAlternatives direction a (a.parts direction)
    match direction with
    | .forward => [fun f => (part (f.addStates 1)).addStates 1]
    | .backward => [part]

/-- The automaton of an expression. It may be entered at any place of a text, unless a match can
only start at its end; read forward it marks the bounds of the match. -/
def footprint (direction : Direction) (a : Regex) : Footprint :=
  let anchored := match direction with
    | .forward => a.startsAt .textStart
    | .backward => a.endsAt .textEnd
  let entry : Footprint := if anchored then ⟨1, 0⟩ else ⟨3, 16⟩
  let whole := group 0 a
  (addAlternatives direction whole (whole.parts direction) entry).addStates 1

/-- Whether the automata of the expression are within the limit. -/
def fits (a : Regex) : Bool :=
  (a.footprint .forward).fits && (a.footprint .backward).fits

end Regex

end TypedTree.Pattern
