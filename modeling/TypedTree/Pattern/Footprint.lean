import TypedTree.Pattern.ByteSequence

/-!
# The memory of an automaton

An expression stands for an automaton over the bytes of a text, which is built state by state. A
footprint is the memory of what has been built so far. A state takes 32 bytes, a transition of a
branching state 8 more and an alternative 4.

The branches of a class are shared as far as a table of recently built states allows. Each state
has one place in the table, given by what it is made of, and is forgotten when another one takes
the place.
-/

namespace TypedTree.Pattern

open Unicode (CodePointSet)

/-- Which way an automaton is read. -/
inductive Direction where
  | forward
  | backward
deriving DecidableEq, Repr

/-- The memory of an automaton: its states, and the bytes of their transitions and alternatives. -/
structure Footprint where
  states : Nat := 0
  branches : Nat := 0
deriving DecidableEq, Repr

namespace Footprint

/-- The memory in bytes. -/
def size (f : Footprint) : Nat :=
  32 * f.states + f.branches

/-- The most bytes an automaton may take: ten mebibytes. -/
def sizeLimit : Nat := 0xA00000

/-- Whether the automaton is within the limit. -/
def fits (f : Footprint) : Bool :=
  f.size ≤ sizeLimit

/-- Adds states without branches. -/
def addStates (f : Footprint) (count : Nat) : Footprint :=
  { f with states := f.states + count }

def addTransitions (f : Footprint) (count : Nat) : Footprint :=
  ⟨f.states + 1, f.branches + 8 * count⟩

/-- Adds alternatives of states that are there. -/
def addAlternatives (f : Footprint) (count : Nat) : Footprint :=
  { f with branches := f.branches + 4 * count }

/-- Adds the same thing several times, unless the limit is passed before. -/
def addTimes (add : Footprint → Footprint) : Nat → Footprint → Footprint
  | 0, f => f
  | count + 1, f => if f.fits then addTimes add count (add f) else f

end Footprint

/-! ### Shared states -/

/-- What a state is made of: bounds of ranges and numbers of states. -/
abbrev Description := Array Nat

/-- An automaton in the making, with the recently built states of one class. A state has the number
of the states built before it. -/
structure Workshop where
  footprint : Footprint
  recent : Array (Option (Description × Nat))

namespace Workshop

/-- The hash of a description, after Fowler, Noll and Vo. -/
def hash (description : Description) : UInt64 :=
  description.foldl (fun h x => (h ^^^ x.toUInt64) * 1099511628211) 14695981039346656037

/-- The place of a description among the recent states. -/
def place (w : Workshop) (description : Description) : Nat :=
  (hash description).toNat % w.recent.size

/-- The number of the recent state of the given description, if there is one. -/
def recent? (w : Workshop) (description : Description) : Option Nat :=
  match w.recent[w.place description]? with
  | some (some (other, number)) => if other == description then some number else none
  | _ => none

/-- A new state of the given description. -/
def build (w : Workshop) (description : Description) (transitions : Nat) : Workshop where
  footprint := ⟨w.footprint.states + 1, w.footprint.branches + 8 * transitions⟩
  recent := w.recent.setIfInBounds (w.place description) (some (description, w.footprint.states))

/-- A state of the given description, the recent one if there is one, and its number. -/
def state (w : Workshop) (description : Description) (transitions : Nat) : Nat × Workshop :=
  match w.recent? description with
  | some number => (number, w)
  | none => (w.footprint.states, w.build description transitions)

/-- The tree of sequences of at most `depth` ranges that all lead to `target`, leaves first. -/
def tree (target : Nat) : Nat → List ByteSequence → Workshop → Nat × Workshop
  | 0, _, w => (target, w)
  | depth + 1, sequences, w =>
    match byFirst sequences with
    | [] => (target, w)
    | groups =>
      let (description, w) := groups.foldl
        (fun (description, w) group =>
          let (next, w) := tree target depth group.2 w
          (description.push group.1.1 |>.push group.1.2 |>.push next, w))
        (#[], w)
      w.state description groups.length

/-- The path of one sequence, which starts at a state and is shared with other paths from there. -/
def path (start : Nat) (sequence : ByteSequence) (w : Workshop) : Workshop :=
  (sequence.foldl (fun (start, w) range => w.state #[start, range.1, range.2] 0) (start, w)).2

end Workshop

namespace Footprint

/-- Adds a class beyond ASCII. Read forward it is a tree of byte ranges in front of its end; read
backward, paths from its start that meet in a choice. -/
def addEncoded (direction : Direction) (sequences : List ByteSequence) (f : Footprint) :
    Footprint :=
  match direction with
  | .forward =>
    let target := f.states
    let w := Workshop.tree target 4 sequences ⟨f.addStates 1, Array.replicate 10000 none⟩
    w.2.footprint
  | .backward =>
    let start := f.states + 1
    let w : Workshop := ⟨f.addStates 2, Array.replicate 1000 none⟩
    (sequences.foldl (·.path start ·) w).footprint.addAlternatives sequences.length

/-- Adds a class. Within ASCII it is one state and its end. -/
def addClass (direction : Direction) (set : CodePointSet) : Footprint → Footprint :=
  if set.isSingle then
    match set.ranges[0]? with
    | some range => (addStates · (encodedPoint range.1).length)
    | none => id
  else if set.isAscii then fun f => (f.addStates 1).addTransitions set.ranges.size
  else
    let sequences := encodedSet set
    fun f => if f.fits then f.addEncoded direction sequences else f

/-! ### Words -/

/-- The words that start with a byte, without it. -/
def behindByte (byte : Nat) (words : List (List Nat)) : List (List Nat) :=
  words.filterMap fun
    | first :: rest => if first = byte then some rest else none
    | [] => none

/-- Adds the tree of words of at most `depth` bytes that are tried in order. Words with a common
start share it, unless a word that has come to its end stands between them. -/
def addTree : Nat → List (List Nat) → Footprint → Footprint
  | 0, _, f => f
  | depth + 1, words, f =>
    let behind := words.dropWhile (·.isEmpty)
    let runs := behind.splitBy fun a b => !a.isEmpty && !b.isEmpty
    if runs.isEmpty then f
    else
      let f := runs.foldl (fun f run =>
        match (run.filterMap (·.head?)).eraseDups with
        | [] => f
        | [byte] => (addTree depth (behindByte byte run) f).addStates 1
        | bytes =>
          (bytes.foldl (fun f byte => addTree depth (behindByte byte run) f) f).addTransitions
            bytes.length) f
      let ends := if behind.length < words.length then 1 else 0
      (f.addStates 1).addAlternatives (runs.length + ends)

/-- Adds a choice between words, with its end. -/
def addWords (words : List (List Nat)) (f : Footprint) : Footprint :=
  addTree (words.foldl (fun depth word => max depth word.length) 0 + 1) words (f.addStates 1)

/-! ### Choice and repetition -/

/-- Adds a choice between two parts or more, with its end. -/
def addChoice : List (Footprint → Footprint) → Footprint → Footprint
  | first :: second :: rest, f =>
    let start := ((second (first f)).addStates 2).addAlternatives 2
    rest.foldl (fun f part => (part f).addAlternatives 1) start
  | parts, f => parts.foldl (fun f part => part f) f

/-- Adds a repetition of a part, which may have matches without any text. -/
def addRepetition (part : Footprint → Footprint) (takesText : Bool) (least : Nat)
    (most : Option Nat) (f : Footprint) : Footprint :=
  match most with
  | none =>
    if 0 < least then (((addTimes part least f).addStates 1)).addAlternatives 2
    else if takesText then (part (f.addStates 1)).addAlternatives 2
    else ((part f).addStates 3).addAlternatives 4
  | some most =>
    let optional (f : Footprint) := (part (f.addStates 1)).addAlternatives 2
    if least = most then addTimes part least f
    else if least = 0 ∧ most = 1 then (optional f).addStates 1
    else
      let f := if least = 0 then f.addStates 1 else addTimes part least f
      addTimes optional (most - least) (f.addStates 1)

end Footprint

end TypedTree.Pattern
