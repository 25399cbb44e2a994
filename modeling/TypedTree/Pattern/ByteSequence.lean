import TypedTree.Unicode.CodePointSet

/-!
# Characters as bytes

A set of characters, encoded, is a list of byte sequences in which every byte runs through a range
of its own. The sequences of a set are in order, and sequences that start alike stand together.
-/

namespace TypedTree.Pattern

open Unicode (CodePointSet)

/-- Ranges of bytes, one for each byte of an encoded character. -/
abbrev ByteSequence := List (Nat × Nat)

/-- The digits to base 64 of the numbers from `first` to `last`, which have at most `count` digits
behind the leading one. In each sequence every digit runs through a range of its own. -/
def digitRanges : Nat → Nat → Nat → List ByteSequence
  | 0, first, last => [[(first, last)]]
  | count + 1, first, last =>
    let block := Nat.pow 64 (count + 1)
    let low := first / block
    let high := last / block
    if low = high then
      (digitRanges count (first % block) (last % block)).map ((low, low) :: ·)
    else
      let start :=
        if first % block = 0 then []
        else (digitRanges count (first % block) (block - 1)).map ((low, low) :: ·)
      let stop :=
        if last % block = block - 1 then []
        else (digitRanges count 0 (last % block)).map ((high, high) :: ·)
      let low := if start.isEmpty then low else low + 1
      let high := if stop.isEmpty then high else high - 1
      let middle :=
        if low ≤ high then [(low, high) :: List.replicate (count + 1) (0, 63)] else []
      start ++ middle ++ stop

/-- Adds the marks of the bytes: that of a leading byte, and 0x80 for those behind it. -/
def markBytes (mark : Nat) : ByteSequence → ByteSequence
  | [] => []
  | (first, last) :: rest =>
    (mark + first, mark + last) :: rest.map fun (first, last) => (0x80 + first, 0x80 + last)

/-- The encodings of the part of a range between two bounds, of `count + 1` bytes each. -/
def encodedPart (range : Nat × Nat) (count mark low high : Nat) : List ByteSequence :=
  let first := max range.1 low
  let last := min range.2 high
  if first ≤ last then (digitRanges count first last).map (markBytes mark) else []

def encodedRange (range : Nat × Nat) : List ByteSequence :=
  encodedPart range 0 0 0 0x7F ++ encodedPart range 1 0xC0 0x80 0x7FF ++
    encodedPart range 2 0xE0 0x800 0xD7FF ++ encodedPart range 2 0xE0 0xE000 0xFFFF ++
    encodedPart range 3 0xF0 0x10000 0x10FFFF

def encodedSet (set : CodePointSet) : List ByteSequence :=
  set.ranges.toList.flatMap encodedRange

/-- The bytes of a code point. -/
def encodedPoint (point : Nat) : List Nat :=
  (encodedRange (point, point)).flatten.map (·.1)

/-- The sequences by their first range, without it. -/
def byFirst : List ByteSequence → List ((Nat × Nat) × List ByteSequence)
  | [] => []
  | [] :: rest => byFirst rest
  | (head :: tail) :: rest =>
    match byFirst rest with
    | (next, tails) :: groups =>
      if head = next then (head, tail :: tails) :: groups
      else (head, [tail]) :: (next, tails) :: groups
    | [] => [(head, [tail])]

end TypedTree.Pattern
