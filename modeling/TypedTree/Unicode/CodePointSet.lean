/-!
# Sets of code points

A property of the character database is a sorted sequence of disjoint ranges. Here it is read from
the database's own hexadecimal range notation and queried by bisection. Two operations on sorted
ranges, joining and taking the gaps, give union, complement and all that follows from them.
-/

namespace TypedTree.Unicode

/-- Value of one hexadecimal digit; any other character counts as zero. -/
def hexDigit (c : Char) : Nat :=
  if '0' ≤ c ∧ c ≤ '9' then c.toNat - 48
  else if 'A' ≤ c ∧ c ≤ 'F' then c.toNat - 55
  else if 'a' ≤ c ∧ c ≤ 'f' then c.toNat - 87
  else 0

/-- Value of a run of hexadecimal digits. -/
def hexNumber (digits : List Char) : Nat :=
  digits.foldl (fun n c => 16 * n + hexDigit c) 0

/-- The entries of a table, which are separated by blanks and line ends. -/
def tableEntries (text : String) : List String :=
  ((text.splitOn "\n").flatMap (·.splitOn " ")).filter (· != "")

/-- The rows of a table, which are separated by semicolons. -/
def tableRows (text : String) : List (List String) :=
  (text.splitOn ";").map tableEntries

def lastCodePoint : Nat := 0x10FFFF

/-! ### Lists of ranges -/

/-- Puts a range in front of ranges that start behind its start, and joins those it touches. -/
def joinRange (first last : Nat) : List (Nat × Nat) → List (Nat × Nat)
  | [] => [(first, last)]
  | (a, b) :: rest =>
    if a ≤ last + 1 then joinRange first (max last b) rest
    else (first, last) :: joinRange a b rest

/-- Joins the ranges that overlap or touch, in a list that is ordered by their starts. -/
def joinRanges : List (Nat × Nat) → List (Nat × Nat)
  | [] => []
  | (first, last) :: rest => joinRange first last rest

/-- The ranges from `next` on that the ordered ranges leave out. -/
def gapsFrom (next : Nat) : List (Nat × Nat) → List (Nat × Nat)
  | [] => if next ≤ lastCodePoint then [(next, lastCodePoint)] else []
  | (first, last) :: rest =>
    if next < first then (next, first - 1) :: gapsFrom (last + 1) rest
    else gapsFrom (last + 1) rest

/-- Sorted, disjoint, inclusive ranges of code points. -/
structure CodePointSet where
  ranges : Array (Nat × Nat)
deriving DecidableEq, Repr, Inhabited

namespace CodePointSet

/-- One range: `41-5A`, or a single code point `AA`. -/
def readRange (text : String) : Nat × Nat :=
  let digits := text.toList
  let first := digits.takeWhile (· != '-')
  match digits.drop first.length with
  | [] => (hexNumber first, hexNumber first)
  | _ :: last => (hexNumber first, hexNumber last)

/-- The ranges that the entries of a table give in increasing order. -/
def ofEntries (entries : List String) : CodePointSet :=
  ⟨(entries.map readRange).toArray⟩

/-- The ranges of a table, in increasing order. -/
def ofText (text : String) : CodePointSet :=
  .ofEntries (tableEntries text)

/-- Bisection between the positions `low` (inclusive) and `high` (exclusive). -/
def search (ranges : Array (Nat × Nat)) (point low high : Nat) : Bool :=
  if low < high then
    let middle := (low + high) / 2
    match ranges[middle]? with
    | none => false
    | some (first, last) =>
      if point < first then search ranges point low middle
      else if last < point then search ranges point (middle + 1) high
      else true
  else false
termination_by high - low

/-- Whether the code point lies in one of the ranges. -/
def contains (set : CodePointSet) (point : Nat) : Bool :=
  search set.ranges point 0 set.ranges.size

/-- The set without members. -/
def empty : CodePointSet := ⟨#[]⟩

def range (first last : Nat) : CodePointSet := ⟨#[(first, last)]⟩

def single (point : Nat) : CodePointSet := range point point

/-- The code points that are characters: all but the surrogates. -/
def characters : CodePointSet := ⟨#[(0, 0xD7FF), (0xE000, lastCodePoint)]⟩

/-- Whether the set has exactly one member. -/
def isSingle (set : CodePointSet) : Bool :=
  match set.ranges.toList with
  | [(first, last)] => first == last
  | _ => false

/-- Whether all members lie within ASCII. -/
def isAscii (set : CodePointSet) : Bool :=
  set.ranges.all (·.2 ≤ 0x7F)

def ofPoints (points : List Nat) : CodePointSet :=
  ⟨(joinRanges ((points.mergeSort).map fun point => (point, point))).toArray⟩

/-- The members of either set. -/
def union (a b : CodePointSet) : CodePointSet :=
  ⟨(joinRanges (a.ranges.toList.merge b.ranges.toList fun r s => r.1 ≤ s.1)).toArray⟩

def compl (a : CodePointSet) : CodePointSet :=
  ⟨(gapsFrom 0 a.ranges.toList).toArray⟩

/-- The members of both sets. -/
def inter (a b : CodePointSet) : CodePointSet :=
  (a.compl.union b.compl).compl

/-- The members of the first set that the second lacks. -/
def diff (a b : CodePointSet) : CodePointSet :=
  (a.compl.union b).compl

/-- The members of exactly one of the sets. -/
def symmDiff (a b : CodePointSet) : CodePointSet :=
  (a.diff b).union (b.diff a)

def unions (sets : List CodePointSet) : CodePointSet :=
  sets.foldr union empty

end CodePointSet

/-! ### Tables of named sets -/

/-- Names of a set and the entries that list it. -/
structure NamedEntries where
  names : List String
  entries : List String

/-- The named sets of a table. A row holds the names, an equality sign, and the ranges. -/
def namedEntries (table : String) : List NamedEntries :=
  (tableRows table).map fun row =>
    let names := row.takeWhile (· != "=")
    ⟨names, row.drop (names.length + 1)⟩

def namedSet? (rows : List NamedEntries) (name : String) : Option CodePointSet :=
  (rows.find? (·.names.contains name)).map (.ofEntries ·.entries)

end TypedTree.Unicode
