import TypedTree.Text.Join
import TypedTree.Text.Trim

/-!
# Blocks of lines

A block collects lines under a level of indentation. A line gets the indentation in force when it
is appended; empty lines get none.
-/

namespace TypedTree.Text

/-- Lines with the indentation for the lines to come. -/
structure Block where
  lines : List String := []
  level : Nat := 0
  indentSize : Nat := 4
  indentChar : Char := ' '
  endLine : String := "\n"
deriving DecidableEq, Repr

namespace Block

/-- What is put in front of a line appended now. -/
def indentation (b : Block) : List Char :=
  List.replicate (b.level * b.indentSize) b.indentChar

/-- The line as it is appended now. -/
def indentLine (b : Block) (line : String) : String :=
  if line = "" then "" else String.ofList (b.indentation ++ line.toList)

def extend (b : Block) (lines : List String) : Block :=
  { b with lines := b.lines ++ lines.map b.indentLine }

def append (b : Block) (line : String) : Block :=
  b.extend [line]

def appendText (b : Block) (text : String) : Block :=
  b.extend ((Text.lines text.toList).map String.ofList)

/-- The number of bytes of white space at the start of a line. -/
def leadingBytes (line : List Char) : Nat :=
  byteLength (line.takeWhile Unicode.isWhiteSpace)

/-- The least amount of leading white space of the lines that are not blank. -/
def commonBytes (lines : List (List Char)) : Nat :=
  (((lines.filter fun line => !(trim line).isEmpty).map leadingBytes).min?).getD 0

/-- A line without its first bytes and without trailing white space; nothing is left of a line that
cannot be cut there. -/
def dedentLine (count : Nat) (line : List Char) : List Char :=
  trimEnd ((dropBytes? line count).getD [])

/-- Lines without their common leading white space. -/
def dedentLines (lines : List (List Char)) : List (List Char) :=
  lines.map (dedentLine (commonBytes lines))

/-- Appends lines without their common leading white space. -/
def extendDedented (b : Block) (lines : List String) : Block :=
  b.extend ((dedentLines (lines.map String.toList)).map String.ofList)

/-- Appends the lines of another block. -/
def extendBlock (b other : Block) : Block :=
  b.extend other.lines

def emptyLines (b : Block) (count : Nat) : Block :=
  { b with lines := b.lines ++ List.replicate count "" }

/-- Goes levels deeper. -/
def indent (b : Block) (steps : Nat) : Block :=
  { b with level := b.level + steps }

/-- Comes levels back, but not beyond the first. -/
def dedent (b : Block) (steps : Nat) : Block :=
  { b with level := b.level - steps }

/-- Works one level deeper. -/
def indented (b : Block) (work : Block → Block) : Block :=
  (work (b.indent 1)).dedent 1

/-- All lines with line ends between them. -/
def text (b : Block) : String :=
  joinTexts b.endLine b.lines

end Block

inductive BlockOp where
  | append (line : String)
  | appendText (text : String)
  | extend (lines : List String)
  | extendDedented (lines : List String)
  | emptyLines (count : Nat)
  | indent (steps : Nat)
  | dedent (steps : Nat)
  | indented (ops : List BlockOp)
  /-- Writes operations to a block of their own, which is then appended. -/
  | block (start : Block) (ops : List BlockOp)

mutual

/-- Carries out an operation. -/
def BlockOp.apply (b : Block) : BlockOp → Block
  | .append line => b.append line
  | .appendText text => b.appendText text
  | .extend lines => b.extend lines
  | .extendDedented lines => b.extendDedented lines
  | .emptyLines count => b.emptyLines count
  | .indent steps => b.indent steps
  | .dedent steps => b.dedent steps
  | .indented ops => (BlockOp.applyAll (b.indent 1) ops).dedent 1
  | .block start ops => b.extendBlock (BlockOp.applyAll start ops)
termination_by structural op => op

/-- Carries out operations in order. -/
def BlockOp.applyAll (b : Block) : List BlockOp → Block
  | [] => b
  | op :: ops => BlockOp.applyAll (op.apply b) ops
termination_by structural ops => ops

end

mutual

/-- Carries out an operation, and gives the block as it is behind each step: behind the operations
one level deeper, and behind the operation itself. -/
def BlockOp.trace (b : Block) : BlockOp → Block × List Block
  | .indented ops =>
    let (inner, steps) := BlockOp.traceAll (b.indent 1) ops
    let b := inner.dedent 1
    (b, steps ++ [b])
  | op =>
    let b := op.apply b
    (b, [b])
termination_by structural op => op

/-- Carries out operations in order, and gives the block as it is behind each step. -/
def BlockOp.traceAll (b : Block) : List BlockOp → Block × List Block
  | [] => (b, [])
  | op :: ops =>
    let (next, steps) := op.trace b
    let (last, rest) := BlockOp.traceAll next ops
    (last, steps ++ rest)
termination_by structural ops => ops

end

end TypedTree.Text
