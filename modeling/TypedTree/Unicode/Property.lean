import TypedTree.Unicode.Edition

/-!
# Character properties

The properties of characters that text handling and patterns ask for. Every test decides the ASCII
range by comparison alone and consults a set beyond it.
-/

namespace TypedTree.Unicode

/-! ### Sets -/

def alphabeticSet : CodePointSet := Edition.v17.alphabetic

/-- Decimal digits, letter numbers and other numbers. -/
def numericSet : CodePointSet := Edition.v17.categories Category.numbers

def lowercaseSet : CodePointSet := Edition.v17.lowercase

def uppercaseSet : CodePointSet := Edition.v17.uppercase

def casedSet : CodePointSet := Edition.v17.cased

def caseIgnorableSet : CodePointSet := Edition.v17.caseIgnorable

/-- Characters that leave a mark of their own: all but controls, formats and separators. -/
def printableSet : CodePointSet :=
  Edition.v17.categories
    (Category.letters ++ Category.marks ++ Category.numbers ++ Category.punctuation ++
      Category.symbols)

/-- Marks that extend the character in front of them. -/
def extendingMarkSet : CodePointSet :=
  Edition.v17.graphemeExtend.inter (Edition.v17.categories Category.marks)

/-- The decimal digits of patterns. -/
def digitSet : CodePointSet := Edition.v16.category .decimalNumber

def joinControlSet : CodePointSet := .range 0x200C 0x200D

/-- The word characters of patterns. -/
def wordSet : CodePointSet :=
  .unions [Edition.v16.alphabetic, joinControlSet,
    Edition.v16.categories [.nonspacingMark, .spacingMark, .enclosingMark, .decimalNumber,
      .connector]]

def whiteSpaceSet : CodePointSet := .ofText
  "9-D 20 85 A0 1680 2000-200A 2028-2029 202F 205F 3000"

/-! ### Tests -/

def isWhiteSpace (c : Char) : Bool :=
  let n := c.toNat
  n == 0x20 || (0x09 ≤ n && n ≤ 0x0D) || n == 0x85 || n == 0xA0 || n == 0x1680 ||
    (0x2000 ≤ n && n ≤ 0x200A) || n == 0x2028 || n == 0x2029 || n == 0x202F || n == 0x205F ||
    n == 0x3000

def isAlphabetic (c : Char) : Bool :=
  if c.toNat < 0x80 then c.isAlpha else alphabeticSet.contains c.toNat

/-- Decimal digits, letter numbers and other numbers. -/
def isNumeric (c : Char) : Bool :=
  if c.toNat < 0x80 then c.isDigit else numericSet.contains c.toNat

/-- Alphabetic or numeric. -/
def isAlphanumeric (c : Char) : Bool :=
  isAlphabetic c || isNumeric c

def isLowercase (c : Char) : Bool :=
  if c.toNat < 0x80 then c.isLower else lowercaseSet.contains c.toNat

def isUppercase (c : Char) : Bool :=
  if c.toNat < 0x80 then c.isUpper else uppercaseSet.contains c.toNat

/-- The property Cased: lowercase, uppercase or titlecase. -/
def isCased (c : Char) : Bool :=
  if c.toNat < 0x80 then c.isAlpha else casedSet.contains c.toNat

def isCaseIgnorable (c : Char) : Bool :=
  caseIgnorableSet.contains c.toNat

/-- Decimal digits of any script. -/
def isDecimalDigit (c : Char) : Bool :=
  if c.toNat < 0x80 then c.isDigit else digitSet.contains c.toNat

/-- Characters of a word: letters, marks, decimal digits, connectors and join controls. -/
def isWordCharacter (c : Char) : Bool :=
  if c.toNat < 0x80 then c.isAlphanum || c == '_' else wordSet.contains c.toNat

/-- Fillers of Hangul syllables, which are letters that show nothing. -/
def isFiller (c : Char) : Bool :=
  c.toNat == 0x115F || c.toNat == 0x1160 || c.toNat == 0x3164 || c.toNat == 0xFFA0

/-- Characters that quoting shows as themselves: those that leave a mark of their own and neither
extend the character in front of them nor are fillers. -/
def isPrintable (c : Char) : Bool :=
  if c.toNat < 0x80 then 0x20 ≤ c.toNat && c.toNat < 0x7F
  else printableSet.contains c.toNat && !extendingMarkSet.contains c.toNat && !isFiller c

end TypedTree.Unicode
