import TypedTree.Pattern.PropertyName
import TypedTree.Pattern.Syntax

/-!
# Reading of regular expressions

The notation has alternatives, groups with flags and names, greedy and lazy repetition, bracketed
classes with set operations, escapes and assertions. A notation that is not well formed, or nested
too deeply, has no expression.

Under the verbose switch blanks and comments may stand between the elements of the notation, in
most places between the characters of one element too.
-/

namespace TypedTree.Pattern

open Unicode (CodePointSet)

/-- Switches in force at a place of the notation. -/
structure Flags where
  caseless : Bool := false
  multiline : Bool := false
  dotAll : Bool := false
  unicode : Bool := true
  verbose : Bool := false
  carriage : Bool := false
  ungreedy : Bool := false

def charRanges (ranges : List (Char × Char)) : CodePointSet :=
  .unions (ranges.map fun (first, last) => .range first.toNat last.toNat)

namespace Flags

/-- The set under the case switch. Without the Unicode switch only ASCII letters have another
case. -/
def fold (flags : Flags) (set : CodePointSet) : CodePointSet :=
  if !flags.caseless then set
  else if flags.unicode then Unicode.closeUnderCase set
  else (Unicode.closeUnderCase set).inter (.range 0 0x7F)

/-- The set of a character that stands for itself. -/
def literal (flags : Flags) (c : Char) : CodePointSet :=
  if !flags.caseless || (!flags.unicode && 0x80 ≤ c.toNat) then .single c.toNat
  else
    let variants := (c :: Unicode.caseVariants c).map Char.toNat
    .ofPoints (if flags.unicode then variants else variants.filter (· < 0x80))

/-- The complement of a set. Without the Unicode switch it would hold bytes that are part of no
character, so there is none. -/
def complement? (flags : Flags) (set : CodePointSet) : Option CodePointSet :=
  if flags.unicode then some (CodePointSet.characters.diff set) else none

/-- The set, or its complement. -/
def signed? (flags : Flags) (negated : Bool) (set : CodePointSet) : Option CodePointSet :=
  if negated then flags.complement? set else some set

def digit (flags : Flags) : CodePointSet :=
  if flags.unicode then Unicode.digitSet else charRanges [('0', '9')]

/-- The set of word characters in force. -/
def word (flags : Flags) : CodePointSet :=
  if flags.unicode then Unicode.wordSet
  else charRanges [('a', 'z'), ('A', 'Z'), ('0', '9'), ('_', '_')]

/-- The set of white space in force. -/
def space (flags : Flags) : CodePointSet :=
  if flags.unicode then Unicode.whiteSpaceSet else charRanges [('\t', '\r'), (' ', ' ')]

/-- What a dot matches. Without the Unicode switch it would match any byte. -/
def dot? (flags : Flags) : Option CodePointSet :=
  flags.complement? <|
    if flags.dotAll then .empty
    else if flags.carriage then charRanges [('\n', '\n'), ('\r', '\r')]
    else charRanges [('\n', '\n')]

/-- What a circumflex asserts. -/
def lineStart (flags : Flags) : Assertion :=
  if !flags.multiline then .textStart else if flags.carriage then .anyLineStart else .lineStart

/-- What a dollar asserts. -/
def lineEnd (flags : Flags) : Assertion :=
  if !flags.multiline then .textEnd else if flags.carriage then .anyLineEnd else .lineEnd

end Flags

/-! ## Blanks and comments -/

/-- Drops blanks and comments. `comment` says that one is being read. -/
def dropBlanks (comment : Bool) : List Char → List Char
  | [] => []
  | c :: rest =>
    if comment then dropBlanks (c != '\n') rest
    else if Unicode.isWhiteSpace c then dropBlanks false rest
    else if c = '#' then dropBlanks true rest
    else c :: rest

/-- The characters in front of the first one that `stop` accepts, without blanks and comments
between them, and the rest. -/
def spanBlanks (stop : Char → Bool) (comment : Bool) : List Char → List Char × List Char
  | [] => ([], [])
  | c :: rest =>
    if comment then spanBlanks stop (c != '\n') rest
    else if Unicode.isWhiteSpace c then spanBlanks stop false rest
    else if c = '#' then spanBlanks stop true rest
    else if stop c then ([], c :: rest)
    else
      let (body, behind) := spanBlanks stop false rest
      (c :: body, behind)

/-- The next character that is not blank. The text of a comment counts, except for its sign. -/
def nextVisible? (comment : Bool) : List Char → Option Char
  | [] => none
  | c :: rest =>
    if Unicode.isWhiteSpace c then nextVisible? comment rest
    else if !comment && c = '#' then nextVisible? true rest
    else some c

namespace Flags

/-- The rest of the notation where the next element starts. -/
def skip (flags : Flags) (text : List Char) : List Char :=
  if flags.verbose then dropBlanks false text else text

/-- The characters in front of the first one that `stop` accepts, and the rest. -/
def span (flags : Flags) (stop : Char → Bool) (text : List Char) : List Char × List Char :=
  if flags.verbose then spanBlanks stop false text
  else (text.takeWhile (!stop ·), text.dropWhile (!stop ·))

/-- The character that decides whether a hyphen in front of the text stands for itself. -/
def peek? (flags : Flags) (text : List Char) : Option Char :=
  if flags.verbose then nextVisible? false text else text.head?

end Flags

/-! ## Escapes -/

/-- What an escape stands for. -/
inductive Escape where
  | literal (c : Char)
  | set (s : CodePointSet)
  | condition (a : Assertion)

/-- A code point that is a character. -/
def charOf? (point : Nat) : Option Char :=
  if point < 0xD800 ∨ (0xE000 ≤ point ∧ point < 0x110000) then some (Char.ofNat point) else none

def isHexDigit (c : Char) : Bool :=
  c.isDigit || ('a' ≤ c && c ≤ 'f') || ('A' ≤ c && c ≤ 'F')

/-- The character whose code point the digits give. -/
def hexChar? (digits : List Char) : Option Char :=
  if digits.isEmpty || !digits.all isHexDigit then none else charOf? (Unicode.hexNumber digits)

/-- The given number of characters, and the rest. -/
def takeChars? (flags : Flags) : Nat → List Char → Option (List Char × List Char)
  | 0, text => some ([], text)
  | count + 1, text =>
    match flags.skip text with
    | [] => none
    | c :: rest => (takeChars? flags count rest).map fun (cs, behind) => (c :: cs, behind)

/-- A code point in braces, or in exactly `width` hexadecimal digits. Without the Unicode switch
two digits give a byte, which has to be a character by itself. -/
def readHex? (flags : Flags) (width : Nat) (text : List Char) : Option (Char × List Char) :=
  match flags.skip text with
  | '{' :: rest =>
    match flags.span (· == '}') rest with
    | (digits, _ :: behind) => (hexChar? digits).map (·, behind)
    | _ => none
  | text => do
    let (digits, rest) ← takeChars? flags width text
    let c ← hexChar? digits
    if width = 2 ∧ !flags.unicode ∧ 0x80 ≤ c.toNat then none else some (c, rest)

/-- A property in braces or of one letter. There are properties under the Unicode switch only. -/
def readProperty? (flags : Flags) (negated : Bool) (text : List Char) :
    Option (Escape × List Char) := do
  let (name, rest) ← match flags.skip text with
    | '{' :: inner =>
      match flags.span (· == '}') inner with
      | (name, _ :: rest) => some (name, rest)
      | _ => none
    | c :: rest => some ([c], rest)
    | [] => none
  let (inverse, set) ← property? name
  if !flags.unicode then none
  else do
    let set ← flags.signed? (inverse != negated) (flags.fold (CodePointSet.characters.inter set))
    some (.set set, rest)

/-- Whether the character may stand in the name of a word boundary. -/
def isBoundaryChar (c : Char) : Bool :=
  c.isAlpha || c == '-'

/-- A named kind of word boundary in braces, if there is one. -/
def readBoundary? (flags : Flags) (text : List Char) : Option (WordCondition × List Char) :=
  match text with
  | '{' :: inner =>
    match flags.span (!isBoundaryChar ·) inner with
    | ([], _) => some (.boundary, text)
    | (name, '}' :: rest) =>
      match String.ofList name with
      | "start" => some (.start, rest)
      | "end" => some (.stop, rest)
      | "start-half" => some (.startHalf, rest)
      | "end-half" => some (.stopHalf, rest)
      | _ => none
    | _ => none
  | _ => some (.boundary, text)

/-- Reads what follows a backslash. -/
def readEscape? (flags : Flags) : List Char → Option (Escape × List Char)
  | [] => none
  | c :: rest =>
    let complement (set : CodePointSet) : Option (Escape × List Char) :=
      (flags.complement? set).map fun set => (.set set, rest)
    let words (condition : WordCondition) (rest : List Char) : Escape × List Char :=
      (.condition (.word condition (!flags.unicode)), rest)
    match c with
    | 'd' => some (.set flags.digit, rest)
    | 'D' => complement flags.digit
    | 'w' => some (.set flags.word, rest)
    | 'W' => complement flags.word
    | 's' => some (.set flags.space, rest)
    | 'S' => complement flags.space
    | 'x' => (readHex? flags 2 rest).map fun (c, rest) => (.literal c, rest)
    | 'u' => (readHex? flags 4 rest).map fun (c, rest) => (.literal c, rest)
    | 'U' => (readHex? flags 8 rest).map fun (c, rest) => (.literal c, rest)
    | 'p' => readProperty? flags false rest
    | 'P' => readProperty? flags true rest
    | 'a' => some (.literal '\x07', rest)
    | 'f' => some (.literal '\x0c', rest)
    | 't' => some (.literal '\t', rest)
    | 'n' => some (.literal '\n', rest)
    | 'r' => some (.literal '\r', rest)
    | 'v' => some (.literal '\x0b', rest)
    | 'A' => some (.condition .textStart, rest)
    | 'z' => some (.condition .textEnd, rest)
    | 'b' => (readBoundary? flags rest).map fun (condition, rest) => words condition rest
    | 'B' => some (words .noBoundary rest)
    | '<' => some (words .start rest)
    | '>' => some (words .stop rest)
    | c => if c.toNat < 128 && !c.isAlphanum then some (.literal c, rest) else none

/-! ## Bracketed classes -/

/-- Operations between the parts of a bracketed class. -/
inductive SetOperation where
  | inter
  | diff
  | symmDiff

/-- A class with the depth to which its notation is nested. -/
structure NestedClass where
  set : CodePointSet
  depth : Nat

/-- The members of a bracketed class read since the last operation: their union, their number, and
the depth of the deepest. -/
structure ClassPart where
  set : CodePointSet := .empty
  count : Nat := 0
  depth : Nat := 0

namespace ClassPart

/-- The part with one more member. -/
def add (part : ClassPart) (set : CodePointSet) (depth : Nat) : ClassPart :=
  ⟨part.set.union set, part.count + 1, max part.depth depth⟩

/-- The part as a class. Several members are nested one level deeper than one. -/
def close (part : ClassPart) : NestedClass :=
  ⟨part.set, if part.count ≤ 1 then part.depth else part.depth + 1⟩

end ClassPart

/-- Applies a pending operation to the part that has just ended. -/
def closePart (pending : Option (SetOperation × NestedClass)) (part : ClassPart) : NestedClass :=
  let right := part.close
  match pending with
  | none => right
  | some (operation, left) =>
    let set := match operation with
      | .inter => left.set.inter right.set
      | .diff => left.set.diff right.set
      | .symmDiff => left.set.symmDiff right.set
    ⟨set, max left.depth right.depth + 1⟩

/-- The classes with names between `[:` and `:]`. -/
def namedClass? (name : String) : Option CodePointSet :=
  match name with
  | "alnum" => some (charRanges [('0', '9'), ('A', 'Z'), ('a', 'z')])
  | "alpha" => some (charRanges [('A', 'Z'), ('a', 'z')])
  | "ascii" => some (charRanges [('\x00', '\x7f')])
  | "blank" => some (charRanges [('\t', '\t'), (' ', ' ')])
  | "cntrl" => some (charRanges [('\x00', '\x1f'), ('\x7f', '\x7f')])
  | "digit" => some (charRanges [('0', '9')])
  | "graph" => some (charRanges [('!', '~')])
  | "lower" => some (charRanges [('a', 'z')])
  | "print" => some (charRanges [(' ', '~')])
  | "punct" => some (charRanges [('!', '/'), (':', '@'), ('[', '\x60'), ('\x7b', '~')])
  | "space" => some (charRanges [('\t', '\r'), (' ', ' ')])
  | "upper" => some (charRanges [('A', 'Z')])
  | "word" => some (charRanges [('0', '9'), ('A', 'Z'), ('_', '_'), ('a', 'z')])
  | "xdigit" => some (charRanges [('0', '9'), ('A', 'F'), ('a', 'f')])
  | _ => none

/-- The name of a class behind an opening bracket, `:alpha:]` or `:^alpha:]`: the class, whether it
is negated, and the rest. -/
def readNamed? (text : List Char) : Option (CodePointSet × Bool × List Char) :=
  match text with
  | ':' :: inner =>
    let (negated, inner) := match inner with
      | '^' :: rest => (true, rest)
      | rest => (false, rest)
    let name := inner.takeWhile (· != ':')
    match inner.drop name.length with
    | ':' :: ']' :: rest => (namedClass? (String.ofList name)).map (·, negated, rest)
    | _ => none
  | _ => none

/-- One member of a bracketed class: a character or an escape. -/
def readMember? (flags : Flags) : List Char → Option (Escape × List Char)
  | [] => none
  | '\\' :: rest => readEscape? flags rest
  | c :: rest => some (.literal c, rest)

/-- Whether the character may be a member: without the Unicode switch, one of ASCII. -/
def Flags.admits (flags : Flags) (c : Char) : Bool :=
  flags.unicode || c.toNat < 0x80

/-- The class of a member that is not the end of a range. -/
def memberClass? (flags : Flags) : Escape → Option CodePointSet
  | .literal c => if flags.admits c then some (flags.literal c) else none
  | .set s => some s
  | .condition _ => none

/-- The class of the characters between two members. -/
def rangeClass? (flags : Flags) : Escape → Escape → Option CodePointSet
  | .literal a, .literal b =>
    if a ≤ b && flags.admits a && flags.admits b then
      some (flags.fold (CodePointSet.characters.inter (.range a.toNat b.toNat)))
    else none
  | _, _ => none

/-- A member or a range. A hyphen in front of a bracket or of another hyphen makes no range. -/
def readRange? (flags : Flags) (text : List Char) : Option (CodePointSet × List Char) := do
  let (first, rest) ← readMember? flags text
  let alone := (memberClass? flags first).map (·, flags.skip rest)
  match flags.skip rest with
  | '-' :: behind =>
    match flags.peek? behind with
    | some ']' => alone
    | some '-' => alone
    | _ => do
      let (last, rest) ← readMember? flags (flags.skip behind)
      (rangeClass? flags first last).map (·, rest)
  | _ => alone

/-- The start of a bracketed class behind its bracket: whether it is negated, the characters that
stand for themselves only there, and the rest. -/
def openClass (flags : Flags) (text : List Char) : Bool × ClassPart × List Char :=
  let (negated, text) := match flags.skip text with
    | '^' :: rest => (true, flags.skip rest)
    | text => (false, text)
  match flags.span (· != '-') text with
  | ([], ']' :: rest) => (negated, ClassPart.add {} (.single ']'.toNat) 0, rest)
  | (hyphens, rest) =>
    (negated, hyphens.foldl (fun part c => part.add (.single c.toNat) 0) {}, rest)

/-- Reads a bracketed class up to its closing bracket: `part` holds the members read since the last
operation, `pending` the operation in front of them. -/
def readClass? (flags : Flags) : Nat → Option (SetOperation × NestedClass) → ClassPart →
    List Char → Option (NestedClass × List Char)
  | 0, _, _, _ => none
  | fuel + 1, pending, part, text =>
    let operate (operation : SetOperation) (rest : List Char) :=
      readClass? flags fuel (some (operation, closePart pending part)) {} rest
    match flags.skip text with
    | [] => none
    | ']' :: rest => some (closePart pending part, rest)
    | '&' :: '&' :: rest => operate .inter rest
    | '-' :: '-' :: rest => operate .diff rest
    | '~' :: '~' :: rest => operate .symmDiff rest
    | '[' :: rest =>
      match readNamed? rest with
      | some (set, negated, rest) =>
        match flags.signed? negated (flags.fold set) with
        | some set => readClass? flags fuel pending (part.add set 0) rest
        | none => none
      | none =>
        let (negated, start, rest) := openClass flags rest
        match readClass? flags fuel none start rest with
        | none => none
        | some (inner, rest) =>
          match flags.signed? negated inner.set with
          | some set => readClass? flags fuel pending (part.add set (inner.depth + 1)) rest
          | none => none
    | text =>
      match readRange? flags text with
      | none => none
      | some (set, rest) => readClass? flags fuel pending (part.add set 0) rest

/-! ## Repetition -/

/-- A decimal count, with blanks around it. -/
def readCount? (flags : Flags) (text : List Char) : Option (Nat × List Char) :=
  let (digits, rest) := flags.span (!·.isDigit) (text.dropWhile Unicode.isWhiteSpace)
  let count := digits.foldl (fun n c => 10 * n + (c.toNat - 48)) 0
  if digits.isEmpty || 0x100000000 ≤ count then none
  else some (count, rest.dropWhile Unicode.isWhiteSpace)

/-- The bounds of a counted repetition, behind its opening brace. -/
def readBounds? (flags : Flags) (text : List Char) : Option (Nat × Option Nat × List Char) := do
  let (least, rest) ← readCount? flags (flags.skip text)
  match rest with
  | '}' :: rest => some (least, some least, rest)
  | ',' :: rest =>
    match flags.skip rest with
    | '}' :: rest => some (least, none, rest)
    | rest => do
      let (most, rest) ← readCount? flags rest
      match rest with
      | '}' :: rest => if least ≤ most then some (least, some most, rest) else none
      | _ => none
  | _ => none

/-- Whether a repetition is lazy, and the rest. A question mark behind it says so, or under the
switch that exchanges the two kinds, its absence. -/
def readLazy (flags : Flags) (text : List Char) : Bool × List Char :=
  match text with
  | '?' :: rest => (!flags.ungreedy, rest)
  | text => (flags.ungreedy, text)

/-! ## Groups -/

/-- What an opening parenthesis starts. -/
inductive GroupStart where
  | switches (flags : Flags)
  | plain (flags : Flags)
  | captured (name : Option String)

/-- One switch letter turned on or off. -/
def setFlag? (flags : Flags) (value : Bool) : Char → Option Flags
  | 'i' => some { flags with caseless := value }
  | 'm' => some { flags with multiline := value }
  | 's' => some { flags with dotAll := value }
  | 'u' => some { flags with unicode := value }
  | 'x' => some { flags with verbose := value }
  | 'R' => some { flags with carriage := value }
  | 'U' => some { flags with ungreedy := value }
  | _ => none

/-- Switch letters up to `:` or `)`. A letter may occur once, and one hyphen, not at the end, turns
the letters behind it off. `seen` holds the letters read. -/
def readSwitches? (flags : Flags) (value : Bool) (seen : List Char) :
    List Char → Option (GroupStart × List Char)
  | [] => none
  | ':' :: rest => if seen.head? = some '-' then none else some (.plain flags, rest)
  | ')' :: rest =>
    if seen.isEmpty || seen.head? = some '-' then none else some (.switches flags, rest)
  | c :: rest =>
    if seen.contains c then none
    else if c = '-' then readSwitches? flags false (c :: seen) rest
    else match setFlag? flags value c with
      | some flags => readSwitches? flags value (c :: seen) rest
      | none => none

def isGroupName : List Char → Bool
  | [] => false
  | c :: rest =>
    (c == '_' || Unicode.isAlphabetic c) &&
      rest.all fun c => c == '_' || c == '.' || c == '[' || c == ']' || Unicode.isAlphanumeric c

/-- A group name up to its closing angle. -/
def readName? (text : List Char) : Option (GroupStart × List Char) :=
  let name := text.takeWhile (· != '>')
  match text.drop name.length with
  | '>' :: rest =>
    if isGroupName name then some (.captured (some (String.ofList name)), rest) else none
  | _ => none

/-- Reads what follows an opening parenthesis. -/
def readGroupStart? (flags : Flags) (text : List Char) : Option (GroupStart × List Char) :=
  match flags.skip text with
  | '?' :: rest =>
    match rest with
    | '=' :: _ => none
    | '!' :: _ => none
    | '<' :: '=' :: _ => none
    | '<' :: '!' :: _ => none
    | 'P' :: '<' :: name => readName? name
    | '<' :: name => readName? name
    | rest => readSwitches? flags true [] rest
  | text => some (.captured none, text)

/-! ## Expressions -/

/-- An expression with the depth to which its notation is nested. -/
structure Nested where
  regex : Regex
  depth : Nat

/-- An element of an alternative. A change of switches is an element that cannot be repeated. -/
inductive Item where
  | switches
  | expression (nested : Nested)

namespace Item

/-- The expression of the element. -/
def regex : Item → Regex
  | switches => .empty
  | expression nested => nested.regex

def depth : Item → Nat
  | switches => 0
  | expression nested => nested.depth

end Item

/-- One more than the greatest of some depths. -/
def depthAbove (depths : List Nat) : Nat :=
  depths.foldl max 0 + 1

/-- The sequence of the elements, which are given newest first. -/
def sequenceOf (items : List Item) : Nested :=
  match items with
  | [item] => ⟨item.regex, item.depth⟩
  | items =>
    ⟨items.foldl (fun rest item => item.regex.andThen rest) .empty,
      if items.isEmpty then 0 else depthAbove (items.map Item.depth)⟩

/-- The choice between finished alternatives, newest first, and the last one. -/
def choiceOf (finished : List Nested) (last : Nested) : Nested :=
  match finished with
  | [] => last
  | finished =>
    let parts := (last :: finished).reverse
    ⟨.choice (parts.map Nested.regex), depthAbove (parts.map Nested.depth)⟩

/-- The expression of an escape outside of brackets. -/
def escapeRegex (flags : Flags) : Escape → Regex
  | .literal c => .oneOf (flags.literal c) (!flags.unicode)
  | .set s => .oneOf s (!flags.unicode)
  | .condition a => .assert a

/-- The repetition of the newest item. -/
def repeatLast? (items : List Item) (least : Nat) (most : Option Nat) (lazily : Bool) :
    Option (List Item) :=
  match items with
  | .expression a :: rest =>
    some (.expression ⟨a.regex.repeatBetween least most lazily, a.depth + 1⟩ :: rest)
  | _ => none

/-- The groups opened so far: their number, and the names of those that have one. -/
structure Groups where
  count : Nat := 0
  names : List String := []

/-- One more group. No name may occur twice. -/
def Groups.add? (groups : Groups) : Option String → Option Groups
  | none => some ⟨groups.count + 1, groups.names⟩
  | some name =>
    if groups.names.contains name then none else some ⟨groups.count + 1, name :: groups.names⟩

/-- Reads alternatives up to a closing parenthesis or the end. Returns the expression, the groups
opened, and the rest. -/
def readRegex? : Nat → Flags → Groups → List Nested → List Item → List Char →
    Option (Nested × Groups × List Char)
  | 0, _, _, _, _, _ => none
  | fuel + 1, flags, groups, finished, items, text =>
    let repeatWith (least : Nat) (most : Option Nat) (rest : List Char) :=
      let (lazily, rest) := readLazy flags rest
      match repeatLast? items least most lazily with
      | some items => readRegex? fuel flags groups finished items rest
      | none => none
    let append (r : Regex) (rest : List Char) :=
      readRegex? fuel flags groups finished (.expression ⟨r, 0⟩ :: items) rest
    let group (inner : Flags) (close : Regex → Regex) (groups : Groups) (rest : List Char) :=
      match readRegex? fuel inner groups [] [] rest with
      | some (a, groups, ')' :: rest) =>
        readRegex? fuel flags groups finished (.expression ⟨close a.regex, a.depth + 1⟩ :: items)
          rest
      | _ => none
    match flags.skip text with
    | [] => some (choiceOf finished (sequenceOf items), groups, [])
    | ')' :: rest => some (choiceOf finished (sequenceOf items), groups, ')' :: rest)
    | '|' :: rest => readRegex? fuel flags groups (sequenceOf items :: finished) [] rest
    | '*' :: rest => repeatWith 0 none rest
    | '+' :: rest => repeatWith 1 none rest
    | '?' :: rest => repeatWith 0 (some 1) rest
    | '{' :: rest =>
      match readBounds? flags rest with
      | some (least, most, rest) => repeatWith least most (flags.skip rest)
      | none => none
    | '.' :: rest =>
      match flags.dot? with
      | some set => append (.oneOf set false) rest
      | none => none
    | '^' :: rest => append (.assert flags.lineStart) rest
    | '$' :: rest => append (.assert flags.lineEnd) rest
    | '[' :: rest =>
      let (negated, start, rest) := openClass flags rest
      match readClass? flags fuel none start rest with
      | none => none
      | some (a, rest) =>
        match flags.signed? negated a.set with
        | none => none
        | some set =>
          let r := Regex.oneOf set (!flags.unicode)
          readRegex? fuel flags groups finished (.expression ⟨r, a.depth + 1⟩ :: items) rest
    | '\\' :: rest =>
      match readEscape? flags rest with
      | some (escape, rest) => append (escapeRegex flags escape) rest
      | none => none
    | '(' :: rest =>
      match readGroupStart? flags rest with
      | none => none
      | some (.switches flags, rest) =>
        readRegex? fuel flags groups finished (.switches :: items) rest
      | some (.plain inner, rest) => group inner id groups rest
      | some (.captured name, rest) =>
        match groups.add? name with
        | some groups => group flags (.group groups.count) groups rest
        | none => none
    | c :: rest => append (.oneOf (flags.literal c) (!flags.unicode)) rest

/-- The greatest depth to which a notation may be nested. -/
def depthLimit : Nat := 250

/-- The expression a notation stands for, if it is well formed. -/
def Regex.parse? (text : String) : Option Regex :=
  let chars := text.toList
  match readRegex? (chars.length + 1) {} {} [] [] chars with
  | some (a, _, []) => if a.depth ≤ depthLimit then some a.regex else none
  | _ => none

end TypedTree.Pattern
