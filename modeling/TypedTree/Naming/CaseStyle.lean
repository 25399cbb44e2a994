import TypedTree.Text.Join
import TypedTree.Unicode.CaseMapping

/-!
# Case styles

A name is split into lowercase words and joined again in another style. Names that are written in
one word cannot be split.
-/

namespace TypedTree

/-- The naming convention of an identifier. -/
inductive CaseStyle where
  /-- `myvariable` -/
  | concatenated
  /-- `my variable` -/
  | canonical
  /-- `myVariable` -/
  | camel
  /-- `MyVariable` -/
  | pascal
  /-- `my_variable` -/
  | snake
  /-- `my-variable` -/
  | kebab
deriving DecidableEq, Repr

namespace CaseStyle

open Unicode (isLowercase isUppercase toLowercase toUppercase lowercase)

/-- The word read so far, in reverse, in front of the words behind it. There are no empty words. -/
def closeWord (current : List Char) (words : List (List Char)) : List (List Char) :=
  if current.isEmpty then words else current.reverse :: words

/-- The parts of a text between separators, without empty ones. -/
def splitAt (separator : Char) (current : List Char) : List Char → List (List Char)
  | [] => closeWord current []
  | c :: rest =>
    if c = separator then closeWord current (splitAt separator [] rest)
    else splitAt separator (c :: current) rest

/-- Whether the character separates words in every style. -/
def isSeparator (c : Char) : Bool :=
  c == '_' || c == '-' || c == ' '

/-- Whether a capital starts a word: behind a lowercase letter or a digit, and as the last capital
of an acronym, in front of a lowercase letter. -/
def startsWord (previous : Option Char) (c : Char) (next : Option Char) : Bool :=
  isUppercase c && previous.any fun p =>
    isLowercase p || p.isDigit || (isUppercase p && next.any isLowercase)

/-- The lowercase words of a name whose words start with capitals. `previous` is the character in
front, `current` the word read so far, in reverse. -/
def splitCapitals (previous : Option Char) (current : List Char) :
    List Char → List (List Char)
  | [] => closeWord current []
  | c :: rest =>
    if isSeparator c then closeWord current (splitCapitals (some c) [] rest)
    else if startsWord previous c rest.head? then
      closeWord current (splitCapitals (some c) (toLowercase c).reverse rest)
    else splitCapitals (some c) ((toLowercase c).reverse ++ current) rest

/-- The words between separators, in lowercase. -/
def separatedWords (separator : Char) (name : String) : List String :=
  (splitAt separator [] name.toList).map fun word => lowercase (String.ofList word)

/-- Splits a name into lowercase words. -/
def split? (style : CaseStyle) (name : String) : Option (List String) :=
  match style with
  | concatenated => none
  | canonical => some (separatedWords ' ' name)
  | snake => some (separatedWords '_' name)
  | kebab => some (separatedWords '-' name)
  | camel => some ((splitCapitals none [] name.toList).map String.ofList)
  | pascal => some ((splitCapitals none [] name.toList).map String.ofList)

/-- The word with its first character in uppercase and the others in lowercase. -/
def titleCase (word : String) : String :=
  match word.toList with
  | [] => ""
  | c :: rest => String.ofList (toUppercase c ++ rest.flatMap toLowercase)

def join (style : CaseStyle) (words : List String) : String :=
  match style with
  | concatenated => joinTexts "" (words.map lowercase)
  | canonical => joinTexts " " (words.map lowercase)
  | snake => joinTexts "_" (words.map lowercase)
  | kebab => joinTexts "-" (words.map lowercase)
  | pascal => joinTexts "" (words.map titleCase)
  | camel =>
    match words with
    | [] => ""
    | word :: rest => lowercase word ++ joinTexts "" (rest.map titleCase)

/-- Spells a name of one style in another. -/
def convert? (style : CaseStyle) (name : String) (target : CaseStyle) : Option String :=
  (style.split? name).map target.join

end CaseStyle

/-- An identifier held as lowercase words. -/
structure Identifier where
  words : List String
deriving DecidableEq, Repr

namespace Identifier

/-- The identifier of the given words, which are put into lowercase. -/
def ofWords (words : List String) : Identifier :=
  ⟨words.map Unicode.lowercase⟩

def parse? (name : String) (style : CaseStyle) : Option Identifier :=
  (style.split? name).map (⟨·⟩)

def spell (i : Identifier) (style : CaseStyle) : String :=
  style.join i.words

/-- Spells the identifier in uppercase with underscores, as for constants. -/
def screaming (i : Identifier) : String :=
  Unicode.uppercase (i.spell .snake)

end Identifier

end TypedTree
