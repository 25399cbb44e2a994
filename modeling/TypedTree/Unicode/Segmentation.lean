import TypedTree.Unicode.BinaryProperty
import TypedTree.Unicode.Script

/-!
# Classes for finding boundaries

The classes of characters by which a text is cut into clusters, words and sentences, as edition
16.0 defines them. A class is found by its name, in lowercase without underscores. Characters of no
class are not listed.
-/

namespace TypedTree.Unicode

/-- Signs that are written in front of a number. -/
def numberSigns : CodePointSet :=
  (listed "prependedconcatenationmark").diff (.single 0x70F)

/-- Marks and modifiers that belong to the character in front of them. -/
def attachedMarks : CodePointSet :=
  Edition.v16.graphemeExtend.union (inCategories [.spacingMark])

/-! ### Clusters -/

/-- Characters of no width of their own that separate clusters. -/
def clusterControls : CodePointSet :=
  (CodePointSet.unions [inCategories [.lineSeparator, .paragraphSeparator, .control, .format],
    Edition.v16.unassigned.inter (listed "defaultignorablecodepoint")]).diff
    (.unions [.ofPoints [0xA, 0xD, 0x200C, 0x200D], listed "prependedconcatenationmark",
      Edition.v16.graphemeExtend])

/-- Characters that extend a cluster: marks without space and skin tones. -/
def clusterExtenders : CodePointSet :=
  (Edition.v16.graphemeExtend.union (listed "emojimodifier")).diff (.single 0x200D)

/-- Spacing marks that do not start a cluster of their own. -/
def clusterStarters : CodePointSet := .ofText
  "102B-102C 1038 1062-1064 1067-106D 1083 1087-108C 108F 109A-109C 1A61 1A63-1A64 AA7B AA7D
   11720-11721"

/-- Spacing marks that belong to the cluster in front of them. -/
def clusterSpacingMarks : CodePointSet :=
  ((inCategories [.spacingMark]).diff (.unions [clusterExtenders, clusterStarters])).union
    (.ofPoints [0xE33, 0xEB3])

/-- Characters that open a cluster. -/
def clusterPrefixes : CodePointSet := .ofText
  "600-605 6DD 70F 890-891 8E2 D4E 110BD 110CD 111C2-111C3 113D1 1193F 11941 11A3A 11A84-11A89
   11D46 11F02"

/-- Hangul syllables; those at multiples of 28 end in a vowel. -/
def hangulSyllables (openSyllable : Bool) : CodePointSet :=
  .ofPoints (((List.range 11172).filter fun i => (i % 28 == 0) == openSyllable).map (0xAC00 + ·))

def clusterClass? (name : String) : Option CodePointSet :=
  match name with
  | "control" | "cn" => some clusterControls
  | "cr" => some (.single 0xD)
  | "lf" => some (.single 0xA)
  | "extend" | "ex" => some clusterExtenders
  | "l" => some (.ofText "1100-115F A960-A97C")
  | "v" => some (.ofText "1160-11A7 D7B0-D7C6 16D63 16D67-16D6A")
  | "t" => some (.ofText "11A8-11FF D7CB-D7FB")
  | "lv" => some (hangulSyllables true)
  | "lvt" => some (hangulSyllables false)
  | "prepend" | "pp" => some clusterPrefixes
  | "regionalindicator" | "ri" => some (listed "regionalindicator")
  | "spacingmark" | "sm" => some clusterSpacingMarks
  | "zwj" => some (.single 0x200D)
  | _ => none

/-! ### Words -/

/-- Marks and skin tones, which belong to the word in front of them. -/
def wordExtenders : CodePointSet :=
  (attachedMarks.union (listed "emojimodifier")).diff (.single 0x200D)

/-- Letters of the Hebrew script that take part in words. -/
def hebrewLetters : CodePointSet := .ofText
  "5D0-5EA 5EF-5F2 FB1D FB1F-FB28 FB2A-FB36 FB38-FB3C FB3E FB40-FB41 FB43-FB44 FB46-FB4F"

/-- Katakana and what is written with it. -/
def katakanaLetters : CodePointSet := .ofText
  "3031-3035 309B-309C 30A0-30FA 30FC-30FF 31F0-31FF 32D0-32FE 3300-3357 FF66-FF9D 1AFF0-1AFF3
   1AFF5-1AFFB 1AFFD-1AFFE 1B000 1B120-1B122 1B155 1B164-1B167"

/-- Scripts written without spaces, whose words only a dictionary can find. -/
def unspacedScripts : CodePointSet := .ofText
  "E01-E3A E40-E4E E81-E82 E84 E86-E8A E8C-EA3 EA5 EA7-EBD EC0-EC4 EC6 EC8-ECE EDC-EDF 1000-103F
   1050-108F 109A-109F 1780-17D3 17D7 17DC-17DD 1950-196D 1970-1974 1980-19AB 19B0-19C9 19DA
   19DE-19DF 1A20-1A5E 1A60-1A7C 1AA0-1AAD A9E0-A9EF A9FA-A9FE AA60-AAC2 AADB-AADF 11700-1171A
   1171D-1172B 1173A-1173B 1173F-11746"

/-- Symbols that count as letters of a word. -/
def letterLike : CodePointSet := .ofText
  "2C2-2C5 2D2-2D7 2DE-2DF 2E5-2EB 2ED 2EF-2FF 55A-55C 55E 58A 5F3 70F A708-A716 A720-A721
   A789-A78A AB5B"

/-- Letters of which words consist. -/
def wordLetters : CodePointSet :=
  (Edition.v16.alphabetic.union letterLike).diff
    (.unions [listed "ideographic", katakanaLetters, unspacedScripts, hebrewLetters, wordExtenders,
      (script? "hiragana").getD .empty])

/-- Format characters, which do not end a word. -/
def wordFormats : CodePointSet :=
  (inCategories [.format]).diff
    (.unions [.range 0x200B 0x200D, wordExtenders, listed "prependedconcatenationmark"])

def wordClass? (name : String) : Option CodePointSet :=
  match name with
  | "aletter" | "le" => some wordLetters
  | "cr" => some (.single 0xD)
  | "lf" => some (.single 0xA)
  | "newline" | "nl" => some (.ofText "B-C 85 2028-2029")
  | "doublequote" | "dq" => some (.single 0x22)
  | "singlequote" | "sq" => some (.single 0x27)
  | "extend" => some wordExtenders
  | "extendnumlet" | "ex" => some (.ofText "5F 202F 203F-2040 2054 FE33-FE34 FE4D-FE4F FF3F")
  | "format" | "fo" => some wordFormats
  | "hebrewletter" | "hl" => some hebrewLetters
  | "katakana" | "ka" => some katakanaLetters
  | "midletter" | "ml" => some (.ofText "3A B7 387 55F 5F4 2027 FE13 FE55 FF1A")
  | "midnum" | "mn" =>
    some (.ofText "2C 3B 37E 589 60C-60D 66C 7F8 2044 FE10 FE14 FE50 FE54 FF0C FF1B")
  | "midnumlet" | "mb" => some (.ofText "2E 2018-2019 2024 FE52 FF07 FF0E")
  | "numeric" | "nu" =>
    some (.unions [inCategories [.decimalNumber], .ofPoints [0x66B, 0x19DA], numberSigns])
  | "regionalindicator" | "ri" => some (listed "regionalindicator")
  | "wsegspace" => some (.ofText "20 1680 2000-2006 2008-200A 205F 3000")
  | "zwj" => some (.single 0x200D)
  | _ => none

/-! ### Sentences -/

/-- Lowercase letters of sentences. Georgian ones do not count. -/
def sentenceLower : CodePointSet :=
  Edition.v16.lowercase.diff
    (.unions [Edition.v16.graphemeExtend, .range 0x10D0 0x10FA, .range 0x10FD 0x10FF])

/-- Capitals of sentences. Georgian ones do not count. -/
def sentenceUpper : CodePointSet :=
  (Edition.v16.uppercase.union (inCategories [.titlecaseLetter])).diff
    (.unions [.range 0x1C90 0x1CBA, .range 0x1CBD 0x1CBF])

/-- Marks, which belong to the sentence in front of them. -/
def sentenceExtenders : CodePointSet :=
  attachedMarks.union (.single 0x200D)

/-- Full stops that may also abbreviate. -/
def ambiguousStops : CodePointSet := .ofPoints [0x2E, 0x2024, 0xFE52, 0xFF0E]

def sentenceClass? (name : String) : Option CodePointSet :=
  match name with
  | "aterm" | "at" => some ambiguousStops
  | "close" | "cl" =>
    some (.unions [
      inCategories [.openPunctuation, .closePunctuation, .initialQuote, .finalQuote],
      .ofText "22 27 275B-2760 2E00-2E01 2E06-2E08 2E0B 1F676-1F678"])
  | "cr" => some (.single 0xD)
  | "lf" => some (.single 0xA)
  | "extend" | "ex" => some sentenceExtenders
  | "format" | "fo" =>
    some ((inCategories [.format]).diff
      (.unions [.range 0x200C 0x200D, sentenceExtenders, numberSigns]))
  | "lower" | "lo" => some sentenceLower
  | "upper" | "up" => some sentenceUpper
  | "oletter" | "le" =>
    some (((Edition.v16.alphabetic.union (.single 0x5F3)).diff
      (.unions [sentenceLower, sentenceUpper, sentenceExtenders])))
  | "numeric" | "nu" =>
    some (.unions [inCategories [.decimalNumber], .ofPoints [0x66B, 0x66C, 0x19DA], numberSigns])
  | "scontinue" | "sc" =>
    some (.ofText
      "2C-2D 3A-3B 37E 55D 60C-60D 7F8 1802 1808 2013-2014 3001 FE10-FE11 FE13-FE14 FE31-FE32
       FE50-FE51 FE54-FE55 FE58 FE63 FF0C-FF0D FF1A-FF1B FF64")
  | "sep" | "se" => some (.ofText "85 2028-2029")
  | "sp" => some (.ofText "9 B-C 20 A0 1680 2000-200A 202F 205F 3000")
  | "sterm" | "st" => some ((listed "sentenceterminal").diff ambiguousStops)
  | _ => none

end TypedTree.Unicode
