import TypedTree.Unicode.Property

/-!
# White space and lines

Removing white space from the ends of a text, and cutting a text into lines.
-/

namespace TypedTree.Text

open Unicode (isWhiteSpace)

/-- The text without its leading white space. -/
def trimStart (text : List Char) : List Char :=
  text.dropWhile isWhiteSpace

/-- The text without its trailing white space. -/
def trimEnd (text : List Char) : List Char :=
  (text.reverse.dropWhile isWhiteSpace).reverse

/-- The text without white space at its ends. -/
def trim (text : List Char) : List Char :=
  trimEnd (trimStart text)

/-- A line break is a line feed, with a carriage return in front of it if there is one. `current`
is the line read so far, in reverse; a text that ends in a line break has no line behind it. -/
def linesFrom (current : List Char) : List Char → List (List Char)
  | [] => if current.isEmpty then [] else [current.reverse]
  | '\n' :: rest =>
    let line := match current with
      | '\r' :: before => before
      | line => line
    line.reverse :: linesFrom [] rest
  | c :: rest => linesFrom (c :: current) rest

/-- The lines of a text, without their line breaks. -/
def lines (text : List Char) : List (List Char) :=
  linesFrom [] text

/-- The number of bytes a text takes in UTF-8. -/
def byteLength (text : List Char) : Nat :=
  text.foldr (fun c n => c.utf8Size + n) 0

/-- What is left of a text behind its first `count` bytes, unless that position lies beyond the
end or inside a character. -/
def dropBytes? : List Char → Nat → Option (List Char)
  | text, 0 => some text
  | [], _ + 1 => none
  | c :: rest, count + 1 =>
    if c.utf8Size ≤ count + 1 then dropBytes? rest (count + 1 - c.utf8Size) else none

end TypedTree.Text
