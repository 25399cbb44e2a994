import TypedTree.Template.Basic

/-!
# Writing of text templates

The source of a sequence of segments in either notation: braces or dollars of literal runs are
doubled, backslashes of separators too.
-/

namespace TypedTree.Template

def double (special : Char → Bool) (text : List Char) : List Char :=
  text.flatMap fun c => if special c then [c, c] else [c]

def isBrace (c : Char) : Bool :=
  c == '{' || c == '}'

def formatSegment : Segment → List Char
  | .literal text => double isBrace text.toList
  | .placeholder name none => '{' :: name.toList ++ ['}']
  | .placeholder name (some separator) =>
    '{' :: name.toList ++ ':' :: double (· == '\\') separator.toList ++ ['}']

def printFormat (segments : List Segment) : String :=
  String.ofList (segments.flatMap formatSegment)

/-- A segment in the notation of substitution templates, with every name in braces. A separator
has no spelling there. -/
def substitutionSegment : Segment → List Char
  | .literal text => double (· == '$') text.toList
  | .placeholder name _ => '$' :: '{' :: name.toList ++ ['}']

def printSubstitution (segments : List Segment) : String :=
  String.ofList (segments.flatMap substitutionSegment)

end TypedTree.Template
