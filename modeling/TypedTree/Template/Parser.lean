import TypedTree.Template.Basic
import TypedTree.Unicode.Property

/-!
# Reading of text templates

There are two notations. A format template has placeholders `{name}` and `{name:separator}`, and
doubled braces for braces. A substitution template has placeholders `$name` and `${name}`, and a
doubled dollar for a dollar. Adjacent literal characters form one run.
-/

namespace TypedTree.Template

open Unicode (isAlphabetic isAlphanumeric)

/-- Whether the character may stand in an identifier behind its start. -/
def isIdentifierPart (c : Char) : Bool :=
  isAlphanumeric c || c == '_'

/-- A letter or underscore, then letters, numbers and underscores. -/
def isIdentifier : List Char → Bool
  | [] => false
  | c :: rest => (isAlphabetic c || c == '_') && rest.all isIdentifierPart

/-- The separator that an escaped spelling stands for: a backslash makes a line feed of `n`, a tab
of `t`, and lets any other character stand for itself. -/
def unescape : List Char → List Char
  | [] => []
  | ['\\'] => ['\\']
  | '\\' :: 'n' :: rest => '\n' :: unescape rest
  | '\\' :: 't' :: rest => '\t' :: unescape rest
  | '\\' :: c :: rest => c :: unescape rest
  | c :: rest => c :: unescape rest

/-- A literal run in front of segments. There are no empty runs. -/
def addLiteral (text : List Char) (segments : List Segment) : List Segment :=
  if text.isEmpty then segments else .literal (String.ofList text) :: segments

/-- The text up to the first closing brace, and what is behind the brace. -/
def untilBrace? : List Char → Option (List Char × List Char)
  | [] => none
  | '}' :: rest => some ([], rest)
  | c :: rest => (untilBrace? rest).map fun (body, behind) => (c :: body, behind)

theorem length_untilBrace {text body behind : List Char}
    (h : untilBrace? text = some (body, behind)) : behind.length < text.length := by
  fun_induction untilBrace? text generalizing body with
  | case1 => simp at h
  | case2 rest => simp_all
  | case3 c rest _ ih =>
    simp only [Option.map_eq_some_iff] at h
    obtain ⟨⟨b, r⟩, hr, he⟩ := h
    cases he
    exact Nat.lt_succ_of_lt (ih hr)

/-- The name and the separator in the body of a placeholder. -/
def splitBody (body : List Char) : List Char × Option (List Char) :=
  let name := body.takeWhile (· != ':')
  match body.drop name.length with
  | [] => (name, none)
  | _ :: separator => (name, some separator)

/-- The placeholder with the given body, if the body is well formed. -/
def placeholder? (body : List Char) : Option Segment :=
  let (name, separator) := splitBody body
  if isIdentifier name && !body.contains '{' then
    some (.placeholder (String.ofList name) (separator.map fun s => String.ofList (unescape s)))
  else none

/-- Reads a format template from the given offset on. `literal` is the run read so far, in
reverse. -/
def formatFrom (source : String) (offset : Nat) (literal : List Char) :
    List Char → Except TemplateError (List Segment)
  | [] => .ok (addLiteral literal.reverse [])
  | '{' :: '{' :: rest => formatFrom source (offset + 2) ('{' :: literal) rest
  | '}' :: '}' :: rest => formatFrom source (offset + 2) ('}' :: literal) rest
  | '}' :: _ => .error (.strayBrace source offset)
  | '{' :: rest =>
    match _h : untilBrace? rest with
    | none => .error (.unclosed source offset)
    | some (body, behind) =>
      match placeholder? body with
      | none => .error (.invalidPlaceholder source (String.ofList body))
      | some segment =>
        let next := offset + 2 + (String.ofList body).utf8ByteSize
        (formatFrom source next [] behind).map fun segments =>
          addLiteral literal.reverse (segment :: segments)
  | c :: rest => formatFrom source (offset + c.utf8Size) (c :: literal) rest
termination_by text => text.length
decreasing_by
  all_goals try have := length_untilBrace ‹_›
  all_goals simp
  all_goals omega

/-- Reads a substitution template from the given offset on. `literal` is the run read so far, in
reverse. -/
def substitutionFrom (source : String) (offset : Nat) (literal : List Char) :
    List Char → Except TemplateError (List Segment)
  | [] => .ok (addLiteral literal.reverse [])
  | '$' :: '$' :: rest => substitutionFrom source (offset + 2) ('$' :: literal) rest
  | '$' :: '{' :: rest =>
    match _h : untilBrace? rest with
    | none => .error (.unclosed source offset)
    | some (name, behind) =>
      if isIdentifier name then
        let next := offset + 3 + (String.ofList name).utf8ByteSize
        (substitutionFrom source next [] behind).map fun segments =>
          addLiteral literal.reverse (.placeholder (String.ofList name) none :: segments)
      else .error (.invalidPlaceholder source (String.ofList name))
  | '$' :: rest =>
    let name := rest.takeWhile isIdentifierPart
    if isIdentifier name then
      let next := offset + 1 + (String.ofList name).utf8ByteSize
      (substitutionFrom source next [] (rest.drop name.length)).map fun segments =>
        addLiteral literal.reverse (.placeholder (String.ofList name) none :: segments)
    else .error (.invalidPlaceholder source (String.ofList ('$' :: name)))
  | c :: rest => substitutionFrom source (offset + c.utf8Size) (c :: literal) rest
termination_by text => text.length
decreasing_by
  all_goals try have := length_untilBrace ‹_›
  all_goals simp
  all_goals omega

def parseFormat (source : String) : Except TemplateError TextTemplate :=
  (formatFrom source 0 [] source.toList).map (⟨source, ·⟩)

def parseSubstitution (source : String) : Except TemplateError TextTemplate :=
  (substitutionFrom source 0 [] source.toList).map (⟨source, ·⟩)

end TypedTree.Template
