/-!
# Text templates

A text template is a sequence of literal runs and placeholders. A placeholder may carry a separator
for joining the elements of what takes its place.
-/

namespace TypedTree

/-- A piece of a text template. -/
inductive Segment where
  | literal (text : String)
  | placeholder (name : String) (separator : Option String)
deriving DecidableEq, Repr

/-- A text template with the source that it was read from. -/
structure TextTemplate where
  source : String
  segments : List Segment
deriving DecidableEq, Repr

namespace TextTemplate

def placeholders (t : TextTemplate) : List String :=
  t.segments.filterMap fun
    | .placeholder name _ => some name
    | .literal _ => none

end TextTemplate

/-- Why a source is not a text template. Offsets count bytes. -/
inductive TemplateError where
  | unclosed (template : String) (offset : Nat)
  | strayBrace (template : String) (offset : Nat)
  | invalidPlaceholder (template : String) (placeholder : String)
  /-- The source of the rule for a type is not a template. -/
  | rule (type : String) (reason : TemplateError)
deriving DecidableEq, Repr

namespace TemplateError

def message : TemplateError → String
  | .unclosed template offset => s!"unclosed placeholder at offset {offset} in `{template}`"
  | .strayBrace template offset => s!"single `\x7d` at offset {offset} in `{template}`"
  | .invalidPlaceholder template placeholder =>
    s!"invalid placeholder `{placeholder}` in `{template}`"
  | .rule type reason => s!"invalid render rule for `{type}`: {reason.message}"

end TemplateError

end TypedTree
