import TypedTree.Generation.Fragment
import TypedTree.Record.Access
import TypedTree.Template.Parser

/-!
# Render rules

A rule renders a record over the fragments of its parts: by a text template, or by a function that
sees the whole context. Names are looked up among the children first, then among the annotations,
then among the bindings of the call.
-/

namespace TypedTree

/-- Why a tree cannot be generated. -/
inductive RenderError where
  | noRule (type : TypeId)
  | missingKey (rule key : String)
  | logic (rule message : String)
  | value (error : InstanceError)
  /-- Rules that generate further values are nested too deeply. -/
  | nesting (type : TypeId)

namespace RenderError

def message (c : Catalog) : RenderError → String
  | .noRule t => s!"no render rule for `{c.typeName t}` or any of its ancestors"
  | .missingKey rule key => s!"render rule `{rule}` references unknown key `{key}`"
  | .logic rule text => s!"render rule `{rule}` failed: {text}"
  | .value error => error.message c
  | .nesting t => s!"render rules for `{c.typeName t}` are nested too deeply"

end RenderError

/-- What a rule sees of the record that it renders. -/
structure RenderContext where
  catalog : Catalog
  generator : String
  record : Record
  /-- The type name that the rule is registered under. -/
  rule : String
  children : Bindings
  attributes : Bindings
  extra : Bindings
  /-- Generates a further value with the bindings of the call. -/
  generate : Value → Except RenderError Fragment

namespace RenderContext

/-- The fragment of a name. -/
def find? (ctx : RenderContext) (key : String) : Option Fragment :=
  (ctx.children.lookup key).or ((ctx.attributes.lookup key).or (ctx.extra.lookup key))

/-- The fragment of a name that has to be there. -/
def get (ctx : RenderContext) (key : String) : Except RenderError Fragment :=
  match ctx.find? key with
  | some f => .ok f
  | none => .error (.missingKey ctx.rule key)

def text (ctx : RenderContext) (key : String) : Except RenderError String :=
  (ctx.get key).map (·.display ctx.catalog)

/-- The text of a name, with a separator between the parts of containers. -/
def join (ctx : RenderContext) (key separator : String) : Except RenderError String :=
  (ctx.get key).map (·.join ctx.catalog separator)

/-- The value of a field of the record, before generation. -/
def value (ctx : RenderContext) (key : String) : Except RenderError Value :=
  match ctx.record.get? ctx.catalog key with
  | some v => .ok v
  | none => .error (.missingKey ctx.rule key)

/-- The failure of a rule. -/
def failure (ctx : RenderContext) (message : String) : RenderError :=
  .logic ctx.rule message

end RenderContext

/-- A render rule. -/
inductive Rule where
  | format (template : TextTemplate)
  | substitution (template : TextTemplate)
  | logic (render : RenderContext → Except RenderError String)

def Segment.render (ctx : RenderContext) : Segment → Except RenderError String
  | .literal text => .ok text
  | .placeholder name none => ctx.text name
  | .placeholder name (some separator) => ctx.join name separator

def renderSegments (ctx : RenderContext) : List Segment → Except RenderError String
  | [] => .ok ""
  | s :: rest => do
    let text ← s.render ctx
    let behind ← renderSegments ctx rest
    return text ++ behind

namespace Rule

def render (ctx : RenderContext) : Rule → Except RenderError String
  | .format template => renderSegments ctx template.segments
  | .substitution template => renderSegments ctx template.segments
  | .logic render => render ctx

/-- The names of the placeholders of a text template. -/
def placeholders : Rule → List String
  | .format template => template.placeholders
  | .substitution template => template.placeholders
  | .logic _ => []

def description : Rule → String
  | .format template => "Format(" ++ Text.quoted template.source ++ ")"
  | .substitution template => "Substitute(" ++ Text.quoted template.source ++ ")"
  | .logic _ => "Logic(..)"

def template? : Rule → Option TextTemplate
  | .format template => some template
  | .substitution template => some template
  | .logic _ => none

end Rule

end TypedTree
