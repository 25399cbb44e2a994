import TypedTree.Generation.Rule
import TypedTree.Schema.Handlers
import TypedTree.Text.Utf8

/-!
# Generation

A generator turns a tree into text by render rules for type names. A record is rendered by the rule
of its own type, or else of its nearest ancestor that has one, once its parts are generated. A node
without a rule is a failure; a plain record without one shows as its text. Containers keep their
shape, and scalars are dumped.
-/

namespace TypedTree

/-- The dump of a scalar: strings without quotes, nothing for the absent value, bytes decoded, and
members by name. -/
def Value.dump (c : Catalog) : Value → String
  | .none => ""
  | .bool b => if b then "true" else "false"
  | .str s => s
  | .bytes b => Text.decode b
  | .member m => c.memberName m
  | v => v.text c

/-- A text generator. -/
structure Generator where
  name : String
  rules : HandlerTable Rule := {}
  /-- The dump of scalars, where it is not the default one. -/
  leaf : Option (Catalog → Value → String) := none

namespace Generator

def description (g : Generator) : String :=
  "TemplatedGenerator \x7b name: " ++ Text.quoted g.name ++ ", rules: " ++
    toString g.rules.size ++ ", custom_leaf_dump: " ++ toString g.leaf.isSome ++ " \x7d"

def dumpLeaf (g : Generator) (c : Catalog) (v : Value) : String :=
  match g.leaf with
  | some dump => dump c v
  | none => v.dump c

/-- The rule for a record, with the type name that it is registered under. -/
def ruleFor? (g : Generator) (c : Catalog) (r : Record) : Option (String × Rule) :=
  g.rules.resolve? c r.type

/-- Whether a field is generated as a child: of a plain record, every field is. -/
def isRendered (r : Record) (f : Field) : Bool :=
  !r.isNode || f.kind == .child

mutual

/-- Generates a value; `again` generates what a rule asks for. -/
def generateWith (g : Generator) (c : Catalog) (extra : Bindings)
    (again : Value → Except RenderError Fragment) : Value → Except RenderError Fragment
  | .record r => generateRecord g c extra again r
  | .list items => (generateAll g c extra again items).map .seq
  | .tuple items => (generateAll g c extra again items).map .seq
  | .set items => (generateAll g c extra again items).map .set
  | .map entries => (generateEntries g c extra again entries).map .map
  | leaf => .ok (.text (g.dumpLeaf c leaf))
termination_by structural v => v

def generateRecord (g : Generator) (c : Catalog) (extra : Bindings)
    (again : Value → Except RenderError Fragment) : Record → Except RenderError Fragment
  | ⟨type, values, node, dynamic⟩ => do
    let r : Record := ⟨type, values, node, dynamic⟩
    match g.ruleFor? c r with
    | none => if r.isNode then throw (.noRule type) else return .text (r.text c)
    | some (name, rule) =>
      let fields := (c.schema type).fields
      let children ← generateFields g c extra again (isRendered r) fields values
      let declared ← generateFields g c extra again (·.kind == .note) fields values
      let further ← generateBindings g c extra again dynamic
      let text ← rule.render {
        catalog := c, generator := g.name, record := r, rule := name, children
        attributes := declared ++ further, extra, generate := again }
      return .text text
termination_by structural r => r

/-- Generates the values of the fields that satisfy a condition. -/
def generateFields (g : Generator) (c : Catalog) (extra : Bindings)
    (again : Value → Except RenderError Fragment) (p : Field → Bool) (fields : List Field) :
    List Value → Except RenderError Bindings
  | [] => .ok []
  | v :: vs =>
    match fields with
    | [] => .ok []
    | f :: fs =>
      if p f then do
        let fragment ← generateWith g c extra again v
        let rest ← generateFields g c extra again p fs vs
        return (f.name, fragment) :: rest
      else generateFields g c extra again p fs vs
termination_by structural vs => vs

/-- Generates named values. -/
def generateBindings (g : Generator) (c : Catalog) (extra : Bindings)
    (again : Value → Except RenderError Fragment) :
    List (String × Value) → Except RenderError Bindings
  | [] => .ok []
  | (name, v) :: rest => do
    let fragment ← generateWith g c extra again v
    let fragments ← generateBindings g c extra again rest
    return (name, fragment) :: fragments
termination_by structural named => named

def generateAll (g : Generator) (c : Catalog) (extra : Bindings)
    (again : Value → Except RenderError Fragment) :
    List Value → Except RenderError (List Fragment)
  | [] => .ok []
  | v :: vs => do
    let fragment ← generateWith g c extra again v
    let fragments ← generateAll g c extra again vs
    return fragment :: fragments
termination_by structural vs => vs

/-- Generates the values of a map's entries; keys are kept. -/
def generateEntries (g : Generator) (c : Catalog) (extra : Bindings)
    (again : Value → Except RenderError Fragment) :
    List (Value × Value) → Except RenderError (List (Value × Fragment))
  | [] => .ok []
  | (k, v) :: es => do
    let fragment ← generateWith g c extra again v
    let fragments ← generateEntries g c extra again es
    return (k, fragment) :: fragments
termination_by structural es => es

end

/-- Generates a value, where rules may generate further values to the given depth. -/
def generateWithin (g : Generator) (c : Catalog) (extra : Bindings) :
    Nat → Value → Except RenderError Fragment
  | 0, v => .error (.nesting ((v.asRecord?.map (·.type)).getD 0))
  | depth + 1, v => g.generateWith c extra (g.generateWithin c extra depth) v

/-- How deeply rules may generate further values. -/
def nestingLimit : Nat := 0x100000000

def generate (g : Generator) (c : Catalog) (extra : Bindings) (v : Value) :
    Except RenderError Fragment :=
  g.generateWithin c extra nestingLimit v

end Generator

/-! ## Building generators -/

/-- The rule that a user gives for a type name. -/
inductive RuleSource where
  | format (source : String)
  | substitution (source : String)
  | logic (render : RenderContext → Except RenderError String)

def RuleSource.read : RuleSource → Except TemplateError Rule
  | .format source => (Template.parseFormat source).map .format
  | .substitution source => (Template.parseSubstitution source).map .substitution
  | .logic render => .ok (.logic render)

namespace Generator

/-- Registers rules in order; the first malformed template is a failure. -/
def addRules (g : Generator) : List (String × RuleSource) → Except TemplateError Generator
  | [] => .ok g
  | (name, source) :: rest =>
    match source.read with
    | .ok rule => ({ g with rules := g.rules.insert name rule } : Generator).addRules rest
    | .error e => .error (.rule name e)

end Generator

end TypedTree
