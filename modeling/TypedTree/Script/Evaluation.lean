import TypedTree.Script.Step
import TypedTree.Tree.Transform

/-!
# Evaluation of the parts of steps

Declarations, foldings, transformations, fragments and rules of scripts, turned into those of the
library. Hooks are added to the table of the environment as they are met.
-/

namespace TypedTree.Script

def evalOption {α β : Type} (eval : α → Action β) : Option α → Action (Option β)
  | none => return none
  | some a => return some (← eval a)

def evalList {α β : Type} (eval : α → Action β) : List α → Action (List β)
  | [] => return []
  | a :: as => do
    let b ← eval a
    return b :: (← evalList eval as)

/-! ## Declarations -/

def addFactory (f : Factory) : Action HookId := do
  let env ← get
  set { env with hooks := { env.hooks with factories := env.hooks.factories ++ [f] } }
  return env.hooks.factories.length

def addConverter (f : Converter) : Action HookId := do
  let env ← get
  set { env with hooks := { env.hooks with converters := env.hooks.converters ++ [f] } }
  return env.hooks.converters.length

/-- Adds a check of a field to the table. -/
def addCheck (f : Check) : Action HookId := do
  let env ← get
  set { env with hooks := { env.hooks with checks := env.hooks.checks ++ [f] } }
  return env.hooks.checks.length

/-- Adds a check of an instance to the table. -/
def addRootCheck (f : RootCheck) : Action HookId := do
  let env ← get
  set { env with hooks := { env.hooks with rootChecks := env.hooks.rootChecks ++ [f] } }
  return env.hooks.rootChecks.length

/-- A new counter that starts at the given number. -/
def addCounter (start : Int64) : Action Nat := do
  let env ← get
  let counters := env.world.state.memory.counters
  let memory := { env.world.state.memory with counters := counters ++ [start] }
  set { env with world := { env.world with state := { env.world.state with memory } } }
  return counters.length

/-- Evaluates a factory and adds it to the table. -/
def FactoryExpr.eval : FactoryExpr → Action HookId
  | .fixed e => do addFactory (.fixed (← e.eval))
  | .counter start => do addFactory (.counter (← addCounter start))
  | .make type => do addFactory (.make (← findType type))
  | .malformed => throw .request

def FieldExpr.eval (f : FieldExpr) : Action FieldDecl := do
  let name ← require f.name
  let type ← evalOption TyExpr.eval f.type
  let default ← evalOption Expr.eval f.default
  let factory ← evalOption FactoryExpr.eval f.factory
  let converter ← evalOption (fun part => do addConverter (← require part)) f.converter
  return { name, type, default, factory, converter, coerces := f.coerces, init := f.init,
           compare := f.compare, hash := f.hash, repr := f.repr }

def RecordExpr.eval (d : RecordExpr) : Action Declaration := do
  let name ← require d.name
  let session ← findSession (d.session.getD "main")
  let parent ← evalOption (fun part => do findType (← require part)) d.parent
  let params ← evalList TyExpr.evalVar d.params
  let fields ← evalList FieldExpr.eval d.fields
  let checks ← evalList (fun part => do
    let (name, check) ← require part
    return (name, ← addCheck check)) d.checks
  let rootChecks ← evalList (fun part => do addRootCheck (← require part)) d.rootChecks
  return { session, name, kind := d.kind, parent, params, fields, checks, rootChecks,
           frozen := d.frozen, hashable := d.hashable, ordered := d.ordered,
           abstract := d.abstract, scope := d.scope }

/-! ## Foldings and transformations -/

def FoldExpr.eval : FoldExpr → Action Ty.Folding
  | .identity => return {}
  | .substitution replacements => do
    let replacements ← evalList (fun (name, e) => return (name, ← TyExpr.eval e)) replacements
    return Ty.substitution replacements
  | .dropOptional => return { optional := id }
  | .listToSet => return { list := .set }
  | .swapMap => return { map := fun key value => .map value key }

/-- The decision to remove the nodes of a type name, or to replace them. -/
def onTypeName (c : Catalog) (type : String) (decision : Decision) (r : Record) : Decision :=
  if c.typeName r.type = type then decision else .proceed

def TransformExpr.eval (e : TransformExpr) : Action Transformer := do
  let c ← getCatalog
  match e with
  | .identity => return {}
  | .drop type => do
    let t ← type.eval
    return { value := fun v => if t.accepts c v then .remove else .proceed }
  | .wrap type => do
    let t ← type.eval
    return { value := fun v => if t.accepts c v then .replace (.list [v]) else .proceed }
  | .increment n =>
    return { value := fun
      | .int m => .replace (.int (m + n))
      | _ => .proceed }
  | .upper =>
    return { value := fun
      | .str s => .replace (.str (upperAscii s))
      | _ => .proceed }
  | .prune type => return { node := onTypeName c type .remove }
  | .swap type e => do
    let v ← e.eval
    return { node := onTypeName c type (.replace v) }
  | .hoist type field =>
    return { rebuilt := fun r =>
      if c.typeName r.type = type then r.get? c field else some (.record r) }

/-! ## Fragments -/

/-- Replaces the fragment of an equal key, or adds the entry behind the others. -/
def putFragment (c : Catalog) (key : Value) (f : Fragment) :
    List (Value × Fragment) → List (Value × Fragment)
  | [] => [(key, f)]
  | (k, g) :: es => if k.eqv c key then (k, f) :: es else (k, g) :: putFragment c key f es

namespace FragmentExpr

mutual

def eval : FragmentExpr → Action Fragment
  | .text s => return .text s
  | .seq items => return .seq (← evalAll items)
  | .set items => return .set (← evalAll items)
  | .map entries => do
    let c ← getCatalog
    let entries ← evalEntries entries
    return .map (entries.foldl (fun acc (k, f) => putFragment c k f acc) [])
  | .malformed => throw .request
termination_by structural e => e

def evalAll : List FragmentExpr → Action (List Fragment)
  | [] => return []
  | e :: es => do
    let f ← e.eval
    return f :: (← evalAll es)
termination_by structural es => es

def evalEntries : List (Expr × FragmentExpr) → Action (List (Value × Fragment))
  | [] => return []
  | (k, e) :: es => do
    let key ← k.eval
    let f ← e.eval
    return (key, f) :: (← evalEntries es)
termination_by structural es => es

end

end FragmentExpr

/-- Evaluates bindings; a later one of a name takes the place of an earlier one. -/
def evalBindings (named : List (String × FragmentExpr)) : Action Bindings := do
  let named ← evalList (fun (name, e) => return (name, ← FragmentExpr.eval e)) named
  return named.foldl (fun acc (name, f) => Bindings.put name f acc) []

/-! ## Logic rules -/

/-- The text of a fragment's own text, or of its parts with commas. -/
def fragmentText (ctx : RenderContext) (f : Fragment) : String :=
  f.display ctx.catalog

def describeContext (ctx : RenderContext) : String :=
  let c := ctx.catalog
  let keys (bindings : Bindings) := joinTexts "," (bindings.map (·.1))
  joinTexts "|" [ctx.rule, (ctx.record.label? c).getD (c.typeName ctx.record.type),
    keys ctx.children, keys ctx.attributes, keys ctx.extra, ctx.generator]

namespace Logic

mutual

/-- Evaluates the constants of a logic rule. -/
def eval : Logic Expr → Action (Logic Value)
  | .constant e => return .constant (← e.eval)
  | .concat parts => return .concat (← evalAll parts)
  | .text key => return .text key
  | .join key separator => return .join key separator
  | .raw key => return .raw key
  | .field key => return .field key
  | .generate key => return .generate key
  | .first key => return .first key
  | .fail message => return .fail message
  | .info => return .info
  | .malformed => throw .request
termination_by structural l => l

/-- Evaluates the constants of several logic rules. -/
def evalAll : List (Logic Expr) → Action (List (Logic Value))
  | [] => return []
  | l :: ls => do
    let m ← l.eval
    return m :: (← evalAll ls)
termination_by structural ls => ls

end

mutual

/-- Computes the text of a logic rule. -/
def render (ctx : RenderContext) : Logic Value → Except RenderError String
  | .text key => ctx.text key
  | .join key separator => ctx.join key separator
  | .raw key => (ctx.value key).map (·.text ctx.catalog)
  | .field key =>
    match ctx.record.get ctx.catalog key with
    | .ok v => .ok (v.text ctx.catalog)
    | .error e => .error (.value e)
  | .generate key => do
    let v ← ctx.value key
    return (← ctx.generate v).join ctx.catalog "|"
  | .constant v => (ctx.generate v).map (fragmentText ctx)
  | .first key =>
    match (ctx.find? key).bind (·.elements?) with
    | some (f :: _) => .ok (fragmentText ctx f)
    | _ => .error (ctx.failure ("no first item in " ++ key))
  | .fail message => .error (ctx.failure message)
  | .info => .ok (describeContext ctx)
  | .concat parts => renderAll ctx parts
  | .malformed => .ok ""
termination_by structural l => l

/-- The texts of several logic rules, one behind the other. -/
def renderAll (ctx : RenderContext) : List (Logic Value) → Except RenderError String
  | [] => .ok ""
  | l :: ls => do
    let text ← l.render ctx
    return text ++ (← renderAll ctx ls)
termination_by structural ls => ls

end

end Logic

def RuleExpr.eval : RuleExpr → Action RuleSource
  | .format source => return .format source
  | .substitution source => return .substitution source
  | .logic l => do
    let l ← l.eval
    return .logic fun ctx => l.render ctx

def LeafStyle.dump : LeafStyle → Option (Catalog → Value → String)
  | .plain => none
  | .repr => some fun c v => v.text c
  | .angle => some fun c v => "<" ++ v.dump c ++ ">"

end TypedTree.Script
