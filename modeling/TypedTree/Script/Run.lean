import TypedTree.Script.Answer
import TypedTree.Script.Evaluation
import TypedTree.Tree.Sequence
import TypedTree.Tree.Visit
import TypedTree.Value.Order

/-!
# Running scripts

Each step is carried out in the environment that the steps before it have left, those that failed
included. Log lines that hooks write during a step belong to its answer.
-/

namespace TypedTree.Script

/-! ## Sessions and types -/

def modifyState (change : State → State) : Action Unit :=
  modify fun env => { env with world := { env.world with state := change env.world.state } }

/-- A new session under the given name. -/
def freshSession (name : String) : Action SessionId := do
  let env ← get
  let (id, state) := env.world.state.addSession
  set { env with
    world := { env.world with state := state }, sessions := (name, id) :: env.sessions }
  return id

/-- Looks at a session, after doing something with it. -/
def runSession (name : String) (fresh : Bool) (action : Part SessionAction) : Action Answer := do
  let id ← if fresh then freshSession name else findSession name
  let before := (← get).world.state
  let minted ← match ← require action with
    | .look => pure none
    | .next => do
      let (node, state) := before.mint id
      modifyState fun _ => state
      pure (some node)
    | .resetIds start => do
      modifyState (·.modifySession id (·.resetIds start))
      pure none
    | .clearApplications => do
      modifyState (·.modifySession id (·.clearApplications))
      pure none
    | .reset => do
      modifyState (·.modifySession id (·.reset))
      pure none
  return .session ((← get).world.state.session id) minted

/-- Declares an enumeration, if a declaration is given, and looks for members. -/
def runEnum (id : String) (declared : Option EnumType) (find : List (Part String)) :
    Action Answer := do
  match declared with
  | none => pure ()
  | some e =>
    modify fun env =>
      let (e, catalog) := env.catalog.addEnum e
      { env with world := { env.world with catalog }, enums := (id, e) :: env.enums }
  let e ← findEnum id
  let c ← getCatalog
  return .enum e ((← evalList require find).map (c.member? e))

/-- Registers a type under the given name, or its own. -/
def registerType (id : Option String) (t : TypeId) (quiet : Bool) : Action Answer := do
  let env ← get
  let name := id.getD (env.catalog.typeName t)
  set { env with types := (name, t) :: env.types }
  return if quiet then .schemaName t else .schema t (env.firstName? t) false

def runRecord (id : Option String) (d : RecordExpr) (quiet : Bool) : Action Answer := do
  let d ← d.eval
  let (t, catalog) ← liftSchema ((← getCatalog).declare d)
  modify fun env => { env with world := { env.world with catalog } }
  registerType id t quiet

/-- Applies a generic type. -/
def runSpecialize (id : Option String) (type : String) (arguments : List TyExpr) (quiet : Bool) :
    Action Answer := do
  let generic ← findType type
  let arguments ← TyExpr.evalAll arguments
  let (t, world) ← liftSchema ((← get).world.specialize generic arguments)
  modify fun env => { env with world }
  registerType id t quiet

/-- Looks at a type description. -/
def runType (type : TyExpr) (scope : Option (List TyExpr)) : Action Answer := do
  let t ← type.eval
  let scope ← evalOption (evalList TyExpr.evalVar) scope
  match t.check (← getCatalog) scope with
  | .ok () => return .ty t none
  | .error fault => return .ty t (some fault)

/-! ## Values -/

/-- Registers a value, if a name is given. -/
def keepValue (id : Option String) (v : Value) (quiet : Bool) : Action Answer := do
  match id with
  | some name => modify fun env => { env with values := (name, v) :: env.values }
  | none => pure ()
  return .kept v quiet

/-- Puts a part back into the whole, changed or as a failed change leaves it. -/
def putBack (put : Value → Value) :
    Except (Fault × Value) (Record × Value) → Except (Fault × Value) (Record × Value)
  | .ok (target, v) => .ok (target, put v)
  | .error (fault, v) => .error (fault, put v)

/-- Changes the record that a path leads to, and gives it beside the whole value. Fields on the way
are changed in place, so that records of frozen types on the way refuse. -/
def modifyAt (c : Catalog) (change : Record → InPlace Fault Record) :
    List PathStep → Value → Except (Fault × Value) (Record × Value)
  | [], v =>
    match v with
    | .record r =>
      match change r with
      | .ok r => .ok (r, .record r)
      | .error (fault, r) => .error (fault, .record r)
    | v => .error (.request, v)
  | .field name :: rest, v =>
    match v with
    | .record r =>
      match r.writableSlot c name with
      | .error e => .error (.record e, .record r)
      | .ok slot =>
        putBack (fun v => .record (r.setSlot slot v))
          (modifyAt c change rest (r.values.getD slot .none))
    | v => .error (.request, v)
  | .malformed :: _, v => .error (.request, v)
  | .index position :: rest, v =>
    match v with
    | .tuple items =>
      match items[position]? with
      | some item =>
        putBack (fun v => .tuple (items.set position v)) (modifyAt c change rest item)
      | none => .error (.request, .tuple items)
    | .list items =>
      match items[position]? with
      | some item => putBack (fun v => .list (items.set position v)) (modifyAt c change rest item)
      | none => .error (.request, .list items)
    | v => .error (.request, v)

/-- Changes the record that a register and a path lead to, and gives it as it is then. Whatever the
change leaves is in the register afterwards. -/
def modifyRegister (register : Part String) (path : List PathStep)
    (change : Catalog → Record → InPlace Fault Record) : Action Record := do
  let register ← require register
  let v ← findValue register
  let c ← getCatalog
  let keep (v : Value) : Action Unit :=
    modify fun env => { env with values := (register, v) :: env.values }
  match modifyAt c (change c) path v with
  | .error (fault, v) =>
    keep v
    throw fault
  | .ok (target, v) =>
    keep v
    return target

/-- Changes a field of a record, if the field can be read from the request. -/
def changeField (field : Part String) (change : String → InPlace InstanceError Record)
    (r : Record) : InPlace Fault Record :=
  match field with
  | some name => (change name).relabelError .record
  | none => .error (.request, r)

def readPath (register : String) (path : List PathStep) : Action Value := do
  let v ← findValue register
  follow (← getCatalog) v path

/-- The record that a register and a path lead to. -/
def readRecord (register : String) (path : List PathStep) : Action Record := do
  require (← readPath register path).asRecord?

/-- Reads a value, or a field of it. -/
def runGet (register : String) (path : List PathStep) (field : Option (Part String))
    (strict : Bool) : Action Answer := do
  match field with
  | none => return .value (← readPath register path)
  | some name =>
    let r ← readRecord register path
    let name ← require name
    let c ← getCatalog
    if strict then return .value (← liftRecord (r.get c name))
    else
      return match r.get? c name with
        | some v => .value v
        | none => .absent

/-- What is known of a symbol in a scope. -/
def reportSymbol (c : Catalog) (r : Record) (name : String) : SymbolReport where
  declared := r.symbols?.map (·.contains name)
  id := r.symbols?.bind (·.find? name)
  node := r.resolveSymbol? c name

def runCompare (a b : Expr) : Action Answer := do
  let x ← a.eval
  let y ← b.eval
  let c ← getCatalog
  return .compared (x.eqv c y) (x.sameHash c y) (x.order c y)

/-! ## Trees -/

/-- Walks a tree and keeps the items asked for. -/
def runWalk (e : Expr) (order : Part WalkOrder) (filter : WalkFilter) (limit : Option Nat)
    (keys : Bool) : Action Answer := do
  let v ← e.eval
  let c ← getCatalog
  let placed := v.walk c (← require order)
  let kept ← match filter with
    | .all => pure placed
    | .matching type => do
      let t ← type.eval
      pure (placed.filter fun x => t.accepts c x.2)
    | .instances type => do
      let t ← findType type
      pure (placed.filter fun x => x.2.asRecord?.any (·.isInstance c t))
  return .walked kept.length (kept.take (limit.getD kept.length)) keys

def runSelect (e : Expr) (order : Part WalkOrder) (selection : Part Selection) :
    Action Answer := do
  let v ← e.eval
  let c ← getCatalog
  let items := v.items c (← require order)
  match ← require selection with
  | .records => return .texts ((recordsOf items).map fun r => c.typeName r.type)
  | .ofType type => return .items (itemsOfType c (← type.eval) items)
  | .instancesOf type =>
    return .items ((instancesOf c (← findType type) items).map .record)
  | .pluck field => return .values (pluck c field items)

/-- A table of handlers, with the handlers that registering has replaced. -/
def buildTable (entries : List (String × String)) :
    HandlerTable String × List (Option String) :=
  entries.foldl (fun (table, replaced) (name, label) =>
    let (old, table) := table.register name label
    (table, replaced ++ [old])) ({}, [])

/-- The visitor that logs nodes with their handlers, newest first, and does not go on below a node
whose handler is `stop`. It logs all other items too, if asked to. -/
def loggingVisitor (c : Catalog) (table : HandlerTable String) (all : Bool) :
    Visitor (List VisitEntry) where
  visitNode walk r log :=
    let handler := table.resolve? c r.type
    let log := .node r handler :: log
    if handler.all (·.2 != "stop") then walk log else log
  visitValue walk v log := walk (if all then .item v :: log else log)

/-- Looks up handlers. -/
def runDispatch (entries : List (String × String)) (types get : List String) : Action Answer := do
  let types ← evalList findType types
  let c ← getCatalog
  let (table, replaced) := buildTable entries
  return .dispatched replaced table.size (get.map table.get?) (types.map (table.resolve? c))

def runTransform (id : Option String) (transformation : TransformExpr) (e : Expr) (quiet : Bool) :
    Action Answer := do
  let w ← transformation.eval
  let v ← e.eval
  match ← runConstruct fun h c => w.transform h c v with
  | some v => keepValue id v quiet
  | none => return .removed

def runSequence (items : List Expr) (function : Part SequenceFunction) : Action Answer := do
  let items ← Expr.evalAll items
  match ← require function with
  | .chunks size => return .chunks (chunksOf .keep size items)
  | .exactChunks size filler =>
    match ← evalOption Expr.eval filler with
    | none => return .chunks (chunksOf .drop size items)
    | some v => return .chunks (chunksOf (.pad v) size items)
  | .everyNth step => return .values (everyNth step items)
  | .differences other filler =>
    let other ← Expr.evalAll other
    let filler ← evalOption Expr.eval filler
    return .chunks ((differences (← getCatalog) filler items other).map fun (x, y) => [x, y])

/-! ## Generation -/

def runGenerator (id : Option String) (name : String) (rules : List (Part (String × RuleExpr)))
    (leaf : LeafStyle) (templates : List (Part String)) : Action Answer := do
  let rules ← evalList (fun part => do
    let (type, rule) ← require part
    return (type, ← rule.eval)) rules
  let g ← liftTemplate (({ name, leaf := leaf.dump } : Generator).addRules rules)
  let templates ← evalList require templates
  modify fun env => { env with generators := (id.getD name, g) :: env.generators }
  return .generator g (templates.map g.rules.get?)

def runGenerate (generator : String) (e : Expr) (extra : List (String × FragmentExpr))
    (separator : Option String) (quiet : Bool) : Action Answer := do
  let g ← findGenerator generator
  let v ← e.eval
  let extra ← evalBindings extra
  let f ← liftRender (g.generate (← getCatalog) extra v)
  return if quiet then .fragmentSummary f else .fragment f separator

/-- Renders a template as the rule for an empty node, with the given bindings. -/
def renderAlone (c : Catalog) (rule : Rule) (extra : Bindings) : Except RenderError String :=
  let s : Schema := { (default : Schema) with name := "T", kind := .node }
  let (t, c) := c.addSchema s
  let g : Generator := { name := "", rules := ({} : HandlerTable Rule).insert "T" rule }
  (g.generate c extra (.record ⟨t, [], some ⟨1, none⟩, []⟩)).map (·.display c)

/-- Reads a template, and renders it if bindings are given. -/
def runTemplate (format : Bool) (source : String)
    (vars : Option (List (String × FragmentExpr))) : Action Answer := do
  let t ← liftTemplate
    (if format then Template.parseFormat source else Template.parseSubstitution source)
  let rule := if format then Rule.format t else .substitution t
  let extra ← evalOption evalBindings vars
  let c ← getCatalog
  return .template t (extra.map (renderAlone c rule))

/-! ## Names and formatters -/

def runCase : CaseRequest → Answer
  | .join words target => .text (target.join words)
  | .convert style name target => .optionText (style.convert? name target)
  | .split style name => .optionTexts (style.split? name)

def runFormatter : FormatterRequest → Action Answer
  | .forLanguage language => return .formatter (Formatter.forLanguage? language)
  | .clang style fallback sortIncludes =>
    return .formatter (some (.clangFormat style fallback sortIncludes))
  | .format language source skipErrors =>
    match Formatter.forLanguage? language with
    | some _ => throw .request
    | none =>
      match formatUnknown language source skipErrors with
      | .ok text => return .text text
      | .error e => throw (.language e)

/-! ## Steps -/

def perform : Step → Action Answer
  | .session name fresh action => runSession name fresh action
  | .enum id declared find => runEnum id declared find
  | .record id declaration quiet => runRecord id declaration quiet
  | .specialize id t arguments quiet => runSpecialize id t arguments quiet
  | .describe name debug => do
    let t ← findType name
    return .schema t ((← get).firstName? t) debug
  | .subtype a b => do
    let t ← findType a
    let ancestor ← findType b
    return .truth ((← getCatalog).isSubtype t ancestor)
  | .type t scope => runType t scope
  | .sameType a b => do
    let s ← a.eval
    let t ← b.eval
    return .truth (s == t)
  | .fold folding t => do
    let f ← folding.eval
    let t ← t.eval
    return .text ((t.fold f).text (← getCatalog))
  | .keep id e quiet => do keepValue id (← e.eval) quiet
  | .construct id name arguments quiet => do
    let t ← findType name
    let arguments ← Expr.evalNamed arguments
    keepValue id (← makeRecord t arguments) quiet
  | .inspect e => return .inspected (← e.eval)
  | .validate t e => do
    let t ← t.eval
    let v ← e.eval
    match t.validate (← getCatalog) v with
    | .ok () => return .validated none
    | .error reason => return .validated (some reason)
  | .compare a b => runCompare a b
  | .get register path field strict => runGet register path field strict
  | .set register path field e => do
    let v ← e.eval
    let r ← modifyRegister register path fun c r => changeField field (r.set c · v) r
    return .text (r.text (← getCatalog))
  | .annotate register path field e => do
    let v ← e.eval
    let r ← modifyRegister register path fun c r => changeField field (r.annotate c · v) r
    return .notes (r.allAnnotations (← getCatalog))
  | .node register path note => do
    let r ← readRecord register path
    let note ← evalOption require note
    let c ← getCatalog
    return .node r (note.map (r.annotated? c))
  | .symbols register path find => do
    let r ← readRecord register path
    let find ← evalList require find
    let c ← getCatalog
    return .symbols r.symbols? (find.map (reportSymbol c r))
  | .walk e order filter limit keys => runWalk e order filter limit keys
  | .children e => do
    let v ← e.eval
    return .placed (placedChildren (← getCatalog) v)
  | .select e order selection => runSelect e order selection
  | .countNodes e => do
    let v ← e.eval
    return .count ((Visitor.ofNode fun n _ => n + 1).visit (← getCatalog) 0 v)
  | .visit e entries all => do
    let v ← e.eval
    let c ← getCatalog
    let visitor := loggingVisitor c (buildTable (← require entries)).1 all
    return .visited (visitor.visit c [] v).reverse
  | .dispatch entries types names => runDispatch entries types names
  | .transform id transformation e quiet => runTransform id transformation e quiet
  | .sequence items function => runSequence items function
  | .generator id name rules leaf templates => runGenerator id name rules leaf templates
  | .generate name e extra separator quiet => runGenerate name e extra separator quiet
  | .ruleFor name e => do
    let g ← findGenerator name
    let r ← require (← e.eval).asRecord?
    return .rule (g.ruleFor? (← getCatalog) r)
  | .fragment f separator => return .fragment (← f.eval) separator
  | .template format source vars => runTemplate format source vars
  | .caseStyle request => return runCase request
  | .identifier words => return .identifier (some (.ofWords words))
  | .parseIdentifier name style => return .identifier (Identifier.parse? name style)
  | .block start ops =>
    let (last, steps) := Text.BlockOp.traceAll start ops
    return .block steps last
  | .formatter request => runFormatter request
  | .malformed => throw .request

/-- The outcome of a step: its answer or why it has none, and the log lines written during it. -/
structure Outcome where
  answer : Except Fault Answer
  log : List String

def Env.runStep (env : Env) (step : Step) : Outcome × Env :=
  let memory := { env.world.state.memory with log := [] }
  let env := { env with world := { env.world with state := { env.world.state with memory } } }
  let (answer, env) := (perform step).run.run env
  (⟨answer, env.world.state.memory.log⟩, env)

end TypedTree.Script
