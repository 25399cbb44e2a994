import TypedTree.Generation.Formatter
import TypedTree.Generation.Generator
import TypedTree.Schema.Declaration
import TypedTree.Schema.Specialization
import TypedTree.Script.Hooks

/-!
# Environments of scripts

A script works in an environment that holds all types and their state, and registers for sessions,
enumerations, types, values and generators. A later registration hides an earlier one of its name.
-/

namespace TypedTree.Script

/-- Everything that the steps of a script share. -/
structure Env where
  world : World := {}
  hooks : HookTable := {}
  sessions : List (String × SessionId) := []
  enums : List (String × EnumId) := []
  types : List (String × TypeId) := []
  values : List (String × Value) := []
  generators : List (String × Generator) := []

namespace Env

def catalog (env : Env) : Catalog :=
  env.world.catalog

/-- The environment that a script starts with: it has one session. -/
def initial : Env :=
  let (id, state) := ({} : State).addSession
  { world := ⟨{}, state⟩, sessions := [("main", id)] }

/-- The first name under which a type was registered. -/
def firstName? (env : Env) (t : TypeId) : Option String :=
  (env.types.reverse.find? (·.2 == t)).map (·.1)

end Env

/-- Why a step has no answer. -/
inductive Fault where
  /-- The step asks for something that is not there or does not apply. -/
  | request
  | schema (error : SchemaError)
  | record (error : InstanceError)
  | render (error : RenderError)
  | template (error : TemplateError)
  | language (error : UnknownLanguage)

/-- An action in an environment. What it changed before it fails stays changed. -/
abbrev Action := ExceptT Fault (StateM Env)

/-- A part of a request, if it can be read. One that cannot be read fails when it is reached. -/
abbrev Part (α : Type) := Option α

/-- The value of an optional that has to be there. -/
def require {α : Type} : Option α → Action α
  | some a => pure a
  | none => throw .request

def findSession (name : String) : Action SessionId := do
  require ((← get).sessions.lookup name)

def findEnum (name : String) : Action EnumId := do
  require ((← get).enums.lookup name)

def findType (name : String) : Action TypeId := do
  require ((← get).types.lookup name)

def findValue (name : String) : Action Value := do
  require ((← get).values.lookup name)

def findGenerator (name : String) : Action Generator := do
  require ((← get).generators.lookup name)

def getCatalog : Action Catalog :=
  return (← get).catalog

/-- Lifts an outcome that may fail on an instance. -/
def liftRecord {α : Type} : Except InstanceError α → Action α
  | .ok a => pure a
  | .error e => throw (.record e)

/-- Lifts an outcome that may fail on a schema. -/
def liftSchema {α : Type} : Except SchemaError α → Action α
  | .ok a => pure a
  | .error e => throw (.schema e)

/-- Lifts an outcome that may fail on a template. -/
def liftTemplate {α : Type} : Except TemplateError α → Action α
  | .ok a => pure a
  | .error e => throw (.template e)

/-- Lifts an outcome that may fail to render. -/
def liftRender {α : Type} : Except RenderError α → Action α
  | .ok a => pure a
  | .error e => throw (.render e)

/-- Carries out an action on the state of the sessions. -/
def runConstruct {α : Type} (action : Hooks → Catalog → Construct α) : Action α := do
  let env ← get
  let (outcome, state) := ((action env.hooks.hooks env.catalog).run).run env.world.state
  set { env with world := { env.world with state := state } }
  liftRecord outcome

/-- Constructs an instance. -/
def makeRecord (t : TypeId) (arguments : List (String × Value)) : Action Value := do
  let r ← runConstruct fun h c => construct h c t arguments
  return .record r

end TypedTree.Script
