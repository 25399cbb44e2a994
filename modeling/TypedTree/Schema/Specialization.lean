import TypedTree.Schema.Error
import TypedTree.Session.Basic

/-!
# Specialization

Applying a generic type to arguments makes a type that derives from it: its parameters are replaced
by the arguments in the types of all fields. Arguments that still have variables make a partial
specialization, whose parameters are those variables; applying it again applies the generic type
that it was made from. Equal applications give the same type as long as the session remembers them.
-/

namespace TypedTree

/-- All types, and the state of all sessions. -/
structure World where
  catalog : Catalog := {}
  state : State := {}

/-- Reports the first argument that is not well formed. Any variable may appear in arguments. -/
def checkTypeArguments (c : Catalog) (record : String) : List Ty → Except SchemaError Unit
  | [] => .ok ()
  | t :: ts =>
    match t.check c none with
    | .ok () => checkTypeArguments c record ts
    | .error fault => .error (.invalidArgument record fault)

/-- Fails unless the type is generic and the arguments fit its parameters. -/
def checkApplication (c : Catalog) (generic : TypeId) (arguments : List Ty) :
    Except SchemaError Unit :=
  let s := c.schema generic
  if !s.isGeneric then .error (.notGeneric s.name)
  else if arguments.length ≠ s.params.length then
    .error (.genericArity s.name s.params.length arguments.length)
  else checkTypeArguments c s.name arguments

/-- The fields with the parameters replaced by the arguments. -/
def specializeFields (c : Catalog) (record : String) (params : List TyVar) (arguments : List Ty)
    (scope : List TyVar) : List Field → Except SchemaError (List Field)
  | [] => .ok []
  | f :: fs =>
    let type := f.type.substitute params arguments
    match type.check c (some scope) with
    | .error fault => .error (.invalidType record f.name fault)
    | .ok () =>
      (specializeFields c record params arguments scope fs).map ({ f with type } :: ·)

/-- The schema of a generic type applied to arguments. The fields stand where they do in the generic
type, whose index is taken over. -/
def specializedSchema (c : Catalog) (generic : TypeId) (arguments : List Ty) :
    Except SchemaError Schema :=
  let s := c.schema generic
  let name := s.name ++ "[" ++ joinTexts ", " (Ty.texts c arguments) ++ "]"
  let params := Ty.addVarsAll [] arguments
  (specializeFields c name s.params arguments params s.fields).map fun fields =>
    { s with
      name, params, fields
      index := s.index
      ancestors := c.lineage generic
      origin := some ⟨generic, arguments⟩ }

namespace World

/-- Applies a generic type that was not itself made by an application. -/
def applyRoot (w : World) (generic : TypeId) (arguments : List Ty) :
    Except SchemaError (TypeId × World) :=
  let session := (w.catalog.schema generic).session
  match (w.state.session session).find? ⟨generic, arguments⟩ with
  | some t => .ok (t, w)
  | none =>
    (specializedSchema w.catalog generic arguments).map fun s =>
      let (t, catalog) := w.catalog.addSchema s
      let state := w.state.modifySession session (·.remember ⟨generic, arguments⟩ t)
      (t, ⟨catalog, state⟩)

/-- Applies a generic type to arguments. -/
def specialize (w : World) (generic : TypeId) (arguments : List Ty) :
    Except SchemaError (TypeId × World) := do
  checkApplication w.catalog generic arguments
  let s := w.catalog.schema generic
  match s.origin with
  | none => w.applyRoot generic arguments
  | some origin =>
    let composed := origin.arguments.map (·.substitute s.params arguments)
    checkApplication w.catalog origin.generic composed
    w.applyRoot origin.generic composed

end World

end TypedTree
