import TypedTree.Ty.Symbol
import TypedTree.Value.Basic

/-!
# Type descriptions

A type description says which values a field may hold. Descriptions are plain data: they are equal
when they are the same term, so enumerations and record types compare by identity and symbol
patterns by their source.
-/

namespace TypedTree

inductive Scalar where
  | none
  | bool
  | int
  | float
  | str
  | bytes
  /-- A string that declares a symbol. -/
  | symbol (pattern : SymbolPattern)
  /-- A string that refers to a symbol declared elsewhere. -/
  | symbolRef
deriving DecidableEq, Repr

/-- A type description. -/
inductive Ty where
  | any
  | scalar (s : Scalar)
  | literal (values : List Literal)
  | optional (inner : Ty)
  | union (alternatives : List Ty)
  | tuple (elements : List Ty)
  | list (element : Ty)
  | set (element : Ty)
  | map (key value : Ty)
  | enum (e : EnumId)
  | record (t : TypeId)
  /-- A type variable, which may be bounded. -/
  | var (name : String) (bound : Option Ty)
  /-- A generic record type applied to arguments. -/
  | apply (generic : TypeId) (arguments : List Ty)
deriving Repr

instance : Inhabited Ty := ⟨.any⟩

/-! ## Equality -/

namespace Ty

mutual

def same : Ty → Ty → Bool
  | .any, .any => true
  | .scalar a, .scalar b => a == b
  | .literal a, .literal b => a == b
  | .optional a, .optional b => a.same b
  | .union a, .union b => sameAll a b
  | .tuple a, .tuple b => sameAll a b
  | .list a, .list b => a.same b
  | .set a, .set b => a.same b
  | .map a b, .map c d => a.same c && b.same d
  | .enum a, .enum b => a == b
  | .record a, .record b => a == b
  | .var a none, .var b none => a == b
  | .var a (some s), .var b (some t) => a == b && s.same t
  | .apply a s, .apply b t => a == b && sameAll s t
  | _, _ => false
termination_by structural a => a

/-- Whether two lists hold the same descriptions in the same order. -/
def sameAll : List Ty → List Ty → Bool
  | [], [] => true
  | a :: as, b :: bs => a.same b && sameAll as bs
  | _, _ => false
termination_by structural as => as

end

mutual

theorem same_iff : ∀ a b : Ty, a.same b = true ↔ a = b
  | .any, b => by cases b <;> simp [same]
  | .scalar _, b => by cases b <;> simp [same]
  | .literal _, b => by cases b <;> simp [same]
  | .optional a, b => by cases b <;> simp [same, same_iff a]
  | .union as, b => by cases b <;> simp [same, sameAll_iff as]
  | .tuple as, b => by cases b <;> simp [same, sameAll_iff as]
  | .list a, b => by cases b <;> simp [same, same_iff a]
  | .set a, b => by cases b <;> simp [same, same_iff a]
  | .map a₁ a₂, b => by cases b <;> simp [same, same_iff a₁, same_iff a₂]
  | .enum _, b => by cases b <;> simp [same]
  | .record _, b => by cases b <;> simp [same]
  | .var _ none, b => by
    cases b with
    | var _ bound => cases bound <;> simp [same]
    | _ => simp [same]
  | .var _ (some a), b => by
    cases b with
    | var _ bound => cases bound <;> simp [same, same_iff a]
    | _ => simp [same]
  | .apply _ as, b => by cases b <;> simp [same, sameAll_iff as]

theorem sameAll_iff : ∀ as bs : List Ty, sameAll as bs = true ↔ as = bs
  | [], bs => by cases bs <;> simp [sameAll]
  | a :: as, bs => by cases bs <;> simp [sameAll, same_iff a, sameAll_iff as]

end

instance : DecidableEq Ty := fun a b => decidable_of_iff _ (same_iff a b)

end Ty

/-! ## Type variables -/

/-- A type variable, which may be bounded. -/
structure TyVar where
  name : String
  bound : Option Ty := none
deriving DecidableEq, Repr

namespace TyVar

def toTy (v : TyVar) : Ty :=
  .var v.name v.bound

/-- Adds a variable behind those collected, unless one of its name is there. -/
def addTo (vars : List TyVar) (v : TyVar) : List TyVar :=
  if vars.any (·.name == v.name) then vars else vars ++ [v]

end TyVar

namespace Ty

mutual

/-- Adds the variables of a description, in the order of first appearance, to those collected.
Bounds are not looked into. -/
def addVars (vars : List TyVar) : Ty → List TyVar
  | .var name bound => TyVar.addTo vars ⟨name, bound⟩
  | .optional inner => inner.addVars vars
  | .list element => element.addVars vars
  | .set element => element.addVars vars
  | .map key value => value.addVars (key.addVars vars)
  | .union alternatives => addVarsAll vars alternatives
  | .tuple elements => addVarsAll vars elements
  | .apply _ arguments => addVarsAll vars arguments
  | .any | .scalar _ | .literal _ | .enum _ | .record _ => vars
termination_by structural t => t

def addVarsAll (vars : List TyVar) : List Ty → List TyVar
  | [] => vars
  | t :: ts => addVarsAll (t.addVars vars) ts
termination_by structural ts => ts

end

/-- The variables of a description in the order of first appearance. -/
def vars (t : Ty) : List TyVar :=
  t.addVars []

/-- Whether the description has no variables. -/
def isConcrete (t : Ty) : Bool :=
  t.vars.isEmpty

/-- Whether the description is a symbol name, possibly an optional one. -/
def isSymbol : Ty → Bool
  | .scalar (.symbol _) => true
  | .optional inner => inner.isSymbol
  | _ => false

/-! ## Folding -/

/-- What takes the place of each part of a description whose own parts have been folded. -/
structure Folding where
  var : String → Option Ty → Ty := .var
  optional : Ty → Ty := .optional
  list : Ty → Ty := .list
  set : Ty → Ty := .set
  map : Ty → Ty → Ty := .map

mutual

/-- Rebuilds a description from its folded parts. Bounds of variables are kept as they are. -/
def fold (f : Folding) : Ty → Ty
  | .var name bound => f.var name bound
  | .optional inner => f.optional (inner.fold f)
  | .list element => f.list (element.fold f)
  | .set element => f.set (element.fold f)
  | .map key value => f.map (key.fold f) (value.fold f)
  | .union alternatives => .union (foldAll f alternatives)
  | .tuple elements => .tuple (foldAll f elements)
  | .apply generic arguments => .apply generic (foldAll f arguments)
  | .any => .any
  | .scalar s => .scalar s
  | .literal values => .literal values
  | .enum e => .enum e
  | .record t => .record t
termination_by structural t => t

def foldAll (f : Folding) : List Ty → List Ty
  | [] => []
  | t :: ts => t.fold f :: foldAll f ts
termination_by structural ts => ts

end

/-- Replaces variables by name; a variable without a replacement is kept. -/
def substitution (replacements : List (String × Ty)) : Folding where
  var name bound := (replacements.lookup name).getD (.var name bound)

/-- Replaces the parameters by the arguments, all at once. -/
def substitute (params : List TyVar) (arguments : List Ty) (t : Ty) : Ty :=
  t.fold (substitution ((params.map (·.name)).zip arguments))

end Ty

end TypedTree
