import TypedTree.Script.Env
import TypedTree.Ty.Symbol
import TypedTree.Value.Collection

/-!
# Expressions of scripts

Expressions for values and for type descriptions, which name types, enumerations and values of the
environment. They are evaluated from left to right, parts first; constructing a record numbers it
and runs its hooks at that moment. The first failure ends evaluation.
-/

namespace TypedTree.Script

/-- A step into a value. -/
inductive PathStep where
  | field (name : String)
  | index (position : Nat)
  /-- A notation that is no step. -/
  | malformed

/-- An expression for a value. -/
inductive Expr where
  | value (v : Value)
  | member (enum member : String)
  | tuple (items : List Expr)
  | list (items : List Expr)
  | set (items : List Expr)
  | map (entries : List (Expr × Expr))
  | construct (type : String) (arguments : List (String × Expr))
  | read (register : String) (path : List PathStep)
  /-- A value in that many one-element lists. -/
  | nestList (count : Nat) (inner : Expr)
  /-- A value in that many one-element tuples. -/
  | nestTuple (count : Nat) (inner : Expr)
  /-- A value in that many records that take it as their only argument. -/
  | nestRecord (count : Nat) (type field : String) (inner : Expr)
  /-- A notation that is no expression. -/
  | malformed

instance : Inhabited Expr := ⟨.malformed⟩

/-- The value that a path leads to. -/
def follow (c : Catalog) (v : Value) : List PathStep → Action Value
  | [] => return v
  | .field name :: rest => do
    let r ← require v.asRecord?
    follow c (← liftRecord (r.get c name)) rest
  | .index position :: rest => do
    let items ← require v.asItems?
    follow c (← require items[position]?) rest
  | .malformed :: _ => throw .request

/-- Wraps a value a number of times. -/
def nest (wrap : Value → Action Value) : Nat → Value → Action Value
  | 0, v => return v
  | count + 1, v => do nest wrap count (← wrap v)

namespace Expr

mutual

def eval : Expr → Action Value
  | .value v => return v
  | .member enum name => do
    let e ← findEnum enum
    return .member (← require ((← getCatalog).member? e name))
  | .tuple items => return .tuple (← evalAll items)
  | .list items => return .list (← evalAll items)
  | .set items => do
    let items ← evalAll items
    liftRecord (Value.ofElements (← getCatalog) items)
  | .map entries => do
    let entries ← evalEntries entries
    liftRecord (Value.ofEntries (← getCatalog) entries)
  | .construct type arguments => do
    let t ← findType type
    let arguments ← evalNamed arguments
    makeRecord t arguments
  | .read register path => do
    let v ← findValue register
    follow (← getCatalog) v path
  | .nestList count inner => do nest (fun v => return .list [v]) count (← inner.eval)
  | .nestTuple count inner => do nest (fun v => return .tuple [v]) count (← inner.eval)
  | .nestRecord count type field inner => do
    let v ← inner.eval
    let t ← findType type
    nest (fun v => makeRecord t [(field, v)]) count v
  | .malformed => throw .request
termination_by structural e => e

def evalAll : List Expr → Action (List Value)
  | [] => return []
  | e :: es => do
    let v ← e.eval
    return v :: (← evalAll es)
termination_by structural es => es

/-- Evaluates the entries of a map, each key before its value. -/
def evalEntries : List (Expr × Expr) → Action (List (Value × Value))
  | [] => return []
  | (k, e) :: es => do
    let key ← k.eval
    let v ← e.eval
    return (key, v) :: (← evalEntries es)
termination_by structural es => es

def evalNamed : List (String × Expr) → Action (List (String × Value))
  | [] => return []
  | (name, e) :: es => do
    let v ← e.eval
    return (name, v) :: (← evalNamed es)
termination_by structural es => es

end

end Expr

inductive TyExpr where
  | any
  | scalar (s : Scalar)
  | symbol (pattern : String)
  | literal (values : List Expr)
  | optional (inner : TyExpr)
  | union (alternatives : List TyExpr)
  | tuple (elements : List TyExpr)
  | list (element : TyExpr)
  | set (element : TyExpr)
  | map (key value : TyExpr)
  | enum (name : String)
  | record (name : String)
  | var (name : String) (bound : Option TyExpr)
  | apply (generic : String) (arguments : List TyExpr)
  /-- A notation that is no type description. -/
  | malformed

instance : Inhabited TyExpr := ⟨.malformed⟩

def evalLiterals : List Expr → Action (List Literal)
  | [] => return []
  | e :: es => do
    let l ← require (Literal.ofValue? (← e.eval))
    return l :: (← evalLiterals es)

namespace TyExpr

mutual

/-- Evaluates an expression for a type description. -/
def eval : TyExpr → Action Ty
  | .any => return .any
  | .scalar s => return .scalar s
  | .symbol pattern =>
    match SymbolPattern.ofSource? pattern with
    | some p => return .scalar (.symbol p)
    | none => throw (.schema (.invalidPattern pattern))
  | .literal values => return .literal (← evalLiterals values)
  | .optional inner => return .optional (← inner.eval)
  | .union alternatives => return .union (← evalAll alternatives)
  | .tuple elements => return .tuple (← evalAll elements)
  | .list element => return .list (← element.eval)
  | .set element => return .set (← element.eval)
  | .map key value => do
    let k ← key.eval
    return .map k (← value.eval)
  | .enum name => return .enum (← findEnum name)
  | .record name => return .record (← findType name)
  | .var name none => return .var name none
  | .var name (some bound) => return .var name (some (← bound.eval))
  | .apply generic arguments => do
    let t ← findType generic
    return .apply t (← evalAll arguments)
  | .malformed => throw .request
termination_by structural e => e

/-- Evaluates several expressions for type descriptions. -/
def evalAll : List TyExpr → Action (List Ty)
  | [] => return []
  | e :: es => do
    let t ← e.eval
    return t :: (← evalAll es)
termination_by structural es => es

end

/-- Evaluates an expression that has to be a type variable. -/
def evalVar (e : TyExpr) : Action TyVar := do
  match ← e.eval with
  | .var name bound => return ⟨name, bound⟩
  | _ => throw .request

end TyExpr

end TypedTree.Script
