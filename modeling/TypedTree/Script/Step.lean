import TypedTree.Naming.CaseStyle
import TypedTree.Script.Expr
import TypedTree.Text.Block
import TypedTree.Tree.Walk

/-!
# Steps of scripts

What a script can ask for. A step names sessions, enumerations, types, values and generators of the
environment, and may register what it makes. A part of a step that cannot be read leaves the parts
in front of it as they are: those are carried out before the step fails.
-/

namespace TypedTree.Script

/-- What to do with a session before it is looked at. -/
inductive SessionAction where
  | look
  | next
  | resetIds (start : NodeId)
  | clearApplications
  | reset

inductive FactoryExpr where
  | fixed (e : Expr)
  | counter (start : Int64)
  | make (type : String)
  | malformed

structure FieldExpr where
  name : Part String
  type : Option TyExpr := none
  default : Option Expr := none
  factory : Option FactoryExpr := none
  converter : Option (Part Converter) := none
  coerces : Bool := false
  init : Bool := true
  compare : Bool := true
  hash : Option Bool := none
  repr : Bool := true

/-- The declaration of a record type. -/
structure RecordExpr where
  name : Part String
  kind : RecordKind := .plain
  session : Option String := none
  parent : Option (Part String) := none
  params : List TyExpr := []
  fields : List FieldExpr := []
  checks : List (Part (String × Check)) := []
  rootChecks : List (Part RootCheck) := []
  frozen : Option Bool := none
  hashable : Option Bool := none
  ordered : Option Bool := none
  abstract : Bool := false
  scope : Bool := false

inductive FoldExpr where
  | identity
  | substitution (replacements : List (String × TyExpr))
  /-- Optionals lose their wrapping. -/
  | dropOptional
  /-- Lists become sets. -/
  | listToSet
  /-- The keys and values of maps change places. -/
  | swapMap

inductive TransformExpr where
  | identity
  /-- Removes the values that match. -/
  | drop (type : TyExpr)
  /-- Puts the values that match into lists. -/
  | wrap (type : TyExpr)
  | increment (n : Int64)
  | upper
  /-- Removes the nodes of a type name. -/
  | prune (type : String)
  /-- Replaces the nodes of a type name. -/
  | swap (type : String) (e : Expr)
  /-- Replaces the nodes of a type name by the value of a field, once they are rebuilt. -/
  | hoist (type field : String)

/-- Which items of a walk are asked for. -/
inductive WalkFilter where
  | all
  | matching (type : TyExpr)
  | instances (type : String)

inductive Selection where
  | records
  | ofType (type : TyExpr)
  | instancesOf (type : String)
  | pluck (field : String)

/-- A function on sequences. Counts are one less than asked for, which is not zero. -/
inductive SequenceFunction where
  | chunks (size : Nat)
  | exactChunks (size : Nat) (filler : Option Expr)
  | everyNth (step : Nat)
  | differences (other : List Expr) (filler : Option Expr)

/-- A fragment, whose keys are still to be evaluated. -/
inductive FragmentExpr where
  | text (s : String)
  | seq (items : List FragmentExpr)
  | set (items : List FragmentExpr)
  | map (entries : List (Expr × FragmentExpr))
  | malformed

instance : Inhabited FragmentExpr := ⟨.malformed⟩

/-- What a logic rule computes, over constants of some kind. -/
inductive Logic (α : Type) where
  | text (key : String)
  | join (key separator : String)
  /-- The text of a field's value, before generation. -/
  | raw (key : String)
  /-- The same, where a missing field is a failure of the record. -/
  | field (key : String)
  /-- Generates the value of a field again. -/
  | generate (key : String)
  | constant (a : α)
  /-- The first element of a generated sequence or set. -/
  | first (key : String)
  | fail (message : String)
  /-- Describes the context. -/
  | info
  | concat (parts : List (Logic α))
  | malformed

instance {α : Type} : Inhabited (Logic α) := ⟨.malformed⟩

/-- A render rule. -/
inductive RuleExpr where
  | format (source : String)
  | substitution (source : String)
  | logic (l : Logic Expr)

/-- How scalars are dumped. -/
inductive LeafStyle where
  | plain
  | repr
  | angle

inductive CaseRequest where
  | join (words : List String) (target : CaseStyle)
  | convert (style : CaseStyle) (name : String) (target : CaseStyle)
  | split (style : CaseStyle) (name : String)

inductive FormatterRequest where
  | forLanguage (language : String)
  | clang (style fallback : Option String) (sortIncludes : Bool)
  | format (language source : String) (skipErrors : Bool)

inductive Step where
  | session (name : String) (fresh : Bool) (action : Part SessionAction)
  | enum (id : String) (declared : Option EnumType) (find : List (Part String))
  | record (id : Option String) (declaration : RecordExpr) (quiet : Bool)
  | specialize (id : Option String) (type : String) (arguments : List TyExpr) (quiet : Bool)
  | describe (type : String) (debug : Bool)
  | subtype (a b : String)
  | type (type : TyExpr) (scope : Option (List TyExpr))
  | sameType (a b : TyExpr)
  | fold (folding : FoldExpr) (type : TyExpr)
  | keep (id : Option String) (e : Expr) (quiet : Bool)
  | construct (id : Option String) (type : String) (arguments : List (String × Expr))
      (quiet : Bool)
  | inspect (e : Expr)
  | validate (type : TyExpr) (e : Expr)
  | compare (a b : Expr)
  | get (register : String) (path : List PathStep) (field : Option (Part String))
      (strict : Bool)
  | set (register : Part String) (path : List PathStep) (field : Part String) (e : Expr)
  | annotate (register : Part String) (path : List PathStep) (field : Part String) (e : Expr)
  | node (register : String) (path : List PathStep) (note : Option (Part String))
  | symbols (register : String) (path : List PathStep) (find : List (Part String))
  | walk (e : Expr) (order : Part WalkOrder) (filter : WalkFilter) (limit : Option Nat)
      (keys : Bool)
  | children (e : Expr)
  | select (e : Expr) (order : Part WalkOrder) (selection : Part Selection)
  | countNodes (e : Expr)
  | visit (e : Expr) (table : Part (List (String × String))) (all : Bool)
  | dispatch (table : List (String × String)) (types : List String) (get : List String)
  | transform (id : Option String) (transformation : TransformExpr) (e : Expr) (quiet : Bool)
  | sequence (items : List Expr) (function : Part SequenceFunction)
  | generator (id : Option String) (name : String) (rules : List (Part (String × RuleExpr)))
      (leaf : LeafStyle) (templates : List (Part String))
  | generate (generator : String) (e : Expr) (extra : List (String × FragmentExpr))
      (separator : Option String) (quiet : Bool)
  | ruleFor (generator : String) (e : Expr)
  | fragment (f : FragmentExpr) (separator : Option String)
  | template (format : Bool) (source : String) (vars : Option (List (String × FragmentExpr)))
  | caseStyle (request : CaseRequest)
  | identifier (words : List String)
  | parseIdentifier (name : String) (style : CaseStyle)
  | block (start : Text.Block) (ops : List Text.BlockOp)
  | formatter (request : FormatterRequest)
  /-- A request that is no step. -/
  | malformed

end TypedTree.Script
