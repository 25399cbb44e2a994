import TypedTree.Script.Step

/-!
# Answers to steps
-/

namespace TypedTree.Script

/-- A line in the log of a visit. -/
inductive VisitEntry where
  /-- A node, with the handler found for it and the name that it is registered under. -/
  | node (r : Record) (handler : Option (String × String))
  | item (v : Value)

/-- What is known of a symbol in a scope: whether the table has it, where there is a table, the
node number it gives, and the node found. -/
structure SymbolReport where
  declared : Option Bool
  id : Option NodeId
  node : Option Record

/-- The answer to a step. -/
inductive Answer where
  | session (s : Session) (minted : Option NodeId)
  | enum (e : EnumId) (found : List (Option EnumMember))
  /-- A record type, with the name that it was first registered under. -/
  | schema (t : TypeId) (first : Option String) (debug : Bool)
  | schemaName (t : TypeId)
  | truth (b : Bool)
  | ty (t : Ty) (fault : Option TyFault)
  | text (s : String)
  | texts (ss : List String)
  | optionText (s : Option String)
  | optionTexts (ss : Option (List String))
  | kept (v : Value) (quiet : Bool)
  | removed
  | inspected (v : Value)
  | validated (mismatch : Option Mismatch)
  | compared (equal sameHash : Bool) (order : Except InstanceError Ordering)
  | value (v : Value)
  | absent
  | notes (named : List (String × Value))
  | node (r : Record) (note : Option (Option Value))
  | symbols (table : Option SymbolTable) (found : List SymbolReport)
  | items (vs : List Value)
  | placed (xs : List Placed)
  | walked (count : Nat) (xs : List Placed) (keys : Bool)
  | values (vs : List Value)
  | count (n : Nat)
  | visited (log : List VisitEntry)
  | dispatched (replaced : List (Option String)) (size : Nat) (found : List (Option String))
      (resolved : List (Option (String × String)))
  | chunks (vss : List (List Value))
  | generator (g : Generator) (templates : List (Option Rule))
  | fragment (f : Fragment) (separator : Option String)
  | fragmentSummary (f : Fragment)
  | rule (found : Option (String × Rule))
  | template (t : TextTemplate) (outcome : Option (Except RenderError String))
  | identifier (i : Option Identifier)
  | block (steps : List Text.Block) (last : Text.Block)
  | formatter (f : Option Formatter)

end TypedTree.Script
