import TypedTree.Record.Error
import TypedTree.Session.Basic

/-!
# Functions supplied by declarations

What schemas refer to by number: factories make default values, converters change arguments before
they are validated, checks look at a valid field or at a whole instance. They may change the state.
-/

namespace TypedTree

/-- An action on the state that may fail on an instance. -/
abbrev Construct := ExceptT InstanceError (StateM State)

/-- The functions behind the numbers that schemas hold. -/
structure Hooks where
  factory : HookId → Catalog → StateM State Value
  converter : HookId → Catalog → Value → StateM State (Except String Value)
  check : HookId → Catalog → Field → Value → StateM State (Except String Unit)
  rootCheck : HookId → Catalog → Record → StateM State (Except String Unit)

end TypedTree
