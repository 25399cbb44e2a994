import TypedTree.Ty.WellFormed

/-!
# Schema errors

Why a declaration has no schema, or a generic type cannot be applied.
-/

namespace TypedTree

/-- A malformed declaration or application. Types that are not in the catalog yet are named. -/
inductive SchemaError where
  | missingType (record field : String)
  | duplicateField (record field : String)
  | conflictingDefault (record field : String)
  | noInitWithoutDefault (record field : String)
  | hashWithoutEq (record field : String)
  | unknownCheckedField (record field : String)
  | invalidType (record field : String) (fault : TyFault)
  | genericArity (record : String) (expected found : Nat)
  | notGeneric (record : String)
  | duplicateParam (record param : String)
  | invalidArgument (record : String) (fault : TyFault)
  | scopeNotNode (record : String)
  | invalidPattern (pattern : String)
deriving Repr

def SchemaError.message (c : Catalog) : SchemaError → String
  | .missingType record field => s!"field `{field}` of `{record}` has no type description"
  | .duplicateField record field => s!"field `{field}` is declared twice in `{record}`"
  | .conflictingDefault record field =>
    s!"field `{field}` of `{record}` specifies both a default value and a default factory"
  | .noInitWithoutDefault record field =>
    s!"field `{field}` of `{record}` is excluded from the constructor but has no default"
  | .hashWithoutEq record field =>
    s!"field `{field}` of `{record}` takes part in hashing but not in equality"
  | .unknownCheckedField record field =>
    s!"validator assigned to non-existing field `{field}` in `{record}`"
  | .invalidType record field fault =>
    s!"invalid type description for field `{field}` of `{record}`: {fault.message c}"
  | .genericArity record expected found =>
    s!"`{record}` expects {expected} type argument(s), got {found}"
  | .notGeneric record => s!"`{record}` is not a generic record type"
  | .duplicateParam record param =>
    s!"type parameter `{param}` is declared twice in `{record}`"
  | .invalidArgument record fault =>
    s!"invalid type argument for `{record}`: {fault.message c}"
  | .scopeNotNode record => s!"`{record}` declares a symbol table but is not a node type"
  | .invalidPattern pattern => s!"invalid symbol name pattern `{pattern}`"

end TypedTree
