import TypedTree.Ty.Symbol
import TypedTree.Validation.Mismatch

/-!
# Validation

Checking a value against a type description. Matching is strict: nothing is widened, and a truth
value is not an integer. The alternatives of a union are tried in order. A container reports its
first failing part; an entry of a map is checked key first. A record matches a record type that it
is an instance of, and an applied generic type through the nearest application of that generic type
in its lineage.
-/

namespace TypedTree

/-- Runs a check on the elements in order and reports the first failure with its position. -/
def checkElements (check : Value → Except Mismatch Unit) (index : Nat) :
    List Value → Except Mismatch Unit
  | [] => .ok ()
  | v :: vs =>
    match check v with
    | .ok () => checkElements check (index + 1) vs
    | .error reason => .error (.element index reason)

/-- Runs two checks on the entries in order, the first on the key and the second on the value. -/
def checkEntries (checkKey checkValue : Value → Except Mismatch Unit) :
    List (Value × Value) → Except Mismatch Unit
  | [] => .ok ()
  | (k, v) :: es =>
    match checkKey k with
    | .error reason => .error (.key k reason)
    | .ok () =>
      match checkValue v with
      | .error reason => .error (.entry k reason)
      | .ok () => checkEntries checkKey checkValue es

/-- Checks a value against a scalar type. -/
def Scalar.validate (s : Scalar) (v : Value) : Except Mismatch Unit :=
  match s, v with
  | .none, .none => .ok ()
  | .bool, .bool _ => .ok ()
  | .int, .int _ => .ok ()
  | .float, .float _ => .ok ()
  | .str, .str _ => .ok ()
  | .symbolRef, .str _ => .ok ()
  | .bytes, .bytes _ => .ok ()
  | .symbol pattern, .str name =>
    if pattern.accepts name then .ok () else .error (.pattern pattern name)
  | s, v => .error (.shape (.scalar s) v)

/-! ## Applied generic types -/

namespace Catalog

/-- The arguments of the nearest type in the lineage of `t` that was made from `generic`. -/
def nearestArguments? (c : Catalog) (t generic : TypeId) : Option (List Ty) :=
  (c.lineage t).findSome? fun s =>
    match (c.schema s).origin with
    | some origin => if origin.generic = generic then some origin.arguments else none
    | none => none

mutual

/-- Whether a type argument of an instance's type satisfies the argument asked for. -/
def argumentMatches (c : Catalog) (given : Ty) : Ty → Bool
  | .any => true
  | .var _ none => true
  | .var _ (some bound) => c.argumentMatches given bound
  | .union alternatives => c.argumentMatchesAny given alternatives
  | .record ancestor =>
    match given with
    | .record t => c.isSubtype t ancestor
    | _ => false
  | wanted => given == wanted
termination_by structural wanted => wanted

/-- Whether a type argument satisfies one of several. -/
def argumentMatchesAny (c : Catalog) (given : Ty) : List Ty → Bool
  | [] => false
  | wanted :: rest => c.argumentMatches given wanted || c.argumentMatchesAny given rest
termination_by structural wanted => wanted

end

/-- Whether the arguments satisfy those asked for, one by one. -/
def argumentsMatch (c : Catalog) : List Ty → List Ty → Bool
  | [], [] => true
  | given :: gs, wanted :: ws => c.argumentMatches given wanted && c.argumentsMatch gs ws
  | _, _ => false

/-- Whether instances of `t` match `generic` applied to `arguments`. Where no type in the lineage
was made from the generic type, they match as instances of it if every argument is a variable. -/
def appliesAs (c : Catalog) (t generic : TypeId) (arguments : List Ty) : Bool :=
  match c.nearestArguments? t generic with
  | some given => c.argumentsMatch given arguments
  | none =>
    c.isSubtype t generic && arguments.all fun
      | .var _ _ => true
      | _ => false

end Catalog

/-! ## Checking values -/

namespace Ty

mutual

/-- Checks a value against a description and reports the first mismatch. -/
def validate (c : Catalog) : Ty → Value → Except Mismatch Unit
  | .any, _ => .ok ()
  | .scalar s, v => s.validate v
  | .literal values, v =>
    if values.any (·.allows v) then .ok () else .error (.literal (.literal values) v)
  | .optional inner, v => if v.isNone then .ok () else inner.validate c v
  | .union alternatives, v =>
    if matchesAny c alternatives v then .ok ()
    else .error (.alternatives (.union alternatives) v)
  | .tuple elements, v =>
    match v with
    | .tuple items =>
      if items.length = elements.length then validateEach c 0 elements items
      else .error (.length elements.length items.length)
    | v => .error (.shape (.tuple elements) v)
  | .list element, v =>
    match v with
    | .list items => checkElements (fun item => element.validate c item) 0 items
    | v => .error (.shape (.list element) v)
  | .set element, v =>
    match v with
    | .set items => checkElements (fun item => element.validate c item) 0 items
    | v => .error (.shape (.set element) v)
  | .map key value, v =>
    match v with
    | .map entries =>
      checkEntries (fun k => key.validate c k) (fun item => value.validate c item) entries
    | v => .error (.shape (.map key value) v)
  | .enum e, v =>
    match v with
    | .member m => if m.enum = e then .ok () else .error (.shape (.enum e) (.member m))
    | v => .error (.shape (.enum e) v)
  | .record t, v =>
    match v with
    | .record r => if r.isInstance c t then .ok () else .error (.shape (.record t) (.record r))
    | v => .error (.shape (.record t) v)
  | .var _ none, _ => .ok ()
  | .var _ (some bound), v => bound.validate c v
  | .apply generic arguments, v =>
    match v with
    | .record r =>
      if c.appliesAs r.type generic arguments then .ok ()
      else .error (.shape (.apply generic arguments) (.record r))
    | v => .error (.shape (.apply generic arguments) v)
termination_by structural t => t

def matchesAny (c : Catalog) : List Ty → Value → Bool
  | [], _ => false
  | t :: ts, v => (t.validate c v).isOk || matchesAny c ts v
termination_by structural ts => ts

/-- Checks the elements of a tuple place by place. -/
def validateEach (c : Catalog) (index : Nat) : List Ty → List Value → Except Mismatch Unit
  | t :: ts, items =>
    match items with
    | v :: vs =>
      match t.validate c v with
      | .ok () => validateEach c (index + 1) ts vs
      | .error reason => .error (.element index reason)
    | [] => .ok ()
  | [], _ => .ok ()
termination_by structural ts => ts

end

/-- Whether a value matches a description. -/
def accepts (c : Catalog) (t : Ty) (v : Value) : Bool :=
  (t.validate c v).isOk

end Ty

end TypedTree
