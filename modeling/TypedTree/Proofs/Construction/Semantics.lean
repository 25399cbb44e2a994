import Mathlib.Data.List.Forall2
import TypedTree.Construction.Basic
import TypedTree.Proofs.Schema.FieldIndex
import TypedTree.Proofs.Tree.Declarations

/-!
# Meaning of construction

Which instance construction makes from named arguments, and for which error it fails, as relations
that do not run it. Supplied functions are taken as functions of their inputs.
-/

namespace TypedTree

/-! ## Supplied functions -/

/-- Supplied functions whose answers depend on their inputs alone. -/
structure PureHooks where
  factory : HookId → Catalog → Value
  converter : HookId → Catalog → Value → Except String Value
  check : HookId → Catalog → Field → Value → Except String Unit
  rootCheck : HookId → Catalog → Record → Except String Unit

/-- As actions, they leave the state alone. -/
def PureHooks.toHooks (p : PureHooks) : Hooks where
  factory hook c := return p.factory hook c
  converter hook c v := return p.converter hook c v
  check hook c f v := return p.check hook c f v
  rootCheck hook c r := return p.rootCheck hook c r

/-! ## Arguments -/

/-- The schema has a field of the name that construction accepts. -/
def Schema.Takes (s : Schema) (name : String) : Prop :=
  ∃ f, s.field? name = some f ∧ f.flags.init = true

/-- Where the index is right, a field of the table is meant. -/
theorem Schema.Indexed.takes_iff {s : Schema} {name : String} (h : s.Indexed) :
    s.Takes name ↔ ∃ f ∈ s.fields, f.name = name ∧ f.flags.init = true := by
  constructor
  · rintro ⟨f, hf, hi⟩
    obtain ⟨i, hf, hname⟩ := h.field?_eq_some_iff.mp hf
    exact ⟨f, List.mem_of_getElem? hf, hname, hi⟩
  · rintro ⟨f, hf, hname, hi⟩
    obtain ⟨i, hf⟩ := List.mem_iff_getElem?.mp hf
    exact ⟨f, h.field?_eq_some_iff.mpr ⟨i, hf, hname⟩, hi⟩

/-- The names of arguments are all different and taken. -/
structure ArgumentsFit (s : Schema) (names : List String) : Prop where
  nodup : names.Nodup
  taken : ∀ name ∈ names, s.Takes name

/-- The error of the first name that does not fit. -/
inductive ArgumentsFail (t : TypeId) (s : Schema) : List String → InstanceError → Prop where
  | unexpected {before name after} (hb : ArgumentsFit s before) (h : ¬ s.Takes name) :
      ArgumentsFail t s (before ++ name :: after) (.unexpectedArgument t name)
  | duplicate {before name after} (hb : ArgumentsFit s before) (h : s.Takes name)
      (hm : name ∈ before) : ArgumentsFail t s (before ++ name :: after) (.duplicateArgument t name)

/-! ## Fields -/

section Fields

variable (p : PureHooks) (c : Catalog) (t : TypeId) (arguments : List (String × Value)) (f : Field)

/-- The raw value of a field: its argument, or else its default. -/
inductive Supplied : Value → Prop where
  | argument {v} (h : (f.name, v) ∈ arguments) : Supplied v
  | default {v} (hn : f.name ∉ arguments.map (·.1)) (h : f.default = .value v) : Supplied v
  | factory {hook} (hn : f.name ∉ arguments.map (·.1)) (h : f.default = .factory hook) :
      Supplied (p.factory hook c)

/-- The conversion of a raw value: the field's converter or, without one, its coercion. -/
def convertedValue (raw : Value) : Except String Value :=
  match f.converter with
  | some hook => p.converter hook c raw
  | none => if f.coerces then (f.type.coerce raw).mapError (·.message) else .ok raw

/-- The value that a field takes: converted, of the field's type, and passed by all checks. -/
inductive FieldTakes : Value → Prop where
  | intro {raw v} (hr : Supplied p c arguments f raw) (hc : convertedValue p c f raw = .ok v)
      (hv : f.type.validate c v = .ok ()) (hs : ∀ hook ∈ f.checks, p.check hook c f v = .ok ()) :
      FieldTakes v

/-- The error of the first stage that a field does not pass. -/
inductive FieldFails : InstanceError → Prop where
  | missing (hn : f.name ∉ arguments.map (·.1)) (hd : f.default = .required) :
      FieldFails (.missingField t f.name)
  | conversion {raw text} (hr : Supplied p c arguments f raw)
      (hc : convertedValue p c f raw = .error text) :
      FieldFails (.conversionFailed t f.name raw text)
  | type {raw v reason} (hr : Supplied p c arguments f raw)
      (hc : convertedValue p c f raw = .ok v) (hv : f.type.validate c v = .error reason) :
      FieldFails (.typeMismatch t f.name v reason)
  | check {raw v before hook after text} (hr : Supplied p c arguments f raw)
      (hc : convertedValue p c f raw = .ok v) (hv : f.type.validate c v = .ok ())
      (hs : f.checks = before ++ hook :: after) (hb : ∀ h ∈ before, p.check h c f v = .ok ())
      (hf : p.check hook c f v = .error text) : FieldFails (.checkFailed t f.name v text)

end Fields

/-! ## Instances -/

section Instances

variable (p : PureHooks) (c : Catalog) (t : TypeId) (arguments : List (String × Value))

/-- One value for each field in the order of the table. -/
structure Assembles (values : List Value) : Prop where
  instantiable : (c.schema t).flags.abstract = false
  fit : ArgumentsFit (c.schema t) (arguments.map (·.1))
  fields : List.Forall₂ (FieldTakes p c arguments) (c.schema t).fields values

/-- The instance that root checks look at: a node has its number but no symbols. -/
def draft (s : State) (values : List Value) : Record where
  type := t
  values := values
  node := if (c.schema t).isNode then some ⟨(s.session (c.schema t).session).nextId, none⟩ else none
  annotations := []

/-- The instance with the symbols declared in it, if it is a scope. -/
def Record.withSymbols (c : Catalog) (r : Record) : Record :=
  if (r.schema c).flags.scope then
    { r with node := r.node.map fun node => { node with symbols := some ⟨r.declarations c⟩ } }
  else r

/-- The instance that construction makes in a state. -/
inductive Constructs (s : State) : Record → Prop where
  | intro {values} (ha : Assembles p c t arguments values)
      (hr : ∀ hook ∈ (c.schema t).rootChecks, p.rootCheck hook c (draft c t s values) = .ok ())
      (hs : (c.schema t).flags.scope = true →
        (((draft c t s values).declarations c).map (·.1)).Nodup) :
      Constructs s ((draft c t s values).withSymbols c)

/-- The error of the first stage that fails. -/
inductive ConstructFails (s : State) : InstanceError → Prop where
  | abstract (h : (c.schema t).flags.abstract = true) : ConstructFails s (.notInstantiable t)
  | arguments {e} (hi : (c.schema t).flags.abstract = false)
      (h : ArgumentsFail t (c.schema t) (arguments.map (·.1)) e) : ConstructFails s e
  | field {before f after values e} (hi : (c.schema t).flags.abstract = false)
      (ha : ArgumentsFit (c.schema t) (arguments.map (·.1)))
      (hs : (c.schema t).fields = before ++ f :: after)
      (hb : List.Forall₂ (FieldTakes p c arguments) before values)
      (h : FieldFails p c t arguments f e) : ConstructFails s e
  | rootCheck {values before hook after text} (ha : Assembles p c t arguments values)
      (hs : (c.schema t).rootChecks = before ++ hook :: after)
      (hb : ∀ h ∈ before, p.rootCheck h c (draft c t s values) = .ok ())
      (h : p.rootCheck hook c (draft c t s values) = .error text) :
      ConstructFails s (.rootCheckFailed t text)
  | symbols {values before name id after} (ha : Assembles p c t arguments values)
      (hr : ∀ hook ∈ (c.schema t).rootChecks, p.rootCheck hook c (draft c t s values) = .ok ())
      (hs : (c.schema t).flags.scope = true)
      (hd : (draft c t s values).declarations c = before ++ (name, id) :: after)
      (hb : (before.map (·.1)).Nodup) (hm : name ∈ before.map (·.1)) :
      ConstructFails s (.duplicateSymbol name t)

end Instances

end TypedTree
