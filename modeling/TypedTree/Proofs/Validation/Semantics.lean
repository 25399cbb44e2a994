import Mathlib.Data.List.Forall2
import TypedTree.Validation.Basic

/-!
# Meaning of type descriptions

When a value matches a description, and when it is rejected for a reason, as relations that do not
run validation. A container is rejected at its first failing part: everything before it matches.
-/

namespace TypedTree

/-! ## Applied generic types -/

namespace Catalog

/-- The type was made by applying the generic type. -/
def MadeFrom (c : Catalog) (t generic : TypeId) : Prop :=
  ∃ arguments, (c.schema t).origin = some ⟨generic, arguments⟩

end Catalog

/-- A type argument of an instance's type satisfies the argument asked for. Equality is the rule for
all descriptions that do not stand for several types. -/
inductive ArgumentFits (c : Catalog) : Ty → Ty → Prop where
  | any (given) : ArgumentFits c given .any
  | var (given name) : ArgumentFits c given (.var name none)
  | bounded {given name bound} :
      ArgumentFits c given bound → ArgumentFits c given (.var name (some bound))
  | union {given alternative alternatives} (hm : alternative ∈ alternatives) :
      ArgumentFits c given alternative → ArgumentFits c given (.union alternatives)
  | record {t ancestor} (hl : ancestor ∈ c.lineage t) :
      ArgumentFits c (.record t) (.record ancestor)
  | same {wanted} (hv : ∀ name bound, wanted ≠ .var name bound)
      (hu : ∀ alternatives, wanted ≠ .union alternatives) : ArgumentFits c wanted wanted

/-- Instances of a type match a generic type applied to arguments: through the nearest application
of the generic type in the lineage or, where there is none, as instances of the generic type when
all arguments are variables. -/
inductive Applies (c : Catalog) (t generic : TypeId) (wanted : List Ty) : Prop where
  | nearest {nearer s further given} (hl : c.lineage t = nearer ++ s :: further)
      (hn : ∀ u ∈ nearer, ¬ c.MadeFrom u generic)
      (ho : (c.schema s).origin = some ⟨generic, given⟩)
      (hf : List.Forall₂ (ArgumentFits c) given wanted) : Applies c t generic wanted
  | unapplied (hn : ∀ u ∈ c.lineage t, ¬ c.MadeFrom u generic) (hl : generic ∈ c.lineage t)
      (hv : ∀ argument ∈ wanted, ∃ name bound, argument = .var name bound) :
      Applies c t generic wanted

/-! ## Matching -/

/-- A value has the shape of a scalar type, and a symbol name matches its pattern as well. -/
inductive Scalar.Holds : Scalar → Value → Prop where
  | none : Holds .none .none
  | bool (b) : Holds .bool (.bool b)
  | int (n) : Holds .int (.int n)
  | float (x) : Holds .float (.float x)
  | str (s) : Holds .str (.str s)
  | bytes (b) : Holds .bytes (.bytes b)
  | symbol {pattern name} (h : pattern.accepts name = true) : Holds (.symbol pattern) (.str name)
  | symbolRef (s) : Holds .symbolRef (.str s)

namespace Ty

/-- A value matches a description. -/
inductive Matches (c : Catalog) : Ty → Value → Prop where
  | any (v) : Matches c .any v
  | scalar {s v} (h : s.Holds v) : Matches c (.scalar s) v
  | literal {l literals} (h : l ∈ literals) : Matches c (.literal literals) l.toValue
  | absent (inner) : Matches c (.optional inner) .none
  | present {inner v} : Matches c inner v → Matches c (.optional inner) v
  | union {t alternatives v} (h : t ∈ alternatives) :
      Matches c t v → Matches c (.union alternatives) v
  | tuple {elements items} (hl : items.length = elements.length) :
      (∀ p ∈ elements.zip items, Matches c p.1 p.2) → Matches c (.tuple elements) (.tuple items)
  | list {element items} :
      (∀ item ∈ items, Matches c element item) → Matches c (.list element) (.list items)
  | set {element items} :
      (∀ item ∈ items, Matches c element item) → Matches c (.set element) (.set items)
  | map {key value entries} : (∀ e ∈ entries, Matches c key e.1) →
      (∀ e ∈ entries, Matches c value e.2) → Matches c (.map key value) (.map entries)
  | enum (m) : Matches c (.enum m.enum) (.member m)
  | record {t r} (h : t ∈ c.lineage r.type) : Matches c (.record t) (.record r)
  | var (name v) : Matches c (.var name none) v
  | bounded {name bound v} : Matches c bound v → Matches c (.var name (some bound)) v
  | apply {generic arguments r} (h : Applies c r.type generic arguments) :
      Matches c (.apply generic arguments) (.record r)

/-! ## Rejection -/

/-- A value is rejected by a description for a reason. -/
inductive Rejected (c : Catalog) : Ty → Value → Mismatch → Prop where
  | scalar {s v} (h : ¬ s.Holds v) (hs : ∀ pattern name, s = .symbol pattern → v ≠ .str name) :
      Rejected c (.scalar s) v (.shape (.scalar s) v)
  | pattern {pattern name} (h : pattern.accepts name = false) :
      Rejected c (.scalar (.symbol pattern)) (.str name) (.pattern pattern name)
  | literal {literals v} (h : ∀ l ∈ literals, l.toValue ≠ v) :
      Rejected c (.literal literals) v (.literal (.literal literals) v)
  | optional {inner v reason} (h : v ≠ .none) :
      Rejected c inner v reason → Rejected c (.optional inner) v reason
  | union {alternatives v} (h : ∀ t ∈ alternatives, ¬ Matches c t v) :
      Rejected c (.union alternatives) v (.alternatives (.union alternatives) v)
  | notTuple {elements v} (h : ∀ items, v ≠ .tuple items) :
      Rejected c (.tuple elements) v (.shape (.tuple elements) v)
  | length {elements items} (h : items.length ≠ elements.length) :
      Rejected c (.tuple elements) (.tuple items) (.length elements.length items.length)
  | tuple {elements items before t v after reason} (hl : items.length = elements.length)
      (hs : elements.zip items = before ++ (t, v) :: after)
      (hb : ∀ p ∈ before, Matches c p.1 p.2) : Rejected c t v reason →
      Rejected c (.tuple elements) (.tuple items) (.element before.length reason)
  | notList {element v} (h : ∀ items, v ≠ .list items) :
      Rejected c (.list element) v (.shape (.list element) v)
  | list {element before v after reason} (hb : ∀ item ∈ before, Matches c element item) :
      Rejected c element v reason →
      Rejected c (.list element) (.list (before ++ v :: after)) (.element before.length reason)
  | notSet {element v} (h : ∀ items, v ≠ .set items) :
      Rejected c (.set element) v (.shape (.set element) v)
  | set {element before v after reason} (hb : ∀ item ∈ before, Matches c element item) :
      Rejected c element v reason →
      Rejected c (.set element) (.set (before ++ v :: after)) (.element before.length reason)
  | notMap {key value v} (h : ∀ entries, v ≠ .map entries) :
      Rejected c (.map key value) v (.shape (.map key value) v)
  | key {key value before k v after reason}
      (hb : ∀ e ∈ before, Matches c key e.1 ∧ Matches c value e.2) : Rejected c key k reason →
      Rejected c (.map key value) (.map (before ++ (k, v) :: after)) (.key k reason)
  | entry {key value before k v after reason}
      (hb : ∀ e ∈ before, Matches c key e.1 ∧ Matches c value e.2) (hk : Matches c key k) :
      Rejected c value v reason →
      Rejected c (.map key value) (.map (before ++ (k, v) :: after)) (.entry k reason)
  | enum {e v} (h : ∀ m, v = .member m → m.enum ≠ e) : Rejected c (.enum e) v (.shape (.enum e) v)
  | record {t v} (h : ∀ r, v = .record r → t ∉ c.lineage r.type) :
      Rejected c (.record t) v (.shape (.record t) v)
  | bounded {name bound v reason} :
      Rejected c bound v reason → Rejected c (.var name (some bound)) v reason
  | apply {generic arguments v} (h : ∀ r, v = .record r → ¬ Applies c r.type generic arguments) :
      Rejected c (.apply generic arguments) v (.shape (.apply generic arguments) v)

end Ty

end TypedTree
