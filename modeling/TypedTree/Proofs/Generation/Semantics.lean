import TypedTree.Generation.Generator
import TypedTree.Proofs.Except
import TypedTree.Proofs.List.Pointwise
import TypedTree.Proofs.Value.Components

/-! # What generation means -/

namespace TypedTree

/-! ### Rules -/

namespace Rule

/-- The rule is a text template. -/
def IsTextual (rule : Rule) : Prop :=
  rule.template?.isSome

/-- The segments of the template, if the rule is one. -/
def segments (rule : Rule) : List Segment :=
  rule.template?.elim [] (·.segments)

end Rule

namespace Generator

variable (g : Generator) (c : Catalog) (extra : Bindings)

/-- Every rule is a text template. -/
def IsTextual : Prop :=
  ∀ name rule, g.rules.get? name = some rule → rule.IsTextual

/-- The type or one of its ancestors has a rule. -/
def Covers (t : TypeId) : Prop :=
  ∃ s ∈ c.lineage t, (g.rules.get? (c.typeName s)).isSome

instance (t : TypeId) : Decidable (g.Covers c t) :=
  inferInstanceAs (Decidable (∃ s ∈ c.lineage t, (g.rules.get? (c.typeName s)).isSome))

/-- The name has this rule, and it is the first in the lineage of the type that has one. -/
def NearestRule (t : TypeId) (name : String) (rule : Rule) : Prop :=
  ∃ nearer s further, c.lineage t = nearer ++ s :: further ∧ c.typeName s = name ∧
    g.rules.get? name = some rule ∧ ∀ n ∈ nearer, g.rules.get? (c.typeName n) = none

end Generator

/-- The fields that are generated as children of a record: of a plain record, all of them. -/
def Record.generated (c : Catalog) (r : Record) : List (String × Value) :=
  if r.isNode then r.children c else r.fields c

/-! ### What is generated -/

namespace Generator

variable (g : Generator) (c : Catalog) (extra : Bindings)

/-- Generating the first value takes generating the second. -/
inductive Demands : Value → Value → Prop where
  | tuple {items x} (h : x ∈ items) : Demands (.tuple items) x
  | list {items x} (h : x ∈ items) : Demands (.list items) x
  | set {items x} (h : x ∈ items) : Demands (.set items) x
  | entry {entries e} (h : e ∈ entries) : Demands (.map entries) e.2
  | child {r : Record} {e} (hn : r.isNode = true) (h : e ∈ r.children c) : Demands (.record r) e.2
  | note {r : Record} {e} (hn : r.isNode = true) (h : e ∈ r.allAnnotations c) :
      Demands (.record r) e.2
  | field {r : Record} {e} (hn : r.isNode = false) (hr : g.Covers c r.type)
      (h : e ∈ r.fields c ++ r.annotations) : Demands (.record r) e.2

/-- The record is the root, or generating the root comes to it. -/
def Reaches (root : Value) (r : Record) : Prop :=
  Relation.ReflTransGen (g.Demands c) root (.record r)

/-- The name stands for something where the record is rendered. -/
def Provides (r : Record) (key : String) : Prop :=
  key ∈ (r.generated c).map (·.1) ∨ key ∈ (r.allAnnotations c).map (·.1) ∨ key ∈ extra.map (·.1)

/-- Every node that generation comes to has a rule, and the names in the rules stand for
something. -/
structure Serves (root : Value) : Prop where
  covers : ∀ r, g.Reaches c root r → r.isNode = true → g.Covers c r.type
  provides : ∀ r name rule, g.Reaches c root r → g.NearestRule c r.type name rule →
    ∀ key ∈ rule.placeholders, Provides c extra r key

/-! ### What it gives -/

/-- The text of a segment where names stand for fragments. -/
inductive Shows (named : Bindings) : Segment → String → Prop where
  | literal (text : String) : Shows named (.literal text) text
  | displayed {name f} (h : named.lookup name = some f) :
      Shows named (.placeholder name none) (f.display c)
  | joined {name separator f} (h : named.lookup name = some f) :
      Shows named (.placeholder name (some separator)) (f.join c separator)

/-- What a value is generated to. Where names stand for several things, those of children come
before those of annotations, and both before those of the call. -/
inductive Generates : Value → Fragment → Prop where
  | leaf {v} (h : v.isAtom = true) : Generates v (.text (g.dumpLeaf c v))
  | tuple {items fs} (h : List.Forall₂ Generates items fs) : Generates (.tuple items) (.seq fs)
  | list {items fs} (h : List.Forall₂ Generates items fs) : Generates (.list items) (.seq fs)
  | set {items fs} (h : List.Forall₂ Generates items fs) : Generates (.set items) (.set fs)
  | map {entries fs} (h : Entrywise Generates entries fs) : Generates (.map entries) (.map fs)
  | plain {r : Record} (hn : r.isNode = false) (hr : ¬ g.Covers c r.type) :
      Generates (.record r) (.text (r.text c))
  | rendered {r : Record} {name rule children annotations texts}
      (hr : g.NearestRule c r.type name rule)
      (hc : Entrywise Generates (r.generated c) children)
      (ha : Entrywise Generates (r.allAnnotations c) annotations)
      (ht : List.Forall₂ (Shows c (children ++ annotations ++ extra)) rule.segments texts) :
      Generates (.record r) (.text (String.join texts))

variable {g c extra} {v : Value} {items : List Value} {entries : List (Value × Value)}
  {f : Fragment}

theorem generates_atom_iff (hv : v.isAtom = true) :
    g.Generates c extra v f ↔ .text (g.dumpLeaf c v) = f := by
  constructor
  · intro h
    cases h with
    | leaf => rfl
    | _ => cases hv
  · rintro rfl
    exact .leaf hv

theorem generates_tuple_iff : g.Generates c extra (.tuple items) f ↔
    ∃ fs, List.Forall₂ (g.Generates c extra) items fs ∧ .seq fs = f := by
  constructor
  · intro h
    cases h with
    | leaf h => cases h
    | tuple h => exact ⟨_, h, rfl⟩
  · rintro ⟨fs, h, rfl⟩
    exact .tuple h

theorem generates_list_iff : g.Generates c extra (.list items) f ↔
    ∃ fs, List.Forall₂ (g.Generates c extra) items fs ∧ .seq fs = f := by
  constructor
  · intro h
    cases h with
    | leaf h => cases h
    | list h => exact ⟨_, h, rfl⟩
  · rintro ⟨fs, h, rfl⟩
    exact .list h

theorem generates_set_iff : g.Generates c extra (.set items) f ↔
    ∃ fs, List.Forall₂ (g.Generates c extra) items fs ∧ .set fs = f := by
  constructor
  · intro h
    cases h with
    | leaf h => cases h
    | set h => exact ⟨_, h, rfl⟩
  · rintro ⟨fs, h, rfl⟩
    exact .set h

theorem generates_map_iff : g.Generates c extra (.map entries) f ↔
    ∃ fs, Entrywise (g.Generates c extra) entries fs ∧ .map fs = f := by
  constructor
  · intro h
    cases h with
    | leaf h => cases h
    | map h => exact ⟨_, h, rfl⟩
  · rintro ⟨fs, h, rfl⟩
    exact .map h

end Generator

end TypedTree
