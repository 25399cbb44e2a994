import Mathlib.Data.List.Forall2
import TypedTree.Value.Equality

/-! # What equality of values means -/

namespace TypedTree

namespace Value

variable {c : Catalog} {a b : Value}

/-- Two values are equal. -/
abbrev Equal (c : Catalog) (x y : Value) : Prop :=
  x.eqv c y = true

/-! ### Equality by shapes -/

/-- A value without parts. -/
def isAtom : Value → Bool
  | .tuple _ | .list _ | .set _ | .map _ | .record _ => false
  | _ => true

/-- At each place, the values of a field that takes part in equality are equal. -/
def FieldsEqual (c : Catalog) (fields : List Field) (xs ys : List Value) : Prop :=
  ∀ (i : Nat) (f : Field) (x y : Value), fields[i]? = some f → xs[i]? = some x →
    ys[i]? = some y → f.flags.eq = true → x.Equal c y

/-- When two values are equal, in terms of their parts. -/
inductive Equates (c : Catalog) : Value → Value → Prop where
  | atom {v : Value} (h : v.isAtom = true) : Equates c v v
  | tuple {xs ys} (h : List.Forall₂ (Equal c) xs ys) :
      Equates c (.tuple xs) (.tuple ys)
  | list {xs ys} (h : List.Forall₂ (Equal c) xs ys) :
      Equates c (.list xs) (.list ys)
  | set {xs ys} (hl : xs.length = ys.length) (h : ∀ x ∈ xs, ∃ y ∈ ys, x.Equal c y) :
      Equates c (.set xs) (.set ys)
  | map {xs ys} (hl : xs.length = ys.length)
      (h : ∀ x ∈ xs, ∃ y, ys.find? (fun y => x.1.eqv c y.1) = some y ∧ x.2.Equal c y.2) :
      Equates c (.map xs) (.map ys)
  | record {r s : Record} (ht : r.type = s.type)
      (h : FieldsEqual c (r.schema c).fields r.values s.values) : Equates c (.record r) (.record s)

theorem eqvAll_iff (xs ys : List Value) :
    eqvAll c xs ys = true ↔ List.Forall₂ (Equal c) xs ys := by
  induction xs generalizing ys with
  | nil => cases ys <;> simp [eqvAll]
  | cons x xs ih => cases ys <;> simp [eqvAll, ih]

theorem subset_iff (xs ys : List Value) :
    subset c xs ys = true ↔ ∀ x ∈ xs, ∃ y ∈ ys, x.Equal c y := by
  induction xs with
  | nil => simp [subset]
  | cons x xs ih => simp [subset, ih]

theorem subsetEntries_iff (xs ys : List (Value × Value)) :
    subsetEntries c xs ys = true ↔
      ∀ x ∈ xs, ∃ y, ys.find? (fun y => x.1.eqv c y.1) = some y ∧ x.2.Equal c y.2 := by
  induction xs with
  | nil => simp [subsetEntries]
  | cons x xs ih =>
    obtain ⟨k, v⟩ := x
    rw [List.forall_mem_cons, subsetEntries, Bool.and_eq_true, ih]
    refine and_congr_left fun _ => ?_
    cases ys.find? fun y => k.eqv c y.1 with
    | none => simp
    | some y => simp only [Option.some.injEq, exists_eq_left']

theorem fieldsEqual_cons_iff {f : Field} {fields : List Field} {x y : Value} {xs ys : List Value} :
    FieldsEqual c (f :: fields) (x :: xs) (y :: ys) ↔
      (f.flags.eq = true → x.Equal c y) ∧ FieldsEqual c fields xs ys := by
  constructor
  · exact fun h => ⟨h 0 f x y rfl rfl rfl, fun i => h (i + 1)⟩
  · rintro ⟨hx, hxs⟩ (_ | i) g x' y' hg hx' hy' he
    · cases hg
      cases hx'
      cases hy'
      exact hx he
    · exact hxs i g x' y' hg hx' hy' he

theorem eqvFields_iff (fields : List Field) (xs ys : List Value) :
    eqvFields c fields xs ys = true ↔ FieldsEqual c fields xs ys := by
  induction xs generalizing fields ys with
  | nil => simp [eqvFields, FieldsEqual]
  | cons x xs ih =>
    cases fields with
    | nil => simp [eqvFields, FieldsEqual]
    | cons f fields =>
      cases ys with
      | nil => simp [eqvFields, FieldsEqual]
      | cons y ys =>
        rw [eqvFields, Bool.and_eq_true, ih, fieldsEqual_cons_iff]
        cases f.flags.eq <;> simp

theorem eqv_iff_eq_of_isAtom (h : a.isAtom = true) : a.eqv c b = true ↔ a = b := by
  cases a <;> cases b <;> simp_all [eqv, isAtom]

end Value

theorem Record.eqv_eq (c : Catalog) (r s : Record) : r.eqv c s =
    (r.type == s.type && Value.eqvFields c (r.schema c).fields r.values s.values) := by
  cases r
  rfl

theorem Record.eqv_iff {c : Catalog} (r s : Record) : r.eqv c s = true ↔
    r.type = s.type ∧ Value.FieldsEqual c (r.schema c).fields r.values s.values := by
  rw [eqv_eq, Bool.and_eq_true, beq_iff_eq, Value.eqvFields_iff]

namespace Value

variable {c : Catalog} {a b : Value}

theorem equates_of_eqv (h : a.eqv c b = true) : Equates c a b := by
  cases a with
  | tuple xs =>
    cases b with
    | tuple ys => exact .tuple ((eqvAll_iff xs ys).mp h)
    | _ => cases h
  | list xs =>
    cases b with
    | list ys => exact .list ((eqvAll_iff xs ys).mp h)
    | _ => cases h
  | set xs =>
    cases b with
    | set ys =>
      obtain ⟨hl, hs⟩ := Bool.and_eq_true_iff.mp h
      exact .set (beq_iff_eq.mp hl) ((subset_iff xs ys).mp hs)
    | _ => cases h
  | map xs =>
    cases b with
    | map ys =>
      obtain ⟨hl, hs⟩ := Bool.and_eq_true_iff.mp h
      exact .map (beq_iff_eq.mp hl) ((subsetEntries_iff xs ys).mp hs)
    | _ => cases h
  | record r =>
    cases b with
    | record s =>
      obtain ⟨ht, hf⟩ := (Record.eqv_iff r s).mp h
      exact .record ht hf
    | _ => cases h
  | _ =>
    obtain rfl := (eqv_iff_eq_of_isAtom rfl).mp h
    exact .atom rfl

theorem eqv_iff : a.eqv c b = true ↔ Equates c a b := by
  refine ⟨equates_of_eqv, fun h => ?_⟩
  cases h with
  | atom h => exact (eqv_iff_eq_of_isAtom h).mpr rfl
  | tuple h | list h => exact (eqvAll_iff _ _).mpr h
  | set hl h => exact Bool.and_eq_true_iff.mpr ⟨beq_iff_eq.mpr hl, (subset_iff _ _).mpr h⟩
  | map hl h => exact Bool.and_eq_true_iff.mpr ⟨beq_iff_eq.mpr hl, (subsetEntries_iff _ _).mpr h⟩
  | record ht h => exact (Record.eqv_iff _ _).mpr ⟨ht, h⟩

end Value

end TypedTree
