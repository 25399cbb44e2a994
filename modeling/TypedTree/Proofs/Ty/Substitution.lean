import Mathlib.Logic.Basic
import TypedTree.Proofs.Except
import TypedTree.Proofs.Ty.Induction
import TypedTree.Ty.WellFormed

/-! # Variables and substitution -/

namespace TypedTree

namespace Ty

/-- A variable of the given name appears in a description. Bounds are not looked into. -/
inductive Mentions (name : String) : Ty → Prop where
  | var (bound) : Mentions name (.var name bound)
  | optional {inner} : Mentions name inner → Mentions name (.optional inner)
  | union {t alternatives} (h : t ∈ alternatives) :
      Mentions name t → Mentions name (.union alternatives)
  | tuple {t elements} (h : t ∈ elements) : Mentions name t → Mentions name (.tuple elements)
  | list {element} : Mentions name element → Mentions name (.list element)
  | set {element} : Mentions name element → Mentions name (.set element)
  | key {key value} : Mentions name key → Mentions name (.map key value)
  | value {key value} : Mentions name value → Mentions name (.map key value)
  | apply {generic t arguments} (h : t ∈ arguments) :
      Mentions name t → Mentions name (.apply generic arguments)

/-! ### Several descriptions at once -/

theorem foldAll_eq_map (f : Folding) (ts : List Ty) : foldAll f ts = ts.map (·.fold f) := by
  induction ts with
  | nil => rfl
  | cons t ts ih => rw [foldAll, ih, List.map_cons]

variable {c : Catalog} {scope : Option (List TyVar)}

theorem checkAll_eq_ok_iff (ts : List Ty) :
    checkAll c scope ts = .ok () ↔ ∀ t ∈ ts, t.check c scope = .ok () := by
  induction ts with
  | nil => simp [checkAll]
  | cons t ts ih =>
    rw [checkAll, List.forall_mem_cons, ← ih, unit_bind_eq_ok_iff]

/-! ### Variables of well-formed descriptions -/

theorem check_set_eq_ok_iff (element : Ty) :
    (Ty.set element).check c scope = .ok () ↔
      element.check c scope = .ok () ∧ element.isHashable c = true := by
  refine unit_bind_eq_ok_iff.trans (and_congr_right fun _ => ?_)
  by_cases h : element.isHashable c <;> simp [h]

theorem check_map_eq_ok_iff (key value : Ty) :
    (Ty.map key value).check c scope = .ok () ↔
      key.check c scope = .ok () ∧ value.check c scope = .ok () ∧ key.isHashable c = true := by
  refine unit_bind_eq_ok_iff.trans (and_congr_right fun _ => ?_)
  refine unit_bind_eq_ok_iff.trans (and_congr_right fun _ => ?_)
  by_cases h : key.isHashable c <;> simp [h]

theorem check_union_eq_ok_iff (alternatives : List Ty) :
    (Ty.union alternatives).check c scope = .ok () ↔
      alternatives ≠ [] ∧ ∀ t ∈ alternatives, t.check c scope = .ok () := by
  cases alternatives with
  | nil => exact ⟨nofun, fun h => absurd rfl h.1⟩
  | cons t ts => exact (checkAll_eq_ok_iff _).trans (and_iff_right (List.cons_ne_nil t ts)).symm

theorem check_apply_eq_ok_iff (generic : TypeId) (arguments : List Ty) :
    (Ty.apply generic arguments).check c scope = .ok () ↔
      (c.schema generic).params ≠ [] ∧ (c.schema generic).params.length = arguments.length ∧
        ∀ t ∈ arguments, t.check c scope = .ok () := by
  rw [check, ← checkAll_eq_ok_iff]
  by_cases hp : (c.schema generic).params = []
  · simp [hp]
  · by_cases hl : (c.schema generic).params.length = arguments.length <;> simp [hp, hl]

/-- A description that is well formed in a scope mentions variables of the scope only. -/
theorem Mentions.mem_scope {name : String} {t : Ty} {vars : List TyVar} (h : t.Mentions name)
    (hc : t.check c (some vars) = .ok ()) : name ∈ vars.map (·.name) := by
  induction h with
  | var bound =>
    rw [check, inScope] at hc
    by_cases hs : vars.any (·.name == name)
    · simpa using hs
    · simp [hs] at hc
  | optional _ ih | list _ ih => exact ih hc
  | union h _ ih => exact ih (((check_union_eq_ok_iff _).mp hc).2 _ h)
  | tuple h _ ih => exact ih ((checkAll_eq_ok_iff _).mp hc _ h)
  | set _ ih => exact ih ((check_set_eq_ok_iff _).mp hc).1
  | key _ ih => exact ih ((check_map_eq_ok_iff _ _).mp hc).1
  | value _ ih => exact ih ((check_map_eq_ok_iff _ _).mp hc).2.1
  | apply h _ ih => exact ih (((check_apply_eq_ok_iff _ _).mp hc).2.2 _ h)

/-! ### Composition -/

theorem lookup_zip_map (f : Ty → Ty) (names : List String) (ts : List Ty) (name : String) :
    (names.zip (ts.map f)).lookup name = ((names.zip ts).lookup name).map f := by
  induction names generalizing ts with
  | nil => rfl
  | cons n names ih =>
    cases ts with
    | nil => rfl
    | cons t ts =>
      rw [List.map_cons, List.zip_cons_cons, List.zip_cons_cons, List.lookup_cons, List.lookup_cons]
      cases name == n with
      | true => rfl
      | false => exact ih ts

theorem exists_lookup_zip {names : List String} {ts : List Ty} {name : String} (h : name ∈ names)
    (hl : names.length = ts.length) : ∃ t, (names.zip ts).lookup name = some t := by
  rw [← Option.isSome_iff_exists, List.lookup_isSome_iff]
  rw [← List.map_fst_zip (Nat.le_of_eq hl)] at h
  obtain ⟨p, hp, rfl⟩ := List.mem_map.mp h
  exact ⟨p, hp, beq_self_eq_true p.1⟩

section Parts

variable (params : List TyVar) (arguments : List Ty)

theorem substitute_union (alternatives : List Ty) :
    (Ty.union alternatives).substitute params arguments =
      .union (alternatives.map (·.substitute params arguments)) :=
  congrArg Ty.union (foldAll_eq_map _ _)

theorem substitute_tuple (elements : List Ty) :
    (Ty.tuple elements).substitute params arguments =
      .tuple (elements.map (·.substitute params arguments)) :=
  congrArg Ty.tuple (foldAll_eq_map _ _)

theorem substitute_apply (generic : TypeId) (given : List Ty) :
    (Ty.apply generic given).substitute params arguments =
      .apply generic (given.map (·.substitute params arguments)) :=
  congrArg (Ty.apply generic) (foldAll_eq_map _ _)

/-- A parameter gives way to the argument at its place. -/
theorem substitute_var (name : String) (bound : Option Ty) :
    (Ty.var name bound).substitute params arguments =
      (((params.map (·.name)).zip arguments).lookup name).getD (.var name bound) := rfl

end Parts

/-- Substituting twice is substituting once, with the second substitution carried out on what the
first one puts in. No variable may escape the first one. -/
theorem substitute_substitute (params vars : List TyVar) (arguments values : List Ty) (t : Ty)
    (hl : params.length = arguments.length)
    (h : ∀ name, t.Mentions name → name ∈ params.map (·.name)) :
    (t.substitute params arguments).substitute vars values =
      t.substitute params (arguments.map (·.substitute vars values)) := by
  induction t using Ty.induction with
  | any | scalar | literal | enum | record => rfl
  | optional inner ih => exact congrArg Ty.optional (ih fun name hm => h name (.optional hm))
  | list element ih => exact congrArg Ty.list (ih fun name hm => h name (.list hm))
  | set element ih => exact congrArg Ty.set (ih fun name hm => h name (.set hm))
  | map key value ihk ihv =>
    exact congrArg₂ Ty.map (ihk fun name hm => h name (.key hm))
      (ihv fun name hm => h name (.value hm))
  | union alternatives ih =>
    simp only [substitute_union, List.map_map]
    exact congrArg Ty.union
      (List.map_congr_left fun t ht => ih t ht fun name hm => h name (.union ht hm))
  | tuple elements ih =>
    simp only [substitute_tuple, List.map_map]
    exact congrArg Ty.tuple
      (List.map_congr_left fun t ht => ih t ht fun name hm => h name (.tuple ht hm))
  | apply generic given ih =>
    simp only [substitute_apply, List.map_map]
    exact congrArg (Ty.apply generic)
      (List.map_congr_left fun t ht => ih t ht fun name hm => h name (.apply ht hm))
  | var name | bounded name =>
    -- The variable is a parameter, so the first substitution leaves no trace of it.
    obtain ⟨a, ha⟩ := exists_lookup_zip (h name (.var _)) (by rw [List.length_map, hl])
    rw [substitute_var, substitute_var, lookup_zip_map, ha]
    rfl

end Ty

end TypedTree
