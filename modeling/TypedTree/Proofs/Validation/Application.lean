import TypedTree.Proofs.Ty.Induction
import TypedTree.Proofs.Validation.Semantics

/-! # Correctness of matching applied generic types -/

namespace TypedTree

/-! ### Subtypes and arguments -/

namespace Catalog

variable (c : Catalog)

theorem isSubtype_iff (t ancestor : TypeId) :
    c.isSubtype t ancestor = true ↔ ancestor ∈ c.lineage t := by
  rw [isSubtype, lineage, Bool.or_eq_true, beq_iff_eq, List.contains_iff_mem, List.mem_cons,
    eq_comm]

theorem argumentMatchesAny_iff (given : Ty) (alternatives : List Ty) :
    c.argumentMatchesAny given alternatives = true ↔
      ∃ t ∈ alternatives, c.argumentMatches given t = true := by
  induction alternatives with
  | nil => simp [argumentMatchesAny]
  | cons t rest ih => simp [argumentMatchesAny, ih]

theorem argumentFits_of_beq {c : Catalog} {given wanted : Ty} (h : (given == wanted) = true)
    (hv : ∀ name bound, wanted ≠ .var name bound)
    (hu : ∀ alternatives, wanted ≠ .union alternatives) :
    ArgumentFits c given wanted := by
  obtain rfl : given = wanted := by simpa using h
  exact .same hv hu

theorem argumentFits_of_matches {given : Ty} (wanted : Ty)
    (h : c.argumentMatches given wanted = true) : ArgumentFits c given wanted := by
  induction wanted using Ty.induction with
  | any => exact .any given
  | var name => exact .var given name
  | bounded name bound ih => exact .bounded (ih h)
  | union alternatives ih =>
    rw [argumentMatches, argumentMatchesAny_iff] at h
    obtain ⟨t, hm, ht⟩ := h
    exact .union hm (ih t hm ht)
  | record ancestor =>
    cases given with
    | record t => exact .record ((c.isSubtype_iff t ancestor).mp h)
    | _ => exact absurd h (by simp [argumentMatches])
  | _ => exact argumentFits_of_beq h (by simp) (by simp)

theorem matches_of_argumentFits {given wanted : Ty} (h : ArgumentFits c given wanted) :
    c.argumentMatches given wanted = true := by
  induction h with
  | any => rfl
  | var => rfl
  | bounded _ ih => exact ih
  | union hm _ ih => exact (c.argumentMatchesAny_iff _ _).mpr ⟨_, hm, ih⟩
  | record hl => exact (c.isSubtype_iff _ _).mpr hl
  | @same wanted hv hu =>
    cases wanted with
    | var name bound => exact absurd rfl (hv name bound)
    | union alternatives => exact absurd rfl (hu alternatives)
    | record t => exact (c.isSubtype_iff t t).mpr (by simp [lineage])
    | _ => simp [argumentMatches]

theorem argumentMatches_iff (given wanted : Ty) :
    c.argumentMatches given wanted = true ↔ ArgumentFits c given wanted :=
  ⟨c.argumentFits_of_matches wanted, c.matches_of_argumentFits⟩

theorem argumentsMatch_iff (given wanted : List Ty) :
    c.argumentsMatch given wanted = true ↔ List.Forall₂ (ArgumentFits c) given wanted := by
  induction given generalizing wanted with
  | nil => cases wanted <;> simp [argumentsMatch]
  | cons g gs ih =>
    cases wanted with
    | nil => simp [argumentsMatch]
    | cons w ws => simp [argumentsMatch, argumentMatches_iff, ih]

/-! ### The nearest application -/

/-- The arguments with which a type was made from the generic type. -/
def madeWith? (t generic : TypeId) : Option (List Ty) :=
  match (c.schema t).origin with
  | some origin => if origin.generic = generic then some origin.arguments else none
  | none => none

theorem madeWith?_eq_some_iff (t generic : TypeId) (arguments : List Ty) :
    c.madeWith? t generic = some arguments ↔ (c.schema t).origin = some ⟨generic, arguments⟩ := by
  unfold madeWith?
  cases (c.schema t).origin with
  | none => simp
  | some origin =>
    obtain ⟨g, as⟩ := origin
    by_cases h : g = generic <;> simp [h]

theorem madeWith?_eq_none_iff (t generic : TypeId) :
    c.madeWith? t generic = none ↔ ¬ c.MadeFrom t generic := by
  simp only [Option.eq_none_iff_forall_ne_some, MadeFrom, ne_eq, madeWith?_eq_some_iff, not_exists]

theorem nearestArguments?_eq_some_iff (t generic : TypeId) (arguments : List Ty) :
    c.nearestArguments? t generic = some arguments ↔
      ∃ nearer s further, c.lineage t = nearer ++ s :: further ∧
        (c.schema s).origin = some ⟨generic, arguments⟩ ∧ ∀ u ∈ nearer, ¬ c.MadeFrom u generic := by
  change (c.lineage t).findSome? (c.madeWith? · generic) = some arguments ↔ _
  simp only [List.findSome?_eq_some_iff, madeWith?_eq_some_iff, madeWith?_eq_none_iff]

theorem nearestArguments?_eq_none_iff (t generic : TypeId) :
    c.nearestArguments? t generic = none ↔ ∀ u ∈ c.lineage t, ¬ c.MadeFrom u generic := by
  change (c.lineage t).findSome? (c.madeWith? · generic) = none ↔ _
  simp only [List.findSome?_eq_none_iff, madeWith?_eq_none_iff]

theorem appliesAs_iff (t generic : TypeId) (arguments : List Ty) :
    c.appliesAs t generic arguments = true ↔ Applies c t generic arguments := by
  unfold appliesAs
  cases hn : c.nearestArguments? t generic with
  | none =>
    have hnone := (c.nearestArguments?_eq_none_iff t generic).mp hn
    simp only [Bool.and_eq_true, isSubtype_iff, List.all_eq_true]
    constructor
    · rintro ⟨hl, hv⟩
      refine .unapplied hnone hl fun argument hm => ?_
      have := hv argument hm
      cases argument <;> simp_all
    · rintro (⟨hl, _, ho, _⟩ | ⟨_, hl, hv⟩)
      · exact absurd ⟨_, ho⟩ (hnone _ (by simp [hl]))
      · refine ⟨hl, fun argument hm => ?_⟩
        obtain ⟨name, bound, rfl⟩ := hv argument hm
        rfl
  | some given =>
    obtain ⟨nearer, s, further, hl, ho, hn'⟩ := (c.nearestArguments?_eq_some_iff _ _ _).mp hn
    simp only [argumentsMatch_iff]
    constructor
    · exact .nearest hl hn' ho
    · rintro (⟨hl', hn'', ho', hf⟩ | ⟨hnone, _, _⟩)
      · have h := (c.nearestArguments?_eq_some_iff _ _ _).mpr ⟨_, _, _, hl', ho', hn''⟩
        obtain rfl := Option.some.inj (hn.symm.trans h)
        exact hf
      · exact absurd ⟨_, ho⟩ (hnone s (by simp [hl]))

end Catalog

end TypedTree
