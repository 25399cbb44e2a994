import TypedTree.Construction.Basic
import TypedTree.Proofs.Construction.Execution
import TypedTree.Proofs.Construction.Stages
import TypedTree.Proofs.Validation.Correctness
import TypedTree.Proofs.World.Composition
import TypedTree.Proofs.World.Lineage

/-! # Instances of an applied generic type against that application -/

namespace TypedTree

/-! ### Arguments that fit themselves -/

namespace Ty

/-- Every argument satisfies the description where it is asked for. -/
inductive AdmitsAll : Ty → Prop where
  | any : AdmitsAll .any
  | var (name) : AdmitsAll (.var name none)
  | bounded {name bound} : AdmitsAll bound → AdmitsAll (.var name (some bound))
  | union {alternative alternatives} (h : alternative ∈ alternatives) :
      AdmitsAll alternative → AdmitsAll (.union alternatives)

/-- A union or a bounded variable, which stand for several arguments where they are asked for. -/
inductive IsChoice : Ty → Prop where
  | bounded (name bound) : IsChoice (.var name (some bound))
  | union (alternatives) : IsChoice (.union alternatives)

variable {c : Catalog} {given t : Ty}

theorem AdmitsAll.argumentFits (h : t.AdmitsAll) (given : Ty) : ArgumentFits c given t := by
  induction h with
  | any => exact .any given
  | var name => exact .var given name
  | bounded _ ih => exact .bounded ih
  | union h _ ih => exact .union h ih

/-- Asked for parts of itself, an argument that is no record type finds none that is equal to
it. -/
theorem admitsAll_of_argumentFits (hg : ∀ u, given ≠ .record u) (h : ArgumentFits c given t)
    (hs : sizeOf t < sizeOf given) : t.AdmitsAll := by
  induction h with
  | any => exact .any
  | var _ name => exact .var name
  | bounded _ ih =>
    refine .bounded (ih hg ?_)
    simp only [Ty.var.sizeOf_spec, Option.some.sizeOf_spec] at hs
    omega
  | union hm _ ih =>
    refine .union hm (ih hg ?_)
    have := List.sizeOf_lt_of_mem hm
    simp only [Ty.union.sizeOf_spec] at hs
    omega
  | record => exact absurd rfl (hg _)
  | same => exact absurd hs (Nat.lt_irrefl _)

theorem IsChoice.argumentFits_self_iff (ht : t.IsChoice) : ArgumentFits c t t ↔ t.AdmitsAll := by
  refine ⟨fun h => ?_, fun h => h.argumentFits t⟩
  cases ht with
  | bounded name bound =>
    cases h with
    | bounded h =>
      refine .bounded (admitsAll_of_argumentFits (by simp) h ?_)
      simp only [Ty.var.sizeOf_spec, Option.some.sizeOf_spec]
      omega
    | same hv => exact absurd rfl (hv name (some bound))
  | union alternatives =>
    cases h with
    | union hm h =>
      refine .union hm (admitsAll_of_argumentFits (by simp) h ?_)
      have := List.sizeOf_lt_of_mem hm
      simp only [Ty.union.sizeOf_spec]
      omega
    | same _ hu => exact absurd rfl (hu alternatives)

theorem argumentFits_self_of_not_isChoice (ht : ¬ t.IsChoice) : ArgumentFits c t t := by
  cases t with
  | var name bound =>
    cases bound with
    | none => exact .var _ name
    | some bound => exact absurd (.bounded name bound) ht
  | union alternatives => exact absurd (.union alternatives) ht
  | _ => exact .same (by simp) (by simp)

/-- A type argument satisfies itself, unless it is a union or a bounded variable that does not admit
every argument. -/
theorem argumentFits_self_iff : ArgumentFits c t t ↔ (t.IsChoice → t.AdmitsAll) := by
  by_cases ht : t.IsChoice
  · rw [ht.argumentFits_self_iff]
    exact ⟨fun h _ => h, fun h => h ht⟩
  · exact ⟨fun _ h => absurd h ht, fun _ => argumentFits_self_of_not_isChoice ht⟩

theorem forall₂_argumentFits_self_iff (ts : List Ty) :
    List.Forall₂ (ArgumentFits c) ts ts ↔ ∀ t ∈ ts, t.IsChoice → t.AdmitsAll := by
  rw [List.forall₂_same]
  exact forall₂_congr fun t _ => argumentFits_self_iff

end Ty

/-! ### Instances -/

namespace World

variable {w w' : World} {generic t : TypeId} {arguments : List Ty}

/-- The nearest application of a generic type, above a type that was made by one, is that one. -/
theorem Sound.nearestArguments?_eq (h : w.Sound) {u : TypeId}
    (ho : (w.catalog.schema t).origin = some ⟨generic, arguments⟩) (ht : t ∈ w.catalog.lineage u) :
    w.catalog.nearestArguments? u generic = some arguments := by
  obtain ⟨nearer, hl, hn⟩ := h.lineage_eq_append ht
  refine (w.catalog.nearestArguments?_eq_some_iff u generic arguments).mpr
    ⟨nearer, t, (w.catalog.schema t).ancestors, hl, ho, ?_⟩
  rintro s hs ⟨others, ho'⟩
  -- Otherwise the type would derive from itself, through the generic type.
  have hst : t ∈ w.catalog.lineage generic := h.ancestors_of_origin ho' ▸ hn s hs
  have hgt : generic ∈ (w.catalog.schema t).ancestors := by
    rw [h.ancestors_of_origin ho]
    exact List.mem_cons_self
  exact absurd (h.le_of_mem_lineage hst) (Nat.not_le_of_lt (h.lt_of_mem_ancestors hgt))

theorem validate_apply_eq_ok_iff (c : Catalog) (r : Record) :
    (Ty.apply generic arguments).validate c (.record r) = .ok () ↔
      c.appliesAs r.type generic arguments = true := by
  rw [Ty.validate]
  by_cases h : c.appliesAs r.type generic arguments <;> simp [h]

/-- The instances of a generic type applied to arguments match that very application exactly if each
argument satisfies itself. -/
theorem validate_own_application_iff (hw : Reachable w)
    (hg : (w.catalog.schema generic).origin = none) {w₁ : World}
    (hs : w.specialize generic arguments = .ok (t, w₁)) (hr : Run (fun _ => True) w₁ w')
    (r : Record) (hi : r.isInstance w'.catalog t = true) :
    (Ty.apply generic arguments).validate w'.catalog (.record r) = .ok () ↔
      ∀ argument ∈ arguments, argument.IsChoice → argument.AdmitsAll := by
  have h₁ := hw.sound.of_specialize hs
  have hm := hw.sound.remembered_of_specialize hs
  rw [rootApplication_of_declared hg] at hm
  have hmade := h₁.made_of_remembered hm
  have ho : (w'.catalog.schema t).origin = some ⟨generic, arguments⟩ := by
    rw [hr.extends.schema_eq hmade.lt, hmade.origin]
  have ht := (w'.catalog.isSubtype_iff r.type t).mp hi
  have hn := (hr.sound h₁).nearestArguments?_eq ho ht
  rw [validate_apply_eq_ok_iff, Catalog.appliesAs, hn]
  change w'.catalog.argumentsMatch arguments arguments = true ↔ _
  rw [Catalog.argumentsMatch_iff, Ty.forall₂_argumentFits_self_iff]

/-- An argument that is a union has to have an alternative that admits everything. -/
theorem validate_own_application_pair :
    let arguments := [.list (.scalar .int), .union [.scalar .str, .any]]
    let applied := pairWorld.after (.specialize 0 arguments)
    (Ty.apply 0 arguments).validate applied.catalog
      (.record ⟨1, [.list [.int 1], .bool true], none, []⟩) = .ok () := by
  intro arguments applied
  have hs : pairWorld.specialize 0 arguments = .ok (1, applied) := rfl
  refine (validate_own_application_iff reachable_pairWorld rfl hs .refl _ rfl).mpr ?_
  intro argument hm hc
  rcases List.mem_cons.mp hm with rfl | hm
  · cases hc
  · obtain rfl := List.mem_singleton.mp hm
    exact .union (List.mem_cons_of_mem _ List.mem_cons_self) .any

/-- An instance of a pair of a union and an integer does not match that very application. -/
theorem not_accepts_own_instances :
    ¬ ∀ (w w' : World) (generic t : TypeId) (arguments : List Ty) (h : Hooks)
        (given : List (String × Value)) (s : State) (r : Record),
      Reachable w → (w.catalog.schema generic).origin = none →
      w.specialize generic arguments = .ok (t, w') →
      ((construct h w'.catalog t given).exec s).1 = .ok r →
      (Ty.apply generic arguments).validate w'.catalog (.record r) = .ok () := by
  intro hall
  let arguments : List Ty := [.union [.scalar .int, .scalar .str], .scalar .int]
  let applied := pairWorld.after (.specialize 0 arguments)
  let r : Record := ⟨1, [.int 1, .int 2], none, []⟩
  have haccepted := hall pairWorld applied 0 1 arguments PureHooks.permissive.toHooks
    [("left", .int 1), ("right", .int 2)] applied.state r reachable_pairWorld rfl rfl rfl
  have hrejected : (Ty.apply 0 arguments).validate applied.catalog (.record r) =
    .error (.shape (.apply 0 arguments) (.record r)) := rfl
  cases haccepted.symm.trans hrejected

end World

end TypedTree
