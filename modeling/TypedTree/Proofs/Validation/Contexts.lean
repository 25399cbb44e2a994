import Mathlib.Logic.Relation
import TypedTree.Proofs.List.Pointwise
import TypedTree.Proofs.Validation.Correctness
import TypedTree.Proofs.Validation.Instance
import TypedTree.Proofs.Value.Equivalence

/-!
# Descriptions in the place of others

Two descriptions that the same values match can take each other's place wherever values are checked
against them. The arguments of an application are another matter: they are compared with the
arguments of the instance's type. There a union is looked into and an optional description is not,
so an optional description and its union with absence can be told apart.
-/

namespace TypedTree

namespace Ty

/-! ### Arguments that are compared as terms -/

variable {c : Catalog} {given wanted s t : Ty}

theorem argumentFits_iff_eq (ha : wanted ≠ .any) (hv : ∀ name bound, wanted ≠ .var name bound)
    (hu : ∀ alternatives, wanted ≠ .union alternatives) (hr : ∀ u, wanted ≠ .record u) :
    ArgumentFits c given wanted ↔ given = wanted := by
  constructor
  · intro h
    cases h with
    | any => exact absurd rfl ha
    | var _ name => exact absurd rfl (hv name _)
    | bounded => exact absurd rfl (hv _ _)
    | union => exact absurd rfl (hu _)
    | record => exact absurd rfl (hr _)
    | same => rfl
  · rintro rfl
    exact .same hv hu

theorem argumentFits_bounded_iff {name : String} :
    ArgumentFits c given (.var name (some wanted)) ↔ ArgumentFits c given wanted := by
  constructor
  · intro h
    cases h with
    | bounded h => exact h
    | same hv => exact absurd rfl (hv name _)
  · exact .bounded

theorem argumentFits_union_iff {alternatives : List Ty} :
    ArgumentFits c given (.union alternatives) ↔ ∃ t ∈ alternatives, ArgumentFits c given t := by
  constructor
  · intro h
    cases h with
    | union hm h => exact ⟨_, hm, h⟩
    | same _ hu => exact absurd rfl (hu alternatives)
  · rintro ⟨t, hm, h⟩
    exact .union hm h

theorem argumentFits_optional_iff : ArgumentFits c given (.optional t) ↔ given = .optional t :=
  argumentFits_iff_eq (by simp) (by simp) (by simp) (by simp)

/-! ### Optional descriptions and unions with absence -/

/-- The union of absence and a description. -/
def orAbsent (t : Ty) : Ty :=
  .union [.scalar .none, t]

/-- Unlike an optional description, the union is looked into. -/
theorem argumentFits_orAbsent_iff :
    ArgumentFits c given t.orAbsent ↔ given = .scalar .none ∨ ArgumentFits c given t := by
  have hnone : ArgumentFits c given (.scalar .none) ↔ given = .scalar .none :=
    argumentFits_iff_eq (by simp) (by simp) (by simp) (by simp)
  rw [orAbsent, argumentFits_union_iff]
  simp [hnone]

/-- An optional argument is not one of the alternatives of the union. -/
theorem argumentFits_optional_self_iff : ArgumentFits c (.optional t) t ↔ t.AdmitsAll := by
  refine ⟨fun h => admitsAll_of_argumentFits (by simp) h ?_, fun h => h.argumentFits _⟩
  simp only [Ty.optional.sizeOf_spec]
  omega

/-! ### Descriptions with a hole -/

/-- A description with one hole in it. -/
inductive Context where
  | hole
  | optional (inner : Context)
  | union (before : List Ty) (alternative : Context) (after : List Ty)
  | tuple (before : List Ty) (element : Context) (after : List Ty)
  | list (element : Context)
  | set (element : Context)
  | mapKey (key : Context) (value : Ty)
  | mapValue (key : Ty) (value : Context)
  | bounded (name : String) (bound : Context)
  | apply (generic : TypeId) (before : List Ty) (argument : Context) (after : List Ty)

namespace Context

/-- The description with `t` in its hole. -/
def fill (t : Ty) : Context → Ty
  | hole => t
  | optional k => .optional (k.fill t)
  | union before k after => .union (before ++ k.fill t :: after)
  | tuple before k after => .tuple (before ++ k.fill t :: after)
  | list k => .list (k.fill t)
  | set k => .set (k.fill t)
  | mapKey k value => .map (k.fill t) value
  | mapValue key k => .map key (k.fill t)
  | bounded name k => .var name (some (k.fill t))
  | apply generic before k after => .apply generic (before ++ k.fill t :: after)

/-- What is true of the outermost application in whose arguments the hole stands, if there is
one. -/
def AtApplication (P : TypeId → List Ty → Context → List Ty → Prop) : Context → Prop
  | hole => True
  | optional k | list k | set k | mapKey k _ | mapValue _ k | bounded _ k => k.AtApplication P
  | union _ k _ | tuple _ k _ => k.AtApplication P
  | apply generic before k after => P generic before k after

theorem AtApplication.imp {P Q : TypeId → List Ty → Context → List Ty → Prop} {k : Context}
    (h : ∀ generic before k after, P generic before k after → Q generic before k after)
    (hk : k.AtApplication P) : k.AtApplication Q := by
  induction k with
  | hole => trivial
  | apply generic before k after => exact h generic before k after hk
  | _ => rename_i ih; exact ih hk

/-! ### Arguments that tell the two apart -/

/-- Whether a given argument fits does depend on which of the two is in the hole: an optional
description or its union with absence. Unions and bounds on the way to the hole are looked into, and
everything else is compared as a whole. -/
def TellsApart (c : Catalog) (given t : Ty) : Context → Prop
  | hole => given = .optional t ∧ ¬ t.AdmitsAll ∨
      given ≠ .optional t ∧ (given = .scalar .none ∨ ArgumentFits c given t)
  | union before k after =>
    (∀ other ∈ before ++ after, ¬ ArgumentFits c given other) ∧ k.TellsApart c given t
  | bounded _ k => k.TellsApart c given t
  | k => given = k.fill (.optional t) ∨ given = k.fill t.orAbsent

theorem fill_optional_ne (k : Context) (t : Ty) : k.fill (.optional t) ≠ k.fill t.orAbsent := by
  induction k with
  | hole => exact nofun
  | _ => simpa [fill]

/-- Of two descriptions that are compared as a whole, nothing fits both. -/
theorem eq_or_eq_iff (hs : ArgumentFits c given s ↔ given = s)
    (ht : ArgumentFits c given t ↔ given = t) (hne : s ≠ t) :
    given = s ∨ given = t ↔ ¬ (ArgumentFits c given s ↔ ArgumentFits c given t) := by
  rw [hs, ht]
  constructor
  · rintro (rfl | rfl) h
    · exact hne (h.mp rfl)
    · exact hne (h.mpr rfl).symm
  · intro h
    by_contra hn
    rw [not_or] at hn
    exact h (iff_of_false hn.1 hn.2)

/-- By induction on the way to the hole. -/
theorem tellsApart_iff (given t : Ty) (k : Context) : k.TellsApart c given t ↔
    ¬ (ArgumentFits c given (k.fill (.optional t)) ↔ ArgumentFits c given (k.fill t.orAbsent)) := by
  induction k with
  | hole =>
    rw [fill, fill, argumentFits_optional_iff, argumentFits_orAbsent_iff, TellsApart]
    by_cases hg : given = .optional t
    · subst hg
      simp [argumentFits_optional_self_iff]
    · simp [hg, or_iff_not_imp_left]
  | union before k after ih =>
    have hunion (x : Ty) : ArgumentFits c given (.union (before ++ x :: after)) ↔
        (∃ other ∈ before ++ after, ArgumentFits c given other) ∨ ArgumentFits c given x := by
      rw [argumentFits_union_iff]
      simp only [List.mem_append, List.mem_cons, or_and_right, exists_or, exists_eq_left]
      rw [or_assoc, or_comm (a := ArgumentFits c given x)]
    rw [fill, fill, hunion, hunion, TellsApart, ih]
    by_cases ho : ∃ other ∈ before ++ after, ArgumentFits c given other
    · refine iff_of_false (fun h => ?_) (not_not.mpr (iff_of_true (.inl ho) (.inl ho)))
      obtain ⟨other, hm, hf⟩ := ho
      exact h.1 other hm hf
    · rw [or_iff_right ho, or_iff_right ho]
      exact and_iff_right fun other hm hf => ho ⟨other, hm, hf⟩
  | bounded name k ih =>
    rw [fill, fill, argumentFits_bounded_iff, argumentFits_bounded_iff, TellsApart, ih]
  | _ =>
    refine eq_or_eq_iff (argumentFits_iff_eq ?_ ?_ ?_ ?_) (argumentFits_iff_eq ?_ ?_ ?_ ?_)
      (fill_optional_ne _ t)
    all_goals simp [fill]

end Context

end Ty

/-- The arguments of a type made from the generic type fit those asked for besides the one with the
hole, and tell the two descriptions apart there. -/
def Catalog.TellsApart (c : Catalog) (generic : TypeId) (before : List Ty) (k : Ty.Context)
    (after : List Ty) (t : Ty) : Prop :=
  ∃ u front given behind, (c.schema u).origin = some ⟨generic, front ++ given :: behind⟩ ∧
    List.Forall₂ (ArgumentFits c) front before ∧ List.Forall₂ (ArgumentFits c) behind after ∧
    k.TellsApart c given t

namespace Ty

variable {c : Catalog} {s t : Ty} {k : Context} {generic u : TypeId} {before after : List Ty}

theorem fit_iff_of_not_tellsApart (h : ¬ c.TellsApart generic before k after t) {given : List Ty}
    (ho : (c.schema u).origin = some ⟨generic, given⟩) :
    List.Forall₂ (ArgumentFits c) given (before ++ k.fill (.optional t) :: after) ↔
      List.Forall₂ (ArgumentFits c) given (before ++ k.fill t.orAbsent :: after) := by
  have hsame {front behind : List Ty} {x : Ty} (he : given = front ++ x :: behind)
      (hf : List.Forall₂ (ArgumentFits c) front before)
      (hb : List.Forall₂ (ArgumentFits c) behind after) :
      ArgumentFits c x (k.fill (.optional t)) ↔ ArgumentFits c x (k.fill t.orAbsent) := by
    by_contra hn
    exact h ⟨u, front, x, behind, he ▸ ho, hf, hb, (k.tellsApart_iff x t).mpr hn⟩
  rw [forall₂_append_cons_right_iff, forall₂_append_cons_right_iff]
  constructor
  · rintro ⟨front, x, behind, he, hf, hx, hb⟩
    exact ⟨front, x, behind, he, hf, (hsame he hf hb).mp hx, hb⟩
  · rintro ⟨front, x, behind, he, hf, hx, hb⟩
    exact ⟨front, x, behind, he, hf, (hsame he hf hb).mpr hx, hb⟩

/-! ### Congruence -/

/-- The same values match two descriptions. -/
def Alike (c : Catalog) (s t : Ty) : Prop :=
  ∀ v, s.Matches c v ↔ t.Matches c v

theorem Alike.symm (h : Alike c s t) : Alike c t s :=
  fun v => (h v).symm

theorem matches_tuple_iff {elements : List Ty} {v : Value} : (Ty.tuple elements).Matches c v ↔
    ∃ items, v = .tuple items ∧ List.Forall₂ (Matches c) elements items := by
  constructor
  · intro h
    cases h with
    | tuple hl hp => exact ⟨_, rfl, List.forall₂_iff_zip.mpr ⟨hl.symm, fun hm => hp _ hm⟩⟩
  · rintro ⟨items, rfl, h⟩
    exact .tuple h.length_eq.symm fun p hp => (List.forall₂_iff_zip.mp h).2 hp

/-- Contexts preserve what matches, as far as an application in whose arguments the hole stands
does. -/
theorem Context.matches_fill (h : Alike c s t)
    (ha : k.AtApplication fun generic before k after => ∀ u,
      Applies c u generic (before ++ k.fill s :: after) →
        Applies c u generic (before ++ k.fill t :: after))
    {v : Value} (hm : (k.fill s).Matches c v) : (k.fill t).Matches c v := by
  induction k generalizing v with
  | hole => exact (h v).mp hm
  | optional k ih =>
    cases hm with
    | absent => exact .absent _
    | present hm => exact .present (ih ha hm)
  | union before k after ih =>
    cases hm with
    | union hmem hm =>
      rw [List.mem_append, List.mem_cons] at hmem
      rcases hmem with hmem | rfl | hmem
      · exact .union (List.mem_append_left _ hmem) hm
      · exact .union (List.mem_append_right _ List.mem_cons_self) (ih ha hm)
      · exact .union (List.mem_append_right _ (List.mem_cons_of_mem _ hmem)) hm
  | tuple before k after ih =>
    rw [fill, matches_tuple_iff] at hm ⊢
    obtain ⟨items, rfl, hm⟩ := hm
    exact ⟨items, rfl, forall₂_replace (fun item hi => ih ha hi) hm⟩
  | list k ih =>
    cases hm with
    | list hm => exact .list fun item hi => ih ha (hm item hi)
  | set k ih =>
    cases hm with
    | set hm => exact .set fun item hi => ih ha (hm item hi)
  | mapKey k value ih =>
    cases hm with
    | map hk hv => exact .map (fun e he => ih ha (hk e he)) hv
  | mapValue key k ih =>
    cases hm with
    | map hk hv => exact .map hk fun e he => ih ha (hv e he)
  | bounded name k ih =>
    cases hm with
    | bounded hm => exact .bounded (ih ha hm)
  | apply generic before k after =>
    cases hm with
    | apply hm => exact .apply (ha _ hm)

/-! ### Optional descriptions as unions -/

theorem alike_orAbsent (t : Ty) : Alike c (.optional t) t.orAbsent := by
  intro v
  constructor
  · intro h
    cases h with
    | absent => exact .union List.mem_cons_self (.scalar .none)
    | present h => exact .union (List.mem_cons_of_mem _ List.mem_cons_self) h
  · intro h
    cases h with
    | union hm h =>
      obtain rfl | rfl := List.mem_pair.mp hm
      · cases h with
        | scalar h =>
          cases h
          exact .absent t
      · exact .present h

/-- The description is a type variable, bounded or not. -/
def IsVar (t : Ty) : Prop :=
  ∃ name bound, t = .var name bound

/-- Neither an optional description nor a union is a variable. -/
theorem Context.isVar_fill_iff :
    (k.fill (.optional t)).IsVar ↔ (k.fill t.orAbsent).IsVar := by
  cases k with
  | bounded name k => exact iff_of_true ⟨name, _, rfl⟩ ⟨name, _, rfl⟩
  | _ => exact iff_of_false (fun ⟨_, _, h⟩ => nomatch h) fun ⟨_, _, h⟩ => nomatch h

theorem applies_of_applies {wanted wanted' : List Ty}
    (hf : ∀ s given, (c.schema s).origin = some ⟨generic, given⟩ →
      List.Forall₂ (ArgumentFits c) given wanted → List.Forall₂ (ArgumentFits c) given wanted')
    (hv : (∀ argument ∈ wanted, argument.IsVar) → ∀ argument ∈ wanted', argument.IsVar)
    (h : Applies c u generic wanted) : Applies c u generic wanted' := by
  cases h with
  | nearest hl hn ho h => exact .nearest hl hn ho (hf _ _ ho h)
  | unapplied hn hl h => exact .unapplied hn hl (hv h)

/-- No type at hand tells apart what is in the hole, so it does not matter to an application. -/
theorem applies_fill_iff (h : ¬ c.TellsApart generic before k after t) :
    Applies c u generic (before ++ k.fill (.optional t) :: after) ↔
      Applies c u generic (before ++ k.fill t.orAbsent :: after) := by
  have hvars : (∀ argument ∈ before ++ k.fill (.optional t) :: after, argument.IsVar) ↔
      ∀ argument ∈ before ++ k.fill t.orAbsent :: after, argument.IsVar := by
    simp only [List.forall_mem_append, List.forall_mem_cons, Context.isVar_fill_iff]
  exact ⟨applies_of_applies (fun _ _ ho => (fit_iff_of_not_tellsApart h ho).mp) hvars.mp,
    applies_of_applies (fun _ _ ho => (fit_iff_of_not_tellsApart h ho).mpr) hvars.mpr⟩

/-- One optional description in the first description is a union with absence in the second one. If
it stands in the arguments of an application, no type at hand tells the two apart there. -/
inductive Rewrites (c : Catalog) : Ty → Ty → Prop where
  | here (k : Context) (t : Ty)
      (h : k.AtApplication fun generic before k after => ¬ c.TellsApart generic before k after t) :
      Rewrites c (k.fill (.optional t)) (k.fill t.orAbsent)

theorem Rewrites.alike (h : Rewrites c s t) : Alike c s t := by
  cases h with
  | here k t h =>
    have happlies := h.imp fun generic before k after hn u =>
      applies_fill_iff (u := u) hn
    intro v
    constructor
    · exact Context.matches_fill (alike_orAbsent t) (happlies.imp fun _ _ _ _ hu u => (hu u).mp)
    · exact Context.matches_fill (alike_orAbsent t).symm
        (happlies.imp fun _ _ _ _ hu u => (hu u).mpr)

theorem alike_of_rewrites (h : Relation.ReflTransGen (Rewrites c) s t) : Alike c s t := by
  induction h with
  | refl => exact fun _ => .rfl
  | tail _ h ih => exact fun v => (ih v).trans (h.alike v)

end Ty

namespace World

variable {w : World} {generic : TypeId} {before after : List Ty} {k : Ty.Context} {t : Ty}

/-- An instance of a type that tells the two apart is accepted with one of them only. -/
theorem Sound.not_tellsApart_of_validate (h : w.Sound)
    (hv : ∀ v : Value, v.Proper w.catalog →
      ((Ty.apply generic (before ++ k.fill (.optional t) :: after)).validate w.catalog v = .ok () ↔
        (Ty.apply generic (before ++ k.fill t.orAbsent :: after)).validate w.catalog v = .ok ())) :
    ¬ w.catalog.TellsApart generic before k after t := by
  rintro ⟨u, front, given, behind, ho, hf, hb, ht⟩
  let r : Record := ⟨u, (w.catalog.schema u).fields.map fun _ => .none, none, []⟩
  have hproper : (Value.record r).Proper w.catalog := by
    refine .record (Catalog.lt_length_of_origin ho) (List.length_map _) fun v hm => ?_
    obtain ⟨-, -, rfl⟩ := List.mem_map.mp hm
    exact .atom rfl
  have hn := h.nearestArguments?_eq (u := u) ho List.mem_cons_self
  have hfits (x : Ty) : (Ty.apply generic (before ++ x :: after)).validate w.catalog (.record r) =
      .ok () ↔ ArgumentFits w.catalog given x := by
    rw [validate_apply_eq_ok_iff, Catalog.appliesAs, hn]
    change w.catalog.argumentsMatch _ _ = true ↔ _
    rw [Catalog.argumentsMatch_iff, forall₂_append_cons_iff hf hb]
  have hr := hv _ hproper
  rw [hfits, hfits] at hr
  exact (k.tellsApart_iff given t).mp ht hr

/-- However many optional descriptions are written as unions with absence, inside whatever
description, the same values are accepted, as long as no type at hand tells the two apart in the
arguments of an application. An application whose own arguments are rewritten accepts the same
instances only then. -/
theorem validate_rewrites (hw : Reachable w) :
    (∀ s t, Relation.ReflTransGen (Ty.Rewrites w.catalog) s t →
      ∀ v, s.validate w.catalog v = .ok () ↔ t.validate w.catalog v = .ok ()) ∧
    ∀ generic before k after t, ¬ w.catalog.TellsApart generic before k after t ↔
      ∀ v : Value, v.Proper w.catalog →
        ((Ty.apply generic (before ++ k.fill (.optional t) :: after)).validate w.catalog v =
            .ok () ↔
          (Ty.apply generic (before ++ k.fill t.orAbsent :: after)).validate w.catalog v =
            .ok ()) := by
  constructor
  · intro s t h v
    rw [Ty.validate_eq_ok_iff, Ty.validate_eq_ok_iff]
    exact Ty.alike_of_rewrites h v
  · intro generic before k after t
    refine ⟨fun h v _ => ?_, hw.sound.not_tellsApart_of_validate⟩
    rw [Ty.validate_eq_ok_iff, Ty.validate_eq_ok_iff]
    exact (Ty.Rewrites.here (.apply generic before k after) t h).alike v

/-! ### Pairs -/

/-- The world in which lists of optional integers are paired with integers. -/
def optionalRowsWorld : World :=
  pairWorld.after (.specialize 0 [.list (.optional (.scalar .int)), .scalar .int])

theorem reachable_optionalRowsWorld : Reachable optionalRowsWorld :=
  reachable_pairWorld.step trivial trivial

/-- An argument that admits everything goes on to do so. -/
theorem not_tellsApart_any (c : Catalog) (generic : TypeId) (before after : List Ty) (t : Ty) :
    ¬ c.TellsApart generic before (.union [.any] .hole []) after t := by
  rintro ⟨u, front, given, behind, -, -, -, hothers, -⟩
  exact hothers .any List.mem_cons_self (.any given)

/-- In a tuple, the bound of a variable is rewritten, and an optional integer beside `any` in the
arguments of a pair. -/
theorem validate_rewrites_optionalRows :
    let absent := Ty.orAbsent (.scalar .int)
    let pairOf (t : Ty) := Ty.apply 0 [.union [.any, t], .scalar .int]
    let s := Ty.tuple
      [.var "T" (some (.optional (.scalar .str))), pairOf (.optional (.scalar .int))]
    let t := Ty.tuple [.var "T" (some (.orAbsent (.scalar .str))), pairOf absent]
    Reachable optionalRowsWorld ∧
      Relation.ReflTransGen (Ty.Rewrites optionalRowsWorld.catalog) s t ∧
      t.validate optionalRowsWorld.catalog
        (.tuple [.none, .record ⟨1, [.list [.none], .int 1], none, []⟩]) = .ok () := by
  intro absent pairOf s t
  let bound := Ty.Context.tuple [] (.bounded "T" .hole) [pairOf (.optional (.scalar .int))]
  let argument := Ty.Context.tuple [.var "T" (some (.orAbsent (.scalar .str)))]
    (.apply 0 [] (.union [.any] .hole []) [.scalar .int]) []
  have hs : Relation.ReflTransGen (Ty.Rewrites optionalRowsWorld.catalog) s t :=
    (Relation.ReflTransGen.single (.here bound (.scalar .str) trivial)).tail
      (.here argument (.scalar .int) (not_tellsApart_any _ _ _ _ _))
  refine ⟨reachable_optionalRowsWorld, hs, ?_⟩
  rw [← (validate_rewrites reachable_optionalRowsWorld).1 s t hs]
  rfl

/-- A pair of integers matches where the first of a pair is asked to be an integer or nothing, but
only if that is written as a union. -/
theorem not_validate_rewrites_everywhere :
    ¬ ∀ (w : World) (k : Ty.Context) (t : Ty) (u : TypeId) (h : Hooks)
        (given : List (String × Value)) (s : State) (r : Record),
      Reachable w → (k.fill (.optional t)).check w.catalog none = .ok () →
      t.check w.catalog none = .ok () → ((construct h w.catalog u given).exec s).1 = .ok r →
      ((k.fill (.optional t)).validate w.catalog (.record r) = .ok () ↔
        (k.fill t.orAbsent).validate w.catalog (.record r) = .ok ()) := by
  intro hall
  let applied := pairWorld.after (.specialize 0 [.scalar .int, .scalar .int])
  let context := Ty.Context.apply 0 [] .hole [.scalar .int]
  let r : Record := ⟨1, [.int 1, .int 2], none, []⟩
  have hreachable : Reachable applied := reachable_pairWorld.step trivial trivial
  have hiff := hall applied context (.scalar .int) 1 PureHooks.permissive.toHooks
    [("left", .int 1), ("right", .int 2)] applied.state r hreachable rfl rfl rfl
  cases hiff.mpr rfl

end World

end TypedTree
