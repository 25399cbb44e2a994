import TypedTree.Proofs.Construction.Validity
import TypedTree.Proofs.World.Derivation

/-!
# Applications against the types of the fields they come from

An argument takes the place of a variable whatever the bound of the variable is, and type arguments
are compared as they are but for variables and unions. So a field of an applied type accepts no more
than the field of the generic type as long as the arguments keep to the bounds, and parameters are
not used inside the parts of what a further application asks for.
-/

namespace TypedTree

namespace Ty

section Narrows

variable (c : Catalog) (params : List TyVar) (arguments : List Ty)

/-! ### Where arguments keep to a description -/

/-- With its parameters replaced, what an application asks for asks for no more: a parameter stands
alone or as an alternative, and where it is bounded, type arguments that satisfy its replacement
satisfy the bound. -/
inductive NarrowsArgument : Ty → Prop where
  | same {wanted} (h : wanted.substitute params arguments = wanted) : NarrowsArgument wanted
  | var (name) : NarrowsArgument (.var name none)
  | bounded {name bound}
      (h : ∀ given, ArgumentFits c given ((Ty.var name (some bound)).substitute params arguments) →
        ArgumentFits c given bound) : NarrowsArgument (.var name (some bound))
  | union {alternatives} :
      (∀ t ∈ alternatives, NarrowsArgument t) → NarrowsArgument (.union alternatives)

/-- With its parameters replaced, a description stays within itself: where a parameter is bounded,
values that match its replacement match the bound, and further applications ask for no more. -/
inductive Narrows : Ty → Prop where
  | same {t} (h : t.substitute params arguments = t) : Narrows t
  | var (name) : Narrows (.var name none)
  | bounded {name bound}
      (h : ∀ v, ((Ty.var name (some bound)).substitute params arguments).Matches c v →
        bound.Matches c v) : Narrows (.var name (some bound))
  | optional {inner} : Narrows inner → Narrows (.optional inner)
  | union {alternatives} : (∀ t ∈ alternatives, Narrows t) → Narrows (.union alternatives)
  | tuple {elements} : (∀ t ∈ elements, Narrows t) → Narrows (.tuple elements)
  | list {element} : Narrows element → Narrows (.list element)
  | set {element} : Narrows element → Narrows (.set element)
  | map {key value} : Narrows key → Narrows value → Narrows (.map key value)
  | apply {generic wanted} (h : ∀ t ∈ wanted, NarrowsArgument c params arguments t) :
      Narrows (.apply generic wanted)

end Narrows

variable {c : Catalog} {params : List TyVar} {arguments : List Ty} {t : Ty}

/-! ### Applications in descriptions -/

theorem NarrowsArgument.fits (h : t.NarrowsArgument c params arguments) {given : Ty}
    (hf : ArgumentFits c given (t.substitute params arguments)) : ArgumentFits c given t := by
  -- A union is compared alternative by alternative, everything else as it is.
  induction h with
  | same h => exact h ▸ hf
  | var name => exact .var given name
  | bounded h => exact .bounded (h given hf)
  | @union alternatives _ ih =>
    rw [substitute_union] at hf
    generalize hu : alternatives.map (·.substitute params arguments) = replaced at hf
    cases hf with
    | union hm hf =>
      subst hu
      obtain ⟨t, ht, rfl⟩ := List.mem_map.mp hm
      exact .union ht (ih t ht hf)
    | same _ hu => exact absurd rfl (hu replaced)

theorem forall₂_fits {given wanted : List Ty}
    (h : ∀ t ∈ wanted, t.NarrowsArgument c params arguments)
    (hf : List.Forall₂ (ArgumentFits c) given (wanted.map (·.substitute params arguments))) :
    List.Forall₂ (ArgumentFits c) given wanted := by
  induction wanted generalizing given with
  | nil => exact hf
  | cons t wanted ih =>
    obtain ⟨ht, hwanted⟩ := List.forall_mem_cons.mp h
    rw [List.map_cons] at hf
    cases hf with
    | cons hg hgs => exact .cons (ht.fits hg) (ih hwanted hgs)

/-- Only a variable gives way to a variable. -/
theorem eq_var_of_substitute_eq_var {name : String} {bound : Option Ty}
    (h : t.substitute params arguments = .var name bound) : ∃ name bound, t = .var name bound := by
  cases t with
  | var name bound => exact ⟨name, bound, rfl⟩
  | _ => exact absurd h (by simp [substitute, fold, substitution])

theorem applies_of_narrows {u generic : TypeId} {wanted : List Ty}
    (h : ∀ t ∈ wanted, t.NarrowsArgument c params arguments)
    (ha : Applies c u generic (wanted.map (·.substitute params arguments))) :
    Applies c u generic wanted := by
  cases ha with
  | nearest hl hn ho hf => exact .nearest hl hn ho (forall₂_fits h hf)
  | unapplied hn hl hv =>
    refine .unapplied hn hl fun t ht => ?_
    obtain ⟨name, bound, he⟩ := hv _ (List.mem_map_of_mem ht)
    exact eq_var_of_substitute_eq_var he

/-! ### Values -/

/-- A value that matches a description with its parameters replaced matches the description. -/
theorem Narrows.matches (h : t.Narrows c params arguments) {v : Value}
    (hm : (t.substitute params arguments).Matches c v) : t.Matches c v := by
  induction h generalizing v with
  | same h => exact h ▸ hm
  | var name => exact .var name v
  | bounded h => exact .bounded (h v hm)
  | @optional inner _ ih =>
    change (Ty.optional (inner.substitute params arguments)).Matches c v at hm
    cases hm with
    | absent => exact .absent inner
    | present hm => exact .present (ih hm)
  | union _ ih =>
    rw [substitute_union] at hm
    cases hm with
    | union hmem hm =>
      obtain ⟨t, ht, rfl⟩ := List.mem_map.mp hmem
      exact .union ht (ih t ht hm)
  | @tuple elements _ ih =>
    rw [substitute_tuple] at hm
    cases hm with
    | @tuple _ items hl hp =>
      rw [List.length_map] at hl
      refine .tuple hl fun p hpm => ih p.1 (List.of_mem_zip hpm).1 ?_
      have hz : (p.1.substitute params arguments, p.2) ∈
          (elements.map (·.substitute params arguments)).zip items := by
        rw [List.zip_map_left]
        exact List.mem_map_of_mem (f := Prod.map (·.substitute params arguments) id) hpm
      exact hp _ hz
  | @list element _ ih =>
    change (Ty.list (element.substitute params arguments)).Matches c v at hm
    cases hm with
    | list hi => exact .list fun item hitem => ih (hi item hitem)
  | @set element _ ih =>
    change (Ty.set (element.substitute params arguments)).Matches c v at hm
    cases hm with
    | set hi => exact .set fun item hitem => ih (hi item hitem)
  | @map key value _ _ ihk ihv =>
    change (Ty.map (key.substitute params arguments)
      (value.substitute params arguments)).Matches c v at hm
    cases hm with
    | map hk hv => exact .map (fun e he => ihk (hk e he)) fun e he => ihv (hv e he)
  | apply h =>
    rw [substitute_apply] at hm
    cases hm with
    | apply ha => exact .apply (applies_of_narrows h ha)

theorem Narrows.validate (h : t.Narrows c params arguments) {v : Value}
    (hv : (t.substitute params arguments).validate c v = .ok ()) : t.validate c v = .ok () := by
  rw [validate_eq_ok_iff] at hv ⊢
  exact h.matches hv

end Ty

/-! ### Fields of applied types -/

/-- Field `i` of `t` accepts no more than field `i` of `generic`. -/
def Catalog.FieldNarrows (c : Catalog) (t generic : TypeId) (i : Nat) : Prop :=
  ∀ f, (c.schema generic).fields[i]? = some f →
    ∃ g, (c.schema t).fields[i]? = some g ∧
      ∀ v, g.type.validate c v = .ok () → f.type.validate c v = .ok ()

namespace World

open Ty

variable {w w₁ w' : World} {generic t : TypeId} {arguments : List Ty}

/-- A field of an applied type accepts no more than that field of the generic type if the arguments
keep to its description. So every instance of the applied type holds a value there that the generic
type accepts. -/
theorem narrows_of_specialize (hw : Reachable w)
    (hs : w.specialize generic arguments = .ok (t, w₁)) (hr : Run (fun _ => True) w₁ w') {i : Nat}
    {f : Field} (hf : (w'.catalog.schema generic).fields[i]? = some f)
    (hn : f.type.Narrows w'.catalog (w'.catalog.schema generic).params arguments) :
    w'.catalog.FieldNarrows t generic i ∧
    ∀ (h : Hooks) (given : List (String × Value)) (s : State) (r : Record),
      ((construct h w'.catalog t given).exec s).1 = .ok r →
      ∃ v, r.values[i]? = some v ∧ f.type.validate w'.catalog v = .ok () := by
  have hfields := hw.sound.fields_of_specialize hs hr
  have hg : (w'.catalog.schema t).fields[i]? = some
      { f with type := f.type.substitute (w'.catalog.schema generic).params arguments } := by
    rw [hfields, Schema.appliedFields, List.getElem?_map, hf]
    rfl
  refine ⟨fun f' hf' => ?_, ?_⟩
  · obtain rfl : f = f' := Option.some.inj (hf.symm.trans hf')
    exact ⟨_, hg, fun v hv => hn.validate hv⟩
  · intro h given s r hc
    obtain ⟨-, hvalues⟩ := valid_of_construct hc
    obtain ⟨hi, -⟩ := List.getElem?_eq_some_iff.mp hg
    have hl : i < r.values.length := hvalues.length_eq ▸ hi
    refine ⟨r.values[i], List.getElem?_eq_getElem hl, hn.validate ?_⟩
    have hv := hvalues.get hi hl
    rw [List.getElem?_eq_getElem hi] at hg
    simpa only [List.get_eq_getElem, Option.some.inj hg] using hv

/-! ### A holder -/

/-- What the parameter of a holder is bounded by. -/
def holderBound : Ty :=
  .union [.scalar .int, .scalar .str]

/-- A declaration with a bounded parameter, which stands alone, as an argument of a pair, and inside
an argument of a pair. -/
def holderDeclaration : Declaration where
  session := 0
  name := "Holder"
  params := [⟨"T", some holderBound⟩]
  fields := [{ name := "value", type := some (.var "T" (some holderBound)) },
    { name := "pairs",
      type := some (.list (.apply 0 [.var "T" none, .union [.var "T" none, .scalar .none]])) },
    { name := "rows", type := some (.apply 0 [.list (.var "T" none), .any]) }]

/-- A world in which the pair and the holder are declared. -/
def holderWorld : World :=
  pairWorld.after (.declare holderDeclaration)

/-- The world in which the holder is applied to `t`. -/
def holderWorldOf (t : Ty) : World :=
  holderWorld.after (.specialize 1 [t])

theorem reachable_holderWorld : Reachable holderWorld :=
  reachable_pairWorld.step trivial ⟨by decide, by decide⟩

theorem specialize_holderWorld_int :
    holderWorld.specialize 1 [.scalar .int] = .ok (2, holderWorldOf (.scalar .int)) := rfl

/-- A holder of integers narrows the bounded field and the field of pairs. -/
theorem narrows_of_specialize_holder :
    holderWorld.specialize 1 [.scalar .int] = .ok (2, holderWorldOf (.scalar .int)) ∧
      (holderWorldOf (.scalar .int)).catalog.FieldNarrows 2 1 0 ∧
      (holderWorldOf (.scalar .int)).catalog.FieldNarrows 2 1 1 := by
  have hvalue := narrows_of_specialize (i := 0) reachable_holderWorld specialize_holderWorld_int
    .refl rfl (.bounded ?_)
  have hpairs := narrows_of_specialize (i := 1) reachable_holderWorld specialize_holderWorld_int
    .refl rfl (.list (.apply ?_))
  · exact ⟨specialize_holderWorld_int, hvalue.1, hpairs.1⟩
  · intro t ht
    obtain rfl | rfl : t = .var "T" none ∨ t = .union [.var "T" none, .scalar .none] := by
      simpa using ht
    · exact .var "T"
    · refine .union fun alternative ha => ?_
      obtain rfl | rfl : alternative = .var "T" none ∨ alternative = .scalar .none := by
        simpa using ha
      · exact .var "T"
      · exact .same rfl
  · intro v hv
    exact .union List.mem_cons_self hv

/-- The world in which lists of integers are paired with integers. -/
def rowWorld : World :=
  (holderWorldOf (.scalar .int)).after (.specialize 0 [.list (.scalar .int), .scalar .int])

/-- A holder of truth values accepts one where the bound rejects it, and a holder of integers
accepts rows of integers, which rows of a variable reject. -/
theorem not_fieldNarrows_of_specialize :
    Reachable holderWorld ∧
    (holderWorld.specialize 1 [.scalar .bool] = .ok (2, holderWorldOf (.scalar .bool)) ∧
      ¬ (holderWorldOf (.scalar .bool)).catalog.FieldNarrows 2 1 0) ∧
    (holderWorld.specialize 1 [.scalar .int] = .ok (2, holderWorldOf (.scalar .int)) ∧
      Run (fun _ => True) (holderWorldOf (.scalar .int)) rowWorld ∧
      ¬ rowWorld.catalog.FieldNarrows 2 1 2) := by
  have hrun : Run (fun _ => True) (holderWorldOf (.scalar .int)) rowWorld :=
    .step .refl trivial trivial
  refine ⟨reachable_holderWorld, ⟨rfl, fun hn => ?_⟩, rfl, hrun, fun hn => ?_⟩
  · obtain ⟨g, hg, hv⟩ := hn _ rfl
    obtain rfl := Option.some.inj hg
    have hbool := hv (.bool true) rfl
    cases hbool
  · obtain ⟨g, hg, hv⟩ := hn _ rfl
    obtain rfl := Option.some.inj hg
    have hrow := hv (.record ⟨3, [.list [], .int 1], none, []⟩) rfl
    cases hrow

end World

end TypedTree
