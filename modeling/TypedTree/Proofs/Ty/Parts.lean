import TypedTree.Proofs.Ty.Substitution

/-! # The parts of descriptions

A description is well formed if none of its parts is faulty by itself. Replacing parameters by
well-formed arguments brings in one kind of fault only: a set or a map may come to hold what it
cannot hash. -/

namespace TypedTree.Ty

/-- The descriptions of which a description is made. A bound is no part. -/
def parts : Ty → List Ty
  | .optional inner => [inner]
  | .union alternatives => alternatives
  | .tuple elements => elements
  | .list element => [element]
  | .set element => [element]
  | .map key value => [key, value]
  | .apply _ arguments => arguments
  | .any | .scalar _ | .literal _ | .enum _ | .record _ | .var _ _ => []

/-- A part at any depth, or the description itself. -/
inductive IsPart (part : Ty) : Ty → Prop where
  | self : IsPart part part
  | inner {s t} (h : s ∈ t.parts) : IsPart part s → IsPart part t

/-- What is wrong with a description by itself, not with its parts. -/
inductive Faulty (c : Catalog) (scope : Option (List TyVar)) : Ty → TyFault → Prop where
  | literal : Faulty c scope (.literal []) .emptyLiteral
  | union : Faulty c scope (.union []) .emptyUnion
  | set {element} (h : element.isHashable c = false) :
      Faulty c scope (.set element) (.unhashableElement element)
  | map {key value} (h : key.isHashable c = false) :
      Faulty c scope (.map key value) (.unhashableKey key)
  | var {name bound} (h : inScope scope name = false) :
      Faulty c scope (.var name bound) (.outOfScope name)
  | apply {generic arguments} (h : (c.schema generic).params = []) :
      Faulty c scope (.apply generic arguments) (.notGeneric generic)
  | arity {generic arguments} (h : (c.schema generic).params ≠ [])
      (hl : (c.schema generic).params.length ≠ arguments.length) :
      Faulty c scope (.apply generic arguments)
        (.arity generic (c.schema generic).params.length arguments.length)

/-- A set or a map cannot hash what it has to. -/
inductive Misfit (c : Catalog) : Ty → TyFault → Prop where
  | set {element} (h : element.isHashable c = false) :
      Misfit c (.set element) (.unhashableElement element)
  | map {key value} (h : key.isHashable c = false) : Misfit c (.map key value) (.unhashableKey key)

/-- Some part is a misfit. -/
def HasMisfit (c : Catalog) (t : Ty) (fault : TyFault) : Prop :=
  ∃ part : Ty, part.IsPart t ∧ part.Misfit c fault

variable {c : Catalog} {scope : Option (List TyVar)} {t s part : Ty} {fault : TyFault}
  {name : String} {params vars : List TyVar} {arguments : List Ty}

/-! ### Parts -/

theorem parts_induction {motive : Ty → Prop} (h : ∀ t, (∀ s ∈ t.parts, motive s) → motive t)
    (t : Ty) : motive t := by
  induction t using Ty.induction with
  | any | scalar | literal | enum | record | var | bounded =>
    exact h _ fun s hs => absurd hs List.not_mem_nil
  | optional inner ih | list inner ih | set inner ih =>
    exact h _ fun s hs => List.mem_singleton.mp hs ▸ ih
  | map key value ihk ihv =>
    exact h _ (List.forall_mem_cons.mpr ⟨ihk, List.forall_mem_singleton.mpr ihv⟩)
  | union alternatives ih | tuple alternatives ih | apply _ alternatives ih => exact h _ ih

theorem parts_substitute (h : ∀ name bound, t ≠ .var name bound) :
    (t.substitute params arguments).parts = t.parts.map (·.substitute params arguments) := by
  cases t with
  | any | scalar | literal | enum | record | optional | list | set | map => rfl
  | union => rw [substitute_union]; rfl
  | tuple => rw [substitute_tuple]; rfl
  | apply => rw [substitute_apply]; rfl
  | var name bound => exact absurd rfl (h name bound)

theorem substitute_ne_var {bound : Option Ty} (h : ∀ name bound, t ≠ .var name bound) :
    t.substitute params arguments ≠ .var name bound := by
  cases t with
  | var name bound => exact absurd rfl (h name bound)
  | _ => exact nofun

theorem Mentions.of_mem_parts (hs : s ∈ t.parts) (h : s.Mentions name) : t.Mentions name := by
  cases t with
  | any | scalar | literal | enum | record | var => exact absurd hs List.not_mem_nil
  | optional => exact .optional (List.mem_singleton.mp hs ▸ h)
  | list => exact .list (List.mem_singleton.mp hs ▸ h)
  | set => exact .set (List.mem_singleton.mp hs ▸ h)
  | map key value =>
    rcases List.mem_cons.mp hs with rfl | hs
    · exact .key h
    · exact .value (List.mem_singleton.mp hs ▸ h)
  | union => exact .union hs h
  | tuple => exact .tuple hs h
  | apply => exact .apply hs h

/-- The variables that a description mentions are its parts. -/
theorem mentions_iff : t.Mentions name ↔ ∃ bound, (Ty.var name bound).IsPart t := by
  constructor
  · intro h
    induction h with
    | var bound => exact ⟨bound, .self⟩
    | optional _ ih | list _ ih | set _ ih => exact ih.imp fun _ => .inner List.mem_cons_self
    | key _ ih => exact ih.imp fun _ => .inner List.mem_cons_self
    | value _ ih => exact ih.imp fun _ => .inner (List.mem_cons_of_mem _ List.mem_cons_self)
    | union h _ ih => exact ih.imp fun _ => .inner h
    | tuple h _ ih => exact ih.imp fun _ => .inner h
    | apply h _ ih => exact ih.imp fun _ => .inner h
  · rintro ⟨bound, h⟩
    induction h with
    | self => exact .var bound
    | inner hs _ ih => exact ih.of_mem_parts hs

theorem mem_of_lookup_zip {names : List String} {ts : List Ty}
    (h : (names.zip ts).lookup name = some t) : t ∈ ts := by
  obtain ⟨before, after, hz, -⟩ := List.lookup_eq_some_iff.mp h
  exact (List.of_mem_zip (hz ▸ List.mem_append_right before List.mem_cons_self)).2

/-- Once all variables are replaced, a part comes from an argument, or from a part that is no
variable. -/
theorem IsPart.of_substitute (hl : params.length = arguments.length)
    (hm : ∀ name, t.Mentions name → name ∈ params.map (·.name))
    (h : part.IsPart (t.substitute params arguments)) :
    (∃ a ∈ arguments, part.IsPart a) ∨ ∃ q : Ty, q.IsPart t ∧
      (∀ name bound, q ≠ .var name bound) ∧ part = q.substitute params arguments := by
  induction t using parts_induction with
  | h t ih =>
    by_cases hv : ∃ name bound, t = .var name bound
    · obtain ⟨name, bound, rfl⟩ := hv
      obtain ⟨a, ha⟩ := exists_lookup_zip (hm name (.var bound)) (by rw [List.length_map, hl])
      rw [substitute_var, ha] at h
      exact .inl ⟨a, mem_of_lookup_zip ha, h⟩
    · have hv : ∀ name bound, t ≠ .var name bound := fun name bound ht => hv ⟨name, bound, ht⟩
      cases h with
      | self => exact .inr ⟨t, .self, hv, rfl⟩
      | inner hs h =>
        rw [parts_substitute hv] at hs
        obtain ⟨s, hst, rfl⟩ := List.mem_map.mp hs
        refine (ih s hst (fun name hn => hm name (hn.of_mem_parts hst)) h).imp_right ?_
        exact fun ⟨q, hq, hp⟩ => ⟨q, .inner hst hq, hp⟩

/-! ### Collected variables -/

theorem addVars_of_ne_var (h : ∀ name bound, t ≠ .var name bound) :
    t.addVars vars = addVarsAll vars t.parts := by
  cases t with
  | var name bound => exact absurd rfl (h name bound)
  | _ => rfl

theorem mem_addTo_iff {v : TyVar} :
    name ∈ (TyVar.addTo vars v).map (·.name) ↔ name ∈ vars.map (·.name) ∨ name = v.name := by
  rw [TyVar.addTo]
  by_cases h : vars.any (·.name == v.name)
  · have hm : v.name ∈ vars.map (·.name) := by simpa using h
    rw [if_pos h]
    exact ⟨.inl, fun hn => hn.elim id fun he => he ▸ hm⟩
  · rw [if_neg h, List.map_append, List.mem_append, List.map_singleton, List.mem_singleton]

theorem mem_addVarsAll_iff_of {ts : List Ty}
    (h : ∀ t ∈ ts, ∀ vars, name ∈ (t.addVars vars).map (·.name) ↔
      name ∈ vars.map (·.name) ∨ t.Mentions name) :
    name ∈ (addVarsAll vars ts).map (·.name) ↔
      name ∈ vars.map (·.name) ∨ ∃ t ∈ ts, t.Mentions name := by
  induction ts generalizing vars with
  | nil => simp [addVarsAll]
  | cons t ts ih =>
    obtain ⟨ht, hs⟩ := List.forall_mem_cons.mp h
    rw [addVarsAll, ih hs, ht, or_assoc]
    simp only [List.mem_cons, exists_eq_or_imp]

/-- Just the variables that a description mentions are collected. -/
theorem mem_addVars_iff (t : Ty) (vars : List TyVar) :
    name ∈ (t.addVars vars).map (·.name) ↔ name ∈ vars.map (·.name) ∨ t.Mentions name := by
  induction t using parts_induction generalizing vars with
  | h t ih =>
    by_cases hv : ∃ name bound, t = .var name bound
    · obtain ⟨n, bound, rfl⟩ := hv
      have hn : (Ty.var n bound).Mentions name ↔ name = n := by
        constructor
        · rintro ⟨⟩
          rfl
        · rintro rfl
          exact .var bound
      rw [addVars, mem_addTo_iff, hn]
    · have hv : ∀ name bound, t ≠ .var name bound := fun name bound ht => hv ⟨name, bound, ht⟩
      rw [addVars_of_ne_var hv, mem_addVarsAll_iff_of ih]
      refine or_congr_right ⟨fun ⟨s, hs, h⟩ => h.of_mem_parts hs, fun h => ?_⟩
      obtain ⟨bound, hp⟩ := mentions_iff.mp h
      cases hp with
      | self => exact absurd rfl (hv name bound)
      | inner hs hp => exact ⟨_, hs, mentions_iff.mpr ⟨bound, hp⟩⟩

theorem mem_addVarsAll_iff {ts : List Ty} :
    name ∈ (addVarsAll vars ts).map (·.name) ↔
      name ∈ vars.map (·.name) ∨ ∃ t ∈ ts, t.Mentions name :=
  mem_addVarsAll_iff_of fun t _ vars => mem_addVars_iff t vars

/-! ### Faults -/

theorem inScope_some_iff : inScope (some vars) name = true ↔ name ∈ vars.map (·.name) := by
  simp [inScope]

theorem Misfit.faulty (h : t.Misfit c fault) : t.Faulty c scope fault := by
  cases h with
  | set h => exact .set h
  | map h => exact .map h

theorem checkAll_eq_error {ts : List Ty} (h : checkAll c scope ts = .error fault) :
    ∃ t ∈ ts, t.check c scope = .error fault := by
  induction ts with
  | nil => cases h
  | cons t ts ih =>
    simp only [List.mem_cons, exists_eq_or_imp]
    exact (unit_bind_eq_error_iff.mp h).imp_right fun h => ih h.2

/-- The reported fault is one of the description itself or one that a part reports. -/
theorem faulty_or_of_check (h : t.check c scope = .error fault) :
    t.Faulty c scope fault ∨ ∃ s ∈ t.parts, s.check c scope = .error fault := by
  cases t with
  | any | scalar | enum | record => cases h
  | literal values =>
    cases values with
    | nil =>
      obtain rfl := Except.error.inj h
      exact .inl .literal
    | cons => cases h
  | optional | list => exact .inr ⟨_, List.mem_cons_self, h⟩
  | union alternatives =>
    cases alternatives with
    | nil =>
      obtain rfl := Except.error.inj h
      exact .inl .union
    | cons => exact .inr (checkAll_eq_error h)
  | tuple => exact .inr (checkAll_eq_error h)
  | set element =>
    rcases unit_bind_eq_error_iff.mp h with h | ⟨-, h⟩
    · exact .inr ⟨element, List.mem_cons_self, h⟩
    · obtain ⟨hh, rfl⟩ := ite_eq_error_iff.mp h
      exact .inl (.set (Bool.eq_false_iff.mpr hh))
  | map key value =>
    rcases unit_bind_eq_error_iff.mp h with h | ⟨-, h⟩
    · exact .inr ⟨key, List.mem_cons_self, h⟩
    rcases unit_bind_eq_error_iff.mp h with h | ⟨-, h⟩
    · exact .inr ⟨value, List.mem_cons_of_mem key List.mem_cons_self, h⟩
    · obtain ⟨hh, rfl⟩ := ite_eq_error_iff.mp h
      exact .inl (.map (Bool.eq_false_iff.mpr hh))
  | var name bound =>
    obtain ⟨hs, rfl⟩ := ite_eq_error_iff.mp h
    exact .inl (.var (Bool.eq_false_iff.mpr hs))
  | apply generic given =>
    rw [check] at h
    by_cases hp : (c.schema generic).params = []
    · simp only [hp, List.isEmpty_nil, if_true, Except.error.injEq] at h
      exact .inl (h ▸ .apply hp)
    · simp only [List.isEmpty_iff, hp, if_false] at h
      by_cases hl : (c.schema generic).params.length = given.length
      · rw [if_neg (not_not.mpr hl)] at h
        exact .inr (checkAll_eq_error h)
      · rw [if_pos hl] at h
        obtain rfl := Except.error.inj h
        exact .inl (.arity hp hl)

/-- A well-formed description has well-formed parts and no fault of its own. -/
theorem check_parts (h : t.check c scope = .ok ()) :
    (∀ s ∈ t.parts, s.check c scope = .ok ()) ∧ ∀ fault, ¬ t.Faulty c scope fault := by
  cases t with
  | any | scalar | enum | record => exact ⟨by simp [parts], by rintro _ ⟨⟩⟩
  | literal values =>
    refine ⟨by simp [parts], ?_⟩
    rintro _ ⟨⟩
    cases h
  | optional | list =>
    exact ⟨List.forall_mem_singleton.mpr h, by rintro _ ⟨⟩⟩
  | union alternatives =>
    obtain ⟨hn, hs⟩ := (check_union_eq_ok_iff _).mp h
    refine ⟨hs, ?_⟩
    rintro _ ⟨⟩
    exact hn rfl
  | tuple => exact ⟨(checkAll_eq_ok_iff _).mp h, by rintro _ ⟨⟩⟩
  | set element =>
    obtain ⟨he, hh⟩ := (check_set_eq_ok_iff _).mp h
    refine ⟨List.forall_mem_singleton.mpr he, fun fault hf => ?_⟩
    cases hf with
    | set hf => exact absurd (hf.symm.trans hh) Bool.false_ne_true
  | map key value =>
    obtain ⟨hk, hv, hh⟩ := (check_map_eq_ok_iff _ _).mp h
    refine ⟨List.forall_mem_cons.mpr ⟨hk, List.forall_mem_singleton.mpr hv⟩, fun fault hf => ?_⟩
    cases hf with
    | map hf => exact absurd (hf.symm.trans hh) Bool.false_ne_true
  | var name bound =>
    refine ⟨by simp [parts], fun fault hf => ?_⟩
    cases hf with
    | var hf => simp [check, hf] at h
  | apply generic given =>
    obtain ⟨hp, hl, hs⟩ := (check_apply_eq_ok_iff _ _).mp h
    refine ⟨hs, fun fault hf => ?_⟩
    cases hf with
    | apply hf => exact hp hf
    | arity _ hf => exact hf hl

/-- The parts of a well-formed description are not faulty. -/
theorem IsPart.not_faulty (h : part.IsPart t) (hc : t.check c scope = .ok ()) :
    ¬ part.Faulty c scope fault := by
  induction h with
  | self => exact (check_parts hc).2 fault
  | inner hs _ ih => exact ih ((check_parts hc).1 _ hs)

theorem HasMisfit.check_ne_ok (h : t.HasMisfit c fault) : t.check c scope ≠ .ok () := by
  obtain ⟨part, hp, hm⟩ := h
  exact fun hc => hp.not_faulty hc hm.faulty

/-- What is reported is the fault of a part. -/
theorem exists_faulty_of_check (h : t.check c scope = .error fault) :
    ∃ part : Ty, part.IsPart t ∧ part.Faulty c scope fault := by
  induction t using parts_induction with
  | h t ih =>
    rcases faulty_or_of_check h with hf | ⟨s, hs, h⟩
    · exact ⟨t, .self, hf⟩
    · obtain ⟨part, hp, hf⟩ := ih s hs h
      exact ⟨part, .inner hs hp, hf⟩

/-! ### Faults after substitution -/

/-- Replacing variables makes a description other than a variable faulty only by what it has to
hash. -/
theorem Faulty.of_substitute (hv : ∀ name bound, t ≠ .var name bound) {scope' : Option (List TyVar)}
    (h : (t.substitute params arguments).Faulty c scope' fault) :
    (t.substitute params arguments).Misfit c fault ∨ t.Faulty c scope fault := by
  cases t with
  | any | scalar | enum | record | optional | list => cases h
  | literal =>
    generalize hs : (Ty.literal _).substitute params arguments = s at h
    cases h <;> cases hs
    exact .inr .literal
  | union alternatives =>
    rw [substitute_union] at h
    generalize ha : alternatives.map _ = as at h
    cases h
    exact .inr (List.map_eq_nil_iff.mp ha ▸ .union)
  | tuple =>
    rw [substitute_tuple] at h
    cases h
  | set =>
    cases h with
    | set h => exact .inl (.set h)
  | map =>
    cases h with
    | map h => exact .inl (.map h)
  | var name bound => exact absurd rfl (hv name bound)
  | apply generic given =>
    rw [substitute_apply] at h
    cases h with
    | apply h => exact .inr (.apply h)
    | arity hp hl =>
      rw [List.length_map] at hl ⊢
      exact .inr (.arity hp hl)

/-- A part of an argument is faulty only if it is a variable out of scope. -/
theorem Faulty.of_scope (h : t.Faulty c scope fault) :
    t.Faulty c none fault ∨ ∃ name bound, t = .var name bound ∧ inScope scope name = false := by
  cases h with
  | literal => exact .inl .literal
  | union => exact .inl .union
  | set h => exact .inl (.set h)
  | map h => exact .inl (.map h)
  | var h => exact .inr ⟨_, _, rfl, h⟩
  | apply h => exact .inl (.apply h)
  | arity h hl => exact .inl (.arity h hl)

/-- The parameters of a well-formed description give way to well-formed arguments. In the scope of
the variables of the arguments, nothing is wrong then but what a part has to hash. -/
theorem IsPart.misfit_of_faulty (hp : part.IsPart (t.substitute params arguments))
    (ht : t.check c (some params) = .ok ()) (hl : params.length = arguments.length)
    (ha : ∀ a ∈ arguments, a.check c none = .ok ())
    (hf : part.Faulty c (some (addVarsAll [] arguments)) fault) : part.Misfit c fault := by
  rcases hp.of_substitute hl fun name hn => hn.mem_scope ht with ⟨a, hm, hp⟩ | ⟨q, hq, hv, rfl⟩
  · rcases hf.of_scope with hf | ⟨name, bound, rfl, hs⟩
    · exact absurd hf (hp.not_faulty (ha a hm))
    · -- The variables of the arguments are in scope.
      have hn : name ∈ (addVarsAll [] arguments).map (·.name) :=
        mem_addVarsAll_iff.mpr (.inr ⟨a, hm, mentions_iff.mpr ⟨bound, hp⟩⟩)
      exact absurd (hs.symm.trans (inScope_some_iff.mpr hn)) Bool.false_ne_true
  · exact (hf.of_substitute hv).resolve_right (hq.not_faulty ht)

theorem hasMisfit_of_check_substitute (ht : t.check c (some params) = .ok ())
    (hl : params.length = arguments.length) (ha : ∀ a ∈ arguments, a.check c none = .ok ())
    (h : (t.substitute params arguments).check c (some (addVarsAll [] arguments)) =
      .error fault) : (t.substitute params arguments).HasMisfit c fault := by
  obtain ⟨part, hp, hf⟩ := exists_faulty_of_check h
  exact ⟨part, hp, hp.misfit_of_faulty ht hl ha hf⟩

/-- The variables that are left come from the arguments. -/
theorem Mentions.of_substitute (hl : params.length = arguments.length)
    (hm : ∀ name, t.Mentions name → name ∈ params.map (·.name))
    (h : (t.substitute params arguments).Mentions name) : ∃ a ∈ arguments, a.Mentions name := by
  obtain ⟨bound, hp⟩ := mentions_iff.mp h
  rcases hp.of_substitute hl hm with ⟨a, ha, hp⟩ | ⟨q, -, hv, hq⟩
  · exact ⟨a, ha, mentions_iff.mpr ⟨bound, hp⟩⟩
  · exact absurd hq.symm (substitute_ne_var hv)

end TypedTree.Ty
