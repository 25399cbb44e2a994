import TypedTree.Proofs.Construction.Validity

/-! # The stages of a construction, whatever supplied functions do -/

namespace TypedTree

open Construct

/-- Supplied functions that make nothing, change nothing and let everything pass. -/
def PureHooks.permissive : PureHooks where
  factory _ _ := .none
  converter _ _ v := .ok v
  check _ _ _ _ := .ok ()
  rootCheck _ _ _ := .ok ()

variable {h : Hooks} {c : Catalog} {t : TypeId} {arguments : List (String × Value)} {s : State}

/-! ### Fields -/

theorem rawValue_of_mem {f : Field} {v : Value} (hn : (arguments.map (·.1)).Nodup)
    (hm : (f.name, v) ∈ arguments) : rawValue h c t arguments f = pure v := by
  rw [rawValue, lookup_eq_some_of_mem hn hm]

/-- A field without an argument takes its default. -/
theorem rawValue_of_not_mem {f : Field} (hm : f.name ∉ arguments.map (·.1)) :
    rawValue h c t arguments f = rawValue h c t [] f := by
  rw [rawValue, rawValue, lookup_eq_none_of_not_mem hm]
  rfl

/-- The value that a field takes, by what its stages gave in the states that they ran in. -/
inductive Fills (h : Hooks) (c : Catalog) (t : TypeId) (arguments : List (String × Value))
    (f : Field) : Value → Prop where
  | intro {raw v : Value} {s₁ s₂ : State}
      (hr : ((rawValue h c t arguments f).exec s₁).1 = .ok raw)
      (hc : ((convertValue h c t f raw).exec s₂).1 = .ok v)
      (hv : f.type.validate c v = .ok ())
      (hk : ∀ hook ∈ f.checks, ∃ s, ((h.check hook c f v).run s).1 = .ok ()) :
      Fills h c t arguments f v

theorem exec_runChecks_cons_eq_ok_iff {f : Field} {v : Value} {hook : HookId}
    {hooks : List HookId} : ((runChecks h c t f v (hook :: hooks)).exec s).1 = .ok () ↔
      ((h.check hook c f v).run s).1 = .ok () ∧
        ((runChecks h c t f v hooks).exec ((h.check hook c f v).run s).2).1 = .ok () := by
  rw [runChecks, exec_bind_of_ok (exec_lift _ s)]
  cases ((h.check hook c f v).run s).1 with
  | ok => simp
  | error text => simp

theorem checks_of_exec_runChecks {f : Field} {v : Value} {hooks : List HookId}
    (he : ((runChecks h c t f v hooks).exec s).1 = .ok ()) :
    ∀ hook ∈ hooks, ∃ s, ((h.check hook c f v).run s).1 = .ok () := by
  induction hooks generalizing s with
  | nil => simp
  | cons hook hooks ih =>
    obtain ⟨hhook, hrest⟩ := exec_runChecks_cons_eq_ok_iff.mp he
    exact List.forall_mem_cons.mpr ⟨⟨s, hhook⟩, ih hrest⟩

theorem fills_of_exec_fieldValue {f : Field} {v : Value}
    (he : ((fieldValue h c t arguments f).exec s).1 = .ok v) : Fills h c t arguments f v := by
  rw [fieldValue] at he
  obtain ⟨raw, s₁, hr, he⟩ := exec_bind_eq_ok_iff.mp he
  obtain ⟨converted, s₂, hc, he⟩ := exec_bind_eq_ok_iff.mp he
  obtain ⟨_, s₃, hv, he⟩ := exec_bind_eq_ok_iff.mp he
  obtain ⟨_, s₄, hk, he⟩ := exec_bind_eq_ok_iff.mp he
  obtain rfl : converted = v := Except.ok.inj he
  exact .intro (congrArg Prod.fst hr) (congrArg Prod.fst hc) (validate_of_exec_validateValue hv)
    (checks_of_exec_runChecks (congrArg Prod.fst hk))

theorem fills_of_exec_fieldValues {fs : List Field} {values : List Value}
    (he : ((fieldValues h c t arguments fs).exec s).1 = .ok values) :
    List.Forall₂ (Fills h c t arguments) fs values := by
  induction fs generalizing values s with
  | nil =>
    obtain rfl : [] = values := Except.ok.inj he
    exact .nil
  | cons f fs ih =>
    rw [fieldValues] at he
    obtain ⟨v, s₁, hv, he⟩ := exec_bind_eq_ok_iff.mp he
    obtain ⟨rest, s₂, hrest, he⟩ := exec_bind_eq_ok_iff.mp he
    obtain rfl : v :: rest = values := Except.ok.inj he
    exact .cons (fills_of_exec_fieldValue (congrArg Prod.fst hv)) (ih (congrArg Prod.fst hrest))

/-! ### Root checks and symbols -/

theorem exec_runRootChecks_cons_eq_ok_iff {r : Record} {hook : HookId} {hooks : List HookId} :
    ((runRootChecks h c r (hook :: hooks)).exec s).1 = .ok () ↔
      ((h.rootCheck hook c r).run s).1 = .ok () ∧
        ((runRootChecks h c r hooks).exec ((h.rootCheck hook c r).run s).2).1 = .ok () := by
  rw [runRootChecks, exec_bind_of_ok (exec_lift _ s)]
  cases ((h.rootCheck hook c r).run s).1 with
  | ok => simp
  | error text => simp

theorem checks_of_exec_runRootChecks {r : Record} {hooks : List HookId}
    (he : ((runRootChecks h c r hooks).exec s).1 = .ok ()) :
    ∀ hook ∈ hooks, ∃ s, ((h.rootCheck hook c r).run s).1 = .ok () := by
  induction hooks generalizing s with
  | nil => simp
  | cons hook hooks ih =>
    obtain ⟨hhook, hrest⟩ := exec_runRootChecks_cons_eq_ok_iff.mp he
    exact List.forall_mem_cons.mpr ⟨⟨s, hhook⟩, ih hrest⟩

/-- A scope gets its table exactly if its symbols are distinct. -/
theorem exec_collectSymbols_eq_ok_iff {r r' : Record} :
    ((collectSymbols c r).exec s).1 = .ok r' ↔
      ((r.schema c).flags.scope = true → ((r.declarations c).map (·.1)).Nodup) ∧
        r' = r.withSymbols c := by
  constructor
  · intro he
    rcases nodup_or_first_duplicate (·.1) (r.declarations c) with
      hn | ⟨before, ⟨name, id⟩, after, hd, hb, hm⟩
    · rw [exec_collectSymbols (fun _ => hn)] at he
      exact ⟨fun _ => hn, (Except.ok.inj he).symm⟩
    · by_cases hs : (r.schema c).flags.scope = true
      · rw [exec_collectSymbols_error hs hd hb hm] at he
        cases he
      · rw [exec_collectSymbols (fun h => absurd h hs)] at he
        exact ⟨fun h => absurd h hs, (Except.ok.inj he).symm⟩
  · rintro ⟨hn, rfl⟩
    rw [exec_collectSymbols hn]

/-! ### Instances -/

/-- The instance that construction makes in a state, by what its stages gave. -/
inductive Construction (h : Hooks) (c : Catalog) (t : TypeId) (arguments : List (String × Value))
    (s : State) : Record → Prop where
  | intro {values : List Value} {s₁ : State} (hi : (c.schema t).flags.abstract = false)
      (ha : ArgumentsFit (c.schema t) (arguments.map (·.1)))
      (hv : (fieldValues h c t arguments (c.schema t).fields).exec s = (.ok values, s₁))
      (hr : ((runRootChecks h c (draft c t s₁ values) (c.schema t).rootChecks).exec
        (s₁.afterNumbering c t)).1 = .ok ())
      (hs : (c.schema t).flags.scope = true →
        (((draft c t s₁ values).declarations c).map (·.1)).Nodup) :
      Construction h c t arguments s ((draft c t s₁ values).withSymbols c)

theorem isNode_draft {values : List Value} : (draft c t s values).isNode = (c.schema t).isNode := by
  rw [draft, Record.isNode]
  cases (c.schema t).isNode <;> rfl

namespace Record

theorem type_withSymbols (c : Catalog) (r : Record) : (r.withSymbols c).type = r.type := by
  unfold withSymbols
  split <;> rfl

theorem isNode_withSymbols (c : Catalog) (r : Record) :
    (r.withSymbols c).isNode = r.isNode := by
  unfold withSymbols
  split
  · cases hn : r.node <;> simp [isNode, hn]
  · rfl

end Record

/-- Once the fields have their values, the draft is checked and given its symbols. -/
theorem exec_construct_of_exec_fieldValues {values : List Value} {s₁ : State}
    (hi : (c.schema t).flags.abstract = false)
    (ha : ArgumentsFit (c.schema t) (arguments.map (·.1)))
    (hv : (fieldValues h c t arguments (c.schema t).fields).exec s = (.ok values, s₁)) :
    (construct h c t arguments).exec s =
      (runRootChecks h c (draft c t s₁ values) (c.schema t).rootChecks >>= fun _ =>
        collectSymbols c (draft c t s₁ values)).exec (s₁.afterNumbering c t) := by
  rw [construct_of_fit h hi ha, exec_bind_of_ok hv, exec_bind_of_ok (exec_number c t s₁ values)]
  rfl

theorem exec_construct_eq_ok_iff {r : Record} :
    ((construct h c t arguments).exec s).1 = .ok r ↔ Construction h c t arguments s r := by
  constructor
  · intro he
    cases hi : (c.schema t).flags.abstract with
    | true =>
      rw [exec_construct_abstract hi] at he
      cases he
    | false =>
      rcases argumentsFit_or_fail t (c.schema t) (arguments.map (·.1)) with ha | ⟨e, ha⟩
      · have hstages := he
        rw [construct_of_fit h hi ha] at hstages
        obtain ⟨values, s₁, hv, -⟩ := exec_bind_eq_ok_iff.mp hstages
        rw [exec_construct_of_exec_fieldValues hi ha hv] at he
        obtain ⟨_, s₂, hr, he⟩ := exec_bind_eq_ok_iff.mp he
        obtain ⟨hs, rfl⟩ := exec_collectSymbols_eq_ok_iff.mp he
        exact .intro hi ha hv (congrArg Prod.fst hr) hs
      · rw [exec_construct_arguments hi ha] at he
        cases he
  · rintro ⟨hi, ha, hv, hr, hs⟩
    rw [exec_construct_of_exec_fieldValues hi ha hv, exec_bind_eq_ok_iff]
    exact ⟨(), _, Prod.ext hr rfl, exec_collectSymbols_eq_ok_iff.mpr ⟨hs, rfl⟩⟩

/-- The fields of an instance are filled from arguments that fit its type. -/
theorem fills_of_construct {r : Record} (he : ((construct h c t arguments).exec s).1 = .ok r) :
    ArgumentsFit (c.schema t) (arguments.map (·.1)) ∧
      List.Forall₂ (Fills h c t arguments) (c.schema t).fields r.values := by
  obtain @⟨values, s₁, -, ha, hv, -, -⟩ := exec_construct_eq_ok_iff.mp he
  refine ⟨ha, ?_⟩
  rw [Record.values_withSymbols]
  exact fills_of_exec_fieldValues (congrArg Prod.fst hv)

end TypedTree
