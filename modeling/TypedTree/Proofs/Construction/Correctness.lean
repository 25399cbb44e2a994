import TypedTree.Proofs.Construction.Execution
import TypedTree.Proofs.Construction.Semantics
import TypedTree.Proofs.List.First

/-! # Correctness of construction -/

namespace TypedTree

open Construct

/-! ### Arguments -/

theorem Schema.takes_iff (s : Schema) (name : String) :
    (s.field? name).any (·.flags.init) = true ↔ s.Takes name := by
  unfold Takes
  cases s.field? name <;> simp

section Arguments

variable {t : TypeId} {s : Schema} {seen before names : List String}

theorem argumentsFit_cons {name : String} :
    ArgumentsFit s (name :: names) ↔ s.Takes name ∧ name ∉ names ∧ ArgumentsFit s names := by
  constructor
  · rintro ⟨hn, ht⟩
    obtain ⟨hm, hn⟩ := List.nodup_cons.mp hn
    exact ⟨ht name (by simp), hm, hn, fun n h => ht n (List.mem_cons_of_mem name h)⟩
  · rintro ⟨ht, hm, hn, hts⟩
    exact ⟨List.nodup_cons.mpr ⟨hm, hn⟩, List.forall_mem_cons.mpr ⟨ht, hts⟩⟩

/-- Names that fit are remembered and passed over. -/
theorem checkArguments_append (hb : ArgumentsFit s before) (hd : ∀ name ∈ before, name ∉ seen) :
    checkArguments t s seen (before ++ names) =
      checkArguments t s (before.reverse ++ seen) names := by
  induction before generalizing seen with
  | nil => rfl
  | cons name before ih =>
    obtain ⟨ht, hm, hb⟩ := argumentsFit_cons.mp hb
    obtain ⟨hn, hd⟩ := List.forall_mem_cons.mp hd
    rw [List.cons_append, checkArguments, if_pos ((s.takes_iff name).mpr ht), if_neg (by simpa),
      ih hb, List.reverse_cons, List.append_assoc, List.singleton_append]
    intro n h hs
    rcases List.mem_cons.mp hs with rfl | hs
    · exact hm h
    · exact hd n h hs

theorem checkArguments_eq_ok (h : ArgumentsFit s names) :
    checkArguments t s [] names = .ok () := by
  rw [← List.append_nil names, checkArguments_append h (by simp), checkArguments]

theorem checkArguments_eq_error {e : InstanceError} (h : ArgumentsFail t s names e) :
    checkArguments t s [] names = .error e := by
  cases h with
  | @unexpected before name after hb h =>
    rw [checkArguments_append hb (by simp), checkArguments,
      if_neg (mt (s.takes_iff name).mp h)]
  | @duplicate before name after hb h hm =>
    rw [checkArguments_append hb (by simp), checkArguments, if_pos ((s.takes_iff name).mpr h),
      if_pos (by simpa using hm)]

theorem argumentsFit_or_fail (t : TypeId) (s : Schema) (names : List String) :
    ArgumentsFit s names ∨ ∃ e, ArgumentsFail t s names e := by
  induction names using List.reverseRecOn with
  | nil => exact .inl ⟨List.nodup_nil, by simp⟩
  | append_singleton names name ih =>
    rcases ih with hf | ⟨_, @⟨before, n, after, hb, h⟩ | @⟨before, n, after, hb, h, hm⟩⟩
    · by_cases ht : s.Takes name
      · by_cases hm : name ∈ names
        · exact .inr ⟨_, .duplicate hf ht hm⟩
        · refine .inl ⟨?_, ?_⟩
          · rw [List.nodup_append]
            exact ⟨hf.nodup, by simp, fun a ha b hb => by rintro rfl; simp_all⟩
          · simpa [or_imp, forall_and] using ⟨hf.taken, ht⟩
      · exact .inr ⟨_, .unexpected hf ht⟩
    · rw [List.append_assoc, List.cons_append]
      exact .inr ⟨_, .unexpected hb h⟩
    · rw [List.append_assoc, List.cons_append]
      exact .inr ⟨_, .duplicate hb h hm⟩

end Arguments

theorem lookup_eq_some_of_mem {α : Type} {xs : List (String × α)} {name : String} {a : α}
    (hn : (xs.map (·.1)).Nodup) (hm : (name, a) ∈ xs) : xs.lookup name = some a := by
  induction xs with
  | nil => simp at hm
  | cons x xs ih =>
    obtain ⟨n, b⟩ := x
    obtain ⟨hx, hn⟩ := List.nodup_cons.mp hn
    rcases List.mem_cons.mp hm with he | hm
    · cases he
      exact List.lookup_cons_self
    · have hne : name ≠ n := fun he => hx (List.mem_map.mpr ⟨(name, a), hm, he⟩)
      rw [List.lookup_cons, beq_false_of_ne hne]
      exact ih hn hm

theorem lookup_eq_none_of_not_mem {α : Type} {xs : List (String × α)} {name : String}
    (hn : name ∉ xs.map (·.1)) : xs.lookup name = none := by
  rw [List.lookup_eq_none_iff]
  intro x hx
  rw [bne_iff_ne]
  rintro rfl
  exact hn (List.mem_map_of_mem hx)

/-! ### Fields -/

section Fields

variable {p : PureHooks} {c : Catalog} {t : TypeId} {arguments : List (String × Value)} {f : Field}

theorem exec_rawValue (hn : (arguments.map (·.1)).Nodup) {raw : Value}
    (h : Supplied p c arguments f raw) (s : State) :
    (rawValue p.toHooks c t arguments f).exec s = (.ok raw, s) := by
  unfold rawValue
  cases h with
  | argument h => rw [lookup_eq_some_of_mem hn h]; rfl
  | default h hd => rw [lookup_eq_none_of_not_mem h, hd]; rfl
  | factory h hd => rw [lookup_eq_none_of_not_mem h, hd]; rfl

theorem exec_rawValue_missing (hn : f.name ∉ arguments.map (·.1)) (hd : f.default = .required)
    (s : State) :
    (rawValue p.toHooks c t arguments f).exec s = (.error (.missingField t f.name), s) := by
  unfold rawValue
  rw [lookup_eq_none_of_not_mem hn, hd]
  rfl

theorem convertValue_exec (raw : Value) (s : State) :
    (convertValue p.toHooks c t f raw).exec s =
      ((convertedValue p c f raw).mapError (.conversionFailed t f.name raw), s) := by
  unfold convertValue convertedValue
  cases f.converter with
  | some hook =>
    simp only
    rw [exec_bind_of_ok (exec_lift _ s)]
    simp only [PureHooks.toHooks]
    cases p.converter hook c raw <;> rfl
  | none =>
    simp only
    split
    · cases f.type.coerce raw <;> rfl
    · rfl

theorem exec_convertValue {raw v : Value} (h : convertedValue p c f raw = .ok v) (s : State) :
    (convertValue p.toHooks c t f raw).exec s = (.ok v, s) := by
  rw [convertValue_exec, h]
  rfl

theorem exec_convertValue_error {raw : Value} {text : String}
    (h : convertedValue p c f raw = .error text) (s : State) :
    (convertValue p.toHooks c t f raw).exec s =
      (.error (.conversionFailed t f.name raw text), s) := by
  rw [convertValue_exec, h]
  rfl

theorem exec_validateValue {v : Value} (h : f.type.validate c v = .ok ()) (s : State) :
    (validateValue c t f v).exec s = (.ok (), s) := by
  rw [validateValue, h]
  rfl

theorem exec_validateValue_error {v : Value} {reason : Mismatch}
    (h : f.type.validate c v = .error reason) (s : State) :
    (validateValue c t f v).exec s = (.error (.typeMismatch t f.name v reason), s) := by
  rw [validateValue, h]
  rfl

theorem exec_runChecks_cons (v : Value) (hook : HookId) (hooks : List HookId) (s : State) :
    (runChecks p.toHooks c t f v (hook :: hooks)).exec s =
      match p.check hook c f v with
      | .ok () => (runChecks p.toHooks c t f v hooks).exec s
      | .error text => (.error (.checkFailed t f.name v text), s) := by
  rw [runChecks, exec_bind_of_ok (exec_lift _ s)]
  simp only [PureHooks.toHooks]
  cases p.check hook c f v <;> rfl

/-- Checks that pass are passed over. -/
theorem exec_runChecks_append {v : Value} {before : List HookId}
    (hb : ∀ h ∈ before, p.check h c f v = .ok ()) (hooks : List HookId) (s : State) :
    (runChecks p.toHooks c t f v (before ++ hooks)).exec s =
      (runChecks p.toHooks c t f v hooks).exec s := by
  induction before with
  | nil => rfl
  | cons h before ih =>
    obtain ⟨hh, hb⟩ := List.forall_mem_cons.mp hb
    rw [List.cons_append, exec_runChecks_cons, hh]
    exact ih hb

theorem exec_runChecks {v : Value} {hooks : List HookId}
    (h : ∀ hook ∈ hooks, p.check hook c f v = .ok ()) (s : State) :
    (runChecks p.toHooks c t f v hooks).exec s = (.ok (), s) := by
  rw [← List.append_nil hooks, exec_runChecks_append h]
  rfl

theorem exec_fieldValue (hn : (arguments.map (·.1)).Nodup) {v : Value}
    (h : FieldTakes p c arguments f v) (s : State) :
    (fieldValue p.toHooks c t arguments f).exec s = (.ok v, s) := by
  obtain ⟨hr, hc, hv, hs⟩ := h
  rw [fieldValue, exec_bind_of_ok (exec_rawValue hn hr s), exec_bind_of_ok (exec_convertValue hc s),
    exec_bind_of_ok (exec_validateValue hv s), exec_bind_of_ok (exec_runChecks hs s), exec_pure]

theorem exec_fieldValue_error (hn : (arguments.map (·.1)).Nodup) {e : InstanceError}
    (h : FieldFails p c t arguments f e) (s : State) :
    (fieldValue p.toHooks c t arguments f).exec s = (.error e, s) := by
  rw [fieldValue]
  cases h with
  | missing hm hd => exact exec_bind_of_error (exec_rawValue_missing hm hd s)
  | conversion hr hc =>
    rw [exec_bind_of_ok (exec_rawValue hn hr s)]
    exact exec_bind_of_error (exec_convertValue_error hc s)
  | type hr hc hv =>
    rw [exec_bind_of_ok (exec_rawValue hn hr s), exec_bind_of_ok (exec_convertValue hc s)]
    exact exec_bind_of_error (exec_validateValue_error hv s)
  | check hr hc hv hs hb hf =>
    rw [exec_bind_of_ok (exec_rawValue hn hr s), exec_bind_of_ok (exec_convertValue hc s),
      exec_bind_of_ok (exec_validateValue hv s), hs]
    exact exec_bind_of_error (by rw [exec_runChecks_append hb, exec_runChecks_cons, hf])

/-! ### Field tables -/

theorem supplied_or_missing :
    (∃ raw, Supplied p c arguments f raw) ∨
      f.name ∉ arguments.map (·.1) ∧ f.default = .required := by
  by_cases hm : f.name ∈ arguments.map (·.1)
  · obtain ⟨⟨name, v⟩, hx, rfl⟩ := List.mem_map.mp hm
    exact .inl ⟨v, .argument hx⟩
  · cases hd : f.default with
    | required => exact .inr ⟨hm, rfl⟩
    | value v => exact .inl ⟨v, .default hm hd⟩
    | factory hook => exact .inl ⟨_, .factory hm hd⟩

theorem fieldTakes_or_fails (t : TypeId) :
    (∃ v, FieldTakes p c arguments f v) ∨ ∃ e, FieldFails p c t arguments f e := by
  rcases supplied_or_missing (p := p) (c := c) (f := f) with ⟨raw, hr⟩ | ⟨hm, hd⟩
  · cases hc : convertedValue p c f raw with
    | error text => exact .inr ⟨_, .conversion hr hc⟩
    | ok v =>
      cases hv : f.type.validate c v with
      | error reason => exact .inr ⟨_, .type hr hc hv⟩
      | ok _ =>
        rcases all_or_first (fun hook => p.check hook c f v = .ok ()) f.checks with
          hall | ⟨before, hook, after, hs, hb, hf⟩
        · exact .inl ⟨v, .intro hr hc hv hall⟩
        · cases hk : p.check hook c f v with
          | ok _ => exact absurd hk hf
          | error text => exact .inr ⟨_, .check hr hc hv hs hb hk⟩
  · exact .inr ⟨_, .missing hm hd⟩

theorem exec_fieldValues (hn : (arguments.map (·.1)).Nodup) {fs : List Field} {values : List Value}
    (h : List.Forall₂ (FieldTakes p c arguments) fs values) (s : State) :
    (fieldValues p.toHooks c t arguments fs).exec s = (.ok values, s) := by
  induction h with
  | nil => rfl
  | cons hf _ ih =>
    rw [fieldValues, exec_bind_of_ok (exec_fieldValue hn hf s), exec_bind_of_ok ih, exec_pure]

theorem exec_fieldValues_error (hn : (arguments.map (·.1)).Nodup) {before after : List Field}
    {values : List Value} {e : InstanceError}
    (hb : List.Forall₂ (FieldTakes p c arguments) before values)
    (h : FieldFails p c t arguments f e) (s : State) :
    (fieldValues p.toHooks c t arguments (before ++ f :: after)).exec s = (.error e, s) := by
  induction hb with
  | nil => exact exec_bind_of_error (exec_fieldValue_error hn h s)
  | cons hf _ ih =>
    rw [List.cons_append, fieldValues, exec_bind_of_ok (exec_fieldValue hn hf s)]
    exact exec_bind_of_error ih

theorem fieldsTake_or_fail (p : PureHooks) (c : Catalog) (t : TypeId)
    (arguments : List (String × Value)) (fs : List Field) :
    (∃ values, List.Forall₂ (FieldTakes p c arguments) fs values) ∨
      ∃ before f after values e, fs = before ++ f :: after ∧
        List.Forall₂ (FieldTakes p c arguments) before values ∧ FieldFails p c t arguments f e := by
  induction fs with
  | nil => exact .inl ⟨[], .nil⟩
  | cons f fs ih =>
    rcases fieldTakes_or_fails (p := p) (c := c) (f := f) t with ⟨v, hf⟩ | ⟨e, he⟩
    · rcases ih with ⟨values, hfs⟩ | ⟨before, g, after, values, e, rfl, hb, he⟩
      · exact .inl ⟨v :: values, .cons hf hfs⟩
      · exact .inr ⟨f :: before, g, after, v :: values, e, rfl, .cons hf hb, he⟩
    · exact .inr ⟨[], f, fs, [], e, rfl, .nil, he⟩

end Fields

/-! ### Root checks and symbols -/

section Instances

variable {p : PureHooks} {c : Catalog} {t : TypeId} {r : Record}

theorem exec_runRootChecks_cons (hook : HookId) (hooks : List HookId) (s : State) :
    (runRootChecks p.toHooks c r (hook :: hooks)).exec s =
      match p.rootCheck hook c r with
      | .ok () => (runRootChecks p.toHooks c r hooks).exec s
      | .error text => (.error (.rootCheckFailed r.type text), s) := by
  rw [runRootChecks, exec_bind_of_ok (exec_lift _ s)]
  simp only [PureHooks.toHooks]
  cases p.rootCheck hook c r <;> rfl

/-- Root checks that pass are passed over. -/
theorem exec_runRootChecks_append {before : List HookId}
    (hb : ∀ h ∈ before, p.rootCheck h c r = .ok ()) (hooks : List HookId) (s : State) :
    (runRootChecks p.toHooks c r (before ++ hooks)).exec s =
      (runRootChecks p.toHooks c r hooks).exec s := by
  induction before with
  | nil => rfl
  | cons h before ih =>
    obtain ⟨hh, hb⟩ := List.forall_mem_cons.mp hb
    rw [List.cons_append, exec_runRootChecks_cons, hh]
    exact ih hb

theorem exec_runRootChecks {hooks : List HookId}
    (h : ∀ hook ∈ hooks, p.rootCheck hook c r = .ok ()) (s : State) :
    (runRootChecks p.toHooks c r hooks).exec s = (.ok (), s) := by
  rw [← List.append_nil hooks, exec_runRootChecks_append h]
  rfl

theorem exec_collectSymbols
    (h : (r.schema c).flags.scope = true → ((r.declarations c).map (·.1)).Nodup) (s : State) :
    (collectSymbols c r).exec s = (.ok (r.withSymbols c), s) := by
  unfold collectSymbols Record.withSymbols
  split
  · next hs => rw [SymbolTable.collect_eq_ok (h hs)]; rfl
  · rfl

theorem exec_collectSymbols_error {before after : List (String × NodeId)} {name : String}
    {id : NodeId} (hs : (r.schema c).flags.scope = true)
    (hd : r.declarations c = before ++ (name, id) :: after) (hb : (before.map (·.1)).Nodup)
    (hm : name ∈ before.map (·.1)) (s : State) :
    (collectSymbols c r).exec s = (.error (.duplicateSymbol name r.type), s) := by
  rw [collectSymbols, if_pos hs, SymbolTable.collect_eq_error hd hb hm]
  rfl

/-! ### Construction -/

/-- The state once a node of the type has its number. -/
def State.afterNumbering (c : Catalog) (t : TypeId) (s : State) : State :=
  if (c.schema t).isNode then (s.mint (c.schema t).session).2 else s

variable {arguments : List (String × Value)}

theorem exec_construct_abstract {hooks : Hooks} (h : (c.schema t).flags.abstract = true)
    (s : State) : (construct hooks c t arguments).exec s = (.error (.notInstantiable t), s) := by
  simp [construct, h]

theorem exec_construct_arguments {hooks : Hooks} {e : InstanceError}
    (hi : (c.schema t).flags.abstract = false)
    (h : ArgumentsFail t (c.schema t) (arguments.map (·.1)) e) (s : State) :
    (construct hooks c t arguments).exec s = (.error e, s) := by
  simp only [construct, hi, checkArguments_eq_error h]
  rfl

/-- Arguments that fit leave the fields, the number, the root checks and the symbols. -/
theorem construct_of_fit (h : Hooks) (hi : (c.schema t).flags.abstract = false)
    (ha : ArgumentsFit (c.schema t) (arguments.map (·.1))) :
    construct h c t arguments =
      fieldValues h c t arguments (c.schema t).fields >>= fun values =>
        (if (c.schema t).isNode then some <$> mintNode (c.schema t).session else pure none) >>=
          fun node => runRootChecks h c ⟨t, values, node, []⟩ (c.schema t).rootChecks >>=
            fun _ => collectSymbols c ⟨t, values, node, []⟩ := by
  simp only [construct, hi, checkArguments_eq_ok ha, Bool.false_eq_true, if_false]
  refine congrArg _ (funext fun values => ?_)
  split <;> rfl

theorem exec_number (c : Catalog) (t : TypeId) (s : State) (values : List Value) :
    (if (c.schema t).isNode then some <$> mintNode (c.schema t).session else pure none :
      Construct (Option NodeInfo)).exec s =
        (.ok (draft c t s values).node, s.afterNumbering c t) := by
  unfold draft State.afterNumbering
  split <;> rfl

theorem exec_construct_field {before after : List Field} {f : Field} {values : List Value}
    {e : InstanceError} (hi : (c.schema t).flags.abstract = false)
    (ha : ArgumentsFit (c.schema t) (arguments.map (·.1)))
    (hs : (c.schema t).fields = before ++ f :: after)
    (hb : List.Forall₂ (FieldTakes p c arguments) before values)
    (h : FieldFails p c t arguments f e) (s : State) :
    (construct p.toHooks c t arguments).exec s = (.error e, s) := by
  rw [construct_of_fit p.toHooks hi ha, hs]
  exact exec_bind_of_error (exec_fieldValues_error ha.nodup hb h s)

/-- Once all fields have their values, the draft is checked and given its symbols. -/
theorem exec_construct_of_assembles {values : List Value} (ha : Assembles p c t arguments values)
    (s : State) :
    (construct p.toHooks c t arguments).exec s =
      (runRootChecks p.toHooks c (draft c t s values) (c.schema t).rootChecks >>= fun _ =>
        collectSymbols c (draft c t s values)).exec (s.afterNumbering c t) := by
  rw [construct_of_fit p.toHooks ha.instantiable ha.fit,
    exec_bind_of_ok (exec_fieldValues ha.fit.nodup ha.fields s),
    exec_bind_of_ok (exec_number c t s values)]
  rfl

theorem exec_construct_rootCheck {values : List Value} (ha : Assembles p c t arguments values)
    {s : State} {before after : List HookId} {hook : HookId} {text : String}
    (hs : (c.schema t).rootChecks = before ++ hook :: after)
    (hb : ∀ h ∈ before, p.rootCheck h c (draft c t s values) = .ok ())
    (h : p.rootCheck hook c (draft c t s values) = .error text) :
    (construct p.toHooks c t arguments).exec s =
      (.error (.rootCheckFailed t text), s.afterNumbering c t) := by
  rw [exec_construct_of_assembles ha, hs]
  refine exec_bind_of_error ?_
  rw [exec_runRootChecks_append hb, exec_runRootChecks_cons, h]
  rfl

theorem exec_construct_symbols {values : List Value} (ha : Assembles p c t arguments values)
    {s : State} {before after : List (String × NodeId)} {name : String} {id : NodeId}
    (hr : ∀ hook ∈ (c.schema t).rootChecks, p.rootCheck hook c (draft c t s values) = .ok ())
    (hs : (c.schema t).flags.scope = true)
    (hd : (draft c t s values).declarations c = before ++ (name, id) :: after)
    (hb : (before.map (·.1)).Nodup) (hm : name ∈ before.map (·.1)) :
    (construct p.toHooks c t arguments).exec s =
      (.error (.duplicateSymbol name t), s.afterNumbering c t) := by
  rw [exec_construct_of_assembles ha, exec_bind_of_ok (exec_runRootChecks hr _)]
  exact exec_collectSymbols_error (r := draft c t s values) hs hd hb hm _

theorem Constructs.exec {s : State} (h : Constructs p c t arguments s r) :
    (construct p.toHooks c t arguments).exec s = (.ok r, s.afterNumbering c t) := by
  obtain @⟨values, ha, hr, hs⟩ := h
  rw [exec_construct_of_assembles ha, exec_bind_of_ok (exec_runRootChecks hr _)]
  exact exec_collectSymbols (r := draft c t s values) hs _

theorem ConstructFails.outcome {s : State} {e : InstanceError}
    (h : ConstructFails p c t arguments s e) :
    ((construct p.toHooks c t arguments).exec s).1 = .error e := by
  cases h with
  | abstract h => rw [exec_construct_abstract h]
  | arguments hi h => rw [exec_construct_arguments hi h]
  | field hi ha hs hb h => rw [exec_construct_field hi ha hs hb h]
  | rootCheck ha hs hb h => rw [exec_construct_rootCheck ha hs hb h]
  | symbols ha hr hs hd hb hm => rw [exec_construct_symbols ha hr hs hd hb hm]

/-- Every stage passes or has a first failure, so construction succeeds or fails for an error. -/
theorem constructs_or_fails (p : PureHooks) (c : Catalog) (t : TypeId)
    (arguments : List (String × Value)) (s : State) :
    (∃ r, Constructs p c t arguments s r) ∨ ∃ e, ConstructFails p c t arguments s e := by
  cases hi : (c.schema t).flags.abstract with
  | true => exact .inr ⟨_, .abstract hi⟩
  | false =>
  rcases argumentsFit_or_fail t (c.schema t) (arguments.map (·.1)) with hf | ⟨e, he⟩
  swap
  · exact .inr ⟨e, .arguments hi he⟩
  rcases fieldsTake_or_fail p c t arguments (c.schema t).fields with
    ⟨values, hv⟩ | ⟨before, f, after, values, e, hs, hb, he⟩
  swap
  · exact .inr ⟨e, .field hi hf hs hb he⟩
  have ha : Assembles p c t arguments values := ⟨hi, hf, hv⟩
  rcases all_or_first (fun hook => p.rootCheck hook c (draft c t s values) = .ok ())
    (c.schema t).rootChecks with hr | ⟨before, hook, after, hs, hb, hk⟩
  swap
  · cases he : p.rootCheck hook c (draft c t s values) with
    | ok _ => exact absurd he hk
    | error text => exact .inr ⟨_, .rootCheck ha hs hb he⟩
  rcases nodup_or_first_duplicate (·.1) ((draft c t s values).declarations c) with
    hn | ⟨before, ⟨name, id⟩, after, hd, hb, hm⟩
  · exact .inl ⟨_, .intro ha hr fun _ => hn⟩
  · cases hs : (c.schema t).flags.scope with
    | true => exact .inr ⟨_, .symbols ha hr hs hd hb hm⟩
    | false => exact .inl ⟨_, .intro ha hr fun h => absurd (hs.symm.trans h) (by simp)⟩

theorem construct_eq_ok_iff (s : State) (r : Record) :
    ((construct p.toHooks c t arguments).exec s).1 = .ok r ↔ Constructs p c t arguments s r := by
  refine ⟨fun h => ?_, fun h => by rw [h.exec]⟩
  rcases constructs_or_fails p c t arguments s with ⟨r', hr⟩ | ⟨e, he⟩
  · rw [hr.exec] at h
    obtain rfl : r' = r := Except.ok.inj h
    exact hr
  · exact absurd (he.outcome.symm.trans h) (by simp)

theorem construct_eq_error_iff (s : State) (e : InstanceError) :
    ((construct p.toHooks c t arguments).exec s).1 = .error e ↔
      ConstructFails p c t arguments s e := by
  refine ⟨fun h => ?_, ConstructFails.outcome⟩
  rcases constructs_or_fails p c t arguments s with ⟨r, hr⟩ | ⟨e', he⟩
  · rw [hr.exec] at h
    exact absurd h (by simp)
  · obtain rfl : e' = e := Except.error.inj (he.outcome.symm.trans h)
    exact he

theorem Record.values_withSymbols (c : Catalog) (r : Record) :
    (r.withSymbols c).values = r.values := by
  unfold withSymbols
  split <;> rfl

theorem Constructs.values {s : State} (h : Constructs p c t arguments s r) :
    List.Forall₂ (fun f v => FieldTakes p c arguments f v ∧ f.type.validate c v = .ok ())
      (c.schema t).fields r.values := by
  obtain @⟨values, ha, hr, hs⟩ := h
  rw [Record.values_withSymbols]
  exact ha.fields.imp fun f v hf => ⟨hf, by cases hf; assumption⟩

/-! ### The order of arguments -/

theorem lookup_eq_of_perm {α : Type} {xs ys : List (String × α)} (h : xs.Perm ys)
    (hn : (ys.map (·.1)).Nodup) (name : String) : xs.lookup name = ys.lookup name := by
  have hx : (xs.map (·.1)).Nodup := (h.map _).nodup_iff.mpr hn
  by_cases hm : name ∈ ys.map (·.1)
  · obtain ⟨⟨_, a⟩, ha, rfl⟩ := List.mem_map.mp hm
    rw [lookup_eq_some_of_mem hn ha, lookup_eq_some_of_mem hx (h.mem_iff.mpr ha)]
  · have hm' : name ∉ xs.map (·.1) := mt (h.map _).mem_iff.mp hm
    rw [lookup_eq_none_of_not_mem hm, lookup_eq_none_of_not_mem hm']

theorem fieldValues_congr (h : Hooks) {others : List (String × Value)}
    (hl : ∀ name, others.lookup name = arguments.lookup name) (fs : List Field) :
    fieldValues h c t others fs = fieldValues h c t arguments fs := by
  induction fs with
  | nil => rfl
  | cons f fs ih =>
    rw [fieldValues, fieldValues, ih, fieldValue, fieldValue, rawValue, rawValue, hl]

theorem ArgumentsFit.perm {s : Schema} {names others : List String} (h : ArgumentsFit s names)
    (hp : others.Perm names) : ArgumentsFit s others :=
  ⟨hp.nodup_iff.mpr h.nodup, fun name hm => h.taken name (hp.mem_iff.mp hm)⟩

theorem construct_perm (h : Hooks) {others : List (String × Value)} (hp : others.Perm arguments)
    (ha : ArgumentsFit (c.schema t) (arguments.map (·.1))) :
    construct h c t others = construct h c t arguments := by
  cases hi : (c.schema t).flags.abstract with
  | true => simp [construct, hi]
  | false =>
    rw [construct_of_fit h hi ha, construct_of_fit h hi (ha.perm (hp.map _)),
      fieldValues_congr h (lookup_eq_of_perm hp ha.nodup)]

end Instances

/-! ### The whole of construction -/

/-- Construction makes exactly the instance that the declaration means, with one converted and
valid value for each field, fails exactly for the error of the first stage that fails, and does not
depend on the order of arguments that fit. -/
theorem construct_spec (p : PureHooks) (c : Catalog) (t : TypeId)
    (arguments : List (String × Value)) (s : State) :
    (∀ r, ((construct p.toHooks c t arguments).exec s).1 = .ok r ↔
      Constructs p c t arguments s r) ∧
    (∀ r, ((construct p.toHooks c t arguments).exec s).1 = .ok r →
      List.Forall₂ (fun f v => FieldTakes p c arguments f v ∧ f.type.validate c v = .ok ())
        (c.schema t).fields r.values) ∧
    (∀ e, ((construct p.toHooks c t arguments).exec s).1 = .error e ↔
      ConstructFails p c t arguments s e) ∧
    ∀ others : List (String × Value), others.Perm arguments →
      ArgumentsFit (c.schema t) (arguments.map (·.1)) →
      construct p.toHooks c t others = construct p.toHooks c t arguments :=
  ⟨construct_eq_ok_iff s, fun r hr => ((construct_eq_ok_iff s r).mp hr).values,
    construct_eq_error_iff s, fun _ hp ha => construct_perm p.toHooks hp ha⟩

/-- Two required fields, with their arguments in either order. -/
theorem constructs_point :
    let p : PureHooks :=
      ⟨fun _ _ => .none, fun _ _ v => .ok v, fun _ _ _ _ => .ok (), fun _ _ _ => .ok ()⟩
    let field (name : String) : Field :=
      ⟨name, .scalar .int, .required, none, false, [], {}, .child⟩
    let fields := [field "x", field "y"]
    let c : Catalog := { schemas := [{ (default : Schema) with fields, index := .ofFields fields }] }
    Constructs p c 0 [("x", .int 1), ("y", .int 2)] {} ⟨0, [.int 1, .int 2], none, []⟩ ∧
      construct p.toHooks c 0 [("y", .int 2), ("x", .int 1)] =
        construct p.toHooks c 0 [("x", .int 1), ("y", .int 2)] := by
  intro p field fields c
  obtain ⟨hok, -, -, hperm⟩ := construct_spec p c 0 [("x", .int 1), ("y", .int 2)] {}
  have hconstructs := (hok ⟨0, [.int 1, .int 2], none, []⟩).mp rfl
  refine ⟨hconstructs, hperm _ (.swap _ _ _) ?_⟩
  obtain ⟨ha, -, -⟩ := hconstructs
  exact ha.fit

end TypedTree
