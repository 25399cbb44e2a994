import TypedTree.Proofs.Construction.Correctness

/-! # The values of an instance match the types of its fields -/

namespace TypedTree

open Construct

variable {h : Hooks} {c : Catalog} {t : TypeId} {arguments : List (String × Value)} {s : State}

/-! ### Fields -/

theorem validate_of_exec_validateValue {f : Field} {v : Value} {s' : State}
    (he : (validateValue c t f v).exec s = (.ok (), s')) : f.type.validate c v = .ok () := by
  rw [validateValue] at he
  cases hv : f.type.validate c v with
  | ok => rfl
  | error reason =>
    rw [hv] at he
    cases he

/-- Whatever supplied functions do, a value is validated behind its conversion. -/
theorem validate_of_exec_fieldValue {f : Field} {v : Value}
    (he : ((fieldValue h c t arguments f).exec s).1 = .ok v) : f.type.validate c v = .ok () := by
  rw [fieldValue] at he
  obtain ⟨raw, s₁, -, he⟩ := exec_bind_eq_ok_iff.mp he
  obtain ⟨converted, s₂, -, he⟩ := exec_bind_eq_ok_iff.mp he
  obtain ⟨_, s₃, hv, he⟩ := exec_bind_eq_ok_iff.mp he
  obtain ⟨_, s₄, -, he⟩ := exec_bind_eq_ok_iff.mp he
  obtain rfl : converted = v := Except.ok.inj he
  exact validate_of_exec_validateValue hv

theorem validate_of_exec_fieldValues {fs : List Field} {vs : List Value}
    (he : ((fieldValues h c t arguments fs).exec s).1 = .ok vs) :
    List.Forall₂ (fun f v => f.type.validate c v = .ok ()) fs vs := by
  induction fs generalizing vs s with
  | nil =>
    obtain rfl : [] = vs := Except.ok.inj he
    exact .nil
  | cons f fs ih =>
    rw [fieldValues] at he
    obtain ⟨v, s₁, hv, he⟩ := exec_bind_eq_ok_iff.mp he
    obtain ⟨rest, s₂, hrest, he⟩ := exec_bind_eq_ok_iff.mp he
    obtain rfl : v :: rest = vs := Except.ok.inj he
    exact .cons (validate_of_exec_fieldValue (congrArg Prod.fst hv)) (ih (congrArg Prod.fst hrest))

/-! ### Instances -/

theorem values_of_exec_collectSymbols {r r' : Record}
    (he : ((collectSymbols c r).exec s).1 = .ok r') : r'.type = r.type ∧ r'.values = r.values := by
  rw [collectSymbols] at he
  split at he
  · split at he
    · obtain rfl := Except.ok.inj he
      exact ⟨rfl, rfl⟩
    · cases he
  · obtain rfl := Except.ok.inj he
    exact ⟨rfl, rfl⟩

/-- Construction gives an instance of the type whose values match the types of its fields one by
one, whatever the supplied functions do. -/
theorem valid_of_construct {r : Record} (he : ((construct h c t arguments).exec s).1 = .ok r) :
    r.type = t ∧
      List.Forall₂ (fun f v => f.type.validate c v = .ok ()) (c.schema t).fields r.values := by
  cases hi : (c.schema t).flags.abstract with
  | true =>
    rw [exec_construct_abstract hi] at he
    cases he
  | false =>
    rcases argumentsFit_or_fail t (c.schema t) (arguments.map (·.1)) with hf | ⟨e, hf⟩
    · rw [construct_of_fit h hi hf] at he
      obtain ⟨values, s₁, hvalues, he⟩ := exec_bind_eq_ok_iff.mp he
      obtain ⟨node, s₂, -, he⟩ := exec_bind_eq_ok_iff.mp he
      obtain ⟨_, s₃, -, he⟩ := exec_bind_eq_ok_iff.mp he
      obtain ⟨htype, hv⟩ := values_of_exec_collectSymbols he
      refine ⟨htype, ?_⟩
      rw [hv]
      exact validate_of_exec_fieldValues (congrArg Prod.fst hvalues)
    · rw [exec_construct_arguments hi hf] at he
      cases he

end TypedTree
