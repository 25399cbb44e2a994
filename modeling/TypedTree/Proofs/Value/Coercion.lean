import Mathlib.Data.List.SplitBy
import TypedTree.Proofs.Validation.Correctness
import TypedTree.Proofs.Value.Equality
import TypedTree.Value.Coercion

/-!
# What coercion leaves alone and what it makes

Coercion acts on mismatches only. What a type accepts stays as it is, and what changes gets the
shape that a scalar type requires, so that coercing it again does nothing. A symbol name may still
fail its pattern.
-/

namespace TypedTree

variable {c : Catalog} {t : Ty} {s : Scalar} {v v' : Value}

/-! ### Shapes -/

namespace Scalar

/-- A value has the shape that a scalar type requires; any string has that of a symbol name. -/
inductive HasShape : Scalar → Value → Prop where
  | none : HasShape .none .none
  | bool (b) : HasShape .bool (.bool b)
  | int (n) : HasShape .int (.int n)
  | float (x) : HasShape .float (.float x)
  | str (text) : HasShape .str (.str text)
  | bytes (b) : HasShape .bytes (.bytes b)
  | symbol (pattern name) : HasShape (.symbol pattern) (.str name)
  | symbolRef (name) : HasShape .symbolRef (.str name)

/-- The scalar type is a symbol name, and the value is a name that its pattern does not accept. -/
def FailsPattern (s : Scalar) (v : Value) : Prop :=
  ∃ pattern name, s = .symbol pattern ∧ v = .str name ∧ pattern.accepts name = false

theorem Holds.hasShape (h : s.Holds v) : s.HasShape v := by
  cases h <;> constructor

theorem HasShape.isAtom (h : s.HasShape v) : v.isAtom = true := by
  cases h <;> rfl

theorem HasShape.coerce_eq (h : s.HasShape v) : s.coerce v = .ok v := by
  cases h <;> rfl

theorem HasShape.validate_eq_ok_iff (h : s.HasShape v) :
    s.validate v = .ok () ↔ ¬ s.FailsPattern v := by
  cases h with
  | symbol pattern name =>
    cases hp : pattern.accepts name <;> simp [validate, FailsPattern, hp]
  | _ => simp [validate, FailsPattern]

end Scalar

/-- The description is a scalar type, possibly under optionals. -/
inductive Ty.AsksFor : Ty → Scalar → Prop where
  | scalar (wanted) : AsksFor (.scalar wanted) wanted
  | optional {inner wanted} : AsksFor inner wanted → AsksFor (.optional inner) wanted

/-! ### Values that stay -/

theorem Ty.Matches.coerce_eq (h : t.Matches c v) : t.coerce v = .ok v := by
  induction h with
  | scalar h => exact h.hasShape.coerce_eq
  | absent => rfl
  | @present inner v _ ih =>
    rw [coerce]
    by_cases hv : v.isNone = true
    · rw [if_pos hv]
    · rw [if_neg hv, ih]
  | _ => rfl

/-- What a type accepts is coerced to itself. -/
theorem Ty.coerce_of_validate (h : t.validate c v = .ok ()) : t.coerce v = .ok v :=
  ((validate_eq_ok_iff t v).mp h).coerce_eq

theorem Ty.AsksFor.coerce_eq (ht : t.AsksFor s) (h : s.HasShape v) : t.coerce v = .ok v := by
  induction ht with
  | scalar s => exact h.coerce_eq
  | optional _ ih =>
    rw [coerce, ih h, ite_self]

/-- Behind optionals nothing else is accepted of a shape than the scalar type accepts: absence has
the shape of one scalar type, which accepts it. -/
theorem Ty.AsksFor.validate_eq_ok_iff (ht : t.AsksFor s) (h : s.HasShape v) :
    t.validate c v = .ok () ↔ ¬ s.FailsPattern v := by
  induction ht with
  | scalar s => exact h.validate_eq_ok_iff
  | @optional _ s _ ih =>
    rw [validate]
    by_cases hv : v.isNone = true
    · have hpass : ¬ s.FailsPattern v := by
        rintro ⟨pattern, name, -, rfl, -⟩
        cases hv
      rw [if_pos hv]
      exact iff_of_true rfl hpass
    · rw [if_neg hv]
      exact ih h

/-! ### Values that change -/

theorem eq_or_hasShape_of_coerceToInt (h : coerceToInt v = .ok v') :
    v' = v ∨ Scalar.int.HasShape v' := by
  unfold coerceToInt at h
  split at h
  · cases h
    exact .inr (.int _)
  · cases h
    split
    · exact .inr (.int _)
    · exact .inl rfl
  · split at h
    · cases h
      exact .inr (.int _)
    · cases h
  · exact .inl (Except.ok.inj h).symm

theorem eq_or_hasShape_of_coerceToFloat (h : coerceToFloat v = .ok v') :
    v' = v ∨ Scalar.float.HasShape v' := by
  unfold coerceToFloat at h
  split at h
  · cases h
    exact .inr (.float _)
  · split at h
    · cases h
      exact .inr (.float _)
    · cases h
  · exact .inl (Except.ok.inj h).symm

theorem Scalar.eq_or_hasShape_of_coerce (h : s.coerce v = .ok v') : v' = v ∨ s.HasShape v' := by
  cases s with
  | int => exact eq_or_hasShape_of_coerceToInt h
  | float => exact eq_or_hasShape_of_coerceToFloat h
  | none => exact .inl (Except.ok.inj h).symm
  | bool | str | bytes | symbol | symbolRef =>
    obtain rfl := Except.ok.inj h
    cases v <;> first | exact .inl rfl | exact .inr (by constructor)

/-- Coercion makes nothing but values of the shape that a scalar type requires. -/
theorem Ty.eq_or_hasShape_of_coerce (h : t.coerce v = .ok v') :
    v' = v ∨ ∃ s, t.AsksFor s ∧ s.HasShape v' := by
  fun_induction coerce t v with
  | case1 inner v hn => exact .inl (Except.ok.inj h).symm
  | case2 inner v hn ih =>
    rcases ih h with he | ⟨s, ht, hs⟩
    · exact .inl he
    · exact .inr ⟨s, .optional ht, hs⟩
  | case3 s v =>
    rcases s.eq_or_hasShape_of_coerce h with he | hs
    · exact .inl he
    · exact .inr ⟨s, .scalar s, hs⟩
  | case4 => exact .inl (Except.ok.inj h).symm

/-- Coercion makes nothing but atoms. -/
theorem Ty.eq_or_isAtom_of_coerce (h : t.coerce v = .ok v') : v' = v ∨ v'.isAtom = true :=
  (eq_or_hasShape_of_coerce h).imp_right fun ⟨_, _, hs⟩ => hs.isAtom

/-! ### Laws -/

/-- What coercing a value towards a type promises. -/
structure Ty.CoercionLaws (c : Catalog) (t : Ty) (v : Value) : Prop where
  /-- An accepted value is left alone. -/
  accepted : t.validate c v = .ok () → t.coerce v = .ok v
  /-- Coercing again changes nothing. -/
  settled : ∀ v', t.coerce v = .ok v' → t.coerce v' = .ok v'
  /-- A value that changes is accepted afterwards, unless it is a name that fails its pattern. -/
  changed : ∀ v', t.coerce v = .ok v' → v' ≠ v → ∃ s, t.AsksFor s ∧ s.HasShape v' ∧
    (t.validate c v' = .ok () ↔ ¬ s.FailsPattern v')

/-- Coercion acts on mismatches only, and validation agrees with it about what it makes. -/
theorem Ty.coercionLaws (c : Catalog) (t : Ty) (v : Value) : t.CoercionLaws c v where
  accepted := coerce_of_validate
  settled v' h := by
    rcases eq_or_hasShape_of_coerce h with rfl | ⟨s, ht, hs⟩
    · exact h
    · exact ht.coerce_eq hs
  changed v' h hne := by
    obtain ⟨s, ht, hs⟩ := (eq_or_hasShape_of_coerce h).resolve_left hne
    exact ⟨s, ht, hs, ht.validate_eq_ok_iff hs⟩

/-- A number becomes a name, but one that the pattern does not accept. -/
theorem Ty.coercionLaws_number :
    let t := Ty.optional (.scalar (.symbol (.ofSource "a|b")))
    t.coerce (.int 7) = .ok (.str "7") ∧ t.coerce (.str "7") = .ok (.str "7") ∧
      t.validate {} (.str "7") ≠ .ok () := by
  intro t
  have hlaws := coercionLaws {} t (.int 7)
  have hcoerce : t.coerce (.int 7) = .ok (.str "7") := rfl
  obtain ⟨s, ht, -, hiff⟩ := hlaws.changed _ hcoerce (by simp)
  change (Ty.optional (.scalar (.symbol (.ofSource "a|b")))).AsksFor s at ht
  cases ht with
  | optional ht =>
    cases ht
    have hrejected : (SymbolPattern.ofSource "a|b").accepts "7" = false := by cbv
    have hfails : Scalar.FailsPattern (.symbol (.ofSource "a|b")) (.str "7") :=
      ⟨_, _, rfl, rfl, hrejected⟩
    exact ⟨hcoerce, hlaws.settled _ hcoerce, fun hok => hiff.mp hok hfails⟩

end TypedTree
