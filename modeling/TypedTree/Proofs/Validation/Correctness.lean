import TypedTree.Proofs.List.First
import TypedTree.Proofs.Validation.Application

/-! # Correctness of validation -/

namespace TypedTree

/-! ### Scalars and literals -/

theorem Scalar.validate_of_holds {s : Scalar} {v : Value} (h : s.Holds v) :
    s.validate v = .ok () := by
  cases h with
  | symbol h => simp [validate, h]
  | _ => rfl

theorem Scalar.validate_of_not_holds {s : Scalar} {v : Value} (h : ¬ s.Holds v)
    (hs : ∀ pattern name, s = .symbol pattern → v ≠ .str name) :
    s.validate v = .error (.shape (.scalar s) v) := by
  rw [validate.eq_def]
  split <;> first | rfl | exact absurd rfl (hs _ _ rfl) | exact absurd (by constructor) h

theorem Literal.allows_iff (l : Literal) (v : Value) : l.allows v = true ↔ l.toValue = v := by
  cases l <;> cases v <;> simp [allows, toValue]

theorem Literal.any_allows_iff (literals : List Literal) (v : Value) :
    literals.any (·.allows v) = true ↔ ∃ l ∈ literals, l.toValue = v := by
  simp only [List.any_eq_true, allows_iff]

theorem Value.isNone_eq_false {v : Value} (h : v ≠ .none) : v.isNone = false := by
  cases v <;> first | rfl | exact absurd rfl h

/-! ### Parts of containers -/

section Elements

variable {check : Value → Except Mismatch Unit} {vs : List Value}

theorem checkElements_eq_ok (n : Nat) (h : ∀ v ∈ vs, check v = .ok ()) :
    checkElements check n vs = .ok () := by
  induction vs generalizing n with
  | nil => rfl
  | cons v vs ih =>
    obtain ⟨hv, hvs⟩ := List.forall_mem_cons.mp h
    simp only [checkElements, hv, ih (n + 1) hvs]

/-- Elements that pass are counted and passed over. -/
theorem checkElements_append (n : Nat) {before : List Value}
    (hb : ∀ w ∈ before, check w = .ok ()) :
    checkElements check n (before ++ vs) = checkElements check (n + before.length) vs := by
  induction before generalizing n with
  | nil => rfl
  | cons w before ih =>
    obtain ⟨hw, hb⟩ := List.forall_mem_cons.mp hb
    rw [List.cons_append, checkElements, hw, List.length_cons, Nat.add_comm before.length,
      ← Nat.add_assoc]
    exact ih (n + 1) hb

theorem checkElements_eq_error {before : List Value} {v : Value} {reason : Mismatch}
    (hb : ∀ w ∈ before, check w = .ok ()) (hv : check v = .error reason) :
    checkElements check 0 (before ++ v :: vs) = .error (.element before.length reason) := by
  rw [checkElements_append 0 hb, Nat.zero_add]
  simp only [checkElements, hv]

end Elements

section Entries

variable {checkKey checkValue : Value → Except Mismatch Unit} {es : List (Value × Value)}

theorem checkEntries_eq_ok (hk : ∀ e ∈ es, checkKey e.1 = .ok ())
    (hv : ∀ e ∈ es, checkValue e.2 = .ok ()) : checkEntries checkKey checkValue es = .ok () := by
  induction es with
  | nil => rfl
  | cons e es ih =>
    obtain ⟨hk, hks⟩ := List.forall_mem_cons.mp hk
    obtain ⟨hv, hvs⟩ := List.forall_mem_cons.mp hv
    simp only [checkEntries, hk, hv, ih hks hvs]

/-- Entries that pass are passed over. -/
theorem checkEntries_append {before : List (Value × Value)}
    (hb : ∀ e ∈ before, checkKey e.1 = .ok () ∧ checkValue e.2 = .ok ()) :
    checkEntries checkKey checkValue (before ++ es) = checkEntries checkKey checkValue es := by
  induction before with
  | nil => rfl
  | cons e before ih =>
    obtain ⟨⟨hk, hv⟩, hb⟩ := List.forall_mem_cons.mp hb
    simp only [List.cons_append, checkEntries, hk, hv, ih hb]

end Entries

namespace Ty

variable {c : Catalog}

theorem validateEach_eq_ok (n : Nat) {ts : List Ty} {vs : List Value}
    (h : ∀ p ∈ ts.zip vs, p.1.validate c p.2 = .ok ()) : validateEach c n ts vs = .ok () := by
  induction ts generalizing n vs with
  | nil => rfl
  | cons t ts ih =>
    cases vs with
    | nil => rfl
    | cons v vs =>
      obtain ⟨hv, hvs⟩ := List.forall_mem_cons.mp h
      simp only [validateEach, hv, ih (n + 1) hvs]

/-- Places that pass are counted and passed over, and the next one decides. -/
theorem validateEach_eq_error (n : Nat) {ts : List Ty} {vs : List Value} {t : Ty} {v : Value}
    {before after : List (Ty × Value)} {reason : Mismatch}
    (hs : ts.zip vs = before ++ (t, v) :: after)
    (hb : ∀ p ∈ before, p.1.validate c p.2 = .ok ()) (hv : t.validate c v = .error reason) :
    validateEach c n ts vs = .error (.element (n + before.length) reason) := by
  induction before generalizing n ts vs with
  | nil =>
    obtain ⟨ts', vs', rfl, rfl, -⟩ := List.zip_eq_cons_iff.mp hs
    simp only [validateEach, hv, List.length_nil, Nat.add_zero]
  | cons p before ih =>
    obtain ⟨u, w⟩ := p
    obtain ⟨ts', vs', rfl, rfl, hs'⟩ := List.zip_eq_cons_iff.mp hs
    obtain ⟨hw, hb⟩ := List.forall_mem_cons.mp hb
    simp only [validateEach, hw, ih (n + 1) hs'.symm hb, List.length_cons]
    congr 2
    omega

theorem matchesAny_iff (alternatives : List Ty) (v : Value) :
    matchesAny c alternatives v = true ↔ ∃ t ∈ alternatives, t.validate c v = .ok () := by
  induction alternatives with
  | nil => simp [matchesAny]
  | cons t ts ih =>
    have ht : (t.validate c v).isOk = true ↔ t.validate c v = .ok () := by
      cases t.validate c v <;> simp [Except.isOk, Except.toBool]
    simp [matchesAny, ih, ht]

/-! ### Matching values are accepted -/

theorem Matches.validate_eq {t : Ty} {v : Value} (h : t.Matches c v) :
    t.validate c v = .ok () := by
  induction h with
  | any v => rfl
  | scalar h => exact Scalar.validate_of_holds h
  | literal hl =>
    rw [validate, if_pos ((Literal.any_allows_iff _ _).mpr ⟨_, hl, rfl⟩)]
  | absent inner => rfl
  | @present inner v _ ih =>
    rw [validate, ih]
    split <;> rfl
  | union hm _ ih => rw [validate, if_pos ((matchesAny_iff _ _).mpr ⟨_, hm, ih⟩)]
  | tuple hl _ ih =>
    simp only [validate, if_pos hl]
    exact validateEach_eq_ok 0 ih
  | list _ ih => exact checkElements_eq_ok 0 ih
  | set _ ih => exact checkElements_eq_ok 0 ih
  | map _ _ ihk ihv => exact checkEntries_eq_ok ihk ihv
  | enum m => simp [validate]
  | record hl => simp [validate, Record.isInstance, (c.isSubtype_iff _ _).mpr hl]
  | var name v => rfl
  | bounded _ ih => exact ih
  | apply ha => simp [validate, (c.appliesAs_iff _ _ _).mpr ha]

/-! ### A value matches or is rejected -/

theorem matches_or_rejected_scalar (s : Scalar) (v : Value) :
    (Ty.scalar s).Matches c v ∨ ∃ reason, (Ty.scalar s).Rejected c v reason := by
  by_cases h : s.Holds v
  · exact .inl (.scalar h)
  · by_cases hs : ∃ pattern name, s = .symbol pattern ∧ v = .str name
    · obtain ⟨pattern, name, rfl, rfl⟩ := hs
      have ha : pattern.accepts name = false := by
        rw [Bool.eq_false_iff]
        exact fun ha => h (.symbol ha)
      exact .inr ⟨_, .pattern ha⟩
    · exact .inr ⟨_, .scalar h fun pattern name hp hn => hs ⟨pattern, name, hp, hn⟩⟩

theorem matches_or_rejected_tuple {elements : List Ty} (items : List Value)
    (ih : ∀ t ∈ elements, ∀ v, t.Matches c v ∨ ∃ reason, t.Rejected c v reason) :
    (Ty.tuple elements).Matches c (.tuple items) ∨
      ∃ reason, (Ty.tuple elements).Rejected c (.tuple items) reason := by
  by_cases hl : items.length = elements.length
  · rcases all_or_first (fun p => p.1.Matches c p.2) (elements.zip items) with
      hall | ⟨before, ⟨t, v⟩, after, hs, hb, hv⟩
    · exact .inl (.tuple hl hall)
    · have ht : t ∈ elements := (List.of_mem_zip (hs ▸ List.mem_append_cons_self)).1
      obtain ⟨reason, hr⟩ := (ih t ht v).resolve_left hv
      exact .inr ⟨_, .tuple hl hs hb hr⟩
  · exact .inr ⟨_, .length hl⟩

theorem all_match_or_first_rejected {element : Ty} (items : List Value)
    (ih : ∀ v, element.Matches c v ∨ ∃ reason, element.Rejected c v reason) :
    (∀ item ∈ items, element.Matches c item) ∨
      ∃ before v after reason, items = before ++ v :: after ∧
        (∀ item ∈ before, element.Matches c item) ∧ element.Rejected c v reason := by
  rcases all_or_first (element.Matches c) items with hall | ⟨before, v, after, hs, hb, hv⟩
  · exact .inl hall
  · obtain ⟨reason, hr⟩ := (ih v).resolve_left hv
    exact .inr ⟨before, v, after, reason, hs, hb, hr⟩

theorem matches_or_rejected_map {key value : Ty} (entries : List (Value × Value))
    (ihk : ∀ v, key.Matches c v ∨ ∃ reason, key.Rejected c v reason)
    (ihv : ∀ v, value.Matches c v ∨ ∃ reason, value.Rejected c v reason) :
    (Ty.map key value).Matches c (.map entries) ∨
      ∃ reason, (Ty.map key value).Rejected c (.map entries) reason := by
  rcases all_or_first (fun e => key.Matches c e.1 ∧ value.Matches c e.2) entries with
    hall | ⟨before, ⟨k, v⟩, after, rfl, hb, hf⟩
  · exact .inl (.map (fun e he => (hall e he).1) fun e he => (hall e he).2)
  · by_cases hk : key.Matches c k
    · obtain ⟨reason, hr⟩ := (ihv v).resolve_left fun hv => hf ⟨hk, hv⟩
      exact .inr ⟨_, .entry hb hk hr⟩
    · obtain ⟨reason, hr⟩ := (ihk k).resolve_left hk
      exact .inr ⟨_, .key hb hr⟩

theorem matches_or_rejected (t : Ty) (v : Value) :
    t.Matches c v ∨ ∃ reason, t.Rejected c v reason := by
  induction t using Ty.induction generalizing v with
  | any => exact .inl (.any v)
  | scalar s => exact matches_or_rejected_scalar s v
  | literal literals =>
    by_cases h : ∃ l ∈ literals, l.toValue = v
    · obtain ⟨l, hl, rfl⟩ := h
      exact .inl (.literal hl)
    · exact .inr ⟨_, .literal fun l hl he => h ⟨l, hl, he⟩⟩
  | optional inner ih =>
    by_cases hv : v = .none
    · subst hv
      exact .inl (.absent inner)
    · exact (ih v).imp .present fun ⟨reason, hr⟩ => ⟨reason, .optional hv hr⟩
  | union alternatives _ =>
    by_cases h : ∃ t ∈ alternatives, t.Matches c v
    · obtain ⟨t, hm, ht⟩ := h
      exact .inl (.union hm ht)
    · exact .inr ⟨_, .union fun t hm ht => h ⟨t, hm, ht⟩⟩
  | tuple elements ih =>
    cases v with
    | tuple items => exact matches_or_rejected_tuple items ih
    | _ => exact .inr ⟨_, .notTuple (by simp)⟩
  | list element ih =>
    cases v with
    | list items =>
      rcases all_match_or_first_rejected items ih with h | ⟨before, v, after, reason, rfl, hb, hr⟩
      · exact .inl (.list h)
      · exact .inr ⟨_, .list hb hr⟩
    | _ => exact .inr ⟨_, .notList (by simp)⟩
  | set element ih =>
    cases v with
    | set items =>
      rcases all_match_or_first_rejected items ih with h | ⟨before, v, after, reason, rfl, hb, hr⟩
      · exact .inl (.set h)
      · exact .inr ⟨_, .set hb hr⟩
    | _ => exact .inr ⟨_, .notSet (by simp)⟩
  | map key value ihk ihv =>
    cases v with
    | map entries => exact matches_or_rejected_map entries ihk ihv
    | _ => exact .inr ⟨_, .notMap (by simp)⟩
  | enum e =>
    by_cases h : ∃ m, v = .member m ∧ m.enum = e
    · obtain ⟨m, rfl, rfl⟩ := h
      exact .inl (.enum m)
    · exact .inr ⟨_, .enum fun m hv he => h ⟨m, hv, he⟩⟩
  | record t =>
    by_cases h : ∃ r, v = .record r ∧ t ∈ c.lineage r.type
    · obtain ⟨r, rfl, hl⟩ := h
      exact .inl (.record hl)
    · exact .inr ⟨_, .record fun r hv hl => h ⟨r, hv, hl⟩⟩
  | var name => exact .inl (.var name v)
  | bounded name bound ih =>
    exact (ih v).imp .bounded fun ⟨reason, hr⟩ => ⟨reason, .bounded hr⟩
  | apply generic arguments _ =>
    by_cases h : ∃ r, v = .record r ∧ Applies c r.type generic arguments
    · obtain ⟨r, rfl, ha⟩ := h
      exact .inl (.apply ha)
    · exact .inr ⟨_, .apply fun r hv ha => h ⟨r, hv, ha⟩⟩

/-! ### Rejected values fail for their reason -/

/-- A rejected alternative is known through `matches_or_rejected` only, so the induction is on the
description and not on the rejection. -/
theorem Rejected.validate_eq {t : Ty} {v : Value} {reason : Mismatch} (h : t.Rejected c v reason) :
    t.validate c v = .error reason := by
  induction t using Ty.induction generalizing v reason with
  | any => cases h
  | var name => cases h
  | scalar s =>
    cases h with
    | scalar h hs => exact Scalar.validate_of_not_holds h hs
    | pattern h => simp [validate, Scalar.validate, h]
  | literal literals =>
    cases h with
    | literal h =>
      refine if_neg fun ha => ?_
      obtain ⟨l, hl, he⟩ := (Literal.any_allows_iff _ _).mp ha
      exact h l hl he
  | optional inner ih =>
    cases h with
    | optional hv hr => rw [validate, Value.isNone_eq_false hv, ih hr]; rfl
  | union alternatives ih =>
    cases h with
    | union h =>
      refine if_neg fun ha => ?_
      obtain ⟨t, hm, ht⟩ := (matchesAny_iff _ _).mp ha
      obtain ⟨inner, hr⟩ := (matches_or_rejected t v).resolve_left (h t hm)
      exact absurd (ht.symm.trans (ih t hm hr)) (by simp)
  | tuple elements ih =>
    cases h with
    | notTuple h => cases v <;> first | rfl | exact absurd rfl (h _)
    | length h => exact if_neg h
    | tuple hl hs hb hr =>
      have ht := (List.of_mem_zip (hs ▸ List.mem_append_cons_self)).1
      have he := validateEach_eq_error 0 hs (fun p hp => (hb p hp).validate_eq) (ih _ ht hr)
      rw [Nat.zero_add] at he
      exact (if_pos hl).trans he
  | list element ih =>
    cases h with
    | notList h => cases v <;> first | rfl | exact absurd rfl (h _)
    | list hb hr => exact checkElements_eq_error (fun w hw => (hb w hw).validate_eq) (ih hr)
  | set element ih =>
    cases h with
    | notSet h => cases v <;> first | rfl | exact absurd rfl (h _)
    | set hb hr => exact checkElements_eq_error (fun w hw => (hb w hw).validate_eq) (ih hr)
  | map key value ihk ihv =>
    cases h with
    | notMap h => cases v <;> first | rfl | exact absurd rfl (h _)
    | key hb hr =>
      rw [validate, checkEntries_append fun e he =>
        (hb e he).imp Matches.validate_eq Matches.validate_eq]
      simp only [checkEntries, ihk hr]
    | entry hb hk hr =>
      rw [validate, checkEntries_append fun e he =>
        (hb e he).imp Matches.validate_eq Matches.validate_eq]
      simp only [checkEntries, hk.validate_eq, ihv hr]
  | enum e =>
    cases h with
    | enum h => cases v <;> first | rfl | exact if_neg (h _ rfl)
  | record t =>
    cases h with
    | record h => cases v <;> first | rfl | exact if_neg (mt (c.isSubtype_iff _ t).mp (h _ rfl))
  | bounded name bound ih =>
    cases h with
    | bounded hr => exact ih hr
  | apply generic arguments _ =>
    cases h with
    | apply h => cases v <;> first | rfl | exact if_neg (mt (c.appliesAs_iff _ _ _).mp (h _ rfl))

/-! ### Validation decides matching -/

theorem validate_eq_ok_iff (t : Ty) (v : Value) : t.validate c v = .ok () ↔ t.Matches c v := by
  refine ⟨fun h => ?_, Matches.validate_eq⟩
  rcases matches_or_rejected t v with hm | ⟨reason, hr⟩
  · exact hm
  · exact absurd (h.symm.trans hr.validate_eq) (by simp)

theorem validate_eq_error_iff (t : Ty) (v : Value) (reason : Mismatch) :
    t.validate c v = .error reason ↔ t.Rejected c v reason := by
  refine ⟨fun h => ?_, Rejected.validate_eq⟩
  rcases matches_or_rejected t v with hm | ⟨other, hr⟩
  · exact absurd (h.symm.trans hm.validate_eq) (by simp)
  · obtain rfl : other = reason := Except.error.inj (hr.validate_eq.symm.trans h)
    exact hr

/-- Validation accepts exactly the values that match, and rejects all others for the reason at the
first place that fails. -/
theorem validate_spec (c : Catalog) (t : Ty) (v : Value) :
    (t.validate c v = .ok () ↔ t.Matches c v) ∧
      ∀ reason, t.validate c v = .error reason ↔ t.Rejected c v reason :=
  ⟨validate_eq_ok_iff t v, validate_eq_error_iff t v⟩

end Ty

end TypedTree
