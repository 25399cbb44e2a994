import TypedTree.Proofs.Record.Mutation
import TypedTree.Script.Run

/-! # Changes that scripts ask for -/

namespace TypedTree.Script

variable {c : Catalog} {change : Record → InPlace Fault Record} {access : Access} {s : PathStep}
  {step : TypedTree.Step} {path : List PathStep} {v v' x : Value} {put : Value → Value}
  {r' : Record} {e : Refusal} {fault : Fault}

/-- The step from a value that is meant by one of a path. -/
def PathStep.step? : PathStep → Option TypedTree.Step
  | .field name => some (.field name)
  | .index position => some (.item position)
  | .malformed => none

theorem putBack_eq_ok_iff {changed : Except (Fault × Value) (Record × Value)} :
    putBack put changed = .ok (r', v') ↔ ∃ y, changed = .ok (r', y) ∧ put y = v' := by
  cases changed <;> simp [putBack, Prod.ext_iff]

theorem putBack_eq_error_iff {changed : Except (Fault × Value) (Record × Value)} :
    putBack put changed = .error (fault, v') ↔ ∃ y, changed = .error (fault, y) ∧ put y = v' := by
  cases changed <;> simp [putBack, Prod.ext_iff]

/-- The other steps change what the first one borrows. -/
theorem modifyAt_cons_of_borrow (hs : s.step? = some step) (hb : v.borrow c step = .ok (x, put)) :
    modifyAt c change (s :: path) v = putBack put (modifyAt c change path x) := by
  cases Value.lends_of_borrow hb with
  | @field r name slot _ hslot hz hx =>
    cases s with
    | field name' =>
      obtain rfl : name' = name := by simpa [PathStep.step?] using hs
      have hw := Record.writableSlot_eq_ok_iff.mpr ⟨hslot, hz⟩
      have hget : r.values.getD slot .none = x := by rw [List.getD_eq_getElem?_getD, hx]; rfl
      simp only [modifyAt, hw, hget]
    | _ => cases hs
  | @tuple items i _ hx =>
    cases s with
    | index i' =>
      obtain rfl : i' = i := by simpa [PathStep.step?] using hs
      simp only [modifyAt, hx]
    | _ => cases hs
  | @list items i _ hx =>
    cases s with
    | index i' =>
      obtain rfl : i' = i := by simpa [PathStep.step?] using hs
      simp only [modifyAt, hx]
    | _ => cases hs
  | entry =>
    cases s <;> cases hs

/-- Where nothing is borrowed, the value is left as it was. -/
theorem exists_modifyAt_cons_eq_error (hc : c.Indexed) (hp : v.Proper c) (hs : s.step? = some step)
    (hb : v.borrow c step = .error e) :
    ∃ fault, modifyAt c change (s :: path) v = .error (fault, v) := by
  cases s with
  | field name =>
    obtain rfl := Option.some.inj hs
    cases v with
    | record r =>
      cases hw : r.writableSlot c name with
      | error e' => exact ⟨.record e', by simp only [modifyAt, hw]⟩
      | ok slot =>
        -- A field of a record that is put together properly has a value.
        obtain ⟨hslot, -⟩ := Record.writableSlot_eq_ok_iff.mp hw
        have hlt := (hc r.type).lt_length hslot
        have hx := List.getElem?_eq_getElem (hp.length_values ▸ hlt)
        simp [Value.borrow, hw, hx] at hb
    | _ => exact ⟨.request, rfl⟩
  | index i =>
    obtain rfl := Option.some.inj hs
    cases v with
    | tuple items | list items =>
      cases hx : items[i]? with
      | none => exact ⟨.request, by simp only [modifyAt, hx]⟩
      | some x => simp [Value.borrow, hx] at hb
    | _ => exact ⟨.request, rfl⟩
  | malformed => cases hs

/-- Scripts change values as changes along paths do, and give the record at the end of the path. -/
theorem modifyAt_eq_ok_iff (hc : c.Indexed) {steps : List TypedTree.Step}
    (hp : v.Everywhere (Value.Proper c)) (hs : path.map PathStep.step? = steps.map some) :
    modifyAt c (fun r => (access.perform c r).relabelError .record) path v = .ok (r', v') ↔
      v.mutate c access steps = .ok v' ∧ v'.at? c steps = some (.record r') := by
  induction path generalizing steps v v' with
  | nil =>
    obtain rfl := List.map_eq_nil_iff.mp hs.symm
    cases v with
    | record r =>
      rw [modifyAt, Value.mutate]
      cases access.perform c r with
      | error e => simp [InPlace.relabelError, InPlace.within]
      | ok r₁ =>
        simp only [InPlace.relabelError, InPlace.within, Except.ok.injEq, Prod.mk.injEq, Value.at?]
        constructor
        · rintro ⟨rfl, rfl⟩
          exact ⟨rfl, rfl⟩
        · rintro ⟨rfl, hr⟩
          exact ⟨Value.record.inj (Option.some.inj hr), rfl⟩
    | _ => simp [modifyAt, Value.mutate]
  | cons s path ih =>
    cases steps with
    | nil => cases hs
    | cons step steps =>
      obtain ⟨hstep, hs⟩ := List.cons.inj hs
      obtain ⟨hself, hparts⟩ := Value.everywhere_iff.mp hp
      rw [Value.mutate]
      cases hb : v.borrow c step with
      | error e =>
        refine iff_of_false (fun h => ?_) fun h => ?_
        · obtain ⟨fault, hfault⟩ := exists_modifyAt_cons_eq_error hc hself hstep hb
          cases hfault.symm.trans h
        · cases h.1
      | ok p =>
        obtain ⟨x, put⟩ := p
        obtain ⟨hx, hput, -⟩ := Value.borrow_eq_ok hc hb
        have hxp := hparts x (Value.mem_components_of_next? hx)
        rw [modifyAt_cons_of_borrow hstep hb, putBack_eq_ok_iff]
        constructor
        · rintro ⟨y, hy, rfl⟩
          obtain ⟨hm, hr⟩ := (ih hxp hs).mp hy
          refine ⟨InPlace.within_eq_ok_iff.mpr ⟨y, hm, rfl⟩, ?_⟩
          rw [Value.at?, (hput y).1]
          exact hr
        · rintro ⟨hm, hr⟩
          obtain ⟨y, hy, rfl⟩ := InPlace.within_eq_ok_iff.mp hm
          rw [Value.at?, (hput y).1] at hr
          exact ⟨y, (ih hxp hs).mpr ⟨hy, hr⟩, rfl⟩

/-- A change that a script asks for and that fails leaves the value as it was. -/
theorem eq_of_modifyAt_error (hc : c.Indexed) (hp : v.Everywhere (Value.Proper c))
    (h : modifyAt c (fun r => (access.perform c r).relabelError .record) path v =
      .error (fault, v')) : v' = v := by
  induction path generalizing v v' with
  | nil =>
    cases v with
    | record r =>
      rw [modifyAt] at h
      split at h
      · cases h
      next fault' r₁ hr =>
      obtain ⟨rfl, rfl⟩ := Prod.mk.inj (Except.error.inj h)
      obtain ⟨e, hr, -⟩ := InPlace.relabelError_eq_error_iff.mp hr
      rw [Access.eq_of_perform_error hr]
    | _ =>
      cases h
      rfl
  | cons s path ih =>
    obtain ⟨hself, hparts⟩ := Value.everywhere_iff.mp hp
    cases hstep : s.step? with
    | none =>
      cases s <;> cases hstep
      cases h
      rfl
    | some step =>
      cases hb : v.borrow c step with
      | error e =>
        obtain ⟨fault', hfault⟩ := exists_modifyAt_cons_eq_error hc hself hstep hb
        exact (Prod.mk.inj (Except.error.inj (h.symm.trans hfault))).2
      | ok p =>
        obtain ⟨x, put⟩ := p
        rw [modifyAt_cons_of_borrow hstep hb] at h
        obtain ⟨y, hy, rfl⟩ := putBack_eq_error_iff.mp h
        have hlends := Value.lends_of_borrow hb
        rw [ih (hparts x (Value.mem_components_of_next? hlends.next?_eq)) hy, hlends.put_self]

end TypedTree.Script
