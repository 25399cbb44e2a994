import Mathlib.Data.List.Induction

/-! # The first element that fails -/

namespace TypedTree

variable {α β : Type}

/-- Either all elements pass, or there is a first one that does not. -/
theorem all_or_first (ok : α → Prop) (xs : List α) :
    (∀ x ∈ xs, ok x) ∨
      ∃ before x after, xs = before ++ x :: after ∧ (∀ y ∈ before, ok y) ∧ ¬ ok x := by
  induction xs with
  | nil => exact .inl (by simp)
  | cons x xs ih =>
    by_cases hx : ok x
    · rcases ih with hall | ⟨before, y, after, rfl, hb, hy⟩
      · exact .inl (List.forall_mem_cons.mpr ⟨hx, hall⟩)
      · exact .inr ⟨x :: before, y, after, rfl, List.forall_mem_cons.mpr ⟨hx, hb⟩, hy⟩
    · exact .inr ⟨[], x, xs, rfl, by simp, hx⟩

/-- The first element of a kind is the head, or is found behind a head that may come before it. -/
theorem exists_first_cons_iff {ok bad : α → Prop} {x : α} {xs : List α} :
    (∃ before y behind, x :: xs = before ++ y :: behind ∧ (∀ b ∈ before, ok b) ∧ bad y) ↔
      bad x ∨ ok x ∧
        ∃ before y behind, xs = before ++ y :: behind ∧ (∀ b ∈ before, ok b) ∧ bad y := by
  constructor
  · rintro ⟨before, y, behind, h, hb, hy⟩
    cases before with
    | nil =>
      obtain ⟨rfl, rfl⟩ := List.cons.inj h
      exact .inl hy
    | cons b before =>
      obtain ⟨rfl, rfl⟩ := List.cons.inj h
      obtain ⟨hb, hbefore⟩ := List.forall_mem_cons.mp hb
      exact .inr ⟨hb, before, y, behind, rfl, hbefore, hy⟩
  · rintro (hx | ⟨hx, before, y, behind, rfl, hb, hy⟩)
    · exact ⟨[], x, xs, rfl, by simp, hx⟩
    · exact ⟨x :: before, y, behind, rfl, List.forall_mem_cons.mpr ⟨hx, hb⟩, hy⟩

/-- Either all names are different, or there is a first one that came before. -/
theorem nodup_or_first_duplicate (name : α → β) (xs : List α) :
    (xs.map name).Nodup ∨ ∃ before x after, xs = before ++ x :: after ∧
      (before.map name).Nodup ∧ name x ∈ before.map name := by
  induction xs using List.reverseRecOn with
  | nil => exact .inl List.nodup_nil
  | append_singleton xs x ih =>
    rcases ih with hn | ⟨before, y, after, rfl, hb, hm⟩
    · by_cases hm : name x ∈ xs.map name
      · exact .inr ⟨xs, x, [], rfl, hn, hm⟩
      · refine .inl ?_
        rw [List.map_append, List.map_singleton, List.nodup_append]
        refine ⟨hn, by simp, ?_⟩
        rintro a ha b hb rfl
        exact hm (List.mem_singleton.mp hb ▸ ha)
    · exact .inr ⟨before, y, after ++ [x], by simp, hb, hm⟩

end TypedTree
