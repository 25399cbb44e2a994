import Mathlib.Data.List.Forall2

/-! # Relations between lists, element by element -/

namespace TypedTree

variable {κ α β γ : Type} {R S : α → β → Prop}

theorem forall₂_congr_of_mem {xs : List α} {ys : List β} (h : ∀ x ∈ xs, ∀ y, R x y ↔ S x y) :
    List.Forall₂ R xs ys ↔ List.Forall₂ S xs ys := by
  rw [List.forall₂_iff_zip, List.forall₂_iff_zip]
  refine and_congr_right fun _ => ?_
  exact ⟨fun hr x y hm => (h x (List.of_mem_zip hm).1 y).mp (hr hm),
    fun hs x y hm => (h x (List.of_mem_zip hm).1 y).mpr (hs hm)⟩

/-- Lists that are related to each other through a third one, element by element. -/
theorem forall₂_comp {P : β → γ → Prop} {Q : α → γ → Prop} (h : ∀ {x y z}, R x y → P y z → Q x z)
    {xs : List α} {ys : List β} {zs : List γ} (hr : List.Forall₂ R xs ys)
    (hp : List.Forall₂ P ys zs) : List.Forall₂ Q xs zs := by
  induction hr generalizing zs with
  | nil =>
    cases hp
    exact .nil
  | cons hx _ ih =>
    cases hp with
    | cons hy hp => exact .cons (h hx hy) (ih hp)

/-- One element gives way to another one that is related to all that it is related to. -/
theorem forall₂_replace {x x' : α} (h : ∀ y, R x y → R x' y) {before after : List α} {ys : List β}
    (hr : List.Forall₂ R (before ++ x :: after) ys) :
    List.Forall₂ R (before ++ x' :: after) ys := by
  induction before generalizing ys with
  | nil =>
    cases hr with
    | cons hx hr => exact .cons (h _ hx) hr
  | cons _ before ih =>
    cases hr with
    | cons hx hr => exact .cons hx (ih hr)

theorem forall₂_append_cons_right_iff {xs : List α} {before after : List β} {y : β} :
    List.Forall₂ R xs (before ++ y :: after) ↔ ∃ front x behind, xs = front ++ x :: behind ∧
      List.Forall₂ R front before ∧ R x y ∧ List.Forall₂ R behind after := by
  constructor
  · intro h
    induction before generalizing xs with
    | nil =>
      obtain ⟨x, behind, hx, hb, rfl⟩ := List.forall₂_cons_right_iff.mp h
      exact ⟨[], x, behind, rfl, .nil, hx, hb⟩
    | cons z before ih =>
      obtain ⟨u, rest, hu, hr, rfl⟩ := List.forall₂_cons_right_iff.mp h
      obtain ⟨front, x, behind, rfl, hf, hx, hb⟩ := ih hr
      exact ⟨u :: front, x, behind, rfl, .cons hu hf, hx, hb⟩
  · rintro ⟨front, x, behind, rfl, hf, hx, hb⟩
    exact List.rel_append hf (.cons hx hb)

/-- Where the elements before and after are related, it is up to the one between them. -/
theorem forall₂_append_cons_iff {front behind : List α} {before after : List β} {x : α} {y : β}
    (hf : List.Forall₂ R front before) (hb : List.Forall₂ R behind after) :
    List.Forall₂ R (front ++ x :: behind) (before ++ y :: after) ↔ R x y := by
  refine ⟨fun h => ?_, fun h => List.rel_append hf (.cons h hb)⟩
  obtain ⟨front', x', behind', he, hf', hx, -⟩ := forall₂_append_cons_right_iff.mp h
  obtain ⟨-, he⟩ := List.append_inj he (hf.length_eq.trans hf'.length_eq.symm)
  rwa [(List.cons.inj he).1]

theorem exists_forall₂_iff {xs : List α} :
    (∃ ys, List.Forall₂ R xs ys) ↔ ∀ x ∈ xs, ∃ y, R x y := by
  induction xs with
  | nil => simp
  | cons x xs ih => simp [List.forall₂_cons_left_iff, ← ih]

/-- Entries with the same keys, in the same order, whose values are related. -/
inductive Entrywise (R : α → β → Prop) : List (κ × α) → List (κ × β) → Prop where
  | nil : Entrywise R [] []
  | cons {key x y xs ys} (h : R x y) (hs : Entrywise R xs ys) :
      Entrywise R ((key, x) :: xs) ((key, y) :: ys)

namespace Entrywise

variable {x : κ × α} {xs : List (κ × α)} {ys : List (κ × β)}

theorem keys_eq (h : Entrywise R xs ys) : ys.map (·.1) = xs.map (·.1) := by
  induction h with
  | nil => rfl
  | cons _ _ ih => rw [List.map_cons, List.map_cons, ih]

theorem nil_left_iff : Entrywise R ([] : List (κ × α)) ys ↔ ys = [] :=
  ⟨fun h => by cases h; rfl, fun h => h ▸ .nil⟩

theorem cons_left_iff : Entrywise R (x :: xs) ys ↔
    ∃ y rest, R x.2 y ∧ Entrywise R xs rest ∧ ys = (x.1, y) :: rest := by
  obtain ⟨key, x⟩ := x
  constructor
  · intro h
    cases h with
    | cons h hs => exact ⟨_, _, h, hs, rfl⟩
  · rintro ⟨y, rest, h, hs, rfl⟩
    exact .cons h hs

theorem congr_of_mem (h : ∀ x ∈ xs, ∀ y, R x.2 y ↔ S x.2 y) :
    Entrywise R xs ys ↔ Entrywise S xs ys := by
  induction xs generalizing ys with
  | nil => rw [nil_left_iff, nil_left_iff]
  | cons x xs ih =>
    rw [List.forall_mem_cons] at h
    simp only [cons_left_iff, h.1, ih h.2]

theorem exists_iff : (∃ ys, Entrywise R xs ys) ↔ ∀ x ∈ xs, ∃ y, R x.2 y := by
  induction xs with
  | nil => simp [nil_left_iff]
  | cons x xs ih =>
    rw [List.forall_mem_cons, ← ih]
    simp [cons_left_iff]

theorem append_left_iff {xs' : List (κ × α)} : Entrywise R (xs ++ xs') ys ↔
    ∃ front behind, Entrywise R xs front ∧ Entrywise R xs' behind ∧ ys = front ++ behind := by
  induction xs generalizing ys with
  | nil => simp [nil_left_iff]
  | cons x xs ih =>
    simp only [List.cons_append, cons_left_iff, ih]
    constructor
    · rintro ⟨y, _, hr, ⟨front, behind, hf, hb, rfl⟩, rfl⟩
      exact ⟨_, behind, ⟨y, front, hr, hf, rfl⟩, hb, rfl⟩
    · rintro ⟨_, behind, ⟨y, front, hr, hf, rfl⟩, hb, rfl⟩
      exact ⟨y, _, hr, ⟨front, behind, hf, hb, rfl⟩, rfl⟩

end Entrywise

end TypedTree
