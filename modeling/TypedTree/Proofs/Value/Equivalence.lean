import Mathlib.Data.List.Perm.Subperm
import TypedTree.Proofs.Value.Equality
import TypedTree.Proofs.World.Representation

/-! # Equality is an equivalence that hashing respects -/

namespace TypedTree

/-! ### Lists that cover each other -/

section

variable {α : Type} {R : α → α → Prop} {P : α → Prop} {x : α} {xs ys zs : List α}

/-- A relation is symmetric and transitive among those that satisfy a condition. -/
structure SymmTransOn (R : α → α → Prop) (P : α → Prop) : Prop where
  symm : ∀ {x y}, P x → P y → R x y → R y x
  trans : ∀ {x y z}, P x → P y → P z → R x y → R y z → R x z

/-- Each element of the first list is related to one of the second list. -/
def Covers (R : α → α → Prop) (xs ys : List α) : Prop :=
  ∀ x ∈ xs, ∃ y ∈ ys, R x y

namespace SymmTransOn

/-- What is related to one of two unrelated elements is not related to the other one. -/
theorem covers_of_notRelated {y : α} {before after : List α} (hR : SymmTransOn R P)
    (hx : ∀ x' ∈ x :: xs, P x') (hy : P y) (hd : ∀ x' ∈ xs, ¬ R x x') (hxy : R x y)
    (h : Covers R xs (before ++ y :: after)) : Covers R xs (before ++ after) := by
  obtain ⟨hx, hxs⟩ := List.forall_mem_cons.mp hx
  intro x' hm
  obtain ⟨y', hm', hr⟩ := h x' hm
  rcases List.mem_append.mp hm' with hm' | hm'
  · exact ⟨y', List.mem_append_left after hm', hr⟩
  · rcases List.mem_cons.mp hm' with rfl | hm'
    · exact absurd (hR.trans hx hy (hxs x' hm) hxy (hR.symm (hxs x' hm) hy hr)) (hd x' hm)
    · exact ⟨y', List.mem_append_right before hm', hr⟩

/-- Unrelated elements that are covered have partners of their own. -/
theorem exists_partners (hR : SymmTransOn R P) (hx : ∀ x ∈ xs, P x) (hy : ∀ y ∈ ys, P y)
    (hd : xs.Pairwise fun x x' => ¬ R x x') (h : Covers R xs ys) :
    ∃ partners : List α, partners.Subperm ys ∧ partners.length = xs.length ∧
      ∀ y ∈ partners, ∃ x ∈ xs, R x y := by
  induction xs generalizing ys with
  | nil => exact ⟨[], List.nil_subperm, rfl, by simp⟩
  | cons x xs ih =>
    obtain ⟨⟨y, hm, hxy⟩, hrest⟩ := List.forall_mem_cons.mp h
    obtain ⟨before, after, rfl⟩ := List.append_of_mem hm
    obtain ⟨hfirst, hd⟩ := List.pairwise_cons.mp hd
    -- No other element is related to `y`, so the others are covered without it.
    have hothers := hR.covers_of_notRelated hx (hy y hm) hfirst hxy hrest
    have hsub : ∀ z ∈ before ++ after, P z := fun z hz =>
      hy z ((List.sublist_cons_self y after).append_left before |>.subset hz)
    obtain ⟨partners, hp, hl, hpartners⟩ := ih (List.forall_mem_cons.mp hx).2 hsub hd hothers
    refine ⟨y :: partners, ?_, by simp [hl], ?_⟩
    · exact ((List.subperm_cons y).mpr hp).trans List.perm_middle.symm.subperm
    · refine List.forall_mem_cons.mpr ⟨⟨x, List.mem_cons_self, hxy⟩, fun y' hm' => ?_⟩
      obtain ⟨x', hx', hr⟩ := hpartners y' hm'
      exact ⟨x', List.mem_cons_of_mem x hx', hr⟩

theorem length_le (hR : SymmTransOn R P) (hx : ∀ x ∈ xs, P x) (hy : ∀ y ∈ ys, P y)
    (hd : xs.Pairwise fun x x' => ¬ R x x') (h : Covers R xs ys) : xs.length ≤ ys.length := by
  obtain ⟨partners, hp, hl, -⟩ := hR.exists_partners hx hy hd h
  rw [← hl]
  exact hp.length_le

/-- As many elements as there are unrelated ones that they cover are covered by them. -/
theorem covers_symm (hR : SymmTransOn R P) (hx : ∀ x ∈ xs, P x) (hy : ∀ y ∈ ys, P y)
    (hd : xs.Pairwise fun x x' => ¬ R x x') (hl : xs.length = ys.length) (h : Covers R xs ys) :
    Covers R ys xs := by
  obtain ⟨partners, hp, hlen, hpartners⟩ := hR.exists_partners hx hy hd h
  have hall := hp.perm_of_length_le (Nat.le_of_eq (hlen.trans hl).symm)
  intro y hm
  obtain ⟨x, hm', hr⟩ := hpartners y (hall.mem_iff.mpr hm)
  exact ⟨x, hm', hR.symm (hx x hm') (hy y hm) hr⟩

theorem covers_trans (hR : SymmTransOn R P) (hx : ∀ x ∈ xs, P x) (hy : ∀ y ∈ ys, P y)
    (hz : ∀ z ∈ zs, P z) (h : Covers R xs ys) (h' : Covers R ys zs) : Covers R xs zs := by
  intro x hm
  obtain ⟨y, hmy, hxy⟩ := h x hm
  obtain ⟨z, hmz, hyz⟩ := h' y hmy
  exact ⟨z, hmz, hR.trans (hx x hm) (hy y hmy) (hz z hmz) hxy hyz⟩

theorem length_eq_and_covers_iff (hR : SymmTransOn R P) (hx : ∀ x ∈ xs, P x)
    (hy : ∀ y ∈ ys, P y) (hd : xs.Pairwise fun x x' => ¬ R x x')
    (hd' : ys.Pairwise fun y y' => ¬ R y y') :
    xs.length = ys.length ∧ Covers R xs ys ↔ Covers R xs ys ∧ Covers R ys xs := by
  constructor
  · exact fun h => ⟨h.2, hR.covers_symm hx hy hd h.1 h.2⟩
  · exact fun h => ⟨Nat.le_antisymm (hR.length_le hx hy hd h.1) (hR.length_le hy hx hd' h.2), h.1⟩

theorem forall₂_symm (hR : SymmTransOn R P) (hx : ∀ x ∈ xs, P x) (hy : ∀ y ∈ ys, P y)
    (h : List.Forall₂ R xs ys) : List.Forall₂ R ys xs := by
  induction h with
  | nil => exact .nil
  | cons hr _ ih =>
    rw [List.forall_mem_cons] at hx hy
    exact .cons (hR.symm hx.1 hy.1 hr) (ih hx.2 hy.2)

theorem forall₂_trans (hR : SymmTransOn R P) (hx : ∀ x ∈ xs, P x) (hy : ∀ y ∈ ys, P y)
    (hz : ∀ z ∈ zs, P z) (h : List.Forall₂ R xs ys) (h' : List.Forall₂ R ys zs) :
    List.Forall₂ R xs zs := by
  induction h generalizing zs with
  | nil => exact h'
  | cons hr _ ih =>
    cases h' with
    | cons hr' h' =>
      rw [List.forall_mem_cons] at hx hy hz
      exact .cons (hR.trans hx.1 hy.1 hz.1 hr hr') (ih hx.2 hy.2 hz.2 h')

end SymmTransOn

end

namespace Value

variable {c c' : Catalog} {a b d : Value}

/-! ### Values that are put together properly -/

/-- No two of the values are equal. -/
def Distinct (c : Catalog) (xs : List Value) : Prop :=
  xs.Pairwise fun x y => ¬ x.Equal c y

/-- Equal keys with equal values. -/
def EntryEqual (c : Catalog) (x y : Value × Value) : Prop :=
  x.1.Equal c y.1 ∧ x.2.Equal c y.2

/-- At every depth, the elements of sets and the keys of maps are distinct, and records have a
known type and a value for each of its fields. -/
inductive Proper (c : Catalog) : Value → Prop where
  | atom {v : Value} (h : v.isAtom = true) : Proper c v
  | tuple {xs} (h : ∀ x ∈ xs, Proper c x) : Proper c (.tuple xs)
  | list {xs} (h : ∀ x ∈ xs, Proper c x) : Proper c (.list xs)
  | set {xs} (h : ∀ x ∈ xs, Proper c x) (hd : Distinct c xs) : Proper c (.set xs)
  | map {xs : List (Value × Value)} (hk : ∀ e ∈ xs, Proper c e.1) (hv : ∀ e ∈ xs, Proper c e.2)
      (hd : Distinct c (xs.map (·.1))) : Proper c (.map xs)
  | record {r : Record} (ht : r.type < c.schemas.length)
      (hl : r.values.length = (r.schema c).fields.length) (h : ∀ v ∈ r.values, Proper c v) :
      Proper c (.record r)

/-- The values that a value is put together from. -/
def parts : Value → List Value
  | .tuple xs | .list xs | .set xs => xs
  | .map es => es.flatMap fun e => [e.1, e.2]
  | .record r => r.values
  | _ => []

theorem forall_parts_map_iff {P : Value → Prop} {es : List (Value × Value)} :
    (∀ x ∈ (Value.map es).parts, P x) ↔ ∀ e ∈ es, P e.1 ∧ P e.2 := by
  rw [parts, List.forall_mem_flatMap]
  simp

theorem Proper.of_mem_parts {x : Value} (h : Proper c a) (hx : x ∈ a.parts) : Proper c x := by
  cases h with
  | atom h => cases a <;> first | exact absurd hx List.not_mem_nil | cases h
  | tuple h | list h | set h | record _ _ h => exact h x hx
  | map hk hv => exact forall_parts_map_iff.mpr (fun e he => ⟨hk e he, hv e he⟩) x hx

theorem Proper.distinct_set {xs : List Value} (h : Proper c (.set xs)) : Distinct c xs := by
  cases h with
  | set _ hd => exact hd
  | atom h => cases h

theorem Proper.distinct_keys {es : List (Value × Value)} (h : Proper c (.map es)) :
    Distinct c (es.map (·.1)) := by
  cases h with
  | map _ _ hd => exact hd
  | atom h => cases h

theorem Proper.lt_length {r : Record} (h : Proper c (.record r)) : r.type < c.schemas.length := by
  cases h with
  | record ht => exact ht
  | atom h => cases h

theorem Proper.length_values {r : Record} (h : Proper c (.record r)) :
    r.values.length = (r.schema c).fields.length := by
  cases h with
  | record _ hl => exact hl
  | atom h => cases h

theorem sizeOf_lt_of_mem_parts {x : Value} (hx : x ∈ a.parts) : sizeOf x < sizeOf a := by
  cases a with
  | tuple xs | list xs | set xs =>
    have hlt := List.sizeOf_lt_of_mem (show x ∈ xs from hx)
    simp only [tuple.sizeOf_spec, list.sizeOf_spec, set.sizeOf_spec]
    omega
  | map es =>
    refine forall_parts_map_iff (P := fun x => sizeOf x < sizeOf (map es)) |>.mpr ?_ x hx
    rintro ⟨k, v⟩ he
    have hlt := List.sizeOf_lt_of_mem he
    simp only [Prod.mk.sizeOf_spec] at hlt
    simp only [map.sizeOf_spec]
    omega
  | record r =>
    obtain ⟨type, values, node, notes⟩ := r
    have hlt := List.sizeOf_lt_of_mem (show x ∈ values from hx)
    simp only [record.sizeOf_spec, Record.mk.sizeOf_spec]
    omega
  | _ => exact absurd hx List.not_mem_nil

/-! ### Sets and maps -/

section

variable {P : Value → Prop}

theorem symmTransOn_entries (hP : SymmTransOn (Equal c) P) :
    SymmTransOn (EntryEqual c) fun e => P e.1 ∧ P e.2 where
  symm hx hy h := ⟨hP.symm hx.1 hy.1 h.1, hP.symm hx.2 hy.2 h.2⟩
  trans hx hy hz h h' := ⟨hP.trans hx.1 hy.1 hz.1 h.1 h'.1, hP.trans hx.2 hy.2 hz.2 h.2 h'.2⟩

/-- Among distinct keys, it does not matter that the first equal one is taken. -/
theorem find?_key_eq_some_iff (hP : SymmTransOn (Equal c) P) {k : Value}
    {es : List (Value × Value)} (hk : P k) (he : ∀ e ∈ es, P e.1)
    (hd : Distinct c (es.map (·.1))) (e : Value × Value) :
    es.find? (fun e => k.eqv c e.1) = some e ↔ e ∈ es ∧ k.Equal c e.1 := by
  induction es with
  | nil => simp
  | cons d es ih =>
    obtain ⟨hdk, hes⟩ := List.forall_mem_cons.mp he
    obtain ⟨hfirst, hrest⟩ := List.pairwise_cons.mp hd
    rw [List.find?_cons, List.mem_cons]
    cases hkd : k.eqv c d.1 with
    | false =>
      rw [ih hes hrest]
      refine and_congr_left fun hke => ⟨Or.inr, fun hm => hm.resolve_left ?_⟩
      rintro rfl
      exact Bool.noConfusion (hkd.symm.trans hke)
    | true =>
      rw [Option.some.injEq]
      refine ⟨fun h => h ▸ ⟨.inl rfl, hkd⟩, fun ⟨hm, hke⟩ => ?_⟩
      refine (hm.resolve_right fun hm => ?_).symm
      have hde := hP.trans hdk hk (hes e hm) (hP.symm hk hdk hkd) hke
      exact hfirst e.1 (List.mem_map_of_mem hm) hde

theorem set_eqv_iff (xs ys : List Value) :
    (set xs).eqv c (set ys) = true ↔ xs.length = ys.length ∧ Covers (Equal c) xs ys := by
  rw [eqv, Bool.and_eq_true, beq_iff_eq, subset_iff]
  rfl

theorem map_eqv_iff (hP : SymmTransOn (Equal c) P) {xs ys : List (Value × Value)}
    (hx : ∀ e ∈ xs, P e.1 ∧ P e.2) (hy : ∀ e ∈ ys, P e.1 ∧ P e.2)
    (hd : Distinct c (ys.map (·.1))) :
    (map xs).eqv c (map ys) = true ↔ xs.length = ys.length ∧ Covers (EntryEqual c) xs ys := by
  rw [eqv, Bool.and_eq_true, beq_iff_eq, subsetEntries_iff]
  refine and_congr_right fun _ => forall₂_congr fun e he => exists_congr fun f => ?_
  rw [find?_key_eq_some_iff hP (hx e he).1 (fun f hf => (hy f hf).1) hd, and_assoc]
  rfl

theorem pairwise_entries {es : List (Value × Value)} (hd : Distinct c (es.map (·.1))) :
    es.Pairwise fun d e => ¬ EntryEqual c d e :=
  (List.pairwise_map.mp hd).imp fun h he => h he.1

/-! ### Symmetry and transitivity -/

/-- Equality of two values is symmetric if that of their parts is. -/
theorem eqv_symm_of_parts (hP : SymmTransOn (Equal c) P) (ha : Proper c a) (hb : Proper c b)
    (hpa : ∀ x ∈ a.parts, P x) (hpb : ∀ x ∈ b.parts, P x) (h : a.Equal c b) : b.Equal c a := by
  cases equates_of_eqv h with
  | atom => exact h
  | tuple hs | list hs => exact (eqvAll_iff _ _).mpr (hP.forall₂_symm hpa hpb hs)
  | set hl hs =>
    exact (set_eqv_iff _ _).mpr ⟨hl.symm, hP.covers_symm hpa hpb ha.distinct_set hl hs⟩
  | map =>
    rw [forall_parts_map_iff] at hpa hpb
    obtain ⟨hl, hs⟩ := (map_eqv_iff hP hpa hpb hb.distinct_keys).mp h
    have hback := (symmTransOn_entries hP).covers_symm hpa hpb
      (pairwise_entries ha.distinct_keys) hl hs
    exact (map_eqv_iff hP hpb hpa ha.distinct_keys).mpr ⟨hl.symm, hback⟩
  | record ht hs =>
    refine (Record.eqv_iff _ _).mpr ⟨ht.symm, fun i f y x hf hy hx he => ?_⟩
    rw [Record.schema, ← ht] at hf
    exact hP.symm (hpa x (List.mem_of_getElem? hx)) (hpb y (List.mem_of_getElem? hy))
      (hs i f x y hf hx hy he)

/-- Equality of three values is transitive if that of their parts is. -/
theorem eqv_trans_of_parts (hP : SymmTransOn (Equal c) P) (hb : Proper c b) (hd : Proper c d)
    (hpa : ∀ x ∈ a.parts, P x) (hpb : ∀ x ∈ b.parts, P x) (hpd : ∀ x ∈ d.parts, P x)
    (h : a.Equal c b) (h' : b.Equal c d) : a.Equal c d := by
  cases equates_of_eqv h with
  | atom => exact h'
  | tuple hs =>
    cases equates_of_eqv h' with
    | tuple hs' => exact (eqvAll_iff _ _).mpr (hP.forall₂_trans hpa hpb hpd hs hs')
    | atom => exact h
  | list hs =>
    cases equates_of_eqv h' with
    | list hs' => exact (eqvAll_iff _ _).mpr (hP.forall₂_trans hpa hpb hpd hs hs')
    | atom => exact h
  | set hl hs =>
    cases equates_of_eqv h' with
    | set hl' hs' =>
      exact (set_eqv_iff _ _).mpr ⟨hl.trans hl', hP.covers_trans hpa hpb hpd hs hs'⟩
    | atom => exact h
  | map =>
    cases equates_of_eqv h' with
    | map =>
      rw [forall_parts_map_iff] at hpa hpb hpd
      obtain ⟨hl, hs⟩ := (map_eqv_iff hP hpa hpb hb.distinct_keys).mp h
      obtain ⟨hl', hs'⟩ := (map_eqv_iff hP hpb hpd hd.distinct_keys).mp h'
      exact (map_eqv_iff hP hpa hpd hd.distinct_keys).mpr
        ⟨hl.trans hl', (symmTransOn_entries hP).covers_trans hpa hpb hpd hs hs'⟩
    | atom => exact h
  | record ht hs =>
    cases equates_of_eqv h' with
    | record ht' hs' =>
      refine (Record.eqv_iff _ _).mpr ⟨ht.trans ht', fun i f x z hf hx hz he => ?_⟩
      -- The record between them has a value at each place of the field table.
      rename_i r s u
      have hf' : (s.schema c).fields[i]? = some f := by rwa [Record.schema, ← ht]
      obtain ⟨y, hy⟩ : ∃ y, s.values[i]? = some y := by
        refine ⟨_, List.getElem?_eq_getElem ?_⟩
        rw [hb.length_values]
        exact (List.getElem?_eq_some_iff.mp hf').1
      exact hP.trans (hpa x (List.mem_of_getElem? hx)) (hpb y (List.mem_of_getElem? hy))
        (hpd z (List.mem_of_getElem? hz)) (hs i f x y hf hx hy he) (hs' i f y z hf' hy hz he)
    | atom => exact h

end

/-- By induction on the size of the values, for the parts are smaller. -/
theorem symmTransOn_proper_lt (c : Catalog) (n : Nat) :
    SymmTransOn (Equal c) fun v => Proper c v ∧ sizeOf v < n := by
  induction n with
  | zero =>
    have hnone : ∀ v, ¬ (Proper c v ∧ sizeOf v < 0) := fun v hv => Nat.not_lt_zero _ hv.2
    exact ⟨fun hx => absurd hx (hnone _), fun hx => absurd hx (hnone _)⟩
  | succ n ih =>
    have hparts : ∀ v, Proper c v ∧ sizeOf v < n + 1 → ∀ x ∈ v.parts, Proper c x ∧ sizeOf x < n :=
      fun v hv x hx => ⟨hv.1.of_mem_parts hx,
        Nat.lt_of_lt_of_le (sizeOf_lt_of_mem_parts hx) (Nat.le_of_lt_succ hv.2)⟩
    constructor
    · intro a b ha hb
      exact eqv_symm_of_parts ih ha.1 hb.1 (hparts a ha) (hparts b hb)
    · intro a b d ha hb hd
      exact eqv_trans_of_parts ih hb.1 hd.1 (hparts a ha) (hparts b hb) (hparts d hd)

theorem symmTransOn_proper (c : Catalog) : SymmTransOn (Equal c) (Proper c) where
  symm {a b} ha hb := by
    have hlt := symmTransOn_proper_lt c (sizeOf a + sizeOf b + 1)
    exact hlt.symm ⟨ha, by omega⟩ ⟨hb, by omega⟩
  trans {a b d} ha hb hd := by
    have hlt := symmTransOn_proper_lt c (sizeOf a + sizeOf b + sizeOf d + 1)
    exact hlt.trans ⟨ha, by omega⟩ ⟨hb, by omega⟩ ⟨hd, by omega⟩

/-! ### Reflexivity -/

theorem Proper.eqv_refl (h : Proper c a) : a.Equal c a := by
  induction h with
  | atom h => exact (eqv_iff_eq_of_isAtom h).mpr rfl
  | tuple _ ih | list _ ih => exact (eqvAll_iff _ _).mpr (List.forall₂_same.mpr ih)
  | set _ _ ih => exact (set_eqv_iff _ _).mpr ⟨rfl, fun x hx => ⟨x, hx, ih x hx⟩⟩
  | map hk hv hd ihk ihv =>
    -- A key is found at its own entry only because no earlier key is equal to it.
    have hparts := fun e he => And.intro (hk e he) (hv e he)
    refine (map_eqv_iff (symmTransOn_proper c) hparts hparts hd).mpr ⟨rfl, fun e he => ?_⟩
    exact ⟨e, he, ihk e he, ihv e he⟩
  | record _ _ _ ih =>
    refine (Record.eqv_iff _ _).mpr ⟨rfl, fun i f x y _ hx hy _ => ?_⟩
    obtain rfl := Option.some.inj (hx.symm.trans hy)
    exact ih x (List.mem_of_getElem? hx)

/-! ### Hashing -/

/-- Two values feed the same to a hash, whatever is fed to it behind them. -/
def SameFeed (c : Catalog) (x y : Value) : Prop :=
  ∀ rest, x.feed c rest = y.feed c rest

theorem feedAll_eq {xs ys : List Value} (h : List.Forall₂ (SameFeed c) xs ys)
    (rest : List HashToken) : feedAll c xs rest = feedAll c ys rest := by
  induction h with
  | nil => rfl
  | cons hx _ ih => rw [feedAll, feedAll, ih, hx]

/-- Fields that take part in hashing have to take part in equality. -/
theorem feedFields_eq {fields : List Field} {xs ys : List Value} (hl : xs.length = fields.length)
    (hl' : ys.length = fields.length) (hf : ∀ f ∈ fields, f.flags.hash = true → f.flags.eq = true)
    (hs : ∀ x ∈ xs, ∀ y ∈ ys, x.Equal c y → SameFeed c x y) (h : FieldsEqual c fields xs ys)
    (rest : List HashToken) : feedFields c fields xs rest = feedFields c fields ys rest := by
  induction fields generalizing xs ys with
  | nil =>
    obtain rfl := List.length_eq_zero_iff.mp hl
    obtain rfl := List.length_eq_zero_iff.mp hl'
    rfl
  | cons f fields ih =>
    obtain ⟨x, xs, rfl⟩ := List.exists_cons_of_length_eq_add_one hl
    obtain ⟨y, ys, rfl⟩ := List.exists_cons_of_length_eq_add_one hl'
    rw [fieldsEqual_cons_iff] at h
    rw [List.forall_mem_cons] at hf
    have hrest := ih (Nat.succ.inj hl) (Nat.succ.inj hl') hf.2
      (fun x hx y hy => hs x (List.mem_cons_of_mem _ hx) y (List.mem_cons_of_mem _ hy)) h.2
    rw [feedFields, feedFields, hrest]
    cases hh : f.flags.hash with
    | false => rfl
    | true => exact hs x List.mem_cons_self y List.mem_cons_self (h.1 (hf.1 hh)) _

theorem forall₂_sameFeed {xs ys : List Value} (h : List.Forall₂ (Equal c) xs ys)
    (hs : ∀ x ∈ xs, ∀ y ∈ ys, x.Equal c y → SameFeed c x y) :
    List.Forall₂ (SameFeed c) xs ys := by
  rw [List.forall₂_iff_zip] at h ⊢
  refine ⟨h.1, fun {x y} hm => ?_⟩
  exact hs x (List.of_mem_zip hm).1 y (List.of_mem_zip hm).2 (h.2 hm)

/-- Equal values feed the same to a hash. -/
theorem Proper.sameFeed (hc : c.Regular) (ha : Proper c a) (hb : Proper c b) (h : a.Equal c b) :
    SameFeed c a b := by
  induction ha generalizing b with
  | atom ha =>
    obtain rfl := (eqv_iff_eq_of_isAtom ha).mp h
    exact fun _ => rfl
  | tuple _ ih =>
    cases equates_of_eqv h with
    | atom => exact fun _ => rfl
    | tuple hs =>
      have hfeed := forall₂_sameFeed hs fun x hx y hy => ih x hx (hb.of_mem_parts hy)
      intro rest
      rw [feed, feed, feedAll_eq hfeed, hs.length_eq]
  | list _ ih =>
    cases equates_of_eqv h with
    | atom => exact fun _ => rfl
    | list hs =>
      have hfeed := forall₂_sameFeed hs fun x hx y hy => ih x hx (hb.of_mem_parts hy)
      intro rest
      rw [feed, feed, feedAll_eq hfeed, hs.length_eq]
  | set =>
    cases equates_of_eqv h with
    | atom => exact fun _ => rfl
    | set hl =>
      intro rest
      rw [feed, feed, hl]
  | map =>
    cases equates_of_eqv h with
    | atom => exact fun _ => rfl
    | map hl =>
      intro rest
      rw [feed, feed, hl]
  | @record r ht hl _ ih =>
    -- Fields that take part in hashing take part in equality, so their values are equal.
    cases equates_of_eqv h with
    | atom => exact fun _ => rfl
    | @record _ s hts hs =>
      have hls := hb.length_values
      obtain ⟨type, values, node, notes⟩ := r
      obtain ⟨type', values', node', notes'⟩ := s
      obtain rfl := hts
      intro rest
      have hflags := fun f hf => ((hc.schema _ ht).fields f hf).hash
      have hfeed := feedFields_eq hl hls hflags
        (fun x hx y hy => ih x hx (hb.of_mem_parts hy)) hs rest
      exact congrArg (HashToken.record type :: ·) hfeed

/-! ### Catalogs that grow -/

theorem eqvAll_congr {xs : List Value} (h : ∀ x ∈ xs, ∀ y, x.eqv c' y = x.eqv c y)
    (ys : List Value) : eqvAll c' xs ys = eqvAll c xs ys := by
  induction xs generalizing ys with
  | nil => cases ys <;> rfl
  | cons x xs ih =>
    rw [List.forall_mem_cons] at h
    cases ys with
    | nil => rfl
    | cons y ys => rw [eqvAll, eqvAll, h.1, ih h.2]

theorem subset_congr {xs : List Value} (h : ∀ x ∈ xs, ∀ y, x.eqv c' y = x.eqv c y)
    (ys : List Value) : subset c' xs ys = subset c xs ys := by
  induction xs with
  | nil => rfl
  | cons x xs ih =>
    rw [List.forall_mem_cons] at h
    rw [subset, subset, ih h.2, funext h.1]

theorem subsetEntries_congr {xs : List (Value × Value)}
    (h : ∀ e ∈ xs, (∀ y, e.1.eqv c' y = e.1.eqv c y) ∧ ∀ y, e.2.eqv c' y = e.2.eqv c y)
    (ys : List (Value × Value)) : subsetEntries c' xs ys = subsetEntries c xs ys := by
  induction xs with
  | nil => rfl
  | cons e xs ih =>
    rw [List.forall_mem_cons] at h
    rw [subsetEntries, subsetEntries, ih h.2]
    simp only [h.1.1, h.1.2]

theorem eqvFields_congr {xs : List Value} (h : ∀ x ∈ xs, ∀ y, x.eqv c' y = x.eqv c y)
    (fields : List Field) (ys : List Value) :
    eqvFields c' fields xs ys = eqvFields c fields xs ys := by
  induction xs generalizing fields ys with
  | nil => rfl
  | cons x xs ih =>
    rw [List.forall_mem_cons] at h
    cases fields with
    | nil => rfl
    | cons f fields =>
      cases ys with
      | nil => rfl
      | cons y ys => rw [eqvFields, eqvFields, h.1, ih h.2]

/-- More types do not change what is equal to a value of the types before. -/
theorem Proper.eqv_of_extends (hx : c.Extends c') (h : Proper c a) (b : Value) :
    a.eqv c' b = a.eqv c b := by
  induction h generalizing b with
  | atom h =>
    exact Bool.eq_iff_iff.mpr ((eqv_iff_eq_of_isAtom h).trans (eqv_iff_eq_of_isAtom h).symm)
  | tuple _ ih | list _ ih => cases b <;> first | rfl | exact eqvAll_congr ih _
  | set _ _ ih => cases b <;> first | rfl | (rw [eqv, eqv, subset_congr ih])
  | map _ _ _ ihk ihv =>
    cases b <;> first | rfl | (rw [eqv, eqv, subsetEntries_congr fun e he => ⟨ihk e he, ihv e he⟩])
  | @record r ht _ _ ih =>
    cases b with
    | record s =>
      obtain ⟨type, values, node, notes⟩ := r
      rw [eqv, eqv, Record.eqv, Record.eqv, hx.schema_eq ht, eqvFields_congr ih]
    | _ => rfl

theorem feedAll_congr {xs : List Value} (h : ∀ x ∈ xs, ∀ rest, x.feed c' rest = x.feed c rest)
    (rest : List HashToken) : feedAll c' xs rest = feedAll c xs rest := by
  induction xs with
  | nil => rfl
  | cons x xs ih =>
    rw [List.forall_mem_cons] at h
    rw [feedAll, feedAll, ih h.2, h.1]

theorem feedFields_congr {xs : List Value} (h : ∀ x ∈ xs, ∀ rest, x.feed c' rest = x.feed c rest)
    (fields : List Field) (rest : List HashToken) :
    feedFields c' fields xs rest = feedFields c fields xs rest := by
  induction xs generalizing fields with
  | nil => rfl
  | cons x xs ih =>
    rw [List.forall_mem_cons] at h
    cases fields with
    | nil => rfl
    | cons f fields => rw [feedFields, feedFields, ih h.2, h.1]

/-- More types do not change what a value of the types before feeds to a hash. -/
theorem Proper.feed_of_extends (hx : c.Extends c') (h : Proper c a) (rest : List HashToken) :
    a.feed c' rest = a.feed c rest := by
  induction h generalizing rest with
  | @atom v h => cases v <;> first | rfl | cases h
  | tuple _ ih | list _ ih => rw [feed, feed, feedAll_congr ih]
  | set | map => rfl
  | @record r ht _ _ ih =>
    obtain ⟨type, values, node, notes⟩ := r
    rw [feed, feed, Record.feed, Record.feed, hx.schema_eq ht, feedFields_congr ih]

theorem Distinct.of_extends {xs : List Value} (hx : c.Extends c') (hp : ∀ x ∈ xs, Proper c x)
    (h : Distinct c xs) : Distinct c' xs := by
  refine h.imp_of_mem fun {x y} hm _ hn he => hn ?_
  rwa [Equal, ← (hp x hm).eqv_of_extends hx]

theorem Proper.of_extends (hx : c.Extends c') (h : Proper c a) : Proper c' a := by
  induction h with
  | atom h => exact .atom h
  | tuple _ ih => exact .tuple ih
  | list _ ih => exact .list ih
  | set h hd ih => exact .set ih (hd.of_extends hx h)
  | map hk _ hd ihk ihv => exact .map ihk ihv (hd.of_extends hx (List.forall_mem_map.mpr hk))
  | record ht hl _ ih =>
    refine .record (Nat.lt_of_lt_of_le ht hx.length_le) ?_ ih
    rw [Record.schema, hx.schema_eq ht]
    exact hl

end Value

end TypedTree
