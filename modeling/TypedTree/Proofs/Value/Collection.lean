import TypedTree.Proofs.Construction.Stages
import TypedTree.Proofs.List.First
import TypedTree.Proofs.Tree.Extension
import TypedTree.Proofs.Value.Origin

/-! # What sets and maps hold

A set holds the first of equal elements in the order of the elements, and a map the first of equal
keys with the last value. What they hold does not change when they are made from it again. -/

namespace TypedTree

namespace Value

variable {c c' : Catalog} {items given front result xs ys : List Value}
  {entries pairs : List (Value × Value)} {a b k u v x : Value}

/-! ### Failure -/

/-- The first of the values that may not be an element of a set or a key of a map. -/
def FirstUnhashable (c : Catalog) (given : List Value) (v : Value) : Prop :=
  ∃ before after, given = before ++ v :: after ∧
    (∀ x ∈ before, x.isHashable c = true) ∧ v.isHashable c = false

theorem firstUnhashable_cons_iff : FirstUnhashable c (x :: given) v ↔
    x.isHashable c = false ∧ x = v ∨ x.isHashable c = true ∧ FirstUnhashable c given v := by
  constructor
  · rintro ⟨before, after, heq, hb, hv⟩
    cases before with
    | nil =>
      obtain ⟨rfl, -⟩ := List.cons.inj heq
      exact .inl ⟨hv, rfl⟩
    | cons y before =>
      obtain ⟨rfl, rfl⟩ := List.cons.inj heq
      obtain ⟨hx, hb⟩ := List.forall_mem_cons.mp hb
      exact .inr ⟨hx, before, after, rfl, hb, hv⟩
  · rintro (⟨hx, rfl⟩ | ⟨hx, before, after, rfl, hb, hv⟩)
    · exact ⟨[], given, rfl, List.forall_mem_nil _, hx⟩
    · exact ⟨x :: before, after, rfl, List.forall_mem_cons.mpr ⟨hx, hb⟩, hv⟩

theorem exists_firstUnhashable_iff :
    (∃ v, FirstUnhashable c given v) ↔ ∃ v ∈ given, v.isHashable c = false := by
  constructor
  · rintro ⟨v, before, after, rfl, -, hv⟩
    exact ⟨v, List.mem_append_right before List.mem_cons_self, hv⟩
  · rintro ⟨v, hm, hv⟩
    rcases all_or_first (fun x : Value => x.isHashable c = true) given with hall | hfirst
    · exact absurd hv (by rw [hall v hm]; exact Bool.noConfusion)
    · obtain ⟨before, x, after, heq, hb, hx⟩ := hfirst
      exact ⟨x, before, after, heq, hb, Bool.eq_false_iff.mpr hx⟩

theorem addElements_eq_error_iff {e : InstanceError} : addElements c items given = .error e ↔
    ∃ v, FirstUnhashable c given v ∧ e = .unhashable v := by
  induction given generalizing items with
  | nil => simp [addElements, FirstUnhashable]
  | cons x given ih =>
    rw [addElements, unit_bind_eq_error_iff, ih, ensureHashable, ite_eq_error_iff]
    simp only [firstUnhashable_cons_iff]
    cases x.isHashable c <;> simp [eq_comm]

theorem exists_addElements (hh : ∀ v ∈ given, v.isHashable c = true) :
    ∃ result, addElements c items given = .ok result := by
  cases hr : addElements c items given with
  | ok result => exact ⟨result, rfl⟩
  | error e =>
    obtain ⟨v, hfirst, -⟩ := addElements_eq_error_iff.mp hr
    obtain ⟨v, hm, hv⟩ := exists_firstUnhashable_iff.mp ⟨v, hfirst⟩
    exact absurd (hh v hm) (by rw [hv]; exact Bool.noConfusion)

/-! ### First occurrences -/

/-- Those of the given values that are equal to none in front of them, where the values of `front`
are in front of all of them. -/
def firstOccurrences (c : Catalog) (front : List Value) : List Value → List Value
  | [] => []
  | v :: vs =>
    if front.any (fun x => x.eqv c v) then firstOccurrences c (front ++ [v]) vs
    else v :: firstOccurrences c (front ++ [v]) vs

theorem holds_append_singleton_iff :
    Holds c (items ++ [v]) u ↔ Holds c items u ∨ v.Equal c u := by
  simp [Holds, or_and_right, exists_or]

theorem holds_insertElement_iff (hi : ∀ x ∈ items, Proper c x) (hv : Proper c v)
    (hu : Proper c u) :
    Holds c (insertElement c items v) u ↔ Holds c items u ∨ v.Equal c u := by
  by_cases h : Holds c items v
  · rw [insertElement_of_holds h]
    refine ⟨.inl, fun hor => hor.elim id fun hvu => ?_⟩
    obtain ⟨x, hx, hxv⟩ := h
    exact ⟨x, hx, (symmTransOn_proper c).trans (hi x hx) hv hu hxv hvu⟩
  · rw [insertElement_of_not_holds h, holds_append_singleton_iff]

theorem forall_insertElement {P : Value → Prop} (hi : ∀ x ∈ items, P x) (hv : P v) :
    ∀ x ∈ insertElement c items v, P x := fun x hx =>
  (mem_insertElement hx).elim (hi x) fun h => h ▸ hv

theorem holds_addElements_iff (hr : addElements c items given = .ok result)
    (hi : ∀ x ∈ items, Proper c x) (hp : ∀ v ∈ given, Proper c v) (hu : Proper c u) :
    Holds c result u ↔ Holds c items u ∨ Holds c given u := by
  induction given generalizing items with
  | nil =>
    obtain rfl := Except.ok.inj hr
    simp [Holds]
  | cons v given ih =>
    obtain ⟨hv, hp⟩ := List.forall_mem_cons.mp hp
    obtain ⟨-, -, hr⟩ := bind_eq_ok_iff.mp hr
    rw [ih hr (forall_insertElement hi hv) hp, holds_insertElement_iff hi hv hu, or_assoc]
    simp [Holds]

/-- What was added before matters only up to equality, so that the items of the set and all the
values in front, which may repeat, decide alike on what is new. -/
theorem eq_append_firstOccurrences (hr : addElements c items given = .ok result)
    (hi : ∀ x ∈ items, Proper c x) (hp : ∀ v ∈ given, Proper c v)
    (hfront : ∀ u, Proper c u → (Holds c items u ↔ Holds c front u)) :
    result = items ++ firstOccurrences c front given := by
  induction given generalizing items front with
  | nil =>
    obtain rfl := Except.ok.inj hr
    exact (List.append_nil _).symm
  | cons v given ih =>
    obtain ⟨hv, hp⟩ := List.forall_mem_cons.mp hp
    obtain ⟨-, -, hr⟩ := bind_eq_ok_iff.mp hr
    have hnext : ∀ u, Proper c u →
        (Holds c (insertElement c items v) u ↔ Holds c (front ++ [v]) u) := by
      intro u hu
      rw [holds_insertElement_iff hi hv hu, holds_append_singleton_iff, hfront u hu]
    rw [ih hr (forall_insertElement hi hv) hp hnext, firstOccurrences]
    by_cases h : Holds c front v
    · rw [if_pos (any_eqv_iff.mpr h), insertElement_of_holds ((hfront v hv).mpr h)]
    · rw [if_neg (mt any_eqv_iff.mp h), insertElement_of_not_holds (mt (hfront v hv).mp h),
        List.append_assoc, List.singleton_append]

/-! ### Last values -/

/-- The last of the entries with an equal key gives this value to a key. -/
def LastValue (c : Catalog) (given : List (Value × Value)) (k v : Value) : Prop :=
  ∃ before key after, given = before ++ (key, v) :: after ∧ key.Equal c k ∧
    ∀ e ∈ after, ¬ e.1.Equal c k

theorem LastValue.append (h : LastValue c pairs k v) {e : Value × Value}
    (he : ¬ e.1.Equal c k) : LastValue c (pairs ++ [e]) k v := by
  obtain ⟨before, key, after, rfl, hkey, hafter⟩ := h
  refine ⟨before, key, after ++ [e], by simp, hkey, ?_⟩
  exact List.forall_mem_append.mpr ⟨hafter, List.forall_mem_singleton.mpr he⟩

/-- An entry gives its value to the equal key, which is only one, and leaves the others alone. -/
theorem mem_insertEntry {e : Value × Value} (hk : Proper c k)
    (hp : ∀ x ∈ entries.map (·.1), Proper c x) (hd : Distinct c (entries.map (·.1)))
    (he : e ∈ insertEntry c k v entries) :
    e.1.Equal c k ∧ e.2 = v ∨ e ∈ entries ∧ ¬ e.1.Equal c k := by
  induction entries with
  | nil =>
    obtain rfl := List.mem_singleton.mp he
    exact .inl ⟨hk.eqv_refl, rfl⟩
  | cons d entries ih =>
    obtain ⟨hpd, hp⟩ := List.forall_mem_cons.mp hp
    obtain ⟨hfirst, hd⟩ := List.pairwise_cons.mp hd
    rw [insertEntry] at he
    split at he
    case isTrue hdk =>
      rcases List.mem_cons.mp he with rfl | he
      · exact .inl ⟨hdk, rfl⟩
      · have hkey := List.mem_map_of_mem (f := (·.1)) he
        refine .inr ⟨List.mem_cons_of_mem d he, fun hek => hfirst e.1 hkey ?_⟩
        have hP := symmTransOn_proper c
        exact hP.trans hpd hk (hp e.1 hkey) hdk (hP.symm (hp e.1 hkey) hk hek)
    case isFalse hdk =>
      rcases List.mem_cons.mp he with rfl | he
      · exact .inr ⟨List.mem_cons_self, hdk⟩
      · exact (ih hp hd he).imp_right fun h => ⟨List.mem_cons_of_mem d h.1, h.2⟩

theorem lastValue_of_addEntries {before added : List (Value × Value)}
    (hr : addEntries c entries pairs = .ok added) (hp : ∀ e ∈ pairs, Proper c e.1)
    (hk : ∀ x ∈ entries.map (·.1), Proper c x) (hd : Distinct c (entries.map (·.1)))
    (hlast : ∀ e ∈ entries, LastValue c before e.1 e.2) :
    ∀ e ∈ added, LastValue c (before ++ pairs) e.1 e.2 := by
  induction pairs generalizing entries before with
  | nil =>
    obtain rfl := Except.ok.inj hr
    rwa [List.append_nil]
  | cons p pairs ih =>
    obtain ⟨hpk, hp⟩ := List.forall_mem_cons.mp hp
    obtain ⟨-, -, hr⟩ := bind_eq_ok_iff.mp hr
    have hkeys := keys_insertEntry (c := c) p.1 p.2 entries
    rw [List.append_cons]
    refine ih hr hp (hkeys ▸ forall_insertElement hk hpk) (hkeys ▸ distinct_insertElement hd p.1) ?_
    intro e he
    have hP := symmTransOn_proper c
    have hpe : Proper c e.1 :=
      forall_insertElement hk hpk e.1 (hkeys ▸ List.mem_map_of_mem he)
    rcases mem_insertEntry hpk hk hd he with ⟨hek, hv⟩ | ⟨hm, hek⟩
    · exact ⟨before, p.1, [], by rw [hv], hP.symm hpe hpk hek, List.forall_mem_nil _⟩
    · exact (hlast e hm).append fun hke => hek (hP.symm hpk hpe hke)

/-! ### Values that sets and maps can hold -/

/-- The values can be the elements of a set and the keys of a map. -/
structure Holdable (c : Catalog) (xs : List Value) : Prop where
  distinct : Distinct c xs
  hashable : ∀ x ∈ xs, x.isHashable c = true

/-- The elements of a set and the keys of a map are distinct and hashable. -/
def IsCanonical (c : Catalog) : Value → Prop
  | .set items => Holdable c items
  | .map entries => Holdable c (entries.map (·.1))
  | _ => True

theorem Holdable.of_extends (hx : c.Extends c') (hp : ∀ x ∈ xs, Proper c x)
    (h : Holdable c xs) : Holdable c' xs :=
  ⟨h.distinct.of_extends hx hp,
    fun x hm => (isHashable_of_extends hx (hp x hm)).trans (h.hashable x hm)⟩

theorem holdable_of_addElements (hr : addElements c [] given = .ok result) :
    Holdable c result :=
  ⟨distinct_of_addElements hr .nil, fun x hx => (given_of_mem_addElements hr x hx).2⟩

theorem isCanonical_of_ofElements (h : ofElements c given = .ok v) : v.IsCanonical c := by
  obtain ⟨result, hr, rfl⟩ := map_eq_ok_iff.mp h
  exact holdable_of_addElements hr

theorem isCanonical_of_ofEntries (h : ofEntries c pairs = .ok v) : v.IsCanonical c := by
  obtain ⟨result, hr, rfl⟩ := map_eq_ok_iff.mp h
  exact holdable_of_addElements (keys_of_addEntries hr)

theorem IsCanonical.of_extends (hx : c.Extends c') (hp : Proper c v) (h : v.IsCanonical c) :
    v.IsCanonical c' := by
  cases v with
  | set items => exact Holdable.of_extends hx (fun x hm => hp.of_mem_parts hm) h
  | map entries =>
    have hparts := forall_parts_map_iff.mp fun x hm => hp.of_mem_parts hm
    exact Holdable.of_extends hx (List.forall_mem_map.mpr fun e he => (hparts e he).1) h
  | _ => trivial

/-! ### Made again -/

/-- Nothing is left out of distinct elements. -/
theorem addElements_of_holdable (h : Holdable c (items ++ given)) :
    addElements c items given = .ok (items ++ given) := by
  induction given generalizing items with
  | nil =>
    rw [List.append_nil]
    rfl
  | cons v given ih =>
    have hh : v.ensureHashable c = .ok () :=
      if_pos (h.hashable v (List.mem_append_right items List.mem_cons_self))
    have hnew : ¬ Holds c items v := by
      rintro ⟨x, hx, he⟩
      exact (List.pairwise_append.mp h.distinct).2.2 x hx v List.mem_cons_self he
    rw [List.append_cons] at h ⊢
    rw [addElements, hh, insertElement_of_not_holds hnew]
    exact ih h

/-- Nothing is overwritten by entries with distinct keys. -/
theorem addEntries_of_holdable (h : Holdable c ((entries ++ pairs).map (·.1))) :
    addEntries c entries pairs = .ok (entries ++ pairs) := by
  induction pairs generalizing entries with
  | nil =>
    rw [List.append_nil]
    rfl
  | cons p pairs ih =>
    have hkeys := h
    rw [List.map_append] at hkeys
    have hh : p.1.ensureHashable c = .ok () :=
      if_pos (hkeys.hashable p.1 (List.mem_append_right _ List.mem_cons_self))
    have hnew : ¬ Holds c (entries.map (·.1)) p.1 := by
      rintro ⟨x, hx, he⟩
      exact (List.pairwise_append.mp hkeys.distinct).2.2 x hx p.1 List.mem_cons_self he
    rw [List.append_cons] at h ⊢
    rw [addEntries, hh, insertEntry_of_not_holds hnew]
    exact ih h

/-! ### The same elements -/

theorem allHashable_congr (hs : List.Forall₂ (Equal c) xs ys)
    (h : ∀ x ∈ xs, ∀ y, x.Equal c y → y.isHashable c = x.isHashable c) :
    allHashable c ys = allHashable c xs := by
  induction hs with
  | nil => rfl
  | cons hx _ ih =>
    obtain ⟨hhead, htail⟩ := List.forall_mem_cons.mp h
    rw [allHashable, allHashable, hhead _ hx, ih htail]

theorem isHashable_of_equal (h : a.Equal c b) : b.isHashable c = a.isHashable c := by
  induction a using Value.induction generalizing b with
  | atom v hv => rw [(eqv_iff_eq_of_isAtom hv).mp h]
  | tuple items ih =>
    cases equates_of_eqv h with
    | atom => rfl
    | tuple hs => exact allHashable_congr hs fun x hx y => ih x hx
  | record r =>
    cases equates_of_eqv h with
    | atom => rfl
    | record ht => rw [isHashable, isHashable, Record.schema, Record.schema, ht]
  | list | set | map => cases equates_of_eqv h <;> rfl

/-- The same values up to equality, in whatever order and however often. -/
structure SameElements (c : Catalog) (xs ys : List Value) : Prop where
  left : Covers (Equal c) xs ys
  right : Covers (Equal c) ys xs

/-- Each element of one set is equal to a given value, which is equal to another given value, which
is equal to an element of the other set. -/
theorem covers_of_addElements {items' : List Value} (hx : ∀ x ∈ xs, Proper c x)
    (hy : ∀ y ∈ ys, Proper c y) (h : Covers (Equal c) xs ys)
    (hr : addElements c [] xs = .ok items) (hr' : addElements c [] ys = .ok items') :
    Covers (Equal c) items items' := by
  intro x hm
  have hxs := (given_of_mem_addElements hr x hm).1
  obtain ⟨y, hym, hxy⟩ := h x hxs
  have hproper := hy y hym
  obtain ⟨z, hz, hzy⟩ := (holds_addElements_iff hr' (List.forall_mem_nil _) hy hproper).mpr
    (.inr ⟨y, hym, hproper.eqv_refl⟩)
  have hzs := (given_of_mem_addElements hr' z hz).1
  have hP := symmTransOn_proper c
  exact ⟨z, hz, hP.trans (hx x hxs) hproper (hy z hzs) hxy (hP.symm (hy z hzs) hproper hzy)⟩

theorem exists_ofElements_of_sameElements (hx : ∀ x ∈ xs, Proper c x)
    (hy : ∀ y ∈ ys, Proper c y) (h : SameElements c xs ys) (ha : ofElements c xs = .ok a) :
    ∃ b, ofElements c ys = .ok b ∧ a.Equal c b := by
  obtain ⟨items, hr, rfl⟩ := map_eq_ok_iff.mp ha
  have hhashable : ∀ y ∈ ys, y.isHashable c = true := by
    intro y hm
    obtain ⟨x, hxm, hyx⟩ := h.right y hm
    rw [← isHashable_of_equal hyx]
    by_contra hn
    obtain ⟨v, hfirst⟩ := exists_firstUnhashable_iff.mpr ⟨x, hxm, Bool.eq_false_iff.mpr hn⟩
    have herror : addElements c [] xs = .error (.unhashable v) :=
      addElements_eq_error_iff.mpr ⟨v, hfirst, rfl⟩
    exact nomatch hr.symm.trans herror
  obtain ⟨items', hr'⟩ : ∃ items', addElements c [] ys = .ok items' :=
    exists_addElements hhashable
  refine ⟨.set items', map_eq_ok_iff.mpr ⟨items', hr', rfl⟩, ?_⟩
  have hp : ∀ x ∈ items, Proper c x := fun x hm => hx x (given_of_mem_addElements hr x hm).1
  have hp' : ∀ y ∈ items', Proper c y := fun y hm => hy y (given_of_mem_addElements hr' y hm).1
  exact (set_eqv_iff items items').mpr <|
    ((symmTransOn_proper c).length_eq_and_covers_iff hp hp' (distinct_of_addElements hr .nil)
      (distinct_of_addElements hr' .nil)).mpr
      ⟨covers_of_addElements hx hy h.left hr hr', covers_of_addElements hy hx h.right hr' hr⟩

end Value

/-! ### Transformed sets and maps -/

namespace Transformer

open Construct Value

variable {h : Hooks} {c : Catalog} {w : Transformer} {s : State}
  {items elements result : List Value} {entries given : List (Value × Value)} {v : Value}

theorem hashable_of_addTransformed {transformed : Option Value}
    (hr : ((addTransformed c items transformed).exec s).1 = .ok result)
    (hi : ∀ x ∈ items, x.isHashable c = true) : ∀ x ∈ result, x.isHashable c = true := by
  cases transformed with
  | none =>
    obtain rfl := Except.ok.inj hr
    exact hi
  | some v =>
    rw [addTransformed, ensureHashable] at hr
    split at hr
    · simp at hr
    case h_2 hv =>
      obtain rfl := Except.ok.inj hr
      exact forall_insertElement hi (by simpa using hv)

theorem hashable_of_transformElements
    (hr : ((transformElements h c w items elements).exec s).1 = .ok result)
    (hi : ∀ x ∈ items, x.isHashable c = true) : ∀ x ∈ result, x.isHashable c = true := by
  induction elements generalizing items s with
  | nil =>
    obtain rfl := Except.ok.inj hr
    exact hi
  | cons v vs ih =>
    rw [transformElements, exec_bind_eq_ok_iff] at hr
    obtain ⟨transformed, s', -, hr⟩ := hr
    obtain ⟨items', s'', hitems, hr⟩ := exec_bind_eq_ok_iff.mp hr
    exact ih hr (hashable_of_addTransformed (congrArg Prod.fst hitems) hi)

theorem holdable_of_transformElements
    (hr : ((transformElements h c w [] elements).exec s).1 = .ok result) : Holdable c result :=
  ⟨distinct_of_transformElements hr .nil,
    hashable_of_transformElements hr (List.forall_mem_nil _)⟩

/-- Whatever the elements are replaced by, a set is left. -/
theorem isCanonical_of_transform_set (hw : w.value (.set elements) = .proceed)
    (hr : ((transform h c w (.set elements)).exec s).1 = .ok (some v)) : v.IsCanonical c := by
  rw [transform, hw] at hr
  obtain ⟨items, s', hitems, hr⟩ := exec_bind_eq_ok_iff.mp hr
  obtain rfl := Option.some.inj (Except.ok.inj hr)
  exact holdable_of_transformElements (congrArg Prod.fst hitems)

/-- The values of a map may be replaced. Its keys are distinct, and none is new. -/
theorem exists_of_transform_map (hw : w.value (.map given) = .proceed)
    (hr : ((transform h c w (.map given)).exec s).1 = .ok (some v)) :
    ∃ entries, v = .map entries ∧ Distinct c (entries.map (·.1)) ∧
      ∀ k ∈ entries.map (·.1), k ∈ given.map (·.1) := by
  rw [transform, hw] at hr
  obtain ⟨entries, s', hentries, hr⟩ := exec_bind_eq_ok_iff.mp hr
  obtain rfl := Option.some.inj (Except.ok.inj hr)
  have ht := congrArg Prod.fst hentries
  refine ⟨entries, rfl, distinct_of_transformEntries ht .nil, fun k hk => ?_⟩
  exact (mem_keys_of_transformEntries ht k hk).resolve_left List.not_mem_nil

theorem isCanonical_of_transform_map (hw : w.value (.map given) = .proceed)
    (hg : ∀ d ∈ given, d.1.isHashable c = true)
    (hr : ((transform h c w (.map given)).exec s).1 = .ok (some v)) : v.IsCanonical c := by
  obtain ⟨entries, rfl, hdistinct, hkeys⟩ := exists_of_transform_map hw hr
  refine ⟨hdistinct, fun k hk => ?_⟩
  obtain ⟨d, hd, rfl⟩ := List.mem_map.mp (hkeys k hk)
  exact hg d hd

end Transformer

namespace Value

variable {c : Catalog} {v : Value}

theorem Arises.isCanonical (h : Arises c v) : v.IsCanonical c := by
  induction h with
  | @atom _ v h => cases v <;> trivial
  | tuple | list | record => trivial
  | set hm => exact isCanonical_of_ofElements hm
  | map hm => exact isCanonical_of_ofEntries hm
  | transformedSet ht => exact Transformer.holdable_of_transformElements ht
  | transformedMap _ ht _ ih =>
    refine ⟨Transformer.distinct_of_transformEntries ht .nil, fun k hk => ih.hashable k ?_⟩
    exact (Transformer.mem_keys_of_transformEntries ht k hk).resolve_left List.not_mem_nil
  | later hx h ih => exact ih.of_extends hx h.proper

/-! ### The laws of sets and maps -/

/-- A set is made unless an element is unhashable, the first of which is reported. It holds the
first occurrences of the elements. The same elements make equal sets, and the elements of a set make
the same set. -/
structure SetLaws (c : Catalog) : Prop where
  fails : ∀ given, (∃ e, ofElements c given = .error e) ↔ ∃ v ∈ given, v.isHashable c = false
  reports : ∀ given e, ofElements c given = .error e ↔
    ∃ v, FirstUnhashable c given v ∧ e = .unhashable v
  holds : ∀ given, (∀ v ∈ given, Proper c v) → (∀ v ∈ given, v.isHashable c = true) →
    ofElements c given = .ok (.set (firstOccurrences c [] given))
  same : ∀ xs ys, (∀ x ∈ xs, Proper c x) → (∀ y ∈ ys, Proper c y) → SameElements c xs ys →
    ∀ a, ofElements c xs = .ok a → ∃ b, ofElements c ys = .ok b ∧ a.Equal c b
  again : ∀ items, (Value.set items).IsCanonical c → ofElements c items = .ok (.set items)
  made : ∀ given v, ofElements c given = .ok v → v.IsCanonical c
  transformed : ∀ (h : Hooks) (w : Transformer) (s : State) (elements : List Value) (v : Value),
    w.value (.set elements) = .proceed →
    ((w.transform h c (.set elements)).exec s).1 = .ok (some v) → v.IsCanonical c

/-- A map is made unless a key is unhashable, the first of which is reported. It holds the first
occurrences of the keys, each with the last value given to it. The entries of a map make the same
map. Keys are not looked at again when a map is transformed: those that are left are distinct, and
hashable as far as they were before. -/
structure MapLaws (c : Catalog) : Prop where
  fails : ∀ given, (∃ e, ofEntries c given = .error e) ↔ ∃ d ∈ given, d.1.isHashable c = false
  reports : ∀ given e, ofEntries c given = .error e ↔
    ∃ k, FirstUnhashable c (given.map (·.1)) k ∧ e = .unhashable k
  holds : ∀ given, (∀ d ∈ given, Proper c d.1) → (∀ d ∈ given, d.1.isHashable c = true) →
    ∃ entries, ofEntries c given = .ok (.map entries) ∧
      entries.map (·.1) = firstOccurrences c [] (given.map (·.1)) ∧
      ∀ e ∈ entries, LastValue c given e.1 e.2
  again : ∀ entries, (Value.map entries).IsCanonical c → ofEntries c entries = .ok (.map entries)
  made : ∀ given v, ofEntries c given = .ok v → v.IsCanonical c
  transformed : ∀ (h : Hooks) (w : Transformer) (s : State) (given : List (Value × Value))
    (v : Value), w.value (.map given) = .proceed →
    ((w.transform h c (.map given)).exec s).1 = .ok (some v) →
    (∃ entries, v = .map entries ∧ Distinct c (entries.map (·.1)) ∧
      ∀ k ∈ entries.map (·.1), k ∈ given.map (·.1)) ∧
    ((∀ d ∈ given, d.1.isHashable c = true) → v.IsCanonical c)

/-- What sets and maps hold is settled by the elements and entries that they are made from, and all
sets and maps that arise hold distinct and hashable elements and keys. -/
structure CanonicalCollections (c : Catalog) : Prop where
  sets : SetLaws c
  maps : MapLaws c
  arises : ∀ v, Arises c v → v.IsCanonical c

theorem ofElements_eq_error_iff {given : List Value} {e : InstanceError} :
    ofElements c given = .error e ↔ ∃ v, FirstUnhashable c given v ∧ e = .unhashable v :=
  map_eq_error_iff.trans addElements_eq_error_iff

theorem ofEntries_eq_error_iff {given : List (Value × Value)} {e : InstanceError} :
    ofEntries c given = .error e ↔
      ∃ k, FirstUnhashable c (given.map (·.1)) k ∧ e = .unhashable k := by
  rw [ofEntries, map_eq_error_iff, ← map_eq_error_iff (f := List.map (·.1)),
    map_keys_addEntries_nil, addElements_eq_error_iff]

/-- Where an error reports the first unhashable value, there is an error if any is unhashable. -/
theorem exists_error_iff {α : Type} {given : List Value} {x : Except InstanceError α}
    (h : ∀ e, x = .error e ↔ ∃ v, FirstUnhashable c given v ∧ e = .unhashable v) :
    (∃ e, x = .error e) ↔ ∃ v ∈ given, v.isHashable c = false := by
  rw [← exists_firstUnhashable_iff]
  constructor
  · rintro ⟨e, he⟩
    obtain ⟨v, hv, -⟩ := (h e).mp he
    exact ⟨v, hv⟩
  · rintro ⟨v, hv⟩
    exact ⟨_, (h _).mpr ⟨v, hv, rfl⟩⟩

theorem setLaws (c : Catalog) : SetLaws c where
  fails _ := exists_error_iff fun _ => ofElements_eq_error_iff
  reports _ _ := ofElements_eq_error_iff
  holds given hp hh := by
    obtain ⟨result, hr⟩ : ∃ result, addElements c [] given = .ok result :=
      exists_addElements hh
    have hfirsts : result = [] ++ firstOccurrences c [] given :=
      eq_append_firstOccurrences hr (List.forall_mem_nil _) hp fun _ _ => Iff.rfl
    rw [ofElements, hr, hfirsts]
    rfl
  same _ _ hx hy h _ := exists_ofElements_of_sameElements hx hy h
  again items h := map_eq_ok_iff.mpr ⟨items, addElements_of_holdable h, rfl⟩
  made _ _ := isCanonical_of_ofElements
  transformed _ _ _ _ _ := Transformer.isCanonical_of_transform_set

theorem mapLaws (c : Catalog) : MapLaws c where
  fails given := by
    rw [exists_error_iff fun _ => ofEntries_eq_error_iff]
    simp
  reports _ _ := ofEntries_eq_error_iff
  holds given hp hh := by
    have hkeys := map_keys_addEntries_nil (c := c) given
    obtain ⟨keys, hr⟩ : ∃ keys, addElements c [] (given.map (·.1)) = .ok keys :=
      exists_addElements (List.forall_mem_map.mpr hh)
    obtain ⟨entries, hentries, rfl⟩ := map_eq_ok_iff.mp (hkeys.trans hr)
    have hfirsts : entries.map (·.1) = [] ++ firstOccurrences c [] (given.map (·.1)) :=
      eq_append_firstOccurrences hr (List.forall_mem_nil _) (List.forall_mem_map.mpr hp)
        fun _ _ => Iff.rfl
    have hlast : ∀ e ∈ entries, LastValue c ([] ++ given) e.1 e.2 :=
      lastValue_of_addEntries hentries hp (List.forall_mem_nil _) .nil (List.forall_mem_nil _)
    exact ⟨entries, map_eq_ok_iff.mpr ⟨entries, hentries, rfl⟩, hfirsts, hlast⟩
  again entries h := map_eq_ok_iff.mpr ⟨entries, addEntries_of_holdable h, rfl⟩
  made _ _ := isCanonical_of_ofEntries
  transformed _ _ _ _ _ hw hr :=
    ⟨Transformer.exists_of_transform_map hw hr,
      fun hg => Transformer.isCanonical_of_transform_map hw hg hr⟩

theorem canonicalCollections (c : Catalog) : CanonicalCollections c where
  sets := setLaws c
  maps := mapLaws c
  arises _ := Arises.isCanonical

/-- A list stays a key of a map that was not made from its entries. -/
theorem not_isCanonical_of_transform :
    ¬ ∀ (c : Catalog) (h : Hooks) (w : Transformer) (s : State) (v left : Value),
      w.value v = .proceed → ((w.transform h c v).exec s).1 = .ok (some left) →
      left.IsCanonical c := by
  intro hall
  let given : Value := .map [(.list [], .none)]
  have hcanonical := hall {} PureHooks.permissive.toHooks {} {} given given rfl rfl
  cases hcanonical.hashable (.list []) List.mem_cons_self

/-- The first place and the last value of a key that is given twice. -/
example : ofEntries World.baseWorld.catalog
    [(.int 1, .str "a"), (.int 2, .str "b"), (.int 1, .str "c")] =
      .ok (.map [(.int 1, .str "c"), (.int 2, .str "b")]) := rfl

end Value

end TypedTree
