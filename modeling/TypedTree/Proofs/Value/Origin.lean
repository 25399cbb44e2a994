import TypedTree.Proofs.Construction.Execution
import TypedTree.Proofs.Value.Equivalence
import TypedTree.Tree.Transform

/-! # Values whose sets and maps were made as sets and maps -/

namespace TypedTree

namespace Value

variable {c : Catalog} {items elements result : List Value} {entries given : List (Value × Value)}

/-! ### Adding elements and entries -/

/-- An equal value is among the items. -/
def Holds (c : Catalog) (items : List Value) (v : Value) : Prop :=
  ∃ x ∈ items, x.Equal c v

theorem any_eqv_iff {v : Value} : items.any (fun x => x.eqv c v) = true ↔ Holds c items v :=
  List.any_eq_true

theorem insertElement_of_holds {v : Value} (h : Holds c items v) :
    insertElement c items v = items :=
  if_pos (any_eqv_iff.mpr h)

theorem insertElement_of_not_holds {v : Value} (h : ¬ Holds c items v) :
    insertElement c items v = items ++ [v] :=
  if_neg (mt any_eqv_iff.mp h)

theorem mem_insertElement {v x : Value} (hx : x ∈ insertElement c items v) :
    x ∈ items ∨ x = v := by
  by_cases h : Holds c items v
  · rw [insertElement_of_holds h] at hx
    exact .inl hx
  · rw [insertElement_of_not_holds h] at hx
    exact (List.mem_append.mp hx).imp_right List.mem_singleton.mp

theorem distinct_insertElement (hd : Distinct c items) (v : Value) :
    Distinct c (insertElement c items v) := by
  by_cases h : Holds c items v
  · rwa [insertElement_of_holds h]
  · rw [insertElement_of_not_holds h]
    refine List.pairwise_append.mpr ⟨hd, List.pairwise_singleton _ v, fun x hx v' hv' he => ?_⟩
    exact h ⟨x, hx, List.mem_singleton.mp hv' ▸ he⟩

theorem insertEntry_of_not_holds {k v : Value} (h : ¬ Holds c (entries.map (·.1)) k) :
    insertEntry c k v entries = entries ++ [(k, v)] := by
  induction entries with
  | nil => rfl
  | cons d entries ih =>
    have hd : ¬ d.1.Equal c k := fun he => h ⟨d.1, List.mem_cons_self, he⟩
    have hrest : ¬ Holds c (entries.map (·.1)) k := by
      rintro ⟨x, hx, he⟩
      exact h ⟨x, List.mem_cons_of_mem d.1 hx, he⟩
    rw [insertEntry, if_neg hd, ih hrest, List.cons_append]

/-- The keys of a map grow like a set. -/
theorem keys_insertEntry (k v : Value) (entries : List (Value × Value)) :
    (insertEntry c k v entries).map (·.1) = insertElement c (entries.map (·.1)) k := by
  induction entries with
  | nil => rfl
  | cons e es ih =>
    obtain ⟨k', v'⟩ := e
    rw [insertElement] at ih ⊢
    rw [insertEntry, List.map_cons, List.any_cons]
    cases hk : k'.eqv c k with
    | true => simp
    | false =>
      simp only [Bool.false_eq_true, if_false, List.map_cons, Bool.false_or, ih]
      split <;> rfl

theorem distinct_of_addElements (hr : addElements c items elements = .ok result)
    (h : Distinct c items) : Distinct c result := by
  induction elements generalizing items with
  | nil =>
    obtain rfl := Except.ok.inj hr
    exact h
  | cons v vs ih =>
    obtain ⟨-, -, hr⟩ := bind_eq_ok_iff.mp hr
    exact ih hr (distinct_insertElement h v)

theorem map_keys_addEntries (entries given : List (Value × Value)) :
    (addEntries c entries given).map (List.map (·.1)) =
      addElements c (entries.map (·.1)) (given.map (·.1)) := by
  induction given generalizing entries with
  | nil => rfl
  | cons e es ih =>
    rw [addEntries, List.map_cons, addElements, ← keys_insertEntry e.1 e.2, ← ih]
    cases e.1.ensureHashable c <;> rfl

theorem map_keys_addEntries_nil (given : List (Value × Value)) :
    (addEntries c [] given).map (List.map (·.1)) = addElements c [] (given.map (·.1)) :=
  map_keys_addEntries [] given

/-- The keys of a map are made like the elements of a set. -/
theorem keys_of_addEntries (hr : addEntries c [] given = .ok entries) :
    addElements c [] (given.map (·.1)) = .ok (entries.map (·.1)) := by
  rw [← map_keys_addEntries_nil, hr]
  rfl

/-- What is in a set was there before or is one of the elements, which have to be hashable. -/
theorem hashable_of_mem_addElements (hr : addElements c items elements = .ok result) :
    ∀ x ∈ result, x ∈ items ∨ x ∈ elements ∧ x.isHashable c = true := by
  induction elements generalizing items with
  | nil =>
    obtain rfl := Except.ok.inj hr
    exact fun x hx => .inl hx
  | cons v vs ih =>
    obtain ⟨_, hv, hr⟩ := bind_eq_ok_iff.mp hr
    have hhashable : v.isHashable c = true := by
      rw [ensureHashable] at hv
      split at hv
      · assumption
      · cases hv
    intro x hx
    rcases ih hr x hx with hx | ⟨hx, hh⟩
    · refine (mem_insertElement hx).imp_right ?_
      rintro rfl
      exact ⟨List.mem_cons_self, hhashable⟩
    · exact .inr ⟨List.mem_cons_of_mem v hx, hh⟩

theorem forall_insertEntry {P Q : Value → Prop} {k v : Value} (hk : P k) (hv : Q v)
    (h : ∀ e ∈ entries, P e.1 ∧ Q e.2) : ∀ e ∈ insertEntry c k v entries, P e.1 ∧ Q e.2 := by
  induction entries with
  | nil => exact List.forall_mem_singleton.mpr ⟨hk, hv⟩
  | cons e es ih =>
    obtain ⟨he, hes⟩ := List.forall_mem_cons.mp h
    rw [insertEntry]
    split
    · exact List.forall_mem_cons.mpr ⟨⟨he.1, hv⟩, hes⟩
    · exact List.forall_mem_cons.mpr ⟨he, ih hes⟩

/-- The keys and values of a map come from the entries. -/
theorem forall_of_addEntries {P Q : Value → Prop} {added : List (Value × Value)}
    (hr : addEntries c entries given = .ok added) (hg : ∀ e ∈ given, P e.1 ∧ Q e.2)
    (h : ∀ e ∈ entries, P e.1 ∧ Q e.2) : ∀ e ∈ added, P e.1 ∧ Q e.2 := by
  induction given generalizing entries with
  | nil =>
    obtain rfl := Except.ok.inj hr
    exact h
  | cons e es ih =>
    obtain ⟨-, -, hr⟩ := bind_eq_ok_iff.mp hr
    obtain ⟨he, hes⟩ := List.forall_mem_cons.mp hg
    exact ih hr hes (forall_insertEntry he.1 he.2 h)

theorem given_of_mem_addElements (hr : addElements c [] elements = .ok result) :
    ∀ x ∈ result, x ∈ elements ∧ x.isHashable c = true :=
  fun x hx => (hashable_of_mem_addElements hr x hx).resolve_left List.not_mem_nil

theorem hashable_of_mem_ofElements (h : ofElements c elements = .ok (.set items)) :
    ∀ x ∈ items, x ∈ elements ∧ x.isHashable c = true := by
  obtain ⟨result, hr, he⟩ := map_eq_ok_iff.mp h
  obtain rfl := Value.set.inj he
  exact given_of_mem_addElements hr

/-- A key and a value of a map may come from different entries. -/
theorem exists_of_mem_ofEntries (h : ofEntries c given = .ok (.map entries)) {e : Value × Value}
    (he : e ∈ entries) : (∃ d ∈ given, d.1 = e.1) ∧ ∃ d ∈ given, d.2 = e.2 := by
  obtain ⟨result, hr, hmap⟩ := map_eq_ok_iff.mp h
  obtain rfl := Value.map.inj hmap
  exact forall_of_addEntries (P := fun k => ∃ d ∈ given, d.1 = k)
    (Q := fun v => ∃ d ∈ given, d.2 = v) hr (fun d hd => ⟨⟨d, hd, rfl⟩, d, hd, rfl⟩) (by simp) e he

theorem distinct_of_ofElements (h : ofElements c elements = .ok (.set items)) :
    Distinct c items := by
  obtain ⟨result, hr, he⟩ := map_eq_ok_iff.mp h
  obtain rfl := Value.set.inj he
  exact distinct_of_addElements hr .nil

theorem distinct_of_ofEntries (h : ofEntries c given = .ok (.map entries)) :
    Distinct c (entries.map (·.1)) := by
  obtain ⟨result, hr, he⟩ := map_eq_ok_iff.mp h
  obtain rfl := Value.map.inj he
  exact distinct_of_addElements (keys_of_addEntries hr) .nil

end Value

/-! ### Transformed sets and maps -/

namespace Transformer

open Construct

variable {h : Hooks} {c : Catalog} {w : Transformer} {s : State}
  {items elements result : List Value} {entries given : List (Value × Value)}

theorem distinct_of_addTransformed {v : Option Value}
    (hr : ((addTransformed c items v).exec s).1 = .ok result) (hd : Value.Distinct c items) :
    Value.Distinct c result := by
  cases v with
  | none =>
    obtain rfl := Except.ok.inj hr
    exact hd
  | some v =>
    rw [addTransformed] at hr
    cases hv : v.ensureHashable c with
    | error e => simp [hv] at hr
    | ok =>
      simp only [hv, exec_pure, Except.ok.injEq] at hr
      exact hr ▸ Value.distinct_insertElement hd v

theorem distinct_of_transformElements
    (hr : ((transformElements h c w items elements).exec s).1 = .ok result)
    (hd : Value.Distinct c items) : Value.Distinct c result := by
  induction elements generalizing items s with
  | nil =>
    obtain rfl := Except.ok.inj hr
    exact hd
  | cons v vs ih =>
    rw [transformElements, exec_bind_eq_ok_iff] at hr
    obtain ⟨transformed, s', -, hr⟩ := hr
    obtain ⟨items', s'', hi, hr⟩ := exec_bind_eq_ok_iff.mp hr
    exact ih hr (distinct_of_addTransformed (congrArg Prod.fst hi) hd)

theorem distinct_putTransformed (hd : Value.Distinct c (entries.map (·.1))) (k : Value)
    (transformed : Option Value) :
    Value.Distinct c ((putTransformed c k entries transformed).map (·.1)) := by
  cases transformed with
  | none => exact hd
  | some v =>
    rw [putTransformed, Value.keys_insertEntry]
    exact Value.distinct_insertElement hd k

theorem mem_keys_putTransformed {k x : Value} {transformed : Option Value}
    (hx : x ∈ (putTransformed c k entries transformed).map (·.1)) :
    x ∈ entries.map (·.1) ∨ x = k := by
  cases transformed with
  | none => exact .inl hx
  | some v =>
    rw [putTransformed, Value.keys_insertEntry] at hx
    exact Value.mem_insertElement hx

/-- Whatever the given keys are, those of the new map are distinct. -/
theorem distinct_of_transformEntries {left : List (Value × Value)}
    (hr : ((transformEntries h c w entries given).exec s).1 = .ok left)
    (hd : Value.Distinct c (entries.map (·.1))) : Value.Distinct c (left.map (·.1)) := by
  induction given generalizing entries s with
  | nil =>
    obtain rfl := Except.ok.inj hr
    exact hd
  | cons e es ih =>
    rw [transformEntries, exec_bind_eq_ok_iff] at hr
    obtain ⟨transformed, s', -, hr⟩ := hr
    exact ih hr (distinct_putTransformed hd e.1 transformed)

/-- Keys are kept, and some may leave with their values. -/
theorem mem_keys_of_transformEntries {left : List (Value × Value)}
    (hr : ((transformEntries h c w entries given).exec s).1 = .ok left) :
    ∀ k ∈ left.map (·.1), k ∈ entries.map (·.1) ∨ k ∈ given.map (·.1) := by
  induction given generalizing entries s with
  | nil =>
    obtain rfl := Except.ok.inj hr
    exact fun k hk => .inl hk
  | cons e es ih =>
    rw [transformEntries, exec_bind_eq_ok_iff] at hr
    obtain ⟨transformed, s', -, hr⟩ := hr
    intro k hk
    rcases ih hr k hk with hk | hk
    · refine (mem_keys_putTransformed hk).imp_right ?_
      rintro rfl
      exact List.mem_cons_self
    · exact .inr (List.mem_cons_of_mem e.1 hk)

end Transformer

namespace Value

variable {c c' : Catalog} {v : Value}

/-! ### Origins -/

/-- A value is put together from values of that kind, where a set or map is made from elements or
entries or comes from transforming one, and a record has a known type and a value for each of its
fields. It remains one when types are added. -/
inductive Arises : Catalog → Value → Prop where
  | atom {c : Catalog} {v : Value} (h : v.isAtom = true) : Arises c v
  | tuple {c : Catalog} {xs : List Value} (h : ∀ x ∈ xs, Arises c x) : Arises c (.tuple xs)
  | list {c : Catalog} {xs : List Value} (h : ∀ x ∈ xs, Arises c x) : Arises c (.list xs)
  | set {c : Catalog} {elements items : List Value}
      (hm : ofElements c elements = .ok (.set items)) (h : ∀ x ∈ items, Arises c x) :
      Arises c (.set items)
  | map {c : Catalog} {given entries : List (Value × Value)}
      (hm : ofEntries c given = .ok (.map entries)) (hk : ∀ e ∈ entries, Arises c e.1)
      (hv : ∀ e ∈ entries, Arises c e.2) : Arises c (.map entries)
  | record {c : Catalog} {r : Record} (ht : r.type < c.schemas.length)
      (hl : r.values.length = (r.schema c).fields.length) (h : ∀ v ∈ r.values, Arises c v) :
      Arises c (.record r)
  | transformedSet {c : Catalog} {hooks : Hooks} {w : Transformer} {s : State}
      {elements items : List Value}
      (ht : ((w.transformElements hooks c [] elements).exec s).1 = .ok items)
      (h : ∀ x ∈ items, Arises c x) : Arises c (.set items)
  | transformedMap {c : Catalog} {hooks : Hooks} {w : Transformer} {s : State}
      {given entries : List (Value × Value)} (hg : Arises c (.map given))
      (ht : ((w.transformEntries hooks c [] given).exec s).1 = .ok entries)
      (hv : ∀ e ∈ entries, Arises c e.2) : Arises c (.map entries)
  | later {c c' : Catalog} {v : Value} (hx : c.Extends c') (h : Arises c v) : Arises c' v

theorem Arises.proper (h : Arises c v) : Proper c v := by
  induction h with
  | atom h => exact .atom h
  | tuple _ ih => exact .tuple ih
  | list _ ih => exact .list ih
  | set hm _ ih => exact .set ih (distinct_of_ofElements hm)
  | map hm _ _ ihk ihv => exact .map ihk ihv (distinct_of_ofEntries hm)
  | record ht hl _ ih => exact .record ht hl ih
  | transformedSet ht _ ih => exact .set ih (Transformer.distinct_of_transformElements ht .nil)
  | transformedMap _ ht _ ihg ihv =>
    refine .map (fun e he => ?_) ihv (Transformer.distinct_of_transformEntries ht .nil)
    have hkey := Transformer.mem_keys_of_transformEntries ht e.1 (List.mem_map_of_mem he)
    obtain ⟨g, hg, heq⟩ := List.mem_map.mp (hkey.resolve_left List.not_mem_nil)
    rw [← heq]
    exact ihg.of_mem_parts (List.mem_flatMap.mpr ⟨g, hg, List.mem_cons_self⟩)
  | later hx _ ih => exact ih.of_extends hx

/-! ### The laws of equality -/

/-- Equality is an equivalence. Only values of one shape are equal, by their parts: sets and maps
when they hold equal elements and equal entries, in whatever order, and records when they are of one
type with equal values in the fields that take part in equality. Equal values feed the same data to
a hash. -/
structure EqualityLaws (c : Catalog) (P : Value → Prop) : Prop where
  refl : ∀ a, P a → a.Equal c a
  symm : ∀ a b, P a → P b → a.Equal c b → b.Equal c a
  trans : ∀ a b d, P a → P b → P d → a.Equal c b → b.Equal c d → a.Equal c d
  shapes : ∀ a b, a.Equal c b ↔ Equates c a b
  set : ∀ xs ys, P (.set xs) → P (.set ys) →
    ((Value.set xs).Equal c (.set ys) ↔ Covers (Equal c) xs ys ∧ Covers (Equal c) ys xs)
  map : ∀ xs ys, P (.map xs) → P (.map ys) →
    ((Value.map xs).Equal c (.map ys) ↔ Covers (EntryEqual c) xs ys ∧ Covers (EntryEqual c) ys xs)
  record : ∀ r s, (Value.record r).Equal c (.record s) ↔
    r.type = s.type ∧ FieldsEqual c (r.schema c).fields r.values s.values
  hash : ∀ a b, P a → P b → a.Equal c b →
    a.hashData c = b.hashData c ∧ SameFeed c a b

theorem equalityLaws_proper (hc : c.Regular) : EqualityLaws c (Proper c) where
  refl _ ha := ha.eqv_refl
  symm _ _ ha hb := (symmTransOn_proper c).symm ha hb
  trans _ _ _ ha hb hd := (symmTransOn_proper c).trans ha hb hd
  shapes _ _ := eqv_iff
  set xs ys hx hy := by
    have hP := symmTransOn_proper c
    have hpx : ∀ x ∈ xs, Proper c x := fun x hm => hx.of_mem_parts hm
    have hpy : ∀ y ∈ ys, Proper c y := fun y hm => hy.of_mem_parts hm
    exact (set_eqv_iff xs ys).trans
      (hP.length_eq_and_covers_iff hpx hpy hx.distinct_set hy.distinct_set)
  map xs ys hx hy := by
    have hP := symmTransOn_proper c
    have hpx := forall_parts_map_iff.mp fun v hm => hx.of_mem_parts hm
    have hpy := forall_parts_map_iff.mp fun v hm => hy.of_mem_parts hm
    exact (map_eqv_iff hP hpx hpy hy.distinct_keys).trans
      ((symmTransOn_entries hP).length_eq_and_covers_iff hpx hpy
        (pairwise_entries hx.distinct_keys) (pairwise_entries hy.distinct_keys))
  record := Record.eqv_iff
  hash a b ha hb h := ⟨ha.sameFeed hc hb h [], ha.sameFeed hc hb h⟩

theorem EqualityLaws.mono {P Q : Value → Prop} (h : EqualityLaws c P) (hq : ∀ v, Q v → P v) :
    EqualityLaws c Q where
  refl a ha := h.refl a (hq a ha)
  symm a b ha hb := h.symm a b (hq a ha) (hq b hb)
  trans a b d ha hb hd := h.trans a b d (hq a ha) (hq b hb) (hq d hd)
  shapes := h.shapes
  set xs ys hx hy := h.set xs ys (hq _ hx) (hq _ hy)
  map xs ys hx hy := h.map xs ys (hq _ hx) (hq _ hy)
  record := h.record
  hash a b ha hb := h.hash a b (hq a ha) (hq b hb)

end Value

namespace World

variable {w : World}

/-- In all worlds that operations can reach, equality of the values that can arise is an
equivalence, and hashing respects it. -/
theorem Reachable.equalityLaws (hw : Reachable w) :
    Value.EqualityLaws w.catalog (Value.Arises w.catalog) :=
  (Value.equalityLaws_proper hw.regular).mono fun _ hv => hv.proper

/-- A record of the base type that holds a set. -/
def recordWithSet (items : List Value) : Value :=
  .record ⟨0, [.set items, .none], none, []⟩

theorem arises_recordWithSet {items : List Value} (hi : ∀ v ∈ items, v.isAtom = true)
    (hm : Value.ofElements baseWorld.catalog items = .ok (.set items)) :
    Value.Arises baseWorld.catalog (recordWithSet items) := by
  have ht : 0 < baseWorld.catalog.schemas.length := by decide
  refine .record ht rfl fun v hv => ?_
  simp only [List.mem_cons, List.not_mem_nil, or_false] at hv
  rcases hv with rfl | rfl
  · exact .set hm fun x hx => .atom (hi x hx)
  · exact .atom rfl

/-- Sets that differ in the order of insertion are equal, and so are records that hold them; they
feed the same data to a hash. -/
theorem equalityLaws_baseWorld :
    Reachable baseWorld ∧
      (Value.set [.int 1, .int 2]).Equal baseWorld.catalog (.set [.int 2, .int 1]) ∧
      (recordWithSet [.int 1, .int 2]).hashData baseWorld.catalog =
        (recordWithSet [.int 2, .int 1]).hashData baseWorld.catalog := by
  have hlaws := Reachable.equalityLaws reachable_baseWorld
  have hatoms : ∀ v ∈ [Value.int 1, .int 2], v.isAtom = true := by simp [Value.isAtom]
  have hatoms' : ∀ v ∈ [Value.int 2, .int 1], v.isAtom = true := by simp [Value.isAtom]
  have hmade : Value.ofElements baseWorld.catalog [.int 1, .int 2] =
    .ok (.set [.int 1, .int 2]) := rfl
  have hmade' : Value.ofElements baseWorld.catalog [.int 2, .int 1] =
    .ok (.set [.int 2, .int 1]) := rfl
  have hset : Value.Arises baseWorld.catalog (.set [.int 1, .int 2]) :=
    .set hmade fun x hx => .atom (hatoms x hx)
  have hset' : Value.Arises baseWorld.catalog (.set [.int 2, .int 1]) :=
    .set hmade' fun x hx => .atom (hatoms' x hx)
  refine ⟨reachable_baseWorld, (hlaws.set _ _ hset hset').mpr ?_, ?_⟩
  · simp [Covers, Value.Equal, Value.eqv]
  · have ha := arises_recordWithSet hatoms hmade
    have hb := arises_recordWithSet hatoms' hmade'
    exact (hlaws.hash _ _ ha hb rfl).1

end World

end TypedTree
