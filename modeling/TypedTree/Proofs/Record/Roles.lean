import TypedTree.Proofs.Schema.Representation
import TypedTree.Proofs.Value.Equality
import TypedTree.Tree.Children
import TypedTree.Value.Order

/-! # What the role of a field means for the instances -/

namespace TypedTree

/-! ### The naming convention -/

namespace FieldKind

variable (name : String)

theorem classify_eq_note_iff : classify name = .note ↔ "_attr_".toList <:+ name.toList := by
  simp only [classify, List.isPrefixOf_iff_prefix, List.reverse_prefix]
  split
  · simp_all
  · split <;> simp_all

theorem classify_eq_child_iff : classify name = .child ↔ ¬ "_".toList <:+ name.toList := by
  have hreverse : "_".toList <+: name.toList.reverse ↔ "_".toList <:+ name.toList := by
    rw [← List.reverse_prefix]
    rfl
  have hsuffix : "_".toList <:+ "_attr_".toList := ⟨"_attr".toList, rfl⟩
  simp only [classify, List.isPrefixOf_iff_prefix, List.reverse_prefix, hreverse]
  split
  · rename_i h
    exact ⟨fun hk => (by cases hk), fun hn => absurd (hsuffix.trans h) hn⟩
  · split <;> simp_all

end FieldKind

/-! ### Values that take no part -/

/-- Two lists of values agree at the places of the fields that satisfy a condition. -/
inductive AgreeOn (p : Field → Bool) : List Field → List Value → List Value → Prop where
  | noFields (xs ys : List Value) : AgreeOn p [] xs ys
  | noValues (fields : List Field) : AgreeOn p fields [] []
  | cons {f : Field} {fields : List Field} {x y : Value} {xs ys : List Value}
      (hx : p f = true → x = y) (h : AgreeOn p fields xs ys) :
      AgreeOn p (f :: fields) (x :: xs) (y :: ys)

section

variable {c : Catalog} {p : Field → Bool} {fields : List Field} {f : Field} {i : Nat}
  {xs xs' ys ys' : List Value}

theorem AgreeOn.refl (fields : List Field) (xs : List Value) : AgreeOn p fields xs xs := by
  induction fields generalizing xs with
  | nil => exact .noFields xs xs
  | cons f fields ih =>
    cases xs with
    | nil => exact .noValues _
    | cons x xs => exact .cons (fun _ => rfl) (ih xs)

/-- The value of any other field may change. -/
theorem agreeOn_set (hf : fields[i]? = some f) (hp : p f = false) (v : Value) (xs : List Value) :
    AgreeOn p fields (xs.set i v) xs := by
  induction fields generalizing i xs with
  | nil => cases hf
  | cons g fields ih =>
    cases xs with
    | nil => exact .noValues _
    | cons x xs =>
      cases i with
      | zero =>
        obtain rfl := Option.some.inj hf
        exact .cons (fun h => absurd (hp.symm.trans h) Bool.false_ne_true) (.refl fields xs)
      | succ i => exact .cons (fun _ => rfl) (ih hf xs)

theorem AgreeOn.eqvFields_eq (hx : AgreeOn (·.flags.eq) fields xs xs')
    (hy : AgreeOn (·.flags.eq) fields ys ys') :
    Value.eqvFields c fields xs ys = Value.eqvFields c fields xs' ys' := by
  induction hx generalizing ys ys' with
  | noFields xs xs' => cases xs <;> cases xs' <;> rfl
  | noValues => rfl
  | @cons f _ _ _ _ _ hx _ ih =>
    cases hy with
    | noValues => rfl
    | cons hy h =>
      rw [Value.eqvFields, Value.eqvFields, ih h]
      cases he : f.flags.eq with
      | false => rfl
      | true => rw [hx he, hy he]

theorem AgreeOn.orderFields_eq (hx : AgreeOn (·.flags.order) fields xs xs')
    (hy : AgreeOn (·.flags.order) fields ys ys') :
    Value.orderFields c fields xs ys = Value.orderFields c fields xs' ys' := by
  induction hx generalizing ys ys' with
  | noFields xs xs' => cases xs <;> cases xs' <;> rfl
  | noValues => rfl
  | @cons f _ _ _ _ _ hx _ ih =>
    cases hy with
    | noValues => rfl
    | cons hy h =>
      rw [Value.orderFields, Value.orderFields, ih h]
      cases ho : f.flags.order with
      | false => rfl
      | true => rw [hx ho, hy ho]

theorem AgreeOn.feedFields_eq (hx : AgreeOn (·.flags.hash) fields xs xs')
    (rest : List HashToken) :
    Value.feedFields c fields xs rest = Value.feedFields c fields xs' rest := by
  induction hx with
  | noFields xs xs' => cases xs <;> cases xs' <;> rfl
  | noValues => rfl
  | @cons f _ _ _ _ _ hx _ ih =>
    rw [Value.feedFields, Value.feedFields, ih]
    cases hh : f.flags.hash with
    | false => rfl
    | true => rw [hx hh]

end

/-! ### Roles -/

variable {c : Catalog} {t : TypeId} {i : Nat} {f : Field}

/-- The field is not among the children of instances. -/
def NeverChild (c : Catalog) (t : TypeId) (f : Field) : Prop :=
  ∀ r : Record, r.type = t → ∀ child ∈ (Value.record r).children c, child.1 ≠ .field f.name

/-- What instances of a type do with the annotation at a place of the field table: its value does
not matter in comparisons, and it can be assigned unless the type is frozen. -/
structure ActsAsNote (c : Catalog) (t : TypeId) (i : Nat) (f : Field) : Prop where
  eqv : ∀ (r s : Record) (v : Value), r.type = t →
    (r.setSlot i v).eqv c s = r.eqv c s ∧ s.eqv c (r.setSlot i v) = s.eqv c r
  order : ∀ (r s : Record) (v : Value), r.type = t →
    (r.setSlot i v).order c s = r.order c s ∧ s.order c (r.setSlot i v) = s.order c r
  hash : ∀ (r : Record) (v : Value), r.type = t →
    ∀ rest, (r.setSlot i v).feed c rest = r.feed c rest
  child : NeverChild c t f
  assign : ∀ (r : Record) (v : Value), r.type = t → (c.schema t).flags.frozen = false →
    r.annotate c f.name v = .ok (r.setSlot i v)

/-- What instances of a type do with the child field at a place of the field table: its value is
among the children of nodes, and it cannot be assigned as an annotation. A record that refuses this
stays as it is. -/
structure ActsAsChild (c : Catalog) (t : TypeId) (i : Nat) (f : Field) : Prop where
  child : ∀ r : Record, r.type = t → r.isNode = true → ∀ v, r.values[i]? = some v →
    (.field f.name, v) ∈ (Value.record r).children c
  assign : ∀ (r : Record) (v : Value), r.type = t → (c.schema t).flags.frozen = false →
    r.annotate c f.name v = .error (.unexpectedArgument t f.name, r)

theorem Schema.mem_select_iff {α : Type} (s : Schema) (p : Field → Bool) (xs : List α)
    (entry : String × α) : entry ∈ s.select p xs ↔ ∃ (i : Nat) (f : Field) (x : α),
      s.fields[i]? = some f ∧ xs[i]? = some x ∧ p f = true ∧ entry = (f.name, x) := by
  rw [select, List.mem_filterMap]
  constructor
  · rintro ⟨⟨f, x⟩, hm, he⟩
    obtain ⟨i, hi⟩ := List.mem_iff_getElem?.mp hm
    obtain ⟨hf, hx⟩ := List.getElem?_zip_eq_some.mp hi
    obtain ⟨hp, rfl⟩ : p f = true ∧ (f.name, x) = entry := by simpa using he
    exact ⟨i, f, x, hf, hx, hp, rfl⟩
  · rintro ⟨i, f, x, hf, hx, hp, rfl⟩
    have hi : (s.fields.zip xs)[i]? = some (f, x) := List.getElem?_zip_eq_some.mpr ⟨hf, hx⟩
    exact ⟨(f, x), List.mem_of_getElem? hi, by simp [hp]⟩

/-- The children of a node are the values of its child fields. -/
theorem mem_children_record_iff (r : Record) (child : TreeKey × Value) :
    child ∈ (Value.record r).children c ↔ r.isNode = true ∧
      ∃ (i : Nat) (f : Field) (v : Value), (r.schema c).fields[i]? = some f ∧
        r.values[i]? = some v ∧ f.kind = .child ∧ child = (.field f.name, v) := by
  rw [Value.children]
  by_cases hn : r.isNode = true
  · simp only [hn, if_true, true_and, List.mem_map, Record.children, Record.ofKind,
      Schema.mem_select_iff, beq_iff_eq]
    constructor
    · rintro ⟨_, ⟨i, f, v, hf, hv, hk, rfl⟩, rfl⟩
      exact ⟨i, f, v, hf, hv, hk, rfl⟩
    · rintro ⟨i, f, v, hf, hv, hk, rfl⟩
      exact ⟨_, ⟨i, f, v, hf, hv, hk, rfl⟩, rfl⟩
  · simp [hn]

/-- Names are distinct, so a field of another role has no place among the children. -/
theorem neverChild_of_kind (hs : (c.schema t).Regular c) (hf : (c.schema t).fields[i]? = some f)
    (hk : f.kind ≠ .child) : NeverChild c t f := by
  rintro r rfl child hc
  obtain ⟨-, j, g, v, hg, -, hgk, rfl⟩ := (mem_children_record_iff r child).mp hc
  intro he
  have hname : g.name = f.name := TreeKey.field.inj he
  have hgf : g = f := List.inj_on_of_nodup_map hs.names (List.mem_of_getElem? hg)
    (List.mem_of_getElem? hf) hname
  exact hk (hgf ▸ hgk)

/-- Whether a field can be assigned as an annotation depends on its role. -/
theorem annotate_eq (hs : (c.schema t).Regular c) (hf : (c.schema t).fields[i]? = some f)
    (hz : (c.schema t).flags.frozen = false) {r : Record} (hr : r.type = t) (v : Value) :
    r.annotate c f.name v = if f.kind = .note then .ok (r.setSlot i v)
      else .error (.unexpectedArgument t f.name, r) := by
  subst hr
  have hslot : (r.schema c).slot? f.name = some i := hs.indexed.find?_name hf
  have hf' : (r.schema c).fields[i]? = some f := hf
  have hz' : (r.schema c).flags.frozen = false := hz
  rw [Record.annotate, hz', hslot]
  simp [hf']

theorem Record.order_eq (r s : Record) : r.order c s =
    if r.type = s.type ∧ (r.schema c).flags.ordered then
      Value.orderFields c (r.schema c).fields r.values s.values
    else .error (.unorderedRecords r.type s.type) := by
  cases r
  rfl

/-- Records are equal like those of their types that agree with them where it matters. -/
theorem Record.eqv_congr {r r' s s' : Record} (hr : r.type = r'.type) (hs : s.type = s'.type)
    (hrv : AgreeOn (·.flags.eq) (r.schema c).fields r.values r'.values)
    (hsv : AgreeOn (·.flags.eq) (s.schema c).fields s.values s'.values) :
    r.eqv c s = r'.eqv c s' := by
  have hschema : r'.schema c = r.schema c := congrArg c.schema hr.symm
  rw [Record.eqv_eq, Record.eqv_eq, hschema, ← hr, ← hs]
  by_cases ht : r.type = s.type
  · rw [Record.schema, ← ht] at hsv
    rw [hrv.eqvFields_eq hsv]
  · rw [beq_false_of_ne ht, Bool.false_and, Bool.false_and]

theorem Record.order_congr {r r' s s' : Record} (hr : r.type = r'.type) (hs : s.type = s'.type)
    (hrv : AgreeOn (·.flags.order) (r.schema c).fields r.values r'.values)
    (hsv : AgreeOn (·.flags.order) (s.schema c).fields s.values s'.values) :
    r.order c s = r'.order c s' := by
  have hschema : r'.schema c = r.schema c := congrArg c.schema hr.symm
  rw [Record.order_eq, Record.order_eq, hschema, ← hr, ← hs]
  by_cases ht : r.type = s.type
  · rw [Record.schema, ← ht] at hsv
    rw [hrv.orderFields_eq hsv]
  · simp [ht]

theorem actsAsNote (hs : (c.schema t).Regular c) (hf : (c.schema t).fields[i]? = some f)
    (hk : f.kind = .note) : ActsAsNote c t i f := by
  obtain ⟨he, ho, hh⟩ := (hs.fields f (List.mem_of_getElem? hf)).note hk
  refine ⟨?_, ?_, ?_, neverChild_of_kind hs hf (by simp [hk]), ?_⟩
  · rintro r s v rfl
    have hset := agreeOn_set (p := (·.flags.eq)) hf he v r.values
    have hself := AgreeOn.refl (p := (·.flags.eq)) (s.schema c).fields s.values
    exact ⟨Record.eqv_congr rfl rfl hset hself, Record.eqv_congr rfl rfl hself hset⟩
  · rintro r s v rfl
    have hset := agreeOn_set (p := (·.flags.order)) hf ho v r.values
    have hself := AgreeOn.refl (p := (·.flags.order)) (s.schema c).fields s.values
    exact ⟨Record.order_congr rfl rfl hset hself, Record.order_congr rfl rfl hself hset⟩
  · rintro ⟨type, values, node, notes⟩ v rfl rest
    exact congrArg (HashToken.record type :: ·) ((agreeOn_set hf hh v values).feedFields_eq rest)
  · intro r v hr hz
    rw [annotate_eq hs hf hz hr, if_pos hk]

theorem actsAsChild (hs : (c.schema t).Regular c) (hf : (c.schema t).fields[i]? = some f)
    (hk : f.kind = .child) : ActsAsChild c t i f := by
  constructor
  · rintro r rfl hn v hv
    exact (mem_children_record_iff r _).mpr ⟨hn, i, f, v, hf, hv, hk, rfl⟩
  · intro r v hr hz
    rw [annotate_eq hs hf hz hr, if_neg (by simp [hk])]

end TypedTree
