import TypedTree.Proofs.Value.Induction
import TypedTree.Value.Order

/-!
# Ordering the other way round, and ordering what is equal

The order of two values is that of the same two values the other way round, reversed; where they
have no order, they have none either way. Equal values that have an order are ordered as equal,
because a field takes part in ordering only if it takes part in equality.
-/

namespace TypedTree

/-- The failure to order the same two sides the other way round. -/
def InstanceError.reversed : InstanceError → InstanceError
  | .unorderedValues left right => .unorderedValues right left
  | .unorderedRecords left right => .unorderedRecords right left
  | e => e

/-- What ordering the same two values the other way round gives. -/
def reversedOrder : Except InstanceError Ordering → Except InstanceError Ordering
  | .ok o => .ok o.swap
  | .error e => .error e.reversed

theorem reversedOrder_reversedOrder (x : Except InstanceError Ordering) :
    reversedOrder (reversedOrder x) = x := by
  cases x with
  | ok o => cases o <;> rfl
  | error e => cases e <;> rfl

/-! ### Scalars -/

theorem compareBytes_swap (xs ys : List UInt8) :
    compareBytes ys xs = (compareBytes xs ys).swap := by
  induction xs generalizing ys with
  | nil => cases ys <;> rfl
  | cons x xs ih =>
    cases ys with
    | nil => rfl
    | cons y ys =>
      rw [compareBytes, compareBytes, Ordering.swap_then, ih, ← Std.OrientedOrd.eq_swap]

theorem compareBytes_self (xs : List UInt8) : compareBytes xs xs = .eq := by
  induction xs with
  | nil => rfl
  | cons x xs ih => simp [compareBytes, ih]

theorem Binary64.compare?_swap (x y : Binary64) :
    y.compare? x = (x.compare? y).map Ordering.swap := by
  unfold compare?
  cases x.isNaN <;> cases y.isNaN <;> first | rfl | exact congrArg some Std.OrientedOrd.eq_swap

theorem compareNumbers_reversed (a b : Value) (x y : Binary64) :
    compareNumbers b a y x = reversedOrder (compareNumbers a b x y) := by
  rw [compareNumbers, compareNumbers, Binary64.compare?_swap]
  cases x.compare? y <;> rfl

namespace Value

variable {c : Catalog}

/-! ### Reversal -/

theorem orderAll_reversed {xs : List Value}
    (h : ∀ x ∈ xs, ∀ y, y.order c x = reversedOrder (x.order c y)) (ys : List Value) :
    orderAll c ys xs = reversedOrder (orderAll c xs ys) := by
  induction xs generalizing ys with
  | nil => cases ys <;> rfl
  | cons x xs ih =>
    cases ys with
    | nil => rfl
    | cons y ys =>
      obtain ⟨hx, hxs⟩ := List.forall_mem_cons.mp h
      rw [orderAll, orderAll, hx y]
      cases x.order c y with
      | error e => rfl
      | ok o =>
        cases o with
        | eq => exact ih hxs ys
        | _ => rfl

theorem orderFields_reversed {xs : List Value}
    (h : ∀ x ∈ xs, ∀ y, y.order c x = reversedOrder (x.order c y)) (fields : List Field)
    (ys : List Value) :
    orderFields c fields ys xs = reversedOrder (orderFields c fields xs ys) := by
  induction xs generalizing fields ys with
  | nil => cases ys <;> cases fields <;> rfl
  | cons x xs ih =>
    cases ys with
    | nil => cases fields <;> rfl
    | cons y ys =>
      cases fields with
      | nil => rfl
      | cons f fields =>
        obtain ⟨hx, hxs⟩ := List.forall_mem_cons.mp h
        rw [orderFields, orderFields]
        split
        · rw [hx y]
          cases x.order c y with
          | error e => rfl
          | ok o =>
            cases o with
            | eq => exact ih hxs fields ys
            | _ => rfl
        · exact ih hxs fields ys

end Value

theorem Record.order_reversed {c : Catalog} {r : Record}
    (h : ∀ x ∈ r.values, ∀ y, y.order c x = reversedOrder (x.order c y)) (s : Record) :
    s.order c r = reversedOrder (r.order c s) := by
  obtain ⟨t, values, node, notes⟩ := r
  obtain ⟨u, values', node', notes'⟩ := s
  rw [order, order]
  by_cases htu : t = u
  · subst htu
    simp only [true_and]
    split
    · exact Value.orderFields_reversed h _ values'
    · rfl
  · rw [if_neg fun hn => htu hn.1.symm, if_neg fun hn => htu hn.1]
    rfl

namespace Value

variable {c : Catalog}

theorem order_reversed_of_isAtom {a : Value} (ha : a.isAtom = true) (b : Value) :
    b.order c a = reversedOrder (a.order c b) := by
  cases a with
  | none => cases b <;> rfl
  | bool x =>
    cases b with
    | bool y => exact congrArg Except.ok Std.OrientedOrd.eq_swap
    | _ => rfl
  | int n =>
    cases b with
    | int m => exact congrArg Except.ok Std.OrientedOrd.eq_swap
    | float y => exact compareNumbers_reversed _ _ _ y
    | _ => rfl
  | float x =>
    cases b with
    | int m => exact compareNumbers_reversed _ _ x _
    | float y => exact compareNumbers_reversed _ _ x y
    | _ => rfl
  | str s =>
    cases b with
    | str t => exact congrArg Except.ok Std.OrientedOrd.eq_swap
    | _ => rfl
  | bytes xs =>
    cases b with
    | bytes ys => exact congrArg Except.ok (compareBytes_swap xs ys)
    | _ => rfl
  | member m =>
    cases b with
    | member n =>
      rw [order, order]
      by_cases h : m.enum = n.enum
      · rw [if_pos h, if_pos h.symm]
        exact congrArg Except.ok Std.OrientedOrd.eq_swap
      · rw [if_neg h, if_neg (Ne.symm h)]
        rfl
    | _ => rfl
  | _ => exact absurd ha Bool.noConfusion

/-- Ordering two values the other way round gives the reversed order, or fails at the same place. -/
theorem order_reversed (a b : Value) : b.order c a = reversedOrder (a.order c b) := by
  induction a using Value.induction generalizing b with
  | atom a ha => exact order_reversed_of_isAtom ha b
  | tuple xs ih =>
    cases b with
    | tuple ys => exact orderAll_reversed ih ys
    | _ => rfl
  | list xs ih =>
    cases b with
    | list ys => exact orderAll_reversed ih ys
    | _ => rfl
  | set => cases b <;> rfl
  | map => cases b <;> rfl
  | record r ih =>
    cases b with
    | record s => exact Record.order_reversed ih s
    | _ => rfl

theorem order_eq_iff (a b : Value) (x : Except InstanceError Ordering) :
    a.order c b = x ↔ b.order c a = reversedOrder x := by
  constructor
  · rintro rfl
    exact order_reversed a b
  · intro h
    rw [order_reversed b a, h, reversedOrder_reversedOrder]

/-! ### Equal values -/

theorem order_self_of_isAtom {a : Value} (ha : a.isAtom = true) {o : Ordering}
    (h : a.order c a = .ok o) : o = .eq := by
  cases a with
  | none => exact (Except.ok.inj h).symm
  | bool | int | str => exact (Except.ok.inj h).symm.trans Std.ReflOrd.compare_self
  | bytes xs => exact (Except.ok.inj h).symm.trans (compareBytes_self xs)
  | float x =>
    rw [order, compareNumbers, Binary64.compare?] at h
    cases hn : x.isNaN with
    | true => simp [hn] at h
    | false => simpa [hn] using h.symm
  | member m =>
    rw [order, if_pos rfl] at h
    exact (Except.ok.inj h).symm.trans Std.ReflOrd.compare_self
  | _ => exact absurd ha Bool.noConfusion

theorem orderAll_of_equal {xs ys : List Value} (h : List.Forall₂ (Equal c) xs ys)
    (hs : ∀ x ∈ xs, ∀ y o, x.Equal c y → x.order c y = .ok o → o = .eq) {o : Ordering}
    (ho : orderAll c xs ys = .ok o) : o = .eq := by
  induction h with
  | nil => exact (Except.ok.inj ho).symm
  | @cons x y xs ys hx _ ih =>
    rw [List.forall_mem_cons] at hs
    rw [orderAll] at ho
    cases hxy : x.order c y with
    | error e => simp [hxy] at ho
    | ok first =>
      obtain rfl := hs.1 y first hx hxy
      rw [hxy] at ho
      exact ih hs.2 ho

/-- Fields that take part in ordering have to take part in equality. -/
theorem orderFields_of_equal {fields : List Field} {xs ys : List Value}
    (hf : ∀ f ∈ fields, f.flags.order = true → f.flags.eq = true)
    (h : FieldsEqual c fields xs ys)
    (hs : ∀ x ∈ xs, ∀ y o, x.Equal c y → x.order c y = .ok o → o = .eq) {o : Ordering}
    (ho : orderFields c fields xs ys = .ok o) : o = .eq := by
  induction xs generalizing fields ys with
  | nil => cases fields <;> exact (Except.ok.inj ho).symm
  | cons x xs ih =>
    cases fields with
    | nil => exact (Except.ok.inj ho).symm
    | cons f fields =>
      cases ys with
      | nil => exact (Except.ok.inj ho).symm
      | cons y ys =>
        rw [List.forall_mem_cons] at hf hs
        rw [fieldsEqual_cons_iff] at h
        rw [orderFields] at ho
        cases hflag : f.flags.order with
        | false =>
          simp only [hflag, Bool.false_eq_true, if_false] at ho
          exact ih hf.2 h.2 hs.2 ho
        | true =>
          simp only [hflag, if_true] at ho
          cases hxy : x.order c y with
          | error e => simp [hxy] at ho
          | ok first =>
            obtain rfl := hs.1 y first (h.1 (hf.1 hflag)) hxy
            rw [hxy] at ho
            exact ih hf.2 h.2 hs.2 ho

theorem eq_of_order_flag (hc : c.Regular) (t : TypeId) :
    ∀ f ∈ (c.schema t).fields, f.flags.order = true → f.flags.eq = true := by
  intro f hf ho
  by_cases ht : t < c.schemas.length
  · rw [← ((hc.schema t ht).fields f hf).order, ho]
  · rw [Catalog.schema_eq_default (Nat.le_of_not_lt ht)] at hf
    exact absurd hf List.not_mem_nil

/-- Equal values that can be ordered are ordered as equal. -/
theorem order_of_equal (hc : c.Regular) {a b : Value} (h : a.Equal c b) {o : Ordering}
    (ho : a.order c b = .ok o) : o = .eq := by
  induction a using Value.induction generalizing b o with
  | atom a ha =>
    obtain rfl := (eqv_iff_eq_of_isAtom ha).mp h
    exact order_self_of_isAtom ha ho
  | tuple xs ih =>
    cases equates_of_eqv h with
    | atom ha => cases ha
    | tuple hs => exact orderAll_of_equal hs (fun x hx y o he hxy => ih x hx he hxy) ho
  | list xs ih =>
    cases equates_of_eqv h with
    | atom ha => cases ha
    | list hs => exact orderAll_of_equal hs (fun x hx y o he hxy => ih x hx he hxy) ho
  | set | map =>
    cases equates_of_eqv h <;> cases ho
  | record r ih =>
    cases equates_of_eqv h with
    | atom ha => cases ha
    | record ht hs =>
      obtain ⟨t, values, node, notes⟩ := r
      rw [order, Record.order] at ho
      split at ho
      · exact orderFields_of_equal (eq_of_order_flag hc t) hs
          (fun x hx y o he hxy => ih x hx he hxy) ho
      · cases ho

end Value

/-- Ordering is antisymmetric in its outcome, failures included, and respects equality. -/
structure OrderLaws (c : Catalog) : Prop where
  swap : ∀ (a b : Value) o, a.order c b = .ok o ↔ b.order c a = .ok o.swap
  fails : ∀ (a b : Value) e, a.order c b = .error e ↔ b.order c a = .error e.reversed
  equal : ∀ (a b : Value) o, a.Equal c b → a.order c b = .ok o → o = .eq

namespace World

/-- In every catalog that operations can reach, ordering two values and ordering them the other way
round agree, and equal values are never ordered as different. -/
theorem Reachable.orderLaws {w : World} (hw : Reachable w) : OrderLaws w.catalog where
  swap a b o := Value.order_eq_iff a b (.ok o)
  fails a b e := Value.order_eq_iff a b (.error e)
  equal _ _ _ h ho := Value.order_of_equal hw.regular h ho

/-- A declaration of an ordered type whose label takes no part in comparison. -/
def versionDeclaration : Declaration where
  session := 0
  name := "Version"
  fields := [{ name := "parts", type := some .any },
    { name := "label", type := some (.scalar .str), compare := false }]
  ordered := some true

/-- A world in which only versions are declared. -/
def versionWorld : World :=
  (({} : World).after .openSession).after (.declare versionDeclaration)

theorem reachable_versionWorld : Reachable versionWorld := by
  have hopen : Reachable (({} : World).after .openSession) := Run.refl.step trivial trivial
  exact hopen.step trivial ⟨by decide, by decide⟩

/-- A version of the given parts and label. -/
def version (parts : List Value) (label : String) : Value :=
  .record ⟨0, [.tuple parts, .str label], none, []⟩

/-- The versions 1, 0 and 1, 5e-324 are ordered both ways, and the labels of equal ones are passed
over. -/
theorem orderLaws_versionWorld :
    let older := version [.int 1, .int 0] "b"
    let newer := version [.int 1, .float ⟨1⟩] "a"
    let renamed := version [.int 1, .float ⟨1⟩] "c"
    Reachable versionWorld ∧ newer.order versionWorld.catalog older = .ok .gt ∧
      newer.Equal versionWorld.catalog renamed ∧
      ∀ o, newer.order versionWorld.catalog renamed = .ok o → o = .eq := by
  intro older newer renamed
  have hlaws := Reachable.orderLaws reachable_versionWorld
  have hequal : newer.Equal versionWorld.catalog renamed := by decide
  exact ⟨reachable_versionWorld, (hlaws.swap older newer .lt).mp rfl, hequal,
    fun o ho => hlaws.equal newer renamed o hequal ho⟩

end World

end TypedTree
