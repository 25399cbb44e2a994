import Mathlib.Data.Int.Order.Basic
import TypedTree.Proofs.Numeric.Rounding
import TypedTree.Proofs.Record.Roles
import TypedTree.Proofs.Value.Induction

/-!
# How far the order of values is transitive

Ordering goes through containers and records by their first difference, which keeps transitivity.
What breaks it is an integer beside a floating-point number: two integers that round to the same
number are both equal to that number, although they are ordered between each other. Where numbers
are drawn from collections in which this does not happen, the order is transitive.
-/

namespace TypedTree

theorem then_eq_of_transCmp {α : Type} {cmp : α → α → Ordering} [Std.TransCmp cmp] {a b d : α}
    (h : (cmp a b).isLE = true) (h' : (cmp b d).isLE = true) :
    cmp a d = (cmp a b).then (cmp b d) := by
  cases hab : cmp a b with
  | lt =>
    cases hbd : cmp b d with
    | lt => exact Std.TransCmp.lt_trans hab hbd
    | eq => exact Std.TransCmp.lt_of_lt_of_eq hab hbd
    | gt => simp [hbd] at h'
  | eq => exact Std.TransCmp.congr_left hab
  | gt => simp [hab] at h

/-- What the order of the outer two of three values has to be, given those of neighbours. It says
nothing when one of these fails or goes down. -/
def Follows (first second outer : Except InstanceError Ordering) : Prop :=
  ∀ o o', first = .ok o → second = .ok o' → o.isLE = true → o'.isLE = true →
    outer = .ok (o.then o')

namespace Follows

theorem of_error_left {e : InstanceError} (second outer : Except InstanceError Ordering) :
    Follows (.error e) second outer := fun _ _ h => nomatch h

theorem of_error_right {e : InstanceError} (first outer : Except InstanceError Ordering) :
    Follows first (.error e) outer := fun _ _ _ h => nomatch h

theorem of_ok {o o' p : Ordering} (h : o.isLE = true → o'.isLE = true → p = o.then o') :
    Follows (.ok o) (.ok o') (.ok p) := by
  rintro _ _ ⟨⟩ ⟨⟩ ho ho'
  rw [h ho ho']

theorem of_transCmp {α : Type} {cmp : α → α → Ordering} [Std.TransCmp cmp] (a b d : α) :
    Follows (.ok (cmp a b)) (.ok (cmp b d)) (.ok (cmp a d)) :=
  of_ok then_eq_of_transCmp

end Follows

/-! ### Ordering by the first difference -/

/-- A first order, unless it leaves the decision to the rest. -/
def orderThen (first rest : Except InstanceError Ordering) : Except InstanceError Ordering :=
  match first with
  | .ok .eq => rest
  | other => other

theorem orderThen_eq_ok_iff {first rest : Except InstanceError Ordering} {o : Ordering} :
    orderThen first rest = .ok o ↔
      first = .ok .eq ∧ rest = .ok o ∨ first = .ok o ∧ o ≠ .eq := by
  rcases first with e | (_ | _ | _) <;> cases o <;> simp [orderThen]

/-- The first differences between neighbours decide between the outer two as well. -/
theorem Follows.orderThen {first second outer rest rest' rest'' : Except InstanceError Ordering}
    (h : Follows first second outer) (hrest : Follows rest rest' rest'') :
    Follows (orderThen first rest) (orderThen second rest') (orderThen outer rest'') := by
  intro o o' ho ho' hle hle'
  rw [orderThen_eq_ok_iff] at ho ho' ⊢
  rcases ho with ⟨hfirst, ho⟩ | ⟨hfirst, hne⟩
  · rcases ho' with ⟨hsecond, ho'⟩ | ⟨hsecond, hne'⟩
    · exact .inl ⟨h _ _ hfirst hsecond rfl rfl, hrest o o' ho ho' hle hle'⟩
    · have hthen : o.then o' = o' := by cases o <;> cases o' <;> simp_all
      rw [hthen]
      exact .inr ⟨h _ _ hfirst hsecond rfl hle', hne'⟩
  · have hthen (p : Ordering) : o.then p = o := by cases o <;> simp_all
    obtain ⟨q, hsecond, hq⟩ : ∃ q, second = .ok q ∧ q.isLE = true := by
      rcases ho' with ⟨hsecond, -⟩ | ⟨hsecond, -⟩
      · exact ⟨_, hsecond, rfl⟩
      · exact ⟨_, hsecond, hle'⟩
    have houter := h _ _ hfirst hsecond hle hq
    rw [hthen] at houter ⊢
    exact .inr ⟨houter, hne⟩

/-! ### Scalars -/

theorem compareBytes_eq_compareLex (xs ys : List UInt8) :
    compareBytes xs ys = List.compareLex (compareOn UInt8.toNat) xs ys := by
  induction xs generalizing ys with
  | nil => cases ys <;> rfl
  | cons x xs ih =>
    cases ys with
    | nil => rfl
    | cons y ys => rw [compareBytes, List.compareLex_cons_cons, ih, compareOn]

theorem compareNumbers_eq_ok_iff {a b : Value} {x y : Binary64} {o : Ordering} :
    compareNumbers a b x y = .ok o ↔
      (x.isNaN = false ∧ y.isNaN = false) ∧ compare x.units y.units = o := by
  rw [compareNumbers, Binary64.compare?]
  cases x.isNaN <;> cases y.isNaN <;> simp

theorem Follows.compareNumbers (a b d : Value) (x y z : Binary64) :
    Follows (compareNumbers a b x y) (compareNumbers b d y z) (compareNumbers a d x z) := by
  intro o o' ho ho' hle hle'
  obtain ⟨⟨hx, -⟩, rfl⟩ := compareNumbers_eq_ok_iff.mp ho
  obtain ⟨⟨-, hz⟩, rfl⟩ := compareNumbers_eq_ok_iff.mp ho'
  exact compareNumbers_eq_ok_iff.mpr ⟨⟨hx, hz⟩, then_eq_of_transCmp hle hle'⟩

/-! ### Integers beside floating-point numbers -/

namespace Binary64

/-- The integer, rounded, is equal to the number. -/
def Meets (n : Int64) (x : Binary64) : Prop :=
  (ofInt n.toInt).compare? x = some .eq

instance (n : Int64) (x : Binary64) : Decidable (Meets n x) :=
  inferInstanceAs (Decidable (_ = _))

theorem meets_iff {n : Int64} {x : Binary64} :
    Meets n x ↔ x.isNaN = false ∧ (ofInt n.toInt).units = x.units := by
  rw [Meets, compare?, isNaN_ofInt]
  cases x.isNaN <;> simp

/-- Rounding keeps the order of two integers or makes them equal. -/
theorem compare_units_ofInt (n m : Int) :
    compare (ofInt n).units (ofInt m).units = compare n m ∨
      (ofInt n).units = (ofInt m).units := by
  rcases Int.lt_trichotomy n m with h | rfl | h
  · rcases Int.lt_or_eq_of_le (units_ofInt_mono (Int.le_of_lt h)) with hu | hu
    · exact .inl ((Int.compare_eq_lt.mpr hu).trans (Int.compare_eq_lt.mpr h).symm)
    · exact .inr hu
  · exact .inr rfl
  · rcases Int.lt_or_eq_of_le (units_ofInt_mono (Int.le_of_lt h)) with hu | hu
    · exact .inl ((Int.compare_eq_gt.mpr hu).trans (Int.compare_eq_gt.mpr h).symm)
    · exact .inr hu.symm

end Binary64

open Binary64 in
theorem compareNumbers_ofInt {a b : Value} {n m : Int64} :
    compareNumbers a b (ofInt n.toInt) (ofInt m.toInt) =
      .ok (compare (ofInt n.toInt).units (ofInt m.toInt).units) :=
  compareNumbers_eq_ok_iff.mpr ⟨⟨isNaN_ofInt _, isNaN_ofInt _⟩, rfl⟩

section

open Binary64

variable {a b d : Value} {n m : Int64} {x : Binary64}

theorem follows_int_int_float (h : Meets n x → Meets m x → n = m) :
    Follows (.ok (compare n.toInt m.toInt)) (compareNumbers b d (ofInt m.toInt) x)
      (compareNumbers a d (ofInt n.toInt) x) := by
  rcases compare_units_ofInt n.toInt m.toInt with hkept | hsame
  · have hall := Follows.compareNumbers a b d (ofInt n.toInt) (ofInt m.toInt) x
    rwa [compareNumbers_ofInt, hkept] at hall
  · rintro _ o' ⟨⟩ ho' hle hle'
    obtain ⟨⟨-, hx⟩, ho'⟩ := compareNumbers_eq_ok_iff.mp ho'
    refine compareNumbers_eq_ok_iff.mpr ⟨⟨isNaN_ofInt _, hx⟩, ?_⟩
    rw [hsame, ho']
    cases o' with
    | lt => revert hle; cases compare n.toInt m.toInt <;> simp
    | eq =>
      have hm : (ofInt m.toInt).units = x.units := Std.LawfulEqOrd.eq_of_compare ho'
      have hnm : n = m := h (meets_iff.mpr ⟨hx, hsame.trans hm⟩) (meets_iff.mpr ⟨hx, hm⟩)
      simp [hnm]
    | gt => cases hle'

theorem follows_float_int_int (h : Meets n x → Meets m x → n = m) :
    Follows (compareNumbers a b x (ofInt n.toInt)) (.ok (compare n.toInt m.toInt))
      (compareNumbers a d x (ofInt m.toInt)) := by
  rcases compare_units_ofInt n.toInt m.toInt with hkept | hsame
  · have hall := Follows.compareNumbers a b d x (ofInt n.toInt) (ofInt m.toInt)
    rwa [compareNumbers_ofInt, hkept] at hall
  · rintro o _ ho ⟨⟩ hle hle'
    obtain ⟨⟨hx, -⟩, ho⟩ := compareNumbers_eq_ok_iff.mp ho
    refine compareNumbers_eq_ok_iff.mpr ⟨⟨hx, isNaN_ofInt _⟩, ?_⟩
    rw [← hsame, ho]
    cases o with
    | lt => rfl
    | eq =>
      have hn : (ofInt n.toInt).units = x.units := (Std.LawfulEqOrd.eq_of_compare ho).symm
      have hnm : n = m := h (meets_iff.mpr ⟨hx, hn⟩) (meets_iff.mpr ⟨hx, hsame ▸ hn⟩)
      simp [hnm]
    | gt => cases hle

theorem follows_int_float_int (h : Meets n x → Meets m x → n = m) :
    Follows (compareNumbers a b (ofInt n.toInt) x) (compareNumbers b d x (ofInt m.toInt))
      (.ok (compare n.toInt m.toInt)) := by
  have hall := Follows.compareNumbers a b d (ofInt n.toInt) x (ofInt m.toInt)
  rw [compareNumbers_ofInt] at hall
  rcases compare_units_ofInt n.toInt m.toInt with hkept | hsame
  · rwa [hkept] at hall
  · intro o o' ho ho' hle hle'
    have hthen := Except.ok.inj (hall o o' ho ho' hle hle')
    have hboth : o = .eq ∧ o' = .eq := by
      rw [hsame, Std.ReflOrd.compare_self] at hthen
      exact Ordering.then_eq_eq.mp hthen.symm
    obtain ⟨rfl, rfl⟩ := hboth
    obtain ⟨⟨-, hx⟩, ho⟩ := compareNumbers_eq_ok_iff.mp ho
    have hn : (ofInt n.toInt).units = x.units := Std.LawfulEqOrd.eq_of_compare ho
    have hnm : n = m := h (meets_iff.mpr ⟨hx, hn⟩) (meets_iff.mpr ⟨hx, hsame ▸ hn⟩)
    simp [hnm]

end

namespace Value

variable {c : Catalog} {I : Int64 → Prop} {F : Binary64 → Prop}

/-! ### The numbers that are compared -/

/-- The value may be compared when the other one is ordered: it stands there, or at some depth in an
item or in a field that takes part in ordering. -/
inductive Compared (c : Catalog) (x : Value) : Value → Prop where
  | here : Compared c x x
  | tuple {xs : List Value} {y : Value} (hy : y ∈ xs) (h : Compared c x y) :
      Compared c x (.tuple xs)
  | list {xs : List Value} {y : Value} (hy : y ∈ xs) (h : Compared c x y) : Compared c x (.list xs)
  | field {r : Record} {i : Nat} {f : Field} {y : Value} (hf : (r.schema c).fields[i]? = some f)
      (ho : f.flags.order = true) (hy : r.values[i]? = some y) (h : Compared c x y) :
      Compared c x (.record r)

/-- The value is put together properly, and the numbers compared in it are of the given ones. -/
structure Draws (c : Catalog) (I : Int64 → Prop) (F : Binary64 → Prop) (v : Value) : Prop where
  proper : Proper c v
  int : ∀ n, Compared c (.int n) v → I n
  float : ∀ x, Compared c (.float x) v → F x

/-- No two of the integers meet in one of the floating-point numbers. -/
def ToldApart (I : Int64 → Prop) (F : Binary64 → Prop) : Prop :=
  ∀ n m x, I n → I m → F x → Binary64.Meets n x → Binary64.Meets m x → n = m

/-- The order is transitive among the values whose numbers are of the given ones, and strict where
one of its steps is. -/
def OrdersTransitively (c : Catalog) (I : Int64 → Prop) (F : Binary64 → Prop) : Prop :=
  ∀ a b d, Draws c I F a → Draws c I F b → Draws c I F d →
    Follows (a.order c b) (b.order c d) (a.order c d)

theorem Draws.of_compared {v x : Value} (h : Draws c I F v) (hp : x ∈ v.parts)
    (hx : ∀ y, Compared c y x → Compared c y v) : Draws c I F x where
  proper := h.proper.of_mem_parts hp
  int n hn := h.int n (hx _ hn)
  float y hy := h.float y (hx _ hy)

theorem Draws.of_mem_tuple {xs : List Value} (h : Draws c I F (.tuple xs)) :
    ∀ x ∈ xs, Draws c I F x :=
  fun _ hx => h.of_compared hx fun _ => .tuple hx

theorem Draws.of_mem_list {xs : List Value} (h : Draws c I F (.list xs)) :
    ∀ x ∈ xs, Draws c I F x :=
  fun _ hx => h.of_compared hx fun _ => .list hx

theorem Draws.of_field {r : Record} (h : Draws c I F (.record r)) {i : Nat} {f : Field} {x : Value}
    (hf : (r.schema c).fields[i]? = some f) (ho : f.flags.order = true)
    (hx : r.values[i]? = some x) : Draws c I F x :=
  h.of_compared (List.mem_of_getElem? hx) fun _ => .field hf ho hx

/-! ### Transitivity -/

theorem follows_int (ht : ToldApart I F) {n : Int64} {b d : Value}
    (ha : Draws c I F (.int n)) (hb : Draws c I F b) (hd : Draws c I F d) :
    Follows ((int n).order c b) (b.order c d) ((int n).order c d) := by
  cases b with
  | int m =>
    cases d with
    | int k => exact .of_transCmp n.toInt m.toInt k.toInt
    | float x =>
      exact follows_int_int_float (ht n m x (ha.int n .here) (hb.int m .here) (hd.float x .here))
    | _ => exact .of_error_right _ _
  | float x =>
    cases d with
    | int m =>
      exact follows_int_float_int (ht n m x (ha.int n .here) (hd.int m .here) (hb.float x .here))
    | float y => exact .compareNumbers _ _ _ _ x y
    | _ => exact .of_error_right _ _
  | _ => exact .of_error_left _ _

theorem follows_float (ht : ToldApart I F) {x : Binary64} {b d : Value}
    (ha : Draws c I F (.float x)) (hb : Draws c I F b) (hd : Draws c I F d) :
    Follows ((float x).order c b) (b.order c d) ((float x).order c d) := by
  cases b with
  | int n =>
    cases d with
    | int m =>
      exact follows_float_int_int (ht n m x (hb.int n .here) (hd.int m .here) (ha.float x .here))
    | float y => exact .compareNumbers _ _ _ x _ y
    | _ => exact .of_error_right _ _
  | float y =>
    cases d with
    | int n => exact .compareNumbers _ _ _ x y _
    | float z => exact .compareNumbers _ _ _ x y z
    | _ => exact .of_error_right _ _
  | _ => exact .of_error_left _ _

theorem order_member (p q : EnumMember) : (member p).order c (member q) =
    if p.enum = q.enum then .ok (compare p.index q.index)
    else .error (.unorderedValues (member p) (member q)) := rfl

theorem follows_member (p q r : EnumMember) :
    Follows ((member p).order c (member q)) ((member q).order c (member r))
      ((member p).order c (member r)) := by
  rw [order_member, order_member, order_member]
  by_cases hpq : p.enum = q.enum
  · by_cases hqr : q.enum = r.enum
    · rw [if_pos hpq, if_pos hqr, if_pos (hpq.trans hqr)]
      exact .of_transCmp p.index q.index r.index
    · rw [if_neg hqr]
      exact .of_error_right _ _
  · rw [if_neg hpq]
    exact .of_error_left _ _

theorem follows_of_isAtom (ht : ToldApart I F) {a : Value} (hatom : a.isAtom = true) {b d : Value}
    (ha : Draws c I F a) (hb : Draws c I F b) (hd : Draws c I F d) :
    Follows (a.order c b) (b.order c d) (a.order c d) := by
  cases a with
  | none =>
    cases b with
    | none =>
      cases d with
      | none => exact .of_ok fun _ _ => rfl
      | _ => exact .of_error_right _ _
    | _ => exact .of_error_left _ _
  | bool p =>
    cases b with
    | bool q =>
      cases d with
      | bool r => exact .of_transCmp p q r
      | _ => exact .of_error_right _ _
    | _ => exact .of_error_left _ _
  | int n => exact follows_int ht ha hb hd
  | float x => exact follows_float ht ha hb hd
  | str s =>
    cases b with
    | str t =>
      cases d with
      | str u => exact .of_transCmp s t u
      | _ => exact .of_error_right _ _
    | _ => exact .of_error_left _ _
  | bytes xs =>
    cases b with
    | bytes ys =>
      cases d with
      | bytes zs =>
        simp only [order, compareBytes_eq_compareLex]
        exact .of_transCmp xs ys zs
      | _ => exact .of_error_right _ _
    | _ => exact .of_error_left _ _
  | member p =>
    cases b with
    | member q =>
      cases d with
      | member r => exact follows_member p q r
      | _ => exact .of_error_right _ _
    | _ => exact .of_error_left _ _
  | _ => exact absurd hatom Bool.noConfusion

theorem orderAll_cons_cons (x y : Value) (xs ys : List Value) :
    orderAll c (x :: xs) (y :: ys) = orderThen (x.order c y) (orderAll c xs ys) := rfl

theorem follows_orderAll {xs ys zs : List Value}
    (h : ∀ x ∈ xs, ∀ y ∈ ys, ∀ z ∈ zs, Follows (x.order c y) (y.order c z) (x.order c z)) :
    Follows (orderAll c xs ys) (orderAll c ys zs) (orderAll c xs zs) := by
  induction xs generalizing ys zs with
  | nil =>
    cases ys with
    | nil => cases zs <;> exact .of_ok fun _ _ => rfl
    | cons y ys =>
      cases zs with
      | nil => exact .of_ok fun _ hle => nomatch hle
      | cons z zs =>
        -- The first sequence has ended, whatever the order of the other two is.
        rintro _ o' ⟨⟩ - - -
        rfl
  | cons x xs ih =>
    cases ys with
    | nil => rintro _ _ ⟨⟩ - ⟨⟩
    | cons y ys =>
      cases zs with
      | nil => rintro _ _ - ⟨⟩ - ⟨⟩
      | cons z zs =>
        rw [orderAll_cons_cons, orderAll_cons_cons, orderAll_cons_cons]
        have hfirst := h x List.mem_cons_self y List.mem_cons_self z List.mem_cons_self
        refine hfirst.orderThen (ih fun x hx y hy z hz => ?_)
        exact h x (.tail _ hx) y (.tail _ hy) z (.tail _ hz)

theorem orderFields_cons_cons (f : Field) (fields : List Field) (x y : Value) (xs ys : List Value) :
    orderFields c (f :: fields) (x :: xs) (y :: ys) =
      if f.flags.order then orderThen (x.order c y) (orderFields c fields xs ys)
      else orderFields c fields xs ys := rfl

theorem follows_orderFields {fields : List Field} {xs ys zs : List Value}
    (hx : xs.length = fields.length) (hy : ys.length = fields.length)
    (hz : zs.length = fields.length)
    (h : ∀ (i : Nat) (f : Field) (x y z : Value), fields[i]? = some f → f.flags.order = true →
      xs[i]? = some x → ys[i]? = some y → zs[i]? = some z →
      Follows (x.order c y) (y.order c z) (x.order c z)) :
    Follows (orderFields c fields xs ys) (orderFields c fields ys zs)
      (orderFields c fields xs zs) := by
  induction fields generalizing xs ys zs with
  | nil =>
    obtain rfl := List.length_eq_zero_iff.mp hx
    obtain rfl := List.length_eq_zero_iff.mp hy
    exact .of_ok fun _ _ => rfl
  | cons f fields ih =>
    obtain ⟨x, xs, rfl⟩ := List.exists_cons_of_length_eq_add_one hx
    obtain ⟨y, ys, rfl⟩ := List.exists_cons_of_length_eq_add_one hy
    obtain ⟨z, zs, rfl⟩ := List.exists_cons_of_length_eq_add_one hz
    have hrest := ih (Nat.succ.inj hx) (Nat.succ.inj hy) (Nat.succ.inj hz) fun i => h (i + 1)
    rw [orderFields_cons_cons, orderFields_cons_cons, orderFields_cons_cons]
    by_cases ho : f.flags.order = true
    · rw [if_pos ho, if_pos ho, if_pos ho]
      exact (h 0 f x y z rfl ho rfl rfl rfl).orderThen hrest
    · rw [if_neg ho, if_neg ho, if_neg ho]
      exact hrest

theorem follows_record {r s t : Record} (hr : Draws c I F (.record r))
    (hs : Draws c I F (.record s)) (ht : Draws c I F (.record t))
    (h : ∀ x ∈ r.values, ∀ y z, Draws c I F x → Draws c I F y → Draws c I F z →
      Follows (x.order c y) (y.order c z) (x.order c z)) :
    Follows (r.order c s) (s.order c t) (r.order c t) := by
  rw [Record.order_eq, Record.order_eq, Record.order_eq]
  by_cases hrs : r.type = s.type ∧ (r.schema c).flags.ordered = true
  · by_cases hst : s.type = t.type ∧ (s.schema c).flags.ordered = true
    · have hschema : s.schema c = r.schema c := congrArg c.schema hrs.1.symm
      have hschema' : t.schema c = r.schema c := congrArg c.schema (hrs.1.trans hst.1).symm
      rw [if_pos hrs, if_pos hst, if_pos ⟨hrs.1.trans hst.1, hrs.2⟩, hschema]
      refine follows_orderFields hr.proper.length_values (hschema ▸ hs.proper.length_values)
        (hschema' ▸ ht.proper.length_values) fun i f x y z hf ho hx hy hz => ?_
      exact h x (List.mem_of_getElem? hx) y z (hr.of_field hf ho hx)
        (hs.of_field (hschema ▸ hf) ho hy) (ht.of_field (hschema' ▸ hf) ho hz)
    · rw [if_neg hst]
      exact .of_error_right _ _
  · rw [if_neg hrs]
    exact .of_error_left _ _

theorem ordersTransitively_of_toldApart (ht : ToldApart I F) : OrdersTransitively c I F := by
  intro a
  induction a using Value.induction with
  | atom a hatom => exact fun b d => follows_of_isAtom ht hatom
  | tuple xs ih =>
    intro b d ha hb hd
    cases b with
    | tuple ys =>
      cases d with
      | tuple zs =>
        exact follows_orderAll fun x hx y hy z hz =>
          ih x hx y z (ha.of_mem_tuple x hx) (hb.of_mem_tuple y hy) (hd.of_mem_tuple z hz)
      | _ => exact .of_error_right _ _
    | _ => exact .of_error_left _ _
  | list xs ih =>
    intro b d ha hb hd
    cases b with
    | list ys =>
      cases d with
      | list zs =>
        exact follows_orderAll fun x hx y hy z hz =>
          ih x hx y z (ha.of_mem_list x hx) (hb.of_mem_list y hy) (hd.of_mem_list z hz)
      | _ => exact .of_error_right _ _
    | _ => exact .of_error_left _ _
  | set xs =>
    intro b d _ _ _
    cases b <;> exact .of_error_left _ _
  | map es =>
    intro b d _ _ _
    cases b <;> exact .of_error_left _ _
  | record r ih =>
    intro b d ha hb hd
    cases b with
    | record s =>
      cases d with
      | record t => exact follows_record ha hb hd ih
      | _ => exact .of_error_right _ _
    | _ => exact .of_error_left _ _

theorem order_of_meets {n : Int64} {x : Binary64} (h : Binary64.Meets n x) :
    (int n).order c (float x) = .ok .eq := by
  rw [order, compareNumbers, h]

theorem draws_int {n : Int64} (hn : I n) : Draws c I F (.int n) where
  proper := .atom rfl
  int
    | _, .here => hn
  float
    | _, h => nomatch h

theorem draws_float {x : Binary64} (hx : F x) : Draws c I F (.float x) where
  proper := .atom rfl
  int
    | _, h => nomatch h
  float
    | _, .here => hx

/-- The smaller of two integers is not equal to what the greater one is equal to. -/
theorem OrdersTransitively.not_lt (h : OrdersTransitively c I F) {n m : Int64} {x : Binary64}
    (hn : I n) (hm : I m) (hx : F x) (hnx : Binary64.Meets n x) (hmx : Binary64.Meets m x) :
    ¬ n.toInt < m.toInt := by
  intro hlt
  have hfirst : (int n).order c (int m) = .ok .lt :=
    congrArg Except.ok (Int.compare_eq_lt.mpr hlt)
  have hsecond : (int m).order c (float x) = .ok .eq := order_of_meets hmx
  have houter := h _ _ _ (draws_int hn) (draws_int hm) (draws_float hx) _ _ hfirst hsecond rfl rfl
  rw [order_of_meets hnx] at houter
  cases houter

theorem OrdersTransitively.toldApart (h : OrdersTransitively c I F) : ToldApart I F := by
  intro n m x hn hm hx hnx hmx
  have hnm := h.not_lt hn hm hx hnx hmx
  have hmn := h.not_lt hm hn hx hmx hnx
  exact Int64.toInt_inj.mp (by omega)

theorem toldApart_of_natAbs_le (h : ∀ n, I n → n.toInt.natAbs ≤ 2 ^ 53) : ToldApart I F := by
  intro n m x hn hm _ hnx hmx
  have hunits := (Binary64.meets_iff.mp hnx).2.trans (Binary64.meets_iff.mp hmx).2.symm
  rw [Binary64.units_ofInt_of_le (h n hn), Binary64.units_ofInt_of_le (h m hm)] at hunits
  have hpos : (Nat.pow 2 1074 : Int) ≠ 0 := by
    generalize 1074 = e
    exact_mod_cast Nat.ne_of_gt (Nat.two_pow_pos e)
  exact Int64.toInt_inj.mp (Int.eq_of_mul_eq_mul_right hpos hunits)

/-- Ordering is transitive exactly where integers are told apart, as they are up to `2 ^ 53`. -/
theorem ordersTransitively_iff_toldApart (c : Catalog) (I : Int64 → Prop) (F : Binary64 → Prop) :
    (OrdersTransitively c I F ↔ ToldApart I F) ∧
      ((∀ n, I n → n.toInt.natAbs ≤ 2 ^ 53) → ToldApart I F) :=
  ⟨⟨OrdersTransitively.toldApart, ordersTransitively_of_toldApart⟩, toldApart_of_natAbs_le⟩

/-- Of three values, the first is below the second and the second equal to the third, but the third
is equal to the first as well. -/
theorem not_ordersTransitively :
    let low := int 9007199254740992
    let high := int 9007199254740993
    let rounded := float ⟨0x4340000000000000⟩
    low.order {} high = .ok .lt ∧ high.order {} rounded = .ok .eq ∧
      low.order {} rounded = .ok .eq ∧
      ¬ OrdersTransitively {} (fun _ => True) (fun _ => True) := by
  intro low high rounded
  have hfirst : low.order {} high = .ok .lt := rfl
  have hsecond : high.order {} rounded = .ok .eq := order_of_meets (by decide +kernel)
  have houter : low.order {} rounded = .ok .eq := order_of_meets (by decide +kernel)
  refine ⟨hfirst, hsecond, houter, fun h => ?_⟩
  have hlt := h low high rounded (draws_int trivial) (draws_int trivial) (draws_float trivial)
    _ _ hfirst hsecond rfl rfl
  rw [houter] at hlt
  cases hlt

end Value

end TypedTree
