import TypedTree.Proofs.Construction.Stages
import TypedTree.Tree.Transform

/-! # Rebuilding nodes -/

namespace TypedTree

open Construct

/-! ### Rebuilding with any translator -/

section

variable {m : Type → Type} [Monad m]

/-- The value of a child field is translated, any other one is kept. -/
def translateField (translate : Value → m (Option Value)) (f : Field) (v : Value) :
    m (Option Value) :=
  if f.kind = .child then translate v else pure (some v)

/-- Nothing is given to a field whose value was removed. -/
def addArgument (name : String) (arguments : List (String × Value)) :
    Option Value → List (String × Value)
  | some v => (name, v) :: arguments
  | none => arguments

/-- The arguments for constructing a node again. The translator may act on anything. -/
def rebuildArguments (translate : Value → m (Option Value)) :
    List Field → List Value → m (List (String × Value))
  | f :: fs, v :: vs =>
    if f.flags.init then do
      let left ← translateField translate f v
      let rest ← rebuildArguments translate fs vs
      return addArgument f.name rest left
    else rebuildArguments translate fs vs
  | _, _ => return []

/-- Constructs a node again from its translated children. -/
def rebuildNode [MonadLiftT Construct m] (h : Hooks) (c : Catalog)
    (translate : Value → m (Option Value)) (r : Record) : m Record := do
  let arguments ← rebuildArguments translate (r.schema c).fields r.values
  reconstruct h c r arguments

end

namespace Transformer

variable {h : Hooks} {c : Catalog} {w : Transformer}

theorem transformValues_eq (fields : List Field) (values : List Value) :
    transformValues h c w fields values = rebuildArguments (transform h c w) fields values := by
  induction values generalizing fields with
  | nil => cases fields <;> rfl
  | cons v vs ih =>
    cases fields with
    | nil => rfl
    | cons f fs =>
      rw [transformValues, rebuildArguments, translateField, ih]
      by_cases hc : f.kind = .child
      · simp only [hc, if_true]
        rfl
      · simp only [hc, if_false, pure_bind]
        rfl

/-- A node that a transformer makes no decision on is rebuilt. -/
theorem transform_node {r : Record} (hv : w.value (.record r) = .proceed) (hn : r.isNode = true)
    (hd : w.node r = .proceed) : w.transform h c (.record r) =
      do return w.rebuilt (← rebuildNode h c (w.transform h c) r) := by
  obtain ⟨type, values, node, notes⟩ := r
  rw [transform, hv]
  simp only [hn, if_true, hd, transformFields, transformValues_eq, rebuildNode, bind_assoc]
  rfl

end Transformer

/-! ### The arguments of a rebuilt node -/

/-- The arguments that any translator leaves of the fields of a node. -/
structure LeavesArguments (fields : List Field) (values : List Value)
    (arguments : List (String × Value)) : Prop where
  accepted : ∀ name ∈ arguments.map (·.1), ∃ f ∈ fields, f.name = name ∧ f.flags.init = true
  kept : ∀ (i : Nat) (f : Field) (v : Value), fields[i]? = some f → values[i]? = some v →
    f.flags.init = true → f.kind ≠ .child → (f.name, v) ∈ arguments

section

variable {σ : Type} {translate : Value → StateT σ Construct (Option Value)} {x x' : σ} {s : State}
  {h : Hooks} {c : Catalog} {r r' : Record} {f : Field} {fields : List Field} {v : Value}
  {values : List Value} {arguments : List (String × Value)}

theorem LeavesArguments.skip (hl : LeavesArguments fields values arguments) (v : Value)
    (hf : f.flags.init = true → f.kind = .child) :
    LeavesArguments (f :: fields) (v :: values) arguments where
  accepted name hm := by
    obtain ⟨g, hg, hname⟩ := hl.accepted name hm
    exact ⟨g, List.mem_cons_of_mem f hg, hname⟩
  kept i g w hg hw hi hk := by
    cases i with
    | zero =>
      obtain rfl := Option.some.inj hg
      exact absurd (hf hi) hk
    | succ i => exact hl.kept i g w hg hw hi hk

theorem LeavesArguments.add {left : Value} (hl : LeavesArguments fields values arguments)
    (hi : f.flags.init = true) (hk : f.kind ≠ .child → left = v) :
    LeavesArguments (f :: fields) (v :: values) ((f.name, left) :: arguments) where
  accepted name hm := by
    rcases List.mem_cons.mp hm with rfl | hm
    · exact ⟨f, List.mem_cons_self, rfl, hi⟩
    · obtain ⟨g, hg, hname⟩ := hl.accepted name hm
      exact ⟨g, List.mem_cons_of_mem f hg, hname⟩
  kept i g w hg hw hgi hgk := by
    cases i with
    | zero =>
      obtain rfl := Option.some.inj hg
      obtain rfl := Option.some.inj hw
      rw [hk hgk]
      exact List.mem_cons_self
    | succ i => exact List.mem_cons_of_mem _ (hl.kept i g w hg hw hgi hgk)

theorem eq_some_of_translateField {left : Option Value}
    (he : (((translateField translate f v).run x).exec s).1 = .ok (left, x'))
    (hk : f.kind ≠ .child) :
    left = some v := by
  rw [translateField, if_neg hk] at he
  exact (Prod.mk.inj (Except.ok.inj he)).1.symm

theorem leavesArguments_of_rebuildArguments
    (he : (((rebuildArguments translate fields values).run x).exec s).1 = .ok (arguments, x')) :
    LeavesArguments fields values arguments := by
  induction fields generalizing values arguments x s with
  | nil =>
    obtain ⟨rfl, rfl⟩ := Prod.mk.inj (Except.ok.inj he)
    exact ⟨by simp, by simp⟩
  | cons f fields ih =>
    cases values with
    | nil =>
      obtain ⟨rfl, rfl⟩ := Prod.mk.inj (Except.ok.inj he)
      exact ⟨by simp, by simp⟩
    | cons v values =>
      rw [rebuildArguments] at he
      cases hi : f.flags.init with
      | false =>
        simp only [hi, Bool.false_eq_true, if_false] at he
        exact (ih he).skip v fun h => absurd (hi.symm.trans h) Bool.false_ne_true
      | true =>
        simp only [hi, if_true, StateT.run_bind] at he
        obtain ⟨⟨left, x₁⟩, s₁, hleft, he⟩ := exec_bind_eq_ok_iff.mp he
        obtain ⟨⟨rest, x₂⟩, s₂, hrest, he⟩ := exec_bind_eq_ok_iff.mp he
        obtain ⟨rfl, rfl⟩ := Prod.mk.inj (Except.ok.inj he)
        have hl := ih (congrArg Prod.fst hrest)
        have hkept := eq_some_of_translateField (congrArg Prod.fst hleft)
        cases left with
        | none => exact hl.skip v fun _ => by_contra fun hk => Option.some_ne_none v (hkept hk).symm
        | some left => exact hl.add hi fun hk => Option.some.inj (hkept hk)

/-- A translator without a state of its own may as well be given one. -/
theorem run_rebuildArguments_lift (translate : Value → Construct (Option Value))
    (fields : List Field) (values : List Value) (x : σ) :
    (rebuildArguments (fun v => (liftM (translate v) : StateT σ Construct (Option Value)))
      fields values).run x = (·, x) <$> rebuildArguments translate fields values := by
  induction fields generalizing values with
  | nil => simp [rebuildArguments]
  | cons f fields ih =>
    cases values with
    | nil => simp [rebuildArguments]
    | cons v values =>
      rw [rebuildArguments, rebuildArguments]
      by_cases hi : f.flags.init = true
      · by_cases hk : f.kind = .child
        · simp [hi, hk, translateField, ih]
        · simp [hi, hk, translateField, ih]
      · simp [hi, ih]

/-! ### Reconstruction -/

theorem exec_reconstruct_eq_ok_iff : ((reconstruct h c r arguments).exec s).1 = .ok r' ↔
    ∃ rebuilt, ((construct h c r.type arguments).exec s).1 = .ok rebuilt ∧
      r' = if rebuilt.isNode then { rebuilt with annotations := r.annotations } else rebuilt := by
  rw [reconstruct, exec_bind_eq_ok_iff]
  constructor
  · rintro ⟨rebuilt, s', hc, he⟩
    exact ⟨rebuilt, congrArg Prod.fst hc, (Except.ok.inj he).symm⟩
  · rintro ⟨rebuilt, hc, rfl⟩
    exact ⟨rebuilt, _, Prod.ext hc rfl, rfl⟩

/-- A node that is rebuilt is constructed again from what the translator leaves of its fields. -/
theorem exists_reconstruct_of_rebuildNode
    (he : (((rebuildNode h c translate r).run x).exec s).1 = .ok (r', x')) :
    ∃ arguments s', LeavesArguments (r.schema c).fields r.values arguments ∧
      ((reconstruct h c r arguments).exec s').1 = .ok r' := by
  rw [rebuildNode, StateT.run_bind] at he
  obtain ⟨⟨arguments, x₁⟩, s₁, ha, he⟩ := exec_bind_eq_ok_iff.mp he
  obtain ⟨rebuilt, s₂, hr, he⟩ := exec_bind_eq_ok_iff.mp he
  obtain ⟨rfl, rfl⟩ := Prod.mk.inj (Except.ok.inj he)
  exact ⟨arguments, s₁, leavesArguments_of_rebuildArguments (congrArg Prod.fst ha),
    congrArg Prod.fst hr⟩

theorem run_rebuildNode_lift (translate : Value → Construct (Option Value)) (r : Record) (x : σ) :
    (rebuildNode h c (fun v => (liftM (translate v) : StateT σ Construct (Option Value))) r).run x =
      (·, x) <$> rebuildNode h c translate r := by
  simp [rebuildNode, run_rebuildArguments_lift]

end

end TypedTree
