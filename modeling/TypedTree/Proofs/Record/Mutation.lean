import TypedTree.Proofs.Schema.FieldIndex
import TypedTree.Proofs.Value.Components
import TypedTree.Record.Access

/-! # Changes in place -/

namespace TypedTree

/-! ### Places in a value -/

/-- A step from a value to one that it is put together from. -/
inductive Step where
  | field (name : String)
  | note (name : String)
  | item (position : Nat)
  | element (position : Nat)
  | key (position : Nat)
  | entry (position : Nat)
deriving DecidableEq

namespace Value

/-- What a step leads to, if it leads anywhere. -/
def next? (c : Catalog) : Value → Step → Option Value
  | .record r, .field name => ((r.schema c).slot? name).bind fun slot => r.values[slot]?
  | .record r, .note name => r.annotations.lookup name
  | .tuple items, .item i | .list items, .item i | .set items, .element i => items[i]?
  | .map entries, .key i => entries[i]?.map (·.1)
  | .map entries, .entry i => entries[i]?.map (·.2)
  | _, _ => Option.none

/-- What a path leads to. -/
def at? (c : Catalog) : List Step → Value → Option Value
  | [], v => some v
  | s :: path, v => (v.next? c s).bind (at? c path)

end Value

/-! ### Changing a value -/

/-- Ways to change a record in place. A field is assigned, or what it holds is written to, or an
annotation is assigned. -/
inductive Access where
  | assign (name : String) (v : Value)
  | write (name : String) (change : Value → Value)
  | annotate (name : String) (v : Value)

namespace Access

def perform (c : Catalog) (r : Record) : Access → InPlace InstanceError Record
  | assign name v => r.set c name v
  | write name change => r.modify c name change
  | annotate name v => r.annotate c name v

/-- The step to what is changed. -/
def target (c : Catalog) (r : Record) : Access → Step
  | assign name _ | write name _ => .field name
  | annotate name _ =>
    if ((r.schema c).slot? name).isSome then .field name else .note name

/-- What stands there afterwards. -/
def written (c : Catalog) (r : Record) : Access → Value
  | assign _ v | annotate _ v => v
  | write name change => change (((Value.record r).next? c (.field name)).getD .none)

end Access

/-- Why a value is not changed. -/
inductive Refusal where
  | record (e : InstanceError)
  /-- The path leads to nothing that can be changed in place. -/
  | path

namespace Value

/-- What a step leads to when it may be changed in place, and how it is put back. Elements of sets
and keys of maps cannot be changed, and neither can fields of records of frozen types. -/
def borrow (c : Catalog) : Value → Step → Except Refusal (Value × (Value → Value))
  | .record r, .field name =>
    match r.writableSlot c name with
    | .error e => .error (.record e)
    | .ok slot =>
      match r.values[slot]? with
      | some x => .ok (x, fun y => .record (r.setSlot slot y))
      | Option.none => .error .path
  | .tuple items, .item i =>
    match items[i]? with
    | some x => .ok (x, fun y => .tuple (items.set i y))
    | Option.none => .error .path
  | .list items, .item i =>
    match items[i]? with
    | some x => .ok (x, fun y => .list (items.set i y))
    | Option.none => .error .path
  | .map entries, .entry i =>
    match entries[i]? with
    | some (k, x) => .ok (x, fun y => .map (entries.set i (k, y)))
    | Option.none => .error .path
  | _, _ => .error .path

/-- Changes the record that a path leads to, borrowing what lies on the way. What is borrowed is put
back as the change leaves it, also if it is refused. -/
def mutate (c : Catalog) (access : Access) : List Step → Value → InPlace Refusal Value
  | [], .record r => ((access.perform c r).relabelError .record).within .record
  | [], v => .error (.path, v)
  | s :: path, v =>
    match v.borrow c s with
    | .error e => .error (e, v)
    | .ok (x, put) => (mutate c access path x).within put

end Value

variable {c : Catalog} {r r' : Record} {v v' x y : Value} {s : Step} {path : List Step}
  {access : Access} {put : Value → Value}

/-! ### Changes of parts -/

namespace InPlace

variable {ε ε' σ τ : Type} {change : InPlace ε σ} {put : σ → τ} {f : ε → ε'} {part : σ} {whole : τ}
  {e : ε} {e' : ε'}

theorem within_eq_ok_iff :
    change.within put = .ok whole ↔ ∃ part, change = .ok part ∧ put part = whole := by
  cases change <;> simp [within]

theorem within_eq_error_iff :
    change.within put = .error (e, whole) ↔ ∃ part, change = .error (e, part) ∧ put part = whole := by
  cases change <;> simp [within, Prod.ext_iff]

theorem relabelError_eq_ok_iff : change.relabelError f = .ok part ↔ change = .ok part := by
  cases change <;> simp [relabelError]

theorem relabelError_eq_error_iff : change.relabelError f = .error (e', part) ↔
    ∃ e, change = .error (e, part) ∧ f e = e' := by
  cases change <;> simp [relabelError, Prod.ext_iff, and_comm]

end InPlace

/-! ### Refusals -/

theorem Record.writableSlot_eq_ok_iff {name : String} {slot : Nat} :
    r.writableSlot c name = .ok slot ↔
      (r.schema c).slot? name = some slot ∧ (r.schema c).flags.frozen = false := by
  rw [writableSlot]
  cases (r.schema c).slot? name with
  | none => simp
  | some i => cases (r.schema c).flags.frozen <;> simp

/-- What a change does to a record: the slot of a declared field is replaced, or a dynamic
annotation is put. -/
inductive Access.Performs (c : Catalog) (access : Access) (r : Record) : Record → Prop where
  | field {name slot} (ht : access.target c r = .field name)
      (hs : (r.schema c).slot? name = some slot) :
      Performs c access r (r.setSlot slot (access.written c r))
  | note {name} (ht : access.target c r = .note name) :
      Performs c access r
        { r with annotations := Record.putNote name (access.written c r) r.annotations }

/-- A change that is not refused comes to a record whose type is not frozen. -/
theorem Access.performs_of_perform (h : access.perform c r = .ok r') :
    (r.schema c).flags.frozen = false ∧ access.Performs c r r' := by
  cases access with
  | assign name v =>
    rw [perform, Record.set] at h
    split at h
    · cases h
    · next slot hw =>
      obtain rfl := Except.ok.inj h
      obtain ⟨hs, hz⟩ := Record.writableSlot_eq_ok_iff.mp hw
      exact ⟨hz, .field rfl hs⟩
  | write name change =>
    rw [perform, Record.modify] at h
    split at h
    · cases h
    next slot hw =>
    obtain rfl := Except.ok.inj h
    obtain ⟨hs, hz⟩ := Record.writableSlot_eq_ok_iff.mp hw
    refine ⟨hz, ?_⟩
    have hwritten : (Access.write name change).written c r =
        change (r.values.getD slot .none) := by
      rw [written, Value.next?, hs, Option.bind_some, List.getD_eq_getElem?_getD]
    rw [← hwritten]
    exact .field rfl hs
  | annotate name v =>
    rw [perform, Record.annotate] at h
    cases hz : (r.schema c).flags.frozen with
    | true => simp [hz] at h
    | false =>
      refine ⟨rfl, ?_⟩
      simp only [hz, Bool.false_eq_true, if_false] at h
      cases hs : (r.schema c).slot? name with
      | some slot =>
        simp only [hs] at h
        split at h
        · obtain rfl := Except.ok.inj h
          exact .field (by simp [target, hs]) hs
        · cases h
      | none =>
        simp only [hs] at h
        split at h
        · obtain rfl := Except.ok.inj h
          exact .note (by simp [target, hs])
        · cases h

/-- A record that refuses a change stays as it is. -/
theorem Access.eq_of_perform_error {e : InstanceError} (h : access.perform c r = .error (e, r')) :
    r' = r := by
  cases access with
  | assign name v =>
    rw [perform, Record.set] at h
    split at h <;> cases h
    rfl
  | write name change =>
    rw [perform, Record.modify] at h
    split at h <;> cases h
    rfl
  | annotate name v =>
    rw [perform, Record.annotate] at h
    repeat' split at h
    all_goals cases h
    all_goals rfl

/-! ### One step -/

/-- What the two values are besides what they are put together from: kinds, types, numbers of nodes
and tables of symbols, lengths, keys, and names of annotations but for one behind the others. -/
inductive Value.SameFrame : Value → Value → Prop where
  | tuple {xs ys} (h : ys.length = xs.length) : SameFrame (.tuple xs) (.tuple ys)
  | list {xs ys} (h : ys.length = xs.length) : SameFrame (.list xs) (.list ys)
  | map {xs ys} (h : ys.map (·.1) = xs.map (·.1)) : SameFrame (.map xs) (.map ys)
  | record {r s : Record} (ht : s.type = r.type) (hn : s.node = r.node)
      (hl : s.values.length = r.values.length)
      (ha : r.annotations.map (·.1) <+: s.annotations.map (·.1)) :
      SameFrame (.record r) (.record s)

/-- The second value differs from the first one in what the step leads to, and in nothing else. -/
structure Value.UpdatesAt (c : Catalog) (s : Step) (v v' : Value) : Prop where
  others : ∀ s', s' ≠ s → v'.next? c s' = v.next? c s'
  frame : v.SameFrame v'

theorem Record.updatesAt_setSlot (hc : c.Indexed) {name : String} {slot : Nat}
    (hs : (r.schema c).slot? name = some slot) (y : Value) :
    Value.UpdatesAt c (.field name) (.record r) (.record (r.setSlot slot y)) := by
  refine ⟨fun s' hne => ?_, .record rfl rfl (List.length_set ..) List.prefix_rfl⟩
  cases s' with
  | field name' =>
    refine Option.bind_congr fun slot' hs' => ?_
    have hslot : slot ≠ slot' := by
      rintro rfl
      exact hne (congrArg Step.field ((hc r.type).name_inj hs hs'))
    exact List.getElem?_set_ne hslot
  | _ => rfl

theorem Record.lookup_putNote (name name' : String) (y : Value)
    (annotations : List (String × Value)) :
    (putNote name y annotations).lookup name' =
      if name' = name then some y else annotations.lookup name' := by
  induction annotations with
  | nil =>
    rw [putNote, List.lookup_cons]
    by_cases h : name' = name
    · simp [h]
    · simp [h, beq_false_of_ne h]
  | cons e annotations ih =>
    obtain ⟨n, w⟩ := e
    rw [putNote]
    by_cases hn : n = name
    · subst hn
      rw [if_pos rfl, List.lookup_cons, List.lookup_cons]
      by_cases h : name' = n
      · simp [h]
      · simp [h, beq_false_of_ne h]
    · rw [if_neg hn, List.lookup_cons, List.lookup_cons, ih]
      by_cases h : name' = n
      · subst h
        simp [hn]
      · simp only [beq_false_of_ne h]

theorem Record.prefix_putNote (name : String) (y : Value) (annotations : List (String × Value)) :
    annotations.map (·.1) <+: (putNote name y annotations).map (·.1) := by
  induction annotations with
  | nil => exact List.nil_prefix
  | cons e annotations ih =>
    obtain ⟨n, w⟩ := e
    rw [putNote]
    split
    · exact List.prefix_rfl
    · exact List.cons_prefix_cons.mpr ⟨rfl, ih⟩

theorem Record.updatesAt_putNote (name : String) (y : Value) :
    Value.UpdatesAt c (.note name) (.record r)
      (.record { r with annotations := putNote name y r.annotations }) := by
  refine ⟨fun s' hne => ?_, .record rfl rfl rfl (prefix_putNote name y r.annotations)⟩
  cases s' with
  | note name' =>
    have hname : name' ≠ name := fun h => hne (congrArg Step.note h)
    exact (lookup_putNote name name' y r.annotations).trans (if_neg hname)
  | _ => rfl

theorem Value.updatesAt_tuple (items : List Value) (i : Nat) (y : Value) :
    UpdatesAt c (.item i) (.tuple items) (.tuple (items.set i y)) := by
  refine ⟨fun s' hne => ?_, .tuple (List.length_set ..)⟩
  cases s' with
  | item j => exact List.getElem?_set_ne fun h => hne (congrArg Step.item h.symm)
  | _ => rfl

theorem Value.updatesAt_list (items : List Value) (i : Nat) (y : Value) :
    UpdatesAt c (.item i) (.list items) (.list (items.set i y)) := by
  refine ⟨fun s' hne => ?_, .list (List.length_set ..)⟩
  cases s' with
  | item j => exact List.getElem?_set_ne fun h => hne (congrArg Step.item h.symm)
  | _ => rfl

theorem Value.updatesAt_map {entries : List (Value × Value)} {i : Nat} {k : Value}
    (h : entries[i]? = some (k, x)) (y : Value) :
    UpdatesAt c (.entry i) (.map entries) (.map (entries.set i (k, y))) := by
  have hkeys : (entries.set i (k, y)).map (·.1) = entries.map (·.1) := by
    have hlt := (List.getElem?_eq_some_iff.mp h).1
    refine List.ext_getElem? fun j => ?_
    rw [List.getElem?_map, List.getElem?_map, List.getElem?_set]
    by_cases hj : i = j
    · subst hj
      rw [if_pos rfl, if_pos hlt, h]
      rfl
    · rw [if_neg hj]
  refine ⟨fun s' hne => ?_, .map hkeys⟩
  cases s' with
  | entry j =>
    rw [next?, next?, List.getElem?_set_ne fun h => hne (congrArg Step.entry h.symm)]
  | key j =>
    rw [next?, next?, ← List.getElem?_map, ← List.getElem?_map, hkeys]
  | _ => rfl

/-- The values that can be changed in place by a step from them, and how they are put together
again. -/
inductive Value.Lends (c : Catalog) : Value → Step → Value → (Value → Value) → Prop where
  | field {r : Record} {name slot x} (hs : (r.schema c).slot? name = some slot)
      (hz : (r.schema c).flags.frozen = false) (hx : r.values[slot]? = some x) :
      Lends c (.record r) (.field name) x fun y => .record (r.setSlot slot y)
  | tuple {items : List Value} {i x} (hx : items[i]? = some x) :
      Lends c (.tuple items) (.item i) x fun y => .tuple (items.set i y)
  | list {items : List Value} {i x} (hx : items[i]? = some x) :
      Lends c (.list items) (.item i) x fun y => .list (items.set i y)
  | entry {entries : List (Value × Value)} {i k x} (hx : entries[i]? = some (k, x)) :
      Lends c (.map entries) (.entry i) x fun y => .map (entries.set i (k, y))

theorem Value.lends_of_borrow (h : v.borrow c s = .ok (x, put)) : v.Lends c s x put := by
  unfold borrow at h
  split at h
  · split at h
    · cases h
    · next slot hw =>
      obtain ⟨hs, hz⟩ := Record.writableSlot_eq_ok_iff.mp hw
      split at h
      · next hx =>
        obtain ⟨rfl, rfl⟩ := Prod.mk.inj (Except.ok.inj h)
        exact .field hs hz hx
      · cases h
  · split at h
    · next hx =>
      obtain ⟨rfl, rfl⟩ := Prod.mk.inj (Except.ok.inj h)
      exact .tuple hx
    · cases h
  · split at h
    · next hx =>
      obtain ⟨rfl, rfl⟩ := Prod.mk.inj (Except.ok.inj h)
      exact .list hx
    · cases h
  · split at h
    · next hx =>
      obtain ⟨rfl, rfl⟩ := Prod.mk.inj (Except.ok.inj h)
      exact .entry hx
    · cases h
  · cases h

theorem set_eq_self {α : Type} {items : List α} {i : Nat} {item : α}
    (h : items[i]? = some item) : items.set i item = items := by
  obtain ⟨hi, rfl⟩ := List.getElem?_eq_some_iff.mp h
  exact List.set_getElem_self hi

/-- What is put back as it was borrowed makes no difference. -/
theorem Value.Lends.put_self (h : v.Lends c s x put) : put x = v := by
  cases h with
  | @field r name slot _ _ _ hx =>
    simp only [Record.setSlot, set_eq_self hx]
    cases r
    rfl
  | tuple hx | list hx | entry hx => simp only [set_eq_self hx]

theorem Value.Lends.next?_eq (h : v.Lends c s x put) : v.next? c s = some x := by
  cases h with
  | field hs _ hx => rw [next?, hs, Option.bind_some, hx]
  | tuple hx | list hx => exact hx
  | entry hx => rw [next?, hx, Option.map_some]

/-- What is borrowed comes from where the step leads to, and is put back there. -/
theorem Value.borrow_eq_ok (hc : c.Indexed) (h : v.borrow c s = .ok (x, put)) :
    v.next? c s = some x ∧ (∀ y, (put y).next? c s = some y ∧ UpdatesAt c s v (put y)) ∧
      ∀ r, v = .record r → (r.schema c).flags.frozen = false := by
  have hl := lends_of_borrow h
  refine ⟨hl.next?_eq, ?_⟩
  cases hl with
  | @field r name slot _ hs hz hx =>
    have hlt := (List.getElem?_eq_some_iff.mp hx).1
    refine ⟨fun y => ⟨?_, ?_⟩, ?_⟩
    · change ((r.schema c).slot? name).bind (fun slot' => (r.values.set slot y)[slot']?) = _
      rw [hs, Option.bind_some, List.getElem?_set_self hlt]
    · exact r.updatesAt_setSlot hc hs y
    · rintro _ ⟨⟩
      exact hz
  | @tuple items i _ hx =>
    have hlt := (List.getElem?_eq_some_iff.mp hx).1
    refine ⟨fun y => ⟨List.getElem?_set_self hlt, updatesAt_tuple items i y⟩, ?_⟩
    rintro r ⟨⟩
  | @list items i _ hx =>
    have hlt := (List.getElem?_eq_some_iff.mp hx).1
    refine ⟨fun y => ⟨List.getElem?_set_self hlt, updatesAt_list items i y⟩, ?_⟩
    rintro r ⟨⟩
  | @entry entries i k _ hx =>
    have hlt := (List.getElem?_eq_some_iff.mp hx).1
    refine ⟨fun y => ⟨?_, updatesAt_map hx y⟩, ?_⟩
    · rw [next?, List.getElem?_set_self hlt]
      rfl
    · rintro r ⟨⟩

/-! ### Along a path -/

/-- The values differ in what the path leads to. All that lies beside it is the same, and what lies
on the way differs in nothing else. -/
structure Value.DifferAt (c : Catalog) (address : List Step) (v v' : Value) : Prop where
  beside : ∀ path, ¬ address <+: path → ¬ path <+: address → at? c path v' = at? c path v
  above : ∀ path, path <+: address → path ≠ address → ∀ x, at? c path v = some x →
    ∃ x', at? c path v' = some x' ∧ x.SameFrame x'

theorem Value.DifferAt.single (h : UpdatesAt c s v v') : DifferAt c [s] v v' where
  beside path hb ha := by
    cases path with
    | nil => exact absurd List.nil_prefix ha
    | cons s' path =>
      have hne : s' ≠ s := by
        rintro rfl
        exact hb (List.cons_prefix_cons.mpr ⟨rfl, List.nil_prefix⟩)
      rw [at?, at?, h.others s' hne]
  above path hp hne x hx := by
    rcases List.prefix_cons_iff.mp hp with rfl | ⟨rest, rfl, hr⟩
    · obtain rfl := Option.some.inj hx
      exact ⟨v', rfl, h.frame⟩
    · exact absurd (by rw [List.prefix_nil.mp hr]) hne

theorem Value.DifferAt.cons {address : List Step} (h : UpdatesAt c s v v')
    (hv : v.next? c s = some x) (hv' : v'.next? c s = some y) (hx : DifferAt c address x y) :
    DifferAt c (s :: address) v v' where
  beside path hb ha := by
    cases path with
    | nil => exact absurd List.nil_prefix ha
    | cons s' path =>
      by_cases hs : s' = s
      · subst hs
        rw [at?, at?, hv, hv']
        refine hx.beside path (fun h => hb ?_) fun h => ha ?_
        · exact List.cons_prefix_cons.mpr ⟨rfl, h⟩
        · exact List.cons_prefix_cons.mpr ⟨rfl, h⟩
      · rw [at?, at?, h.others s' hs]
  above path hp hne z hz := by
    rcases List.prefix_cons_iff.mp hp with rfl | ⟨rest, rfl, hr⟩
    · obtain rfl := Option.some.inj hz
      exact ⟨v', rfl, h.frame⟩
    · rw [at?, hv] at hz
      rw [at?, hv']
      exact hx.above rest hr (fun he => hne (by rw [he])) z hz

/-- On the way along the path or at its end, there is a record of a frozen type. -/
def Value.PassesFrozen (c : Catalog) (path : List Step) (v : Value) : Prop :=
  ∃ front r, front <+: path ∧ v.at? c front = some (.record r) ∧
    (r.schema c).flags.frozen = true

theorem Access.Performs.updatesAt (hc : c.Indexed) (h : access.Performs c r r') :
    Value.UpdatesAt c (access.target c r) (.record r) (.record r') := by
  cases h with
  | field ht hs => exact ht ▸ r.updatesAt_setSlot hc hs _
  | note ht => exact ht ▸ Record.updatesAt_putNote _ _

namespace Value

theorem passesFrozen_nil : v.PassesFrozen c [] ↔
    ∃ r, v = .record r ∧ (r.schema c).flags.frozen = true := by
  constructor
  · rintro ⟨front, r, hp, hr, hz⟩
    obtain rfl := List.prefix_nil.mp hp
    exact ⟨r, Option.some.inj hr, hz⟩
  · rintro ⟨r, rfl, hz⟩
    exact ⟨[], r, List.prefix_rfl, rfl, hz⟩

theorem passesFrozen_cons (hx : v.next? c s = some x) : v.PassesFrozen c (s :: path) ↔
    (∃ r, v = .record r ∧ (r.schema c).flags.frozen = true) ∨ x.PassesFrozen c path := by
  constructor
  · rintro ⟨front, r, hp, hr, hz⟩
    rcases List.prefix_cons_iff.mp hp with rfl | ⟨rest, rfl, hrest⟩
    · exact .inl ⟨r, Option.some.inj hr, hz⟩
    · rw [at?, hx] at hr
      exact .inr ⟨rest, r, hrest, hr, hz⟩
  · rintro (⟨r, rfl, hz⟩ | ⟨front, r, hp, hr, hz⟩)
    · exact ⟨[], r, List.nil_prefix, rfl, hz⟩
    · refine ⟨s :: front, r, List.cons_prefix_cons.mpr ⟨rfl, hp⟩, ?_, hz⟩
      rw [at?, hx]
      exact hr

/-- What a change does that is not refused, by induction on the path. -/
theorem mutate_eq_ok (hc : c.Indexed) (h : v.mutate c access path = .ok v') :
    ¬ v.PassesFrozen c path ∧ ∃ r r', v.at? c path = some (.record r) ∧
      v'.at? c path = some (.record r') ∧ access.Performs c r r' ∧
      DifferAt c (path ++ [access.target c r]) v v' := by
  induction path generalizing v v' with
  | nil =>
    cases v with
    | record r =>
      rw [mutate] at h
      obtain ⟨r', hr, rfl⟩ := InPlace.within_eq_ok_iff.mp h
      obtain ⟨hz, hp⟩ := Access.performs_of_perform (InPlace.relabelError_eq_ok_iff.mp hr)
      refine ⟨?_, r, r', rfl, rfl, hp, .single (hp.updatesAt hc)⟩
      rw [passesFrozen_nil]
      rintro ⟨_, ⟨⟩, hz'⟩
      exact absurd (hz.symm.trans hz') Bool.false_ne_true
    | _ => cases h
  | cons s path ih =>
    rw [mutate] at h
    split at h
    · cases h
    next x put hb =>
    obtain ⟨y, hy, rfl⟩ := InPlace.within_eq_ok_iff.mp h
    obtain ⟨hx, hput, hz⟩ := borrow_eq_ok hc hb
    obtain ⟨hfree, r, r', hr, hr', hp, hd⟩ := ih hy
    refine ⟨?_, r, r', ?_, ?_, hp, hd.cons (hput y).2 hx (hput y).1⟩
    · rw [passesFrozen_cons hx]
      rintro (⟨r, hv, hz'⟩ | hpass)
      · exact absurd ((hz r hv).symm.trans hz') Bool.false_ne_true
      · exact hfree hpass
    · rw [at?, hx]
      exact hr
    · rw [at?, (hput y).1]
      exact hr'

/-- A change that is refused leaves the whole value as it was, by induction on the path: whatever
was borrowed on the way is put back as it was. -/
theorem eq_of_mutate_error {e : Refusal} (h : v.mutate c access path = .error (e, v')) :
    v' = v := by
  induction path generalizing v v' with
  | nil =>
    cases v with
    | record r =>
      rw [mutate] at h
      obtain ⟨r', hr, rfl⟩ := InPlace.within_eq_error_iff.mp h
      obtain ⟨_, hr, -⟩ := InPlace.relabelError_eq_error_iff.mp hr
      rw [Access.eq_of_perform_error hr]
    | _ =>
      cases h
      rfl
  | cons s path ih =>
    rw [mutate] at h
    split at h
    · cases h
      rfl
    next x put hb =>
    obtain ⟨y, hy, rfl⟩ := InPlace.within_eq_error_iff.mp h
    rw [ih hy, (lends_of_borrow hb).put_self]

/-- A change that would pass through a record of a frozen type, or end at one, is refused. -/
theorem exists_mutate_eq_error (hc : c.Indexed) (h : v.PassesFrozen c path) (access : Access) :
    ∃ e, v.mutate c access path = .error (e, v) := by
  cases hm : v.mutate c access path with
  | error p =>
    obtain ⟨e, v'⟩ := p
    obtain rfl := eq_of_mutate_error hm
    exact ⟨e, rfl⟩
  | ok v' => exact absurd h (mutate_eq_ok hc hm).1

/-! ### Sequences of changes -/

/-- A change of the record that a path leads to. -/
structure Mutation where
  path : List Step
  access : Access

/-- The value that a change leaves, whether it is refused or not. -/
def after (c : Catalog) (v : Value) (m : Mutation) : Value :=
  (v.mutate c m.access m.path).left

theorem after_of_mutate_ok {m : Mutation} (h : v.mutate c m.access m.path = .ok v') :
    v.after c m = v' := by
  rw [after, h, InPlace.left]

theorem after_of_mutate_error {m : Mutation} {e : Refusal}
    (h : v.mutate c m.access m.path = .error (e, v')) : v.after c m = v := by
  rw [after, h, InPlace.left, eq_of_mutate_error h]

def afterAll (c : Catalog) (v : Value) (ms : List Mutation) : Value :=
  ms.foldl (after c) v

/-- The change is not refused, and what it changes is at the place or holds it. -/
def Mutation.Overwrites (c : Catalog) (v : Value) (m : Mutation) (place : List Step) : Prop :=
  (∃ v', v.mutate c m.access m.path = .ok v') ∧
    ∃ r, v.at? c m.path = some (.record r) ∧ m.path ++ [m.access.target c r] <+: place

section

variable {place : List Step} (hc : c.Indexed) (hr : v.at? c place = some (.record r))
  (hz : (r.schema c).flags.frozen = true)

include hc hr hz

/-- A record of a frozen type stays as it is unless it is overwritten as a whole. -/
theorem at?_after_or_overwrites (m : Mutation) :
    (v.after c m).at? c place = some (.record r) ∨ m.Overwrites c v place := by
  cases hm : v.mutate c m.access m.path with
  | error p => exact .inl ((after_of_mutate_error hm).symm ▸ hr)
  | ok v' =>
    rw [after_of_mutate_ok hm]
    obtain ⟨hfree, r₁, r₂, h₁, -, -, hd⟩ := mutate_eq_ok hc hm
    by_cases hb : m.path ++ [m.access.target c r₁] <+: place
    · exact .inr ⟨⟨v', hm⟩, r₁, h₁, hb⟩
    · by_cases ha : place <+: m.path ++ [m.access.target c r₁]
      · -- The record would be on the way, or be the one that is changed.
        rcases List.prefix_concat_iff.mp ha with he | ha
        · exact absurd (he ▸ List.prefix_rfl) hb
        · exact absurd ⟨place, r, ha, hr, hz⟩ hfree
      · exact .inl ((hd.beside place hb ha).trans hr)

theorem at?_afterAll_or_overwrites (ms : List Mutation) :
    (v.afterAll c ms).at? c place = some (.record r) ∨ ∃ before m behind,
      ms = before ++ m :: behind ∧ m.Overwrites c (v.afterAll c before) place := by
  induction ms using List.reverseRecOn with
  | nil => exact .inl hr
  | append_singleton ms m ih =>
    rcases ih with hkept | ⟨before, m', behind, rfl, ho⟩
    · rw [afterAll, List.foldl_append, List.foldl_cons, List.foldl_nil]
      rcases at?_after_or_overwrites hc hkept hz m with hkept | ho
      · exact .inl hkept
      · exact .inr ⟨ms, m, [], rfl, ho⟩
    · exact .inr ⟨before, m', behind ++ [m], by simp, ho⟩

end

/-! ### What stands there afterwards -/

theorem mem_components_of_next? (h : v.next? c s = some x) : x ∈ v.components := by
  unfold next? at h
  split at h
  · obtain ⟨slot, -, hx⟩ := Option.bind_eq_some_iff.mp h
    exact List.mem_append_left _ (List.mem_of_getElem? hx)
  · next r name =>
    obtain ⟨before, behind, he, -⟩ := List.lookup_eq_some_iff.mp h
    have hm : (name, x) ∈ r.annotations := he ▸ List.mem_append_right before List.mem_cons_self
    exact List.mem_append_right _ (List.mem_map.mpr ⟨_, hm, rfl⟩)
  · exact List.mem_of_getElem? h
  · exact List.mem_of_getElem? h
  · exact List.mem_of_getElem? h
  · obtain ⟨e, he, rfl⟩ := Option.map_eq_some_iff.mp h
    exact List.mem_flatMap.mpr ⟨e, List.mem_of_getElem? he, by simp⟩
  · obtain ⟨e, he, rfl⟩ := Option.map_eq_some_iff.mp h
    exact List.mem_flatMap.mpr ⟨e, List.mem_of_getElem? he, by simp⟩
  · cases h

theorem occurs_of_at? (h : v.at? c path = some x) : x.Occurs v := by
  induction path generalizing v with
  | nil =>
    obtain rfl := Option.some.inj h
    exact .here
  | cons s path ih =>
    obtain ⟨y, hy, h⟩ := Option.bind_eq_some_iff.mp h
    exact .within (mem_components_of_next? hy) (ih h)

theorem at?_append {rest : List Step} :
    v.at? c (path ++ rest) = (v.at? c path).bind (at? c rest) := by
  induction path generalizing v with
  | nil => rfl
  | cons s path ih =>
    rw [List.cons_append, at?, at?, Option.bind_assoc]
    exact Option.bind_congr fun x _ => ih

theorem next?_of_performs (hc : c.Indexed) (hr : r.values.length = (r.schema c).fields.length)
    (h : access.Performs c r r') :
    (Value.record r').next? c (access.target c r) = some (access.written c r) := by
  cases h with
  | @field name slot ht hs =>
    have hlt := (hc r.type).lt_length hs
    rw [ht]
    change ((r.schema c).slot? name).bind
      (fun slot' => (r.values.set slot (access.written c r))[slot']?) = _
    rw [hs, Option.bind_some, List.getElem?_set_self (hr ▸ hlt)]
  | @note name ht =>
    rw [ht]
    exact (Record.lookup_putNote name name _ _).trans (if_pos rfl)

/-- Where a change of a value is not refused, the value differs in what is changed and in nothing
else, and what is written stands there. -/
theorem differAt_of_mutate (hc : c.Indexed) (hp : v.Everywhere (Proper c))
    (h : v.mutate c access path = .ok v') :
    ∃ r, v.at? c path = some (.record r) ∧
      DifferAt c (path ++ [access.target c r]) v v' ∧
      v'.at? c (path ++ [access.target c r]) = some (access.written c r) := by
  obtain ⟨-, r, r', hr, hr', hperf, hd⟩ := mutate_eq_ok hc h
  refine ⟨r, hr, hd, ?_⟩
  rw [at?_append, hr', Option.bind_some, at?,
    next?_of_performs hc (hp _ (occurs_of_at? hr)).length_values hperf]
  rfl

end Value

end TypedTree
