import TypedTree.Proofs.Construction.Sessions
import TypedTree.Proofs.Record.Mutation
import TypedTree.Proofs.Validation.Extension
import TypedTree.Proofs.World.Remembering

/-! # Histories of worlds and of the values in them -/

namespace TypedTree

/-! ### What can happen -/

/-- What can be had from the values at hand without numbering anything: defaults of fields, parts,
containers, and records that are changed in place, collect their symbols or take over the dynamic
annotations of other ones. Values at hand can be copied. -/
inductive Derivable (c : Catalog) (hand : List Value) : Value → Prop where
  | given {v} (h : v ∈ hand) : Derivable c hand v
  | default {t f v} (hf : f ∈ (c.schema t).fields) (hd : f.default = .value v) :
      Derivable c hand v
  | atom {v} (h : v.isAtom = true) : Derivable c hand v
  | component {v x} (h : Derivable c hand v) (hx : x ∈ v.components) : Derivable c hand x
  | tuple {items} (h : ∀ x ∈ items, Derivable c hand x) : Derivable c hand (.tuple items)
  | list {items} (h : ∀ x ∈ items, Derivable c hand x) : Derivable c hand (.list items)
  | set {items} (h : ∀ x ∈ items, Derivable c hand x) (hd : Value.Distinct c items) :
      Derivable c hand (.set items)
  | map {entries : List (Value × Value)} (hk : ∀ e ∈ entries, Derivable c hand e.1)
      (hv : ∀ e ∈ entries, Derivable c hand e.2)
      (hd : Value.Distinct c (entries.map (·.1))) : Derivable c hand (.map entries)
  | change {r r' : Record} {access : Access} (hr : Derivable c hand (.record r))
      (hw : Derivable c hand (access.written c r)) (h : access.perform c r = .ok r') :
      Derivable c hand (.record r')
  | collect {r : Record} (h : Derivable c hand (.record r)) :
      Derivable c hand (.record (r.withSymbols c))
  | annotations {r r' : Record} (hr : Derivable c hand (.record r))
      (hr' : Derivable c hand (.record r')) :
      Derivable c hand (.record { r with annotations := r'.annotations })

/-- A world, and the values that have come up in it so far. -/
structure Situation where
  world : World
  hand : List Value

/-- The situation at the beginning. -/
def Situation.start : Situation := ⟨{}, []⟩

namespace Operation

/-- The session starts to number anew, if there is one. -/
def Resets (id : Option SessionId) : Operation → Prop
  | resetIds i _ => some i = id
  | reset i => some i = id
  | _ => False

/-- How many numbers of the session the operation gives out. -/
def numbers (id : Option SessionId) (w : World) : Operation → Nat
  | mint i => if some i = id ∧ i < w.state.sessions.length then 1 else 0
  | _ => 0

/-- The values that stand in a declaration. -/
def values : Operation → List Value
  | declare d => d.fields.filterMap (·.default)
  | _ => []

end Operation

/-- How many numbers of the session an instance of the type takes. -/
def Catalog.numbers (c : Catalog) (id : Option SessionId) (t : TypeId) : Nat :=
  if (c.schema t).isNode = true ∧ some (c.schema t).session = id then 1 else 0

/-- One thing after the other, from one situation to another one. A record is made of values at hand
that match the types of its fields, as soon as it has its number; whether its construction succeeds
in the end does not matter. If there is a session to look at, it never starts to number anew, and
the numbers that it gives out are counted. -/
inductive History (id : Option SessionId) (S : Situation) : Nat → Situation → Prop where
  | refl : History id S 0 S
  | operate {n T op} (h : History id S n T) (hz : ¬ op.Resets id) (hr : op.Refers T.world)
      (hv : ∀ v ∈ op.values, v ∈ T.hand) :
      History id S (n + op.numbers id T.world) ⟨T.world.after op, T.hand⟩
  | obtain {n T v} (h : History id S n T) (hv : Derivable T.world.catalog T.hand v) :
      History id S n ⟨T.world, v :: T.hand⟩
  | make {n c s live t values} (h : History id S n ⟨⟨c, s⟩, live⟩) (ht : t < c.schemas.length)
      (hv : ∀ v ∈ values, v ∈ live)
      (hf : List.Forall₂ (fun f v => f.type.validate c v = .ok ()) (c.schema t).fields values) :
      History id S (n + c.numbers id t)
        ⟨⟨c, s.afterNumbering c t⟩, .record (draft c t s values) :: live⟩

variable {id : Option SessionId} {i : SessionId} {c c' : Catalog} {S T U : Situation} {n m : Nat}
  {w : World}

theorem History.trans (h : History id S n T) (h' : History id T m U) :
    History id S (n + m) U := by
  induction h' with
  | refl => exact h
  | operate _ hz hr hv ih =>
    rw [← Nat.add_assoc]
    exact ih.operate hz hr hv
  | obtain _ hv ih => exact ih.obtain hv
  | make _ ht hv hf ih =>
    rw [← Nat.add_assoc]
    exact ih.make ht hv hf

theorem History.extends (h : History id S n T) : S.world.catalog.Extends T.world.catalog := by
  induction h with
  | refl => exact .refl _
  | operate _ _ _ _ ih => exact ih.trans (World.effect_after _ _).extends
  | obtain _ _ ih => exact ih
  | make _ _ _ _ ih => exact ih

/-! ### Numbers -/

theorem State.nextId_mint (s : State) (j : SessionId) : ((s.mint j).2.session i).nextId =
    (s.session i).nextId + if j = i ∧ j < s.sessions.length then 1 else 0 := by
  rw [mint, session_modifySession]
  by_cases hj : j = i
  · subst hj
    by_cases hl : j < s.sessions.length <;> simp [hl]
  · simp [hj, Ne.symm hj]

theorem State.nextId_afterNumbering {s : State} {t : TypeId}
    (ht : (c.schema t).session < s.sessions.length) :
    ((s.afterNumbering c t).session i).nextId =
      (s.session i).nextId + .ofNat (c.numbers (some i) t) := by
  rw [afterNumbering, Catalog.numbers]
  cases hn : (c.schema t).isNode with
  | false => simp
  | true =>
    rw [if_pos rfl, nextId_mint]
    by_cases hi : (c.schema t).session = i
    · subst hi
      simp [ht]
    · simp [hi]

theorem State.nextId_modifySession {s : State} {j : SessionId} {change : Session → Session}
    (h : j ≠ i ∨ ∀ session, (change session).nextId = session.nextId) :
    ((s.modifySession j change).session i).nextId = (s.session i).nextId := by
  rw [session_modifySession]
  split
  · next hj => exact h.elim (fun hne => absurd hj.1.symm hne) fun h => h _
  · rfl

/-- An operation that does not reset a session goes on with its numbers. -/
theorem World.nextId_after {op : Operation} (hz : ¬ op.Resets (some i)) :
    ((w.after op).state.session i).nextId =
      (w.state.session i).nextId + .ofNat (op.numbers (some i) w) := by
  have hzero (n : NodeId) : n = n + UInt64.ofNat 0 := (UInt64.add_zero n).symm
  have hother {j : SessionId} (h : ¬ some j = some i) : j ≠ i := fun he => h (congrArg some he)
  cases op with
  | openSession =>
    rw [after, perform, State.session_addSession]
    exact hzero _
  | addEnum | setMemory => exact hzero _
  | declare d =>
    rw [after, perform]
    cases w.catalog.declare d <;> exact hzero _
  | specialize generic arguments =>
    rw [after, perform]
    cases hs : w.specialize generic arguments with
    | error e => exact hzero _
    | ok p =>
      obtain ⟨t, w'⟩ := p
      obtain ⟨-, -, hy⟩ := specialize_eq_ok_iff.mp hs
      cases hy with
      | remembered => exact hzero _
      | made =>
        refine Eq.trans ?_ (hzero _)
        exact State.nextId_modifySession (.inr fun _ => rfl)
  | mint j =>
    rw [after, perform, State.nextId_mint, Operation.numbers]
    simp only [Option.some.injEq]
    split <;> rfl
  | resetIds j start | reset j =>
    exact (State.nextId_modifySession (.inl (hother hz))).trans (hzero _)
  | clear j =>
    refine Eq.trans (State.nextId_modifySession (.inr fun session => ?_)) (hzero _)
    rfl

/-! ### What stays true -/

/-- What is true of every value at hand, of whatever is part of it. Sets, maps and records are put
together properly, instances of frozen types hold what the types of their fields accept, and the
nodes of the session have some of the numbers given out. -/
structure Value.Settled (id : Option SessionId) (c : Catalog) (n : Nat) (x : Value) : Prop where
  proper : Proper c x
  accepted : ∀ r, x = .record r → (r.schema c).flags.frozen = true →
    List.Forall₂ (fun f v => f.type.validate c v = .ok ()) (r.schema c).fields r.values
  numbered : ∀ r node, x = .record r → r.node = some node →
    some (r.schema c).session = id → node.id.toNat ≤ n

theorem Value.Settled.mono {x : Value} (h : x.Settled id c n) (hx : c.Extends c')
    (hc : c.Closed) (hn : n ≤ m) : x.Settled id c' m := by
  refine ⟨h.proper.of_extends hx, ?_, ?_⟩
  · rintro r rfl hz
    rw [Record.schema, hx.schema_eq h.proper.lt_length] at hz ⊢
    obtain ⟨hl, hv⟩ := List.forall₂_iff_zip.mp (h.accepted r rfl hz)
    refine List.forall₂_iff_zip.mpr ⟨hl, fun {f v} hm => ?_⟩
    exact Ty.validate_of_extends hx hc (h.proper.of_mem_parts (List.of_mem_zip hm).2) (hv hm)
  · rintro r node rfl hr hs
    rw [Record.schema, hx.schema_eq h.proper.lt_length] at hs
    exact Nat.le_trans (h.numbered r node rfl hr hs) hn

/-! ### Values that are derived -/

section

variable {v x : Value} {r r' : Record} {items : List Value}

theorem Value.Settled.of_not_record (hp : Proper c v) (hr : ∀ r, v ≠ .record r) :
    v.Settled id c n :=
  ⟨hp, fun r h => absurd h (hr r), fun r _ h => absurd h (hr r)⟩

/-- A record of a type that is not frozen is changed to one that has new values or annotations. -/
theorem Value.Settled.change {access : Access} (h : (Value.record r).Settled id c n)
    (hw : Proper c (access.written c r)) (hf : (r.schema c).flags.frozen = false)
    (hp : access.Performs c r r') : (Value.record r').Settled id c n := by
  cases hp with
  | @field name slot ht hs =>
    refine ⟨?_, ?_, ?_⟩
    · refine .record h.proper.lt_length ((List.length_set ..).trans h.proper.length_values) ?_
      intro x hx
      rcases List.mem_or_eq_of_mem_set hx with hx | rfl
      · exact h.proper.of_mem_parts hx
      · exact hw
    · rintro _ ⟨⟩ hz
      exact absurd (hf.symm.trans hz) Bool.false_ne_true
    · rintro _ node ⟨⟩ hr hs
      exact h.numbered r node rfl hr hs
  | note =>
    refine ⟨.record h.proper.lt_length h.proper.length_values fun x hx => h.proper.of_mem_parts hx,
      ?_, ?_⟩
    · rintro _ ⟨⟩ hz
      exact absurd (hf.symm.trans hz) Bool.false_ne_true
    · rintro _ node ⟨⟩ hr hs
      exact h.numbered r node rfl hr hs

theorem Record.annotations_withSymbols (c : Catalog) (r : Record) :
    (r.withSymbols c).annotations = r.annotations := by
  unfold withSymbols
  split <;> rfl

/-- Symbols and dynamic annotations do not matter to a record itself. -/
theorem Value.Settled.congr (h : (Value.record r).Settled id c n) (ht : r'.type = r.type)
    (hv : r'.values = r.values) (hn : r'.node.map (·.id) = r.node.map (·.id)) :
    (Value.record r').Settled id c n := by
  have hs : r'.schema c = r.schema c := by rw [Record.schema, ht, Record.schema]
  refine ⟨?_, ?_, ?_⟩
  · refine .record (ht ▸ h.proper.lt_length) ?_ fun x hx => ?_
    · rw [hs, hv]
      exact h.proper.length_values
    · rw [hv] at hx
      exact h.proper.of_mem_parts hx
  · rintro _ ⟨⟩ hz
    rw [hs, hv] at *
    exact h.accepted r rfl hz
  · rintro _ node ⟨⟩ hr hid
    rw [hr, Option.map_some, eq_comm, Option.map_eq_some_iff] at hn
    obtain ⟨node', hr', hnode⟩ := hn
    exact hnode ▸ h.numbered r node' rfl hr' (hs ▸ hid)

theorem Record.mem_putNote {name : String} {y : Value} {annotations : List (String × Value)}
    (hx : x ∈ (putNote name y annotations).map (·.2)) : x ∈ annotations.map (·.2) ∨ x = y := by
  induction annotations with
  | nil => exact .inr (List.mem_singleton.mp hx)
  | cons e annotations ih =>
    rw [putNote] at hx
    split at hx
    · exact (List.mem_cons.mp hx).symm.imp_left (List.mem_cons_of_mem _)
    · rcases List.mem_cons.mp hx with rfl | hx
      · exact .inl List.mem_cons_self
      · exact (ih hx).imp_left (List.mem_cons_of_mem _)

/-- What a changed record is put together from was there before or was written. -/
theorem Access.Performs.mem_components {access : Access} (hp : access.Performs c r r')
    (hx : x ∈ (Value.record r').components) :
    x ∈ (Value.record r).components ∨ x = access.written c r := by
  rcases List.mem_append.mp hx with hx | hx
  · cases hp with
    | field ht hs =>
      exact (List.mem_or_eq_of_mem_set hx).imp_left (List.mem_append_left _)
    | note => exact .inl (List.mem_append_left _ hx)
  · cases hp with
    | field => exact .inl (List.mem_append_right _ hx)
    | note => exact (Record.mem_putNote hx).imp_left (List.mem_append_right _)

theorem Derivable.mono {hand hand' : List Value} (hh : hand ⊆ hand') (h : Derivable c hand v) :
    Derivable c hand' v := by
  induction h with
  | given h => exact .given (hh h)
  | default hf hd => exact .default hf hd
  | atom h => exact .atom h
  | component _ hx ih => exact .component ih hx
  | tuple _ ih => exact .tuple ih
  | list _ ih => exact .list ih
  | set _ hd ih => exact .set ih hd
  | map _ _ hd ihk ihv => exact .map ihk ihv hd
  | change _ _ h ihr ihw => exact .change ihr ihw h
  | collect _ ih => exact .collect ih
  | annotations _ _ ihr ihr' => exact .annotations ihr ihr'

/-- What is put back in the place of what was borrowed. -/
theorem Derivable.put {hand : List Value} {s : Step} {y : Value} {put : Value → Value}
    (hp : Value.Proper c v) (hv : Derivable c hand v) (hb : v.borrow c s = .ok (x, put))
    (hy : Derivable c hand y) : Derivable c hand (put y) := by
  cases Value.lends_of_borrow hb with
  | @field r name slot _ hs hz _ =>
    have hw : r.writableSlot c name = .ok slot := Record.writableSlot_eq_ok_iff.mpr ⟨hs, hz⟩
    have hassign : (Access.assign name y).perform c r = .ok (r.setSlot slot y) := by
      rw [Access.perform, Record.set, hw]
    refine .change hv ?_ hassign
    exact hy
  | tuple =>
    refine .tuple fun z hz => ?_
    rcases List.mem_or_eq_of_mem_set hz with hz | rfl
    · exact .component hv hz
    · exact hy
  | list =>
    refine .list fun z hz => ?_
    rcases List.mem_or_eq_of_mem_set hz with hz | rfl
    · exact .component hv hz
    · exact hy
  | @entry entries i k _ hx =>
    have hkey {e : Value × Value} (he : e ∈ entries) : Derivable c hand e.1 :=
      .component hv (List.mem_flatMap.mpr ⟨e, he, List.mem_cons_self⟩)
    have hvalue {e : Value × Value} (he : e ∈ entries) : Derivable c hand e.2 :=
      .component hv (List.mem_flatMap.mpr ⟨e, he, List.mem_cons_of_mem _ List.mem_cons_self⟩)
    have hk : Derivable c hand k := hkey (List.mem_of_getElem? hx)
    refine .map (fun e he => ?_) (fun e he => ?_) ?_
    · rcases List.mem_or_eq_of_mem_set he with he | rfl
      · exact hkey he
      · exact hk
    · rcases List.mem_or_eq_of_mem_set he with he | rfl
      · exact hvalue he
      · exact hy
    · cases (Value.updatesAt_map (c := c) hx y).frame with
      | map hkeys =>
        rw [hkeys]
        exact hp.distinct_keys

/-- A change along a path is as good as taking the value apart and putting it together again. -/
theorem Derivable.mutate {hand : List Value} {access : Access} {path : List Step} {v' : Value}
    (hp : v.Everywhere (Value.Proper c)) (hv : Derivable c hand v)
    (hw : ∀ r, v.at? c path = some (.record r) → Derivable c hand (access.written c r))
    (h : v.mutate c access path = .ok v') : Derivable c hand v' := by
  induction path generalizing v v' with
  | nil =>
    cases v with
    | record r =>
      rw [Value.mutate] at h
      obtain ⟨r', hr, rfl⟩ := InPlace.within_eq_ok_iff.mp h
      exact .change hv (hw r rfl) (InPlace.relabelError_eq_ok_iff.mp hr)
    | _ => cases h
  | cons s path ih =>
    rw [Value.mutate] at h
    split at h
    · cases h
    next x put hb =>
    obtain ⟨y, hy, rfl⟩ := InPlace.within_eq_ok_iff.mp h
    have hx := (Value.lends_of_borrow hb).next?_eq
    have hm := Value.mem_components_of_next? hx
    have hxp := (Value.everywhere_iff.mp hp).2 x hm
    refine hv.put (hp v .here) hb (ih hxp (.component hv hm) (fun r hr => ?_) hy)
    exact hw r (by rw [Value.at?, hx]; exact hr)

/-- Where everything at hand is settled, so is everything that is derived from it. -/
theorem Derivable.settled {hand : List Value} (hh : ∀ v ∈ hand, v.Everywhere (·.Settled id c n))
    (hd : ∀ t, ∀ f ∈ (c.schema t).fields, ∀ v, f.default = .value v →
      v.Everywhere (·.Settled id c n)) (h : Derivable c hand v) :
    v.Everywhere (·.Settled id c n) := by
  have hself {v : Value} (h : v.Everywhere (·.Settled id c n)) : v.Settled id c n := h v .here
  have hparts {r : Record} (h : (Value.record r).Everywhere (·.Settled id c n)) :=
    (Value.everywhere_iff.mp h).2
  induction h with
  | given h => exact hh _ h
  | default hf h => exact hd _ _ hf _ h
  | @atom v h =>
    refine Value.everywhere_iff.mpr ⟨.of_not_record (.atom h) ?_, fun x hx => ?_⟩
    · rintro r rfl
      cases h
    · cases v <;> first | exact absurd hx List.not_mem_nil | cases h
  | component h hx ih => exact (Value.everywhere_iff.mp ih).2 _ hx
  | tuple h ih =>
    refine Value.everywhere_iff.mpr ⟨.of_not_record ?_ (by simp), ih⟩
    exact .tuple fun x hx => (hself (ih x hx)).proper
  | list h ih =>
    refine Value.everywhere_iff.mpr ⟨.of_not_record ?_ (by simp), ih⟩
    exact .list fun x hx => (hself (ih x hx)).proper
  | set h hd ih =>
    refine Value.everywhere_iff.mpr ⟨.of_not_record ?_ (by simp), ih⟩
    exact .set (fun x hx => (hself (ih x hx)).proper) hd
  | map hk hv hd ihk ihv =>
    refine Value.everywhere_iff.mpr ⟨.of_not_record ?_ (by simp), ?_⟩
    · exact .map (fun e he => (hself (ihk e he)).proper) (fun e he => (hself (ihv e he)).proper) hd
    · exact Value.forall_parts_map_iff.mpr fun e he => ⟨ihk e he, ihv e he⟩
  | change hr hw h ihr ihw =>
    obtain ⟨hf, hp⟩ := Access.performs_of_perform h
    refine Value.everywhere_iff.mpr ⟨(hself ihr).change (hself ihw).proper hf hp, fun x hx => ?_⟩
    rcases hp.mem_components hx with hx | rfl
    · exact hparts ihr x hx
    · exact ihw
  | @collect r h ih =>
    refine Value.everywhere_iff.mpr ⟨?_, fun x hx => hparts ih x ?_⟩
    · exact (hself ih).congr (Record.type_withSymbols c r) (Record.values_withSymbols c r)
        (Record.id_withSymbols c r)
    · rwa [Value.components, Record.values_withSymbols, Record.annotations_withSymbols] at hx
  | annotations hr hr' ihr ihr' =>
    refine Value.everywhere_iff.mpr ⟨(hself ihr).congr rfl rfl rfl, fun x hx => ?_⟩
    rcases List.mem_append.mp hx with hx | hx
    · exact hparts ihr x (List.mem_append_left _ hx)
    · exact hparts ihr' x (List.mem_append_right _ hx)

end

/-! ### Defaults -/

theorem Catalog.mem_fields_addSchema {s : Schema} {t : TypeId} {f : Field}
    (hf : f ∈ ((c.addSchema s).2.schema t).fields) : f ∈ (c.schema t).fields ∨ f ∈ s.fields := by
  rcases Nat.lt_trichotomy t c.schemas.length with ht | rfl | ht
  · exact .inl ((c.extends_addSchema s).schema_eq ht ▸ hf)
  · exact .inr (c.schema_addSchema s ▸ hf)
  · rw [schema_eq_default (by rw [length_addSchema]; exact ht)] at hf
    exact absurd hf List.not_mem_nil

/-- A default stands in a declaration or in a type that was there before. -/
theorem World.default_after {op : Operation} {t : TypeId} {f : Field} {v : Value}
    (hf : f ∈ ((w.after op).catalog.schema t).fields) (hd : f.default = .value v) :
    (∃ u, ∃ g ∈ (w.catalog.schema u).fields, g.default = .value v) ∨ v ∈ op.values := by
  generalize w.after op = w', w.effect_after op = he at hf
  cases he with
  | sessions hc =>
    rw [Catalog.schema_of_eq hc] at hf
    exact .inl ⟨t, f, hf, hd⟩
  | @declared d s ho hb =>
    subst ho
    rcases Catalog.mem_fields_addSchema hf with hf | hf
    · exact .inl ⟨t, f, hf, hd⟩
    · rcases Declaration.default_of_build hb hf hd with ⟨p, hp, g, hg, hd⟩ | ⟨g, hg, hd⟩
      · obtain ⟨u, -, rfl⟩ := Option.map_eq_some_iff.mp hp
        exact .inl ⟨u, g, hg, hd⟩
      · exact .inr (List.mem_filterMap.mpr ⟨g, hg, hd⟩)
  | @applied app s hc hroot hn hs =>
    rcases Catalog.mem_fields_addSchema hf with hf | hf
    · exact .inl ⟨t, f, hf, hd⟩
    · obtain ⟨⟨name, rfl⟩, -⟩ := specializedSchema_eq_ok hs
      obtain ⟨g, hg, rfl⟩ := List.mem_map.mp hf
      exact .inl ⟨app.generic, g, hg, hd⟩

/-! ### Situations -/

/-- What is true of every situation of a history from the start on. -/
structure Situation.Settled (id : Option SessionId) (n : Nat) (S : Situation) : Prop where
  reachable : World.Reachable S.world
  counter : ∀ i, id = some i → (S.world.state.session i).nextId = .ofNat (n + 1)
  hand : ∀ v ∈ S.hand, v.Everywhere (·.Settled id S.world.catalog n)
  defaults : ∀ t, ∀ f ∈ (S.world.catalog.schema t).fields, ∀ v, f.default = .value v →
    v.Everywhere (·.Settled id S.world.catalog n)

theorem Situation.settled_start : start.Settled id 0 where
  reachable := .refl
  counter _ _ := rfl
  hand _ hv := absurd hv List.not_mem_nil
  defaults _ _ hf := absurd hf List.not_mem_nil

theorem Situation.Settled.operate {op : Operation} (h : S.Settled id n) (hz : ¬ op.Resets id)
    (hr : op.Refers S.world) (hv : ∀ v ∈ op.values, v ∈ S.hand) :
    Situation.Settled id (n + op.numbers id S.world) ⟨S.world.after op, S.hand⟩ := by
  have hx : S.world.catalog.Extends (S.world.after op).catalog := (World.effect_after _ _).extends
  have hc := h.reachable.sound.closed_of_extends (.refl _)
  have hmono {v : Value} (hv : v.Everywhere (·.Settled id S.world.catalog n)) :
      v.Everywhere (·.Settled id (S.world.after op).catalog (n + op.numbers id S.world)) :=
    hv.mono fun x hx' => hx'.mono hx hc (Nat.le_add_right n _)
  refine ⟨h.reachable.step trivial hr, ?_, fun v hv => hmono (h.hand v hv), ?_⟩
  · rintro i rfl
    rw [World.nextId_after hz, h.counter i rfl, ← UInt64.ofNat_add, Nat.add_right_comm]
  · intro t f hf v hd
    rcases World.default_after hf hd with ⟨u, g, hg, hd⟩ | hm
    · exact hmono (h.defaults u g hg v hd)
    · exact hmono (h.hand v (hv v hm))

theorem Situation.Settled.obtain {v : Value} (h : S.Settled id n)
    (hv : Derivable S.world.catalog S.hand v) : Situation.Settled id n ⟨S.world, v :: S.hand⟩ where
  reachable := h.reachable
  counter := h.counter
  hand := List.forall_mem_cons.mpr ⟨hv.settled h.hand h.defaults, h.hand⟩
  defaults := h.defaults

theorem World.reachable_afterNumbering {s : State} (hw : Reachable ⟨c, s⟩) (t : TypeId) :
    Reachable ⟨c, s.afterNumbering c t⟩ := by
  cases hn : (c.schema t).isNode with
  | false => rwa [s.afterNumbering_plain hn]
  | true =>
    rw [s.afterNumbering_node hn]
    exact @Run.step _ _ _ (.mint (c.schema t).session) hw trivial trivial

theorem Situation.Settled.make {s : State} {live values : List Value} {t : TypeId}
    (h : Situation.Settled id n ⟨⟨c, s⟩, live⟩) (ht : t < c.schemas.length)
    (hv : ∀ v ∈ values, v ∈ live)
    (hf : List.Forall₂ (fun f v => f.type.validate c v = .ok ()) (c.schema t).fields values) :
    Situation.Settled id (n + c.numbers id t)
      ⟨⟨c, s.afterNumbering c t⟩, .record (draft c t s values) :: live⟩ := by
  have hmono {v : Value} (hv : v.Everywhere (·.Settled id c n)) :
      v.Everywhere (·.Settled id c (n + c.numbers id t)) :=
    hv.mono fun x hx => hx.mono (.refl c) (h.reachable.sound.closed_of_extends (.refl c))
      (Nat.le_add_right n _)
  refine ⟨World.reachable_afterNumbering h.reachable t, ?_, ?_, fun t f hf v hd =>
    hmono (h.defaults t f hf v hd)⟩
  · rintro i rfl
    rw [State.nextId_afterNumbering (h.reachable.sound.session t ht), h.counter i rfl,
      ← UInt64.ofNat_add, Nat.add_right_comm]
  · refine List.forall_mem_cons.mpr ⟨Value.everywhere_iff.mpr ⟨?_, ?_⟩, fun v hv =>
      hmono (h.hand v hv)⟩
    · refine ⟨.record ht hf.length_eq.symm fun v hm => (h.hand v (hv v hm) v .here).proper, ?_, ?_⟩
      · rintro _ ⟨⟩ -
        exact hf
      · rintro _ node ⟨⟩ hnode hid
        -- The number is the next one, or less where numbers have started over.
        obtain ⟨hn, hnode⟩ := Option.ite_none_right_eq_some.mp hnode
        obtain rfl := Option.some.inj hnode
        obtain rfl : some (c.schema t).session = id := hid
        rw [Catalog.numbers, if_pos ⟨hn, rfl⟩, h.counter _ rfl, UInt64.toNat_ofNat']
        exact Nat.mod_le ..
    · intro x hx
      have hx : x ∈ values := by simpa [Value.components, draft] using hx
      exact hmono (h.hand x (hv x hx))

/-- Whatever happens, the values at hand stay settled. -/
theorem History.settled (h : History id S n T) (hS : S.Settled id m) : T.Settled id (m + n) := by
  induction h with
  | refl => exact hS
  | operate _ hz hr hv ih =>
    rw [← Nat.add_assoc]
    exact ih.operate hz hr hv
  | obtain _ hv ih => exact ih.obtain hv
  | make _ ht hv hf ih =>
    rw [← Nat.add_assoc]
    exact ih.make ht hv hf

/-- What is true of everything at hand from the beginning on. -/
theorem History.settled_of_start (h : History id .start n S) : S.Settled id n := by
  rw [← Nat.zero_add n]
  exact h.settled Situation.settled_start

/-- A session is opened. -/
theorem World.history_openWorld (id : Option SessionId) : History id .start 0 ⟨openWorld, []⟩ :=
  @History.operate id _ 0 _ .openSession .refl not_false trivial (List.forall_mem_nil _)

end TypedTree
