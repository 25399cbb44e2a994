import TypedTree.Proofs.Record.Mutation
import TypedTree.Proofs.Tree.CarriedAnnotations

/-!
# Assigning an annotation

Declared annotations and dynamic ones share one space of names, but are kept in different places:
the former among the values of the fields, the latter behind them in the order in which they came.
Assigning one changes nothing else about a record.
-/

namespace TypedTree

/-! ### Values under names -/

/-- The second list is the first one with the value under the name: where the name stands, or behind
the others. -/
inductive PutUnder (name : String) (v : Value) :
    List (String × Value) → List (String × Value) → Prop where
  | replaced (before : List (String × Value)) (old : Value) (behind : List (String × Value))
      (h : name ∉ before.map (·.1)) :
      PutUnder name v (before ++ (name, old) :: behind) (before ++ (name, v) :: behind)
  | added {notes : List (String × Value)} (h : name ∉ notes.map (·.1)) :
      PutUnder name v notes (notes ++ [(name, v)])

section

variable {name : String} {v : Value} {front notes notes' : List (String × Value)}

theorem lookup_append_cons (h : name ∉ front.map (·.1)) (notes : List (String × Value)) :
    (front ++ (name, v) :: notes).lookup name = some v := by
  refine List.lookup_eq_some_iff.mpr ⟨front, notes, rfl, fun e he => ?_⟩
  have hne : name ≠ e.1 := fun hn => h (hn ▸ List.mem_map_of_mem he)
  simpa using hne

namespace PutUnder

theorem lookup (h : PutUnder name v notes notes') : notes'.lookup name = some v := by
  cases h with
  | replaced before old behind h => exact lookup_append_cons h behind
  | added h => exact lookup_append_cons h []

theorem append_left (hf : name ∉ front.map (·.1)) (h : PutUnder name v notes notes') :
    PutUnder name v (front ++ notes) (front ++ notes') := by
  cases h with
  | replaced before old behind h =>
    rw [← List.append_assoc, ← List.append_assoc]
    exact .replaced (front ++ before) old behind (by simp [hf, h])
  | added h =>
    rw [← List.append_assoc]
    exact .added (by simp [hf, h])

theorem mem_names_iff (h : PutUnder name v notes notes') (n : String) :
    n ∈ notes'.map (·.1) ↔ n ∈ notes.map (·.1) ∨ n = name := by
  cases h with
  | replaced before old behind => simp; tauto
  | added => simp

theorem nodup (h : PutUnder name v notes notes') (hn : (notes.map (·.1)).Nodup) :
    (notes'.map (·.1)).Nodup := by
  cases h with
  | replaced before old behind => simpa using hn
  | added h =>
    rw [List.map_append]
    refine List.nodup_append.mpr ⟨hn, List.nodup_singleton name, fun n hm n' hm' => ?_⟩
    obtain rfl := List.mem_singleton.mp hm'
    rintro rfl
    exact h hm

end PutUnder

theorem putUnder_putNote (name : String) (v : Value) (notes : List (String × Value)) :
    PutUnder name v notes (Record.putNote name v notes) := by
  induction notes with
  | nil => exact .added List.not_mem_nil
  | cons e notes ih =>
    obtain ⟨n, w⟩ := e
    rw [Record.putNote]
    by_cases hn : n = name
    · subst hn
      rw [if_pos rfl]
      exact .replaced [] w notes List.not_mem_nil
    · rw [if_neg hn]
      have hfront : name ∉ [(n, w)].map (·.1) := by simp [Ne.symm hn]
      exact ih.append_left hfront

end

variable {c : Catalog} {r r' : Record} {name : String} {v : Value} {i : Nat} {f : Field}

/-! ### Selected fields -/

namespace Schema

variable {α : Type} {schema : Schema} {p : Field → Bool} {xs : List α} {x : α}

theorem mem_fieldNames_of_mem_select (h : name ∈ (schema.select p xs).map (·.1)) :
    name ∈ fieldNames schema.fields := by
  obtain ⟨entry, hm, rfl⟩ := List.mem_map.mp h
  obtain ⟨i, f, x, hf, -, -, rfl⟩ := (schema.mem_select_iff p xs entry).mp hm
  exact List.mem_map_of_mem (List.mem_of_getElem? hf)

/-- Only the value of the field itself changes among the selected ones. -/
theorem exists_select_set (hn : (fieldNames schema.fields).Nodup) (hf : schema.fields[i]? = some f)
    (hp : p f = true) (hx : xs[i]? = some x) (y : α) :
    ∃ before behind, schema.select p xs = before ++ (f.name, x) :: behind ∧
      schema.select p (xs.set i y) = before ++ (f.name, y) :: behind ∧
      f.name ∉ before.map (·.1) := by
  unfold select fieldNames at *
  generalize schema.fields = fields at hn hf
  induction fields generalizing i xs with
  | nil => cases hf
  | cons g fields ih =>
    obtain ⟨hg, hfields⟩ := List.nodup_cons.mp hn
    cases xs with
    | nil => cases hx
    | cons z xs =>
      cases i with
      | zero =>
        obtain rfl := Option.some.inj hf
        obtain rfl := Option.some.inj hx
        exact ⟨[], _, List.filterMap_cons_some (if_pos hp), List.filterMap_cons_some (if_pos hp),
          List.not_mem_nil⟩
      | succ i =>
        rw [List.getElem?_cons_succ] at hf hx
        obtain ⟨before, behind, hold, hnew, hbefore⟩ := ih hx hfields hf
        have hne : f.name ≠ g.name := fun he =>
          hg (List.mem_map.mpr ⟨f, List.mem_of_getElem? hf, he⟩)
        by_cases hpg : p g = true
        · refine ⟨(g.name, z) :: before, behind, ?_, ?_, by simp [hne, hbefore]⟩
          · simpa [hpg] using hold
          · simpa [hpg] using hnew
        · refine ⟨before, behind, ?_, ?_, hbefore⟩
          · simpa [hpg] using hold
          · simpa [hpg] using hnew

theorem select_set_of_not (hl : xs.length = schema.fields.length)
    (hf : schema.fields[i]? = some f) (hp : p f = false) (y : α) :
    schema.select p (xs.set i y) = schema.select p xs := by
  refine select_congr ((List.length_set ..).trans hl) hl fun j g z z' hg hz hz' hpg => ?_
  by_cases hj : i = j
  · subst hj
    obtain rfl := Option.some.inj (hf.symm.trans hg)
    exact absurd (hp.symm.trans hpg) Bool.false_ne_true
  · rw [List.getElem?_set_ne hj] at hz
    exact Option.some.inj (hz.symm.trans hz')

end Schema

/-! ### What assigning an annotation does -/

namespace Record

theorem get?_of_slot? (h : (r.schema c).slot? name = some i) : r.get? c name = r.values[i]? := by
  rw [get?, h]

theorem get?_of_not_mem (hs : (r.schema c).Indexed) (h : name ∉ fieldNames (r.schema c).fields) :
    r.get? c name = r.annotations.lookup name := by
  rw [get?, hs.slot?_eq_none_iff.mpr h]

/-- Annotations under the name are refused: the type of the record is frozen, the name is that of a
field that is no annotation, or no field has it and the record is not a node. -/
def RefusesNote (c : Catalog) (r : Record) (name : String) : Prop :=
  (r.schema c).flags.frozen = true ∨
    (∃ f ∈ (r.schema c).fields, f.name = name ∧ f.kind ≠ .note) ∨
    (name ∉ fieldNames (r.schema c).fields ∧ r.isNode = false)

/-- What comes out of assigning an annotation. -/
inductive AnnotateOutcome (c : Catalog) (r : Record) (name : String) (v : Value) :
    InPlace InstanceError Record → Prop where
  | refused {e : InstanceError} (h : r.RefusesNote c name) :
      AnnotateOutcome c r name v (.error (e, r))
  | declared {i : Nat} {f : Field} (hf : (r.schema c).fields[i]? = some f) (hn : f.name = name)
      (hk : f.kind = .note) (h : ¬ r.RefusesNote c name) :
      AnnotateOutcome c r name v (.ok (r.setSlot i v))
  | dynamic (hn : name ∉ fieldNames (r.schema c).fields) (h : ¬ r.RefusesNote c name) :
      AnnotateOutcome c r name v (.ok { r with annotations := putNote name v r.annotations })

theorem annotate_outcome (hs : (r.schema c).Regular c) (name : String) (v : Value) :
    AnnotateOutcome c r name v (r.annotate c name v) := by
  cases hz : (r.schema c).flags.frozen with
  | true =>
    rw [annotate, if_pos hz]
    exact .refused (.inl hz)
  | false =>
    have hnz : ¬ (r.schema c).flags.frozen = true := by simp [hz]
    by_cases hm : name ∈ fieldNames (r.schema c).fields
    · obtain ⟨f, hf, rfl⟩ := List.mem_map.mp hm
      obtain ⟨i, hi⟩ := List.mem_iff_getElem?.mp hf
      rw [annotate_eq hs hi hz rfl v]
      split
      · next hk =>
        refine .declared hi rfl hk ?_
        rintro (h | ⟨g, hg, hname, hgk⟩ | ⟨h, -⟩)
        · exact hnz h
        · exact hgk (List.inj_on_of_nodup_map hs.names hg hf hname ▸ hk)
        · exact h hm
      · next hk => exact .refused (.inr (.inl ⟨f, hf, rfl, hk⟩))
    · rw [annotate, if_neg hnz, hs.indexed.slot?_eq_none_iff.mpr hm]
      dsimp only
      split
      · next hr =>
        refine .dynamic hm ?_
        rintro (h | ⟨g, hg, hname, -⟩ | ⟨-, h⟩)
        · exact hnz h
        · exact hm (hname ▸ List.mem_map_of_mem hg)
        · exact absurd (h.symm.trans hr) Bool.false_ne_true
      · next hr => exact .refused (.inr (.inr ⟨hm, by simpa using hr⟩))

theorem exists_annotate_eq_error_iff (hs : (r.schema c).Regular c) (name : String) (v : Value) :
    (∃ e r', r.annotate c name v = .error (e, r')) ↔ r.RefusesNote c name := by
  generalize hr : r.annotate c name v = outcome
  have ho := annotate_outcome hs name v
  rw [hr] at ho
  cases ho with
  | refused h => exact iff_of_true ⟨_, _, rfl⟩ h
  | declared _ _ _ h | dynamic _ h => exact iff_of_false (fun ⟨_, _, he⟩ => nomatch he) h

/-- The second record is the first one with the value as the annotation of the name. It is the same
in comparisons and to a hash, has the same children and internal fields and is the same node. -/
structure Annotated (c : Catalog) (name : String) (v : Value) (r r' : Record) : Prop where
  annotated : r'.annotated? c name = some v
  got : r'.get? c name = some v
  others : PutUnder name v (r.allAnnotations c) (r'.allAnnotations c)
  eqv : ∀ s : Record, r'.eqv c s = r.eqv c s ∧ s.eqv c r' = s.eqv c r
  hash : (Value.record r').hashData c = (Value.record r).hashData c
  children : r'.children c = r.children c
  internals : r'.internals c = r.internals c
  node : r'.type = r.type ∧ r'.node = r.node
  label : r'.label? c = r.label? c

theorem annotated_setSlot (hs : (r.schema c).Regular c)
    (hl : r.values.length = (r.schema c).fields.length)
    (hf : (r.schema c).fields[i]? = some f) (hk : f.kind = .note) (v : Value) :
    r.Annotated c f.name v (r.setSlot i v) := by
  have hacts : ActsAsNote c r.type i f := actsAsNote hs hf hk
  have hlt : i < r.values.length := hl ▸ (List.getElem?_eq_some_iff.mp hf).1
  have hslot : (r.schema c).slot? f.name = some i := hs.indexed.find?_name hf
  have hothers : PutUnder f.name v (r.allAnnotations c) ((r.setSlot i v).allAnnotations c) := by
    obtain ⟨before, behind, hold, hnew, hbefore⟩ := Schema.exists_select_set
      (p := fun g => g.kind == .note) hs.names hf (beq_iff_eq.mpr hk)
      (List.getElem?_eq_getElem hlt) v
    have hnew' : (r.setSlot i v).ofKind c .note = before ++ (f.name, v) :: behind := hnew
    rw [allAnnotations, allAnnotations, hnew', ofKind, hold, List.append_assoc, List.append_assoc]
    exact .replaced before _ _ hbefore
  have hkind {kind : FieldKind} (hne : kind ≠ .note) :
      (r.setSlot i v).ofKind c kind = r.ofKind c kind :=
    Schema.select_set_of_not (p := fun g => g.kind == kind) hl hf
      (beq_false_of_ne fun he => hne (he.symm.trans hk)) v
  exact {
    annotated := hothers.lookup
    got := by
      rw [get?_of_slot? (r := r.setSlot i v) hslot]
      exact List.getElem?_set_self hlt
    others := hothers
    eqv := fun s => hacts.eqv r s v rfl
    hash := hacts.hash r v rfl []
    children := hkind (by decide)
    internals := hkind (by decide)
    node := ⟨rfl, rfl⟩
    label := rfl }

theorem annotated_putNote (hs : (r.schema c).Indexed)
    (hn : name ∉ fieldNames (r.schema c).fields) (v : Value) :
    r.Annotated c name v { r with annotations := putNote name v r.annotations } := by
  obtain ⟨type, values, node, notes⟩ := r
  have hput := putUnder_putNote name v notes
  have hdeclared : name ∉ ((c.schema type).select (·.kind == .note) values).map (·.1) :=
    fun hm => hn (Schema.mem_fieldNames_of_mem_select hm)
  have hothers := hput.append_left hdeclared
  exact {
    annotated := hothers.lookup
    got := by
      rw [get?_of_not_mem (r := ⟨type, values, node, putNote name v notes⟩) hs hn]
      exact hput.lookup
    others := hothers
    eqv := fun s => ⟨eqv_congr rfl rfl (AgreeOn.refl _ _) (AgreeOn.refl _ _),
      eqv_congr rfl rfl (AgreeOn.refl _ _) (AgreeOn.refl _ _)⟩
    hash := rfl
    children := rfl
    internals := rfl
    node := ⟨rfl, rfl⟩
    label := rfl }

theorem annotated_of_annotate (hs : (r.schema c).Regular c)
    (hl : r.values.length = (r.schema c).fields.length) (h : r.annotate c name v = .ok r') :
    r.Annotated c name v r' := by
  have ho := annotate_outcome hs name v
  rw [h] at ho
  cases ho with
  | declared hf hn hk =>
    subst hn
    exact annotated_setSlot hs hl hf hk v
  | dynamic hn => exact annotated_putNote hs.indexed hn v

end Record

end TypedTree
