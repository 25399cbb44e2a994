import TypedTree.Proofs.Record.Annotations
import TypedTree.Proofs.World.History

/-!
# Annotations over the life of a record

However a record comes about, the names of its dynamic annotations are distinct and no field has one
of them. This is what makes the two places for annotations one space of names.
-/

namespace TypedTree

open Construct

/-! ### Refused changes -/

/-- Where the record that a path leads to refuses a change, so does the whole value. -/
theorem Value.exists_mutate_eq_error_of_perform {c : Catalog} {access : Access} {path : List Step}
    {v : Value} {r r' : Record} {e : InstanceError} (hr : v.at? c path = some (.record r))
    (he : access.perform c r = .error (e, r')) : ∃ e, v.mutate c access path = .error (e, v) := by
  have herror : ∃ e v', v.mutate c access path = .error (e, v') := by
    induction path generalizing v with
    | nil =>
      obtain rfl := Option.some.inj hr
      exact ⟨.record e, .record r', by rw [mutate, he]; rfl⟩
    | cons s path ih =>
      obtain ⟨x, hx, hr⟩ := Option.bind_eq_some_iff.mp hr
      rw [mutate]
      cases hb : v.borrow c s with
      | error e => exact ⟨e, v, rfl⟩
      | ok p =>
        obtain ⟨y, put⟩ := p
        obtain rfl := Option.some.inj (hx.symm.trans (lends_of_borrow hb).next?_eq)
        obtain ⟨e, x', he⟩ := ih hr
        exact ⟨e, put x', InPlace.within_eq_error_iff.mpr ⟨x', he, rfl⟩⟩
  obtain ⟨e, v', herror⟩ := herror
  obtain rfl := eq_of_mutate_error herror
  exact ⟨e, herror⟩

/-! ### The names of dynamic annotations -/

/-- A record of a known type has a value for each field, and its dynamic annotations have distinct
names that no field has. -/
structure Record.NotesApart (c : Catalog) (r : Record) : Prop where
  known : r.type < c.schemas.length
  length : r.values.length = (r.schema c).fields.length
  distinct : (r.annotations.map (·.1)).Nodup
  undeclared : ∀ name ∈ r.annotations.map (·.1), name ∉ fieldNames (r.schema c).fields

theorem Access.not_mem_of_target_note {c : Catalog} {r : Record} {access : Access} {name : String}
    (hs : (r.schema c).Indexed) (h : access.target c r = .note name) :
    name ∉ fieldNames (r.schema c).fields := by
  cases access with
  | annotate n v =>
    rw [target] at h
    split at h
    · cases h
    · next hn =>
      obtain rfl := Step.note.inj h
      exact hs.slot?_eq_none_iff.mp (by simpa using hn)
  | _ => cases h

namespace Record.NotesApart

variable {c c' : Catalog} {r r' : Record} {h : Hooks} {t : TypeId}
  {arguments : List (String × Value)} {s : State}

theorem of_construct (ht : t < c.schemas.length)
    (he : ((construct h c t arguments).exec s).1 = .ok r) : r.NotesApart c ∧ r.type = t := by
  have hlength := (fills_of_construct he).2.length_eq
  obtain @⟨values, s₁, -, -, -, -, -⟩ := exec_construct_eq_ok_iff.mp he
  have htype : ((draft c t s₁ values).withSymbols c).type = t := type_withSymbols c _
  have hnotes : ((draft c t s₁ values).withSymbols c).annotations = [] :=
    annotations_withSymbols c _
  refine ⟨⟨Nat.lt_of_le_of_lt (Nat.le_of_eq htype) ht, ?_, ?_, ?_⟩, htype⟩
  · rw [Record.schema, htype]
    exact hlength.symm
  · rw [hnotes]
    exact List.nodup_nil
  · rw [hnotes]
    exact fun _ hm => absurd hm List.not_mem_nil

/-- Only names that no field has are put among the dynamic annotations. -/
theorem change {access : Access} (hs : (r.schema c).Indexed) (hr : r.NotesApart c)
    (he : access.perform c r = .ok r') : r'.NotesApart c := by
  obtain ⟨-, hp⟩ := Access.performs_of_perform he
  cases hp with
  | field => exact ⟨hr.known, (List.length_set ..).trans hr.length, hr.distinct, hr.undeclared⟩
  | @note name ht =>
    have hput := putUnder_putNote name (access.written c r) r.annotations
    refine ⟨hr.known, hr.length, hput.nodup hr.distinct, fun n hm => ?_⟩
    rcases (hput.mem_names_iff n).mp hm with hm | rfl
    · exact hr.undeclared n hm
    · exact Access.not_mem_of_target_note hs ht

/-- A rebuilt record has the dynamic annotations of the one before, or none. -/
theorem rebuild {σ : Type} {translate : Value → StateT σ Construct (Option Value)} {x x' : σ}
    (hr : r.NotesApart c)
    (he : (((rebuildNode h c translate r).run x).exec s).1 = .ok (r', x')) :
    r'.NotesApart c := by
  obtain ⟨arguments, s', -, hr'⟩ := exists_reconstruct_of_rebuildNode he
  obtain ⟨rebuilt, hc, rfl⟩ := exec_reconstruct_eq_ok_iff.mp hr'
  obtain ⟨hrebuilt, htype⟩ := of_construct hr.known hc
  have hschema : rebuilt.schema c = r.schema c := congrArg c.schema htype
  split
  · exact ⟨hrebuilt.known, hrebuilt.length, hr.distinct, fun n hm => hschema ▸ hr.undeclared n hm⟩
  · exact hrebuilt

theorem of_extends (hr : r.NotesApart c) (hx : c.Extends c') : r.NotesApart c' := by
  have hschema : r.schema c' = r.schema c := hx.schema_eq hr.known
  refine ⟨Nat.lt_of_lt_of_le hr.known hx.length_le, ?_, hr.distinct, ?_⟩
  · rw [hschema]
    exact hr.length
  · rw [hschema]
    exact hr.undeclared

end Record.NotesApart

/-! ### The life of a record -/

namespace World

variable {w : World} {r : Record}

/-- How a record comes about in a world: it is constructed, changed in place or rebuilt, with any
supplied functions and in any state, or it has come about before an operation. -/
inductive Holds : World → Record → Prop where
  | construct {w : World} {h : Hooks} {t : TypeId} {arguments : List (String × Value)} {s : State}
      {r : Record} (hw : Reachable w) (ht : t < w.catalog.schemas.length)
      (he : ((TypedTree.construct h w.catalog t arguments).exec s).1 = .ok r) : Holds w r
  | change {w : World} {access : Access} {r r' : Record} (hr : Holds w r)
      (he : access.perform w.catalog r = .ok r') : Holds w r'
  | rebuild {w : World} {h : Hooks} {σ : Type}
      {translate : Value → StateT σ Construct (Option Value)} {x x' : σ} {s : State}
      {r r' : Record} (hr : Holds w r)
      (he : (((rebuildNode h w.catalog translate r).run x).exec s).1 = .ok (r', x')) : Holds w r'
  | operate {w : World} {op : Operation} {r : Record} (hr : Holds w r) (ho : op.Refers w) :
      Holds (w.after op) r

theorem Holds.reachable (h : w.Holds r) : Reachable w := by
  induction h with
  | construct hw => exact hw
  | change _ _ ih | rebuild _ _ ih => exact ih
  | operate _ ho ih => exact ih.step trivial ho

theorem Holds.notesApart (h : w.Holds r) : r.NotesApart w.catalog := by
  induction h with
  | construct _ ht he => exact (Record.NotesApart.of_construct ht he).1
  | change hr he ih => exact ih.change (hr.reachable.indexed _) he
  | rebuild _ he ih => exact ih.rebuild he
  | operate _ _ ih => exact ih.of_extends (effect_after _ _).extends

/-- An annotation is refused for a reason, and the record stays as it is, with whatever holds it, or
it is assigned, and nothing else about the record changes. The names of dynamic annotations are
distinct and no field has one of them. -/
structure AnnotationLaws (c : Catalog) (r : Record) : Prop where
  refused : ∀ name v, (∃ e r', r.annotate c name v = .error (e, r')) ↔ r.RefusesNote c name
  unchanged : ∀ name v e r', r.annotate c name v = .error (e, r') → r' = r ∧
    ∀ (root : Value) (path : List Step), root.at? c path = some (.record r) →
      (∃ e, root.mutate c (.annotate name v) path = .error (e, root)) ∧
        root.after c ⟨path, .annotate name v⟩ = root
  assigned : ∀ name v r', r.annotate c name v = .ok r' → r.Annotated c name v r'
  distinct : (r.annotations.map (·.1)).Nodup
  undeclared : ∀ name ∈ r.annotations.map (·.1), name ∉ fieldNames (r.schema c).fields

theorem Holds.annotationLaws (h : w.Holds r) : AnnotationLaws w.catalog r := by
  have hnotes := h.notesApart
  have hs := h.reachable.regular.schema r.type hnotes.known
  exact {
    refused := Record.exists_annotate_eq_error_iff hs
    unchanged := fun name v e r' he => by
      have hperform : (Access.annotate name v).perform w.catalog r = .error (e, r') := he
      refine ⟨Access.eq_of_perform_error hperform, fun root path hr => ?_⟩
      obtain ⟨e', hroot⟩ := Value.exists_mutate_eq_error_of_perform hr hperform
      exact ⟨⟨e', hroot⟩, Value.after_of_mutate_error hroot⟩
    assigned := fun name v r' => Record.annotated_of_annotate hs hnotes.length
    distinct := hnotes.distinct
    undeclared := hnotes.undeclared }

/-- A new node with a dynamic annotation. -/
def marked (kept mark : Value) : Record :=
  ⟨0, [kept, .none], some ⟨1, none⟩, [("mark", mark)]⟩

theorem holds_marked : notedWorld.Holds (marked .none (.str "a")) := by
  have hmade : notedWorld.Holds (noted 1 .none .none) :=
    @Holds.construct notedWorld PureHooks.permissive.toHooks 0 [] notedWorld.state _
      reachable_notedWorld (by decide) rfl
  exact @Holds.change _ (.annotate "mark" (.str "a")) _ _ hmade rfl

/-- Both the dynamic annotation and a declared one are assigned where they stand. -/
theorem annotationLaws_marked :
    notedWorld.Holds (marked .none (.str "a")) ∧
      (marked .none (.str "a")).Annotated notedWorld.catalog "mark" (.str "b")
        (marked .none (.str "b")) ∧
      (marked .none (.str "a")).Annotated notedWorld.catalog "kept_attr_" (.str "b")
        (marked (.str "b") (.str "a")) := by
  have hlaws := holds_marked.annotationLaws
  exact ⟨holds_marked, hlaws.assigned "mark" (.str "b") _ rfl,
    hlaws.assigned "kept_attr_" (.str "b") _ rfl⟩

end World

end TypedTree
