import TypedTree.Proofs.Generation.Semantics
import TypedTree.Proofs.Record.Roles
import TypedTree.Proofs.World.FieldRoles

/-! # Generation by text templates -/

namespace TypedTree

variable {g : Generator} {c : Catalog} {extra : Bindings}
  {again : Value → Except RenderError Fragment}

/-! ### Templates -/

theorem Rule.render_of_isTextual {rule : Rule} (h : rule.IsTextual) (ctx : RenderContext) :
    rule.render ctx = renderSegments ctx rule.segments := by
  cases rule with
  | format template | substitution template => rfl
  | logic render => cases h

theorem Rule.mem_placeholders_iff {rule : Rule} {key : String} :
    key ∈ rule.placeholders ↔ ∃ separator, .placeholder key separator ∈ rule.segments := by
  have hmem (t : TextTemplate) :
      key ∈ t.placeholders ↔ ∃ separator, .placeholder key separator ∈ t.segments := by
    rw [TextTemplate.placeholders, List.mem_filterMap]
    constructor
    · rintro ⟨segment, hm, hk⟩
      cases segment with
      | literal text => cases hk
      | placeholder name separator =>
        obtain rfl := Option.some.inj hk
        exact ⟨separator, hm⟩
    · rintro ⟨separator, hm⟩
      exact ⟨_, hm, rfl⟩
  cases rule with
  | format template | substitution template => exact hmem template
  | logic render => simp [placeholders, segments, template?]

/-- The names that a rule looks up, in the order of their precedence. -/
theorem RenderContext.find?_eq (ctx : RenderContext) (key : String) :
    ctx.find? key = (ctx.children ++ ctx.attributes ++ ctx.extra).lookup key := by
  rw [find?, List.lookup_append, List.lookup_append, Option.or_assoc]

namespace Generator

/-- A segment renders to the text that it shows. -/
theorem render_segment_eq_ok_iff {ctx : RenderContext} {segment : Segment} {text : String} :
    segment.render ctx = .ok text ↔
      Shows ctx.catalog (ctx.children ++ ctx.attributes ++ ctx.extra) segment text := by
  have hget (name : String) (f : Fragment) : ctx.get name = .ok f ↔
      (ctx.children ++ ctx.attributes ++ ctx.extra).lookup name = some f := by
    rw [RenderContext.get, ← RenderContext.find?_eq]
    cases ctx.find? name <;> simp
  cases segment with
  | literal s =>
    constructor
    · intro h
      obtain rfl := Except.ok.inj h
      exact .literal s
    · rintro ⟨⟩
      rfl
  | placeholder name separator =>
    cases separator with
    | none =>
      refine (map_eq_ok_iff (x := ctx.get name)).trans ⟨?_, ?_⟩
      · rintro ⟨f, hf, rfl⟩
        exact .displayed ((hget name f).mp hf)
      · rintro @⟨⟩
        exact ⟨_, (hget name _).mpr ‹_›, rfl⟩
    | some separator =>
      refine (map_eq_ok_iff (x := ctx.get name)).trans ⟨?_, ?_⟩
      · rintro ⟨f, hf, rfl⟩
        exact .joined ((hget name f).mp hf)
      · rintro @⟨⟩
        exact ⟨_, (hget name _).mpr ‹_›, rfl⟩

/-- Segments render to the texts that they show, one behind the other. -/
theorem renderSegments_eq_ok_iff {ctx : RenderContext} {segments : List Segment} {text : String} :
    renderSegments ctx segments = .ok text ↔ ∃ texts,
      List.Forall₂ (Shows ctx.catalog (ctx.children ++ ctx.attributes ++ ctx.extra))
        segments texts ∧ text = String.join texts := by
  induction segments generalizing text with
  | nil => simp [renderSegments, String.join_nil, eq_comm]
  | cons segment rest ih =>
    simp only [renderSegments, bind_eq_ok_iff, ih, render_segment_eq_ok_iff,
      List.forall₂_cons_left_iff]
    constructor
    · rintro ⟨first, hf, _, ⟨texts, ht, rfl⟩, h⟩
      obtain rfl := Except.ok.inj h
      exact ⟨first :: texts, ⟨first, texts, hf, ht, rfl⟩, String.join_cons.symm⟩
    · rintro ⟨_, ⟨first, texts, hf, ht, rfl⟩, rfl⟩
      exact ⟨first, hf, _, ⟨texts, ht, rfl⟩, by rw [String.join_cons]; rfl⟩

/-! ### Rules of a type -/

theorem isTextual_of_forall_mem (h : ∀ e ∈ g.rules.handlers, e.2.IsTextual) : g.IsTextual := by
  intro name rule hr
  obtain ⟨before, behind, he, -⟩ := List.lookup_eq_some_iff.mp hr
  exact h (name, rule) (he ▸ List.mem_append_right before List.mem_cons_self)

theorem ruleFor?_eq_some_iff {r : Record} {name : String} {rule : Rule} :
    g.ruleFor? c r = some (name, rule) ↔ g.NearestRule c r.type name rule := by
  rw [ruleFor?, HandlerTable.resolve?, List.findSome?_eq_some_iff]
  simp only [Option.map_eq_some_iff, Prod.mk.injEq, Option.map_eq_none_iff]
  constructor
  · rintro ⟨nearer, s, further, hl, ⟨_, hr, rfl, rfl⟩, hn⟩
    exact ⟨nearer, s, further, hl, rfl, hr, hn⟩
  · rintro ⟨nearer, s, further, hl, rfl, hr, hn⟩
    exact ⟨nearer, s, further, hl, ⟨rule, hr, rfl, rfl⟩, hn⟩

theorem ruleFor?_eq_none_iff {r : Record} : g.ruleFor? c r = none ↔ ¬ g.Covers c r.type := by
  rw [ruleFor?, HandlerTable.resolve?, List.findSome?_eq_none_iff, Covers]
  simp

theorem NearestRule.covers {t : TypeId} {name : String} {rule : Rule}
    (h : g.NearestRule c t name rule) : g.Covers c t := by
  obtain ⟨nearer, s, further, hl, rfl, hr, -⟩ := h
  exact ⟨s, hl ▸ List.mem_append_right nearer List.mem_cons_self, by rw [hr]; rfl⟩

theorem NearestRule.isTextual {t : TypeId} {name : String} {rule : Rule} (hg : g.IsTextual)
    (h : g.NearestRule c t name rule) : rule.IsTextual := by
  obtain ⟨-, -, -, -, -, hr, -⟩ := h
  exact hg name rule hr

theorem Covers.exists_nearestRule {t : TypeId} (h : g.Covers c t) :
    ∃ name rule, g.NearestRule c t name rule := by
  cases hr : g.ruleFor? c ⟨t, [], none, []⟩ with
  | none => exact absurd h (ruleFor?_eq_none_iff.mp hr)
  | some found => exact ⟨found.1, found.2, ruleFor?_eq_some_iff.mp hr⟩

/-- A type has one nearest rule. -/
theorem NearestRule.unique {r : Record} {name name' : String} {rule rule' : Rule}
    (h : g.NearestRule c r.type name rule) (h' : g.NearestRule c r.type name' rule') :
    name = name' ∧ rule = rule' := by
  have he := (ruleFor?_eq_some_iff.mpr h).symm.trans (ruleFor?_eq_some_iff.mpr h')
  simpa using he

/-! ### Parts -/

theorem generateAll_eq_ok_iff {vs : List Value} {fs : List Fragment} :
    generateAll g c extra again vs = .ok fs ↔
      List.Forall₂ (fun v f => g.generateWith c extra again v = .ok f) vs fs := by
  induction vs generalizing fs with
  | nil => simp [generateAll, eq_comm]
  | cons v vs ih =>
    simp only [generateAll, bind_eq_ok_iff, ih, List.forall₂_cons_left_iff]
    refine exists_congr fun f => ?_
    simp only [exists_and_left, pure, Except.pure, Except.ok.injEq, eq_comm (a := fs)]

theorem generateBindings_eq_ok_iff {named : List (String × Value)} {bs : Bindings} :
    generateBindings g c extra again named = .ok bs ↔
      Entrywise (fun v f => g.generateWith c extra again v = .ok f) named bs := by
  induction named generalizing bs with
  | nil => simp [generateBindings, Entrywise.nil_left_iff, eq_comm]
  | cons e named ih =>
    obtain ⟨name, v⟩ := e
    simp only [generateBindings, bind_eq_ok_iff, ih, Entrywise.cons_left_iff]
    refine exists_congr fun f => ?_
    simp only [exists_and_left, pure, Except.pure, Except.ok.injEq, eq_comm (a := bs)]

theorem generateEntries_eq_ok_iff {entries : List (Value × Value)}
    {fs : List (Value × Fragment)} :
    generateEntries g c extra again entries = .ok fs ↔
      Entrywise (fun v f => g.generateWith c extra again v = .ok f) entries fs := by
  induction entries generalizing fs with
  | nil => simp [generateEntries, Entrywise.nil_left_iff, eq_comm]
  | cons e entries ih =>
    obtain ⟨k, v⟩ := e
    simp only [generateEntries, bind_eq_ok_iff, ih, Entrywise.cons_left_iff]
    refine exists_congr fun f => ?_
    simp only [exists_and_left, pure, Except.pure, Except.ok.injEq, eq_comm (a := fs)]

/-- Generating fields is generating the named values that they select. -/
theorem generateFields_eq (s : Schema) (p : Field → Bool) (vs : List Value) :
    generateFields g c extra again p s.fields vs =
      generateBindings g c extra again (s.select p vs) := by
  rw [Schema.select]
  generalize s.fields = fs
  induction vs generalizing fs with
  | nil => simp [generateFields, generateBindings]
  | cons v vs ih =>
    cases fs with
    | nil => rfl
    | cons f fs =>
      rw [generateFields, ih fs, List.zip_cons_cons, List.filterMap_cons]
      cases hp : p f <;> simp only [hp] <;> rfl

theorem select_isRendered (c : Catalog) (r : Record) :
    (r.schema c).select (isRendered r) r.values = r.generated c := by
  rw [Record.generated]
  split
  · next hn =>
    rw [Record.children, Record.ofKind]
    congr 1
    funext f
    simp [isRendered, hn]
  · next hn =>
    rw [Record.fields]
    congr 1
    funext f
    simp [isRendered, hn]

/-! ### Records -/

theorem generateWith_of_not_covers {r : Record} (hr : ¬ g.Covers c r.type) :
    g.generateWith c extra again (.record r) =
      if r.isNode then .error (.noRule r.type) else .ok (.text (r.text c)) := by
  obtain ⟨type, values, node, notes⟩ := r
  rw [generateWith, generateRecord, ruleFor?_eq_none_iff.mpr hr]
  rfl

/-- A record with a rule: what the rule sees of it is generated first, and in this order. -/
theorem generateWith_of_nearestRule {r : Record} {name : String} {rule : Rule}
    (hr : g.NearestRule c r.type name rule) :
    g.generateWith c extra again (.record r) = (do
      let children ← generateBindings g c extra again (r.generated c)
      let declared ← generateBindings g c extra again (r.ofKind c .note)
      let further ← generateBindings g c extra again r.annotations
      let text ← rule.render {
        catalog := c, generator := g.name, record := r, rule := name, children
        attributes := declared ++ further, extra, generate := again }
      return .text text) := by
  rw [← select_isRendered, Record.ofKind, ← generateFields_eq, ← generateFields_eq]
  obtain ⟨type, values, node, notes⟩ := r
  rw [generateWith, generateRecord, ruleFor?_eq_some_iff.mpr hr]
  rfl

/-- A record with a rule is generated to the texts that the segments of the rule show, over what its
children and annotations are generated to. -/
theorem generateWith_eq_ok_iff_of_nearestRule {r : Record} {name : String} {rule : Rule}
    (hr : g.NearestRule c r.type name rule) (ht : rule.IsTextual) {f : Fragment} :
    g.generateWith c extra again (.record r) = .ok f ↔ ∃ children annotations texts,
      Entrywise (fun v f => g.generateWith c extra again v = .ok f) (r.generated c) children ∧
      Entrywise (fun v f => g.generateWith c extra again v = .ok f) (r.allAnnotations c)
        annotations ∧
      List.Forall₂ (Shows c (children ++ annotations ++ extra)) rule.segments texts ∧
      f = .text (String.join texts) := by
  simp only [generateWith_of_nearestRule hr, bind_eq_ok_iff, generateBindings_eq_ok_iff,
    Rule.render_of_isTextual ht, renderSegments_eq_ok_iff, Record.allAnnotations,
    Entrywise.append_left_iff]
  constructor
  · rintro ⟨children, hc, declared, hd, further, hf, _, ⟨texts, hs, rfl⟩, h⟩
    exact ⟨children, _, texts, hc, ⟨declared, further, hd, hf, rfl⟩, hs, (Except.ok.inj h).symm⟩
  · rintro ⟨children, _, texts, hc, ⟨declared, further, hd, hf, rfl⟩, hs, rfl⟩
    exact ⟨children, hc, declared, hd, further, hf, _, ⟨texts, hs, rfl⟩, rfl⟩

/-! ### What is demanded -/

theorem Demands.mem_components {v x : Value} (h : g.Demands c v x) : x ∈ v.components := by
  have hselect {r : Record} (p : Field → Bool) {e : String × Value}
      (he : e ∈ (r.schema c).select p r.values) : e.2 ∈ (Value.record r).components := by
    obtain ⟨i, f, x, -, hx, -, rfl⟩ := (Schema.mem_select_iff _ _ _ _).mp he
    exact List.mem_append_left _ (List.mem_of_getElem? hx)
  have hnote {r : Record} {e : String × Value} (he : e ∈ r.annotations) :
      e.2 ∈ (Value.record r).components :=
    List.mem_append_right _ (List.mem_map_of_mem he)
  cases h with
  | tuple h | list h | set h => exact h
  | entry h => exact List.mem_flatMap.mpr ⟨_, h, by simp⟩
  | child _ h => exact hselect (·.kind == .child) h
  | note _ h => exact (List.mem_append.mp h).elim (hselect (·.kind == .note)) hnote
  | field _ _ h => exact (List.mem_append.mp h).elim (hselect fun _ => true) hnote

theorem demands_tuple_iff {items : List Value} {x : Value} :
    g.Demands c (.tuple items) x ↔ x ∈ items :=
  ⟨fun h => by cases h; assumption, .tuple⟩

theorem demands_list_iff {items : List Value} {x : Value} :
    g.Demands c (.list items) x ↔ x ∈ items :=
  ⟨fun h => by cases h; assumption, .list⟩

theorem demands_set_iff {items : List Value} {x : Value} :
    g.Demands c (.set items) x ↔ x ∈ items :=
  ⟨fun h => by cases h; assumption, .set⟩

theorem demands_map_iff {entries : List (Value × Value)} {x : Value} :
    g.Demands c (.map entries) x ↔ ∃ e ∈ entries, e.2 = x := by
  constructor
  · rintro ⟨⟩
    exact ⟨_, ‹_›, rfl⟩
  · rintro ⟨e, he, rfl⟩
    exact .entry he

/-- A record that has a rule demands what its rule sees. -/
theorem demands_record_iff {r : Record} {x : Value} (hr : g.Covers c r.type) :
    g.Demands c (.record r) x ↔
      ∃ e, (e ∈ r.generated c ∨ e ∈ r.allAnnotations c) ∧ e.2 = x := by
  rw [Record.generated]
  cases hn : r.isNode with
  | true =>
    constructor
    · intro h
      cases h with
      | child _ h => exact ⟨_, .inl h, rfl⟩
      | note _ h => exact ⟨_, .inr h, rfl⟩
      | field hn' => simp [hn] at hn'
    · rintro ⟨e, h | h, rfl⟩
      · exact .child hn h
      · exact .note hn h
  | false =>
    constructor
    · intro h
      cases h with
      | child hn' => simp [hn] at hn'
      | note hn' => simp [hn] at hn'
      | field _ _ h =>
        rcases List.mem_append.mp h with h | h
        · exact ⟨_, .inl h, rfl⟩
        · exact ⟨_, .inr (List.mem_append_right _ h), rfl⟩
    · rintro ⟨e, h, rfl⟩
      refine .field hn hr (List.mem_append.mpr ?_)
      rcases h with h | h
      · exact .inl h
      · refine (List.mem_append.mp h).imp_left fun h => ?_
        obtain ⟨i, f, x, hf, hx, -, rfl⟩ := (Schema.mem_select_iff _ _ _ _).mp h
        exact (Schema.mem_select_iff _ _ _ _).mpr ⟨i, f, x, hf, hx, rfl, rfl⟩

/-- Whether a value is served is a matter of the value itself and of what it demands. -/
theorem serves_iff {v : Value} : g.Serves c extra v ↔
    (∀ r, v = .record r → (r.isNode = true → g.Covers c r.type) ∧
      ∀ name rule, g.NearestRule c r.type name rule →
        ∀ key ∈ rule.placeholders, Provides c extra r key) ∧
    ∀ x, g.Demands c v x → g.Serves c extra x := by
  constructor
  · intro h
    refine ⟨?_, fun x hx => ?_⟩
    · rintro r rfl
      exact ⟨h.covers r .refl, fun name rule => h.provides r name rule .refl⟩
    · exact ⟨fun r hr => h.covers r (.head hx hr), fun r name rule hr =>
        h.provides r name rule (.head hx hr)⟩
  · rintro ⟨hv, hx⟩
    refine ⟨fun r hr => ?_, fun r name rule hr => ?_⟩
    · rcases Relation.ReflTransGen.cases_head hr with rfl | ⟨x, hd, hr⟩
      · exact (hv r rfl).1
      · exact (hx x hd).covers r hr
    · rcases Relation.ReflTransGen.cases_head hr with rfl | ⟨x, hd, hr⟩
      · exact (hv r rfl).2 name rule
      · exact (hx x hd).provides r name rule hr

/-! ### Outcomes -/

theorem generateWith_atom {v : Value} (hv : v.isAtom = true) :
    g.generateWith c extra again v = .ok (.text (g.dumpLeaf c v)) := by
  cases v <;> first | rfl | cases hv

/-- A record with a rule is generated to what it means, if that is so for its parts. -/
theorem generates_iff_of_nearestRule {r : Record} {name : String} {rule : Rule}
    (hr : g.NearestRule c r.type name rule) {f : Fragment} :
    g.Generates c extra (.record r) f ↔ ∃ children annotations texts,
      Entrywise (g.Generates c extra) (r.generated c) children ∧
      Entrywise (g.Generates c extra) (r.allAnnotations c) annotations ∧
      List.Forall₂ (Shows c (children ++ annotations ++ extra)) rule.segments texts ∧
      f = .text (String.join texts) := by
  constructor
  · intro h
    cases h with
    | leaf h => cases h
    | plain _ hn => exact absurd hr.covers hn
    | rendered hr' hc ha ht =>
      obtain ⟨-, rfl⟩ := hr.unique hr'
      exact ⟨_, _, _, hc, ha, ht, rfl⟩
  · rintro ⟨children, annotations, texts, hc, ha, ht, rfl⟩
    exact .rendered hr hc ha ht

theorem generates_iff_of_not_covers {r : Record} (hr : ¬ g.Covers c r.type) {f : Fragment} :
    g.Generates c extra (.record r) f ↔ r.isNode = false ∧ f = .text (r.text c) := by
  constructor
  · intro h
    cases h with
    | leaf h => cases h
    | plain hn => exact ⟨hn, rfl⟩
    | rendered hrule => exact absurd hrule.covers hr
  · rintro ⟨hn, rfl⟩
    exact .plain hn hr

/-- What generation gives, by induction on what a value is put together from. -/
theorem generateWith_eq_ok_iff (hg : g.IsTextual) {v : Value} {f : Fragment} :
    g.generateWith c extra again v = .ok f ↔ g.Generates c extra v f := by
  induction v using Value.components_induction generalizing f with
  | step v ih =>
    have hitems (items : List Value) (fs : List Fragment) (hi : ∀ x ∈ items, x ∈ v.components) :
        List.Forall₂ (fun v f => g.generateWith c extra again v = .ok f) items fs ↔
          List.Forall₂ (g.Generates c extra) items fs :=
      forall₂_congr_of_mem fun x hx _ => ih x (hi x hx)
    have hentries {κ : Type} (es : List (κ × Value)) (fs : List (κ × Fragment))
        (he : ∀ e ∈ es, e.2 ∈ v.components) :
        Entrywise (fun v f => g.generateWith c extra again v = .ok f) es fs ↔
          Entrywise (g.Generates c extra) es fs :=
      Entrywise.congr_of_mem fun e hm _ => ih e.2 (he e hm)
    cases v with
    | tuple items =>
      simp only [generateWith, map_eq_ok_iff, generateAll_eq_ok_iff, generates_tuple_iff,
        hitems items _ fun _ hx => hx]
    | list items =>
      simp only [generateWith, map_eq_ok_iff, generateAll_eq_ok_iff, generates_list_iff,
        hitems items _ fun _ hx => hx]
    | set items =>
      simp only [generateWith, map_eq_ok_iff, generateAll_eq_ok_iff, generates_set_iff,
        hitems items _ fun _ hx => hx]
    | map entries =>
      have he : ∀ e ∈ entries, e.2 ∈ (Value.map entries).components := fun e he =>
        Demands.mem_components (g := g) (c := c) (.entry he)
      simp only [generateWith, map_eq_ok_iff, generateEntries_eq_ok_iff, generates_map_iff,
        hentries entries _ he]
    | record r =>
      by_cases hr : g.Covers c r.type
      · obtain ⟨name, rule, hrule⟩ := hr.exists_nearestRule
        have hc : ∀ e ∈ r.generated c, e.2 ∈ (Value.record r).components := fun e he =>
          ((demands_record_iff hr).mpr ⟨e, .inl he, rfl⟩).mem_components
        have ha : ∀ e ∈ r.allAnnotations c, e.2 ∈ (Value.record r).components := fun e he =>
          ((demands_record_iff hr).mpr ⟨e, .inr he, rfl⟩).mem_components
        simp only [generateWith_eq_ok_iff_of_nearestRule hrule (hrule.isTextual hg),
          generates_iff_of_nearestRule hrule, hentries _ _ hc, hentries _ _ ha]
      · rw [generateWith_of_not_covers hr, generates_iff_of_not_covers hr]
        cases r.isNode <;> simp [eq_comm]
    | _ => rw [generateWith_atom rfl, generates_atom_iff rfl, Except.ok.injEq]

theorem exists_lookup_iff {named : Bindings} {key : String} :
    (∃ f, named.lookup key = some f) ↔ key ∈ named.map (·.1) := by
  rw [← Option.isSome_iff_exists, List.lookup_isSome_iff, List.mem_map]
  simp only [beq_iff_eq, eq_comm (a := key)]

/-- Where the names of a template stand for something, its segments show some texts. -/
theorem exists_shows_iff {named : Bindings} {segments : List Segment} :
    (∃ texts, List.Forall₂ (Shows c named) segments texts) ↔
      ∀ key separator, .placeholder key separator ∈ segments → key ∈ named.map (·.1) := by
  rw [exists_forall₂_iff]
  constructor
  · intro h key separator hm
    obtain ⟨text, ht⟩ := h _ hm
    rw [← exists_lookup_iff]
    cases ht with
    | displayed h | joined h => exact ⟨_, h⟩
  · intro h segment hm
    cases segment with
    | literal text => exact ⟨text, .literal text⟩
    | placeholder key separator =>
      obtain ⟨f, hf⟩ := exists_lookup_iff.mpr (h key separator hm)
      cases separator with
      | none => exact ⟨_, .displayed hf⟩
      | some separator => exact ⟨_, .joined hf⟩

theorem exists_generates_map_iff {entries : List (Value × Value)} :
    (∃ f, g.Generates c extra (.map entries) f) ↔
      ∀ e ∈ entries, ∃ f, g.Generates c extra e.2 f := by
  rw [← Entrywise.exists_iff]
  simp only [generates_map_iff]
  constructor
  · rintro ⟨_, fs, h, -⟩
    exact ⟨fs, h⟩
  · rintro ⟨fs, h⟩
    exact ⟨_, fs, h, rfl⟩

/-- The records that have a rule are generated where that is so for what they demand, and the names
in the rule stand for something. -/
theorem exists_generates_record_iff {r : Record} {name : String} {rule : Rule}
    (hr : g.NearestRule c r.type name rule) : (∃ f, g.Generates c extra (.record r) f) ↔
      (∀ key ∈ rule.placeholders, Provides c extra r key) ∧
        ∀ x, g.Demands c (.record r) x → ∃ f, g.Generates c extra x f := by
  have hparts : (∀ x, g.Demands c (.record r) x → ∃ f, g.Generates c extra x f) ↔
      (∃ children, Entrywise (g.Generates c extra) (r.generated c) children) ∧
        ∃ annotations, Entrywise (g.Generates c extra) (r.allAnnotations c) annotations := by
    simp only [demands_record_iff hr.covers, Entrywise.exists_iff]
    constructor
    · exact fun h => ⟨fun e he => h _ ⟨e, .inl he, rfl⟩, fun e he => h _ ⟨e, .inr he, rfl⟩⟩
    · rintro ⟨hc, ha⟩ x ⟨e, he, rfl⟩
      exact he.elim (hc e) (ha e)
  have hnames {children annotations : Bindings}
      (hc : Entrywise (g.Generates c extra) (r.generated c) children)
      (ha : Entrywise (g.Generates c extra) (r.allAnnotations c) annotations) :
      (∃ texts, List.Forall₂ (Shows c (children ++ annotations ++ extra)) rule.segments texts) ↔
        ∀ key ∈ rule.placeholders, Provides c extra r key := by
    simp only [exists_shows_iff, Rule.mem_placeholders_iff, Provides, List.map_append,
      List.mem_append, hc.keys_eq, ha.keys_eq, or_assoc]
    exact forall_congr' fun key => exists_imp.symm
  simp only [generates_iff_of_nearestRule hr, hparts]
  constructor
  · rintro ⟨f, children, annotations, texts, hc, ha, ht, -⟩
    exact ⟨(hnames hc ha).mp ⟨texts, ht⟩, ⟨children, hc⟩, annotations, ha⟩
  · rintro ⟨hp, ⟨children, hc⟩, annotations, ha⟩
    obtain ⟨texts, ht⟩ := (hnames hc ha).mpr hp
    exact ⟨_, children, annotations, texts, hc, ha, ht, rfl⟩

/-- Which values are generated to something, by induction on what they are put together from. -/
theorem exists_generates_iff {v : Value} :
    (∃ f, g.Generates c extra v f) ↔ g.Serves c extra v := by
  induction v using Value.components_induction with
  | step v ih =>
    rw [serves_iff]
    have hall : (∀ x, g.Demands c v x → g.Serves c extra x) ↔
        ∀ x, g.Demands c v x → ∃ f, g.Generates c extra x f :=
      forall₂_congr fun x hx => (ih x hx.mem_components).symm
    rw [hall]
    cases v with
    | tuple items =>
      simp [generates_tuple_iff, exists_forall₂_iff, demands_tuple_iff]
    | list items =>
      simp [generates_list_iff, exists_forall₂_iff, demands_list_iff]
    | set items =>
      simp [generates_set_iff, exists_forall₂_iff, demands_set_iff]
    | map entries =>
      rw [exists_generates_map_iff]
      constructor
      · intro h
        refine ⟨?_, fun x hx => ?_⟩
        · rintro r ⟨⟩
        · obtain ⟨e, he, rfl⟩ := demands_map_iff.mp hx
          exact h e he
      · exact fun h e he => h.2 e.2 (.entry he)
    | record r =>
      by_cases hr : g.Covers c r.type
      · obtain ⟨name, rule, hrule⟩ := hr.exists_nearestRule
        rw [exists_generates_record_iff hrule]
        refine and_congr_left fun _ => ⟨?_, ?_⟩
        · rintro hp _ ⟨⟩
          refine ⟨fun _ => hr, fun name' rule' hrule' => ?_⟩
          obtain ⟨-, rfl⟩ := hrule.unique hrule'
          exact hp
        · exact fun h => (h r rfl).2 name rule hrule
      · simp only [generates_iff_of_not_covers hr, exists_and_left, exists_eq, and_true]
        constructor
        · rintro hn
          refine ⟨?_, fun x hx => ?_⟩
          · rintro _ ⟨⟩
            exact ⟨fun hn' => absurd hn' (by simp [hn]), fun _ _ hrule => absurd hrule.covers hr⟩
          · cases hx with
            | child hn' | note hn' => simp [hn] at hn'
            | field _ hr' => exact absurd hr' hr
        · rintro ⟨hv, -⟩
          exact Bool.eq_false_iff.mpr fun hn => hr ((hv r rfl).1 hn)
    | _ =>
      refine iff_of_true ⟨_, .leaf rfl⟩ ⟨?_, ?_⟩
      · rintro r ⟨⟩
      · rintro x ⟨⟩

/-- Generation with text templates succeeds exactly where each node that it comes to has a rule and
the names in the rules stand for something, and gives what the value means. -/
theorem generate_eq_ok_iff (hg : g.IsTextual) (root : Value) :
    ((∃ f, g.generate c extra root = .ok f) ↔ g.Serves c extra root) ∧
      ∀ f, g.generate c extra root = .ok f ↔ g.Generates c extra root f := by
  have hstep (f : Fragment) : g.generate c extra root = .ok f ↔ g.Generates c extra root f := by
    change g.generateWith c extra (g.generateWithin c extra (nestingLimit - 1)) root = .ok f ↔ _
    exact generateWith_eq_ok_iff hg
  refine ⟨?_, hstep⟩
  simp only [hstep, exists_generates_iff]

/-! ### Calls on points -/

def pointDeclaration : Declaration where
  session := 0
  name := "Point"
  kind := .plain
  fields := [{ name := "x", type := some .any }]

def callDeclaration : Declaration where
  session := 0
  name := "Call"
  kind := .node
  fields := [{ name := "callee", type := some .any }, { name := "arguments", type := some .any }]

/-- A world in which both are declared. -/
def callWorld : World :=
  (World.openWorld.after (.declare pointDeclaration)).after (.declare callDeclaration)

/-- A plain record. -/
def origin : Record :=
  ⟨0, [.bool true], none, []⟩

/-- A node that is called on a plain record. -/
def call : Record :=
  ⟨1, [.str "f", .list [.record origin, .none]], some ⟨1, none⟩, []⟩

/-- A generator with a rule for calls and a dump of its own. -/
def callGenerator : Generator where
  name := "calls"
  rules := ⟨[("Call", .format ⟨"\x7bcallee\x7d(\x7barguments:;\x7d)", [.placeholder "callee" none,
    .literal "(", .placeholder "arguments" (some ";"), .literal ")"]⟩)]⟩
  leaf := some fun c v => "<" ++ v.text c ++ ">"

theorem isTextual_callGenerator : callGenerator.IsTextual :=
  isTextual_of_forall_mem (List.forall_mem_singleton.mpr rfl)

theorem generate_call : callGenerator.generate callWorld.catalog [] (.record call) =
    .ok (.text "<'f'>(Point(x=True);<None>)") := by
  rfl

theorem generates_call : callGenerator.IsTextual ∧
    callGenerator.Serves callWorld.catalog [] (.record call) ∧
    callGenerator.Generates callWorld.catalog [] (.record call)
      (.text "<'f'>(Point(x=True);<None>)") :=
  ⟨isTextual_callGenerator, (generate_eq_ok_iff isTextual_callGenerator _).1.mp ⟨_, generate_call⟩,
    ((generate_eq_ok_iff isTextual_callGenerator _).2 _).mp generate_call⟩

/-- A plain record without a rule shows as its text, also where scalars are dumped differently. -/
theorem generate_origin : callGenerator.IsTextual ∧ origin.isNode = false ∧
    ¬ callGenerator.Covers callWorld.catalog origin.type ∧
    callGenerator.dumpLeaf callWorld.catalog (.record origin) = "<Point(x=True)>" ∧
    callGenerator.generate callWorld.catalog [] (.record origin) =
      .ok (.text "Point(x=True)") := by
  exact ⟨isTextual_callGenerator, rfl, by decide, rfl, rfl⟩

end Generator

end TypedTree
