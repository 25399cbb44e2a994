import TypedTree.Proofs.Generation.Bindings
import TypedTree.Proofs.List.First

/-!
# Failures of generation

A generation that fails reports what the first record that cannot be rendered lacks: a rule, or what
the first name in its rule would stand for. The order is that of generation, in which the parts of a
record come before the record itself.
-/

namespace TypedTree

namespace Generator

/-- What a record lacks where its parts are generated, with the failure that reports it. -/
inductive Lacks (g : Generator) (c : Catalog) (extra : Bindings) (r : Record) :
    RenderError → Prop where
  | rule (hn : r.isNode = true) (hr : ¬ g.Covers c r.type) : Lacks g c extra r (.noRule r.type)
  | key {name rule front key separator behind} (hr : g.NearestRule c r.type name rule)
      (hs : rule.segments = front ++ .placeholder key separator :: behind)
      (hf : ∀ other separator, .placeholder other separator ∈ front → Provides c extra r other)
      (hk : ¬ Provides c extra r key) : Lacks g c extra r (.missingKey name key)

variable {g : Generator} {c : Catalog} {extra : Bindings}
  {again : Value → Except RenderError Fragment} {v : Value} {e : RenderError}

/-! ### Templates -/

theorem get_eq_error_iff {ctx : RenderContext} {key : String} :
    ctx.get key = .error e ↔ key ∉ (ctx.children ++ ctx.attributes ++ ctx.extra).map (·.1) ∧
      .missingKey ctx.rule key = e := by
  rw [RenderContext.get, ← exists_lookup_iff, ← RenderContext.find?_eq]
  cases ctx.find? key <;> simp

/-- A segment fails if it is a name that stands for nothing. -/
theorem render_segment_eq_error_iff {ctx : RenderContext} {segment : Segment} :
    segment.render ctx = .error e ↔ ∃ key separator, segment = .placeholder key separator ∧
      key ∉ (ctx.children ++ ctx.attributes ++ ctx.extra).map (·.1) ∧
        .missingKey ctx.rule key = e := by
  cases segment with
  | literal text => simp [Segment.render]
  | placeholder key separator =>
    have hget : (Segment.placeholder key separator).render ctx = .error e ↔
        ctx.get key = .error e := by
      cases separator with
      | none => exact map_eq_error_iff
      | some separator => exact map_eq_error_iff
    rw [hget, get_eq_error_iff]
    simp

theorem exists_render_segment_iff {ctx : RenderContext} {segment : Segment} :
    (∃ text, segment.render ctx = .ok text) ↔ ∀ key separator,
      segment = .placeholder key separator →
        key ∈ (ctx.children ++ ctx.attributes ++ ctx.extra).map (·.1) := by
  simpa [render_segment_eq_ok_iff, exists_forall₂_iff, eq_comm (b := segment)] using
    @exists_shows_iff ctx.catalog (ctx.children ++ ctx.attributes ++ ctx.extra) [segment]

/-- Segments fail with the first of them that does. -/
theorem renderSegments_eq_error_iff {ctx : RenderContext} {segments : List Segment} :
    renderSegments ctx segments = .error e ↔ ∃ front segment behind,
      segments = front ++ segment :: behind ∧
      (∀ s ∈ front, ∃ text, s.render ctx = .ok text) ∧ segment.render ctx = .error e := by
  induction segments with
  | nil => simp [renderSegments]
  | cons segment rest ih =>
    rw [exists_first_cons_iff, ← ih, renderSegments, bind_eq_error_iff]
    refine or_congr_right ?_
    simp [bind_eq_error_iff, pure, Except.pure]

/-- A template fails with the first of its names that stands for nothing. -/
theorem renderSegments_eq_missingKey_iff {ctx : RenderContext} {segments : List Segment} :
    renderSegments ctx segments = .error e ↔ ∃ front key separator behind,
      segments = front ++ .placeholder key separator :: behind ∧
      (∀ other separator, .placeholder other separator ∈ front →
        other ∈ (ctx.children ++ ctx.attributes ++ ctx.extra).map (·.1)) ∧
      key ∉ (ctx.children ++ ctx.attributes ++ ctx.extra).map (·.1) ∧
      .missingKey ctx.rule key = e := by
  simp only [renderSegments_eq_error_iff, render_segment_eq_error_iff, exists_render_segment_iff]
  constructor
  · rintro ⟨front, _, behind, hs, hf, key, separator, rfl, hk, he⟩
    exact ⟨front, key, separator, behind, hs, fun other separator hm => hf _ hm _ _ rfl, hk, he⟩
  · rintro ⟨front, key, separator, behind, hs, hf, hk, he⟩
    refine ⟨front, _, behind, hs, ?_, key, separator, rfl, hk, he⟩
    rintro s hm other separator rfl
    exact hf other separator hm

/-! ### Values in a row -/

/-- Values in a row fail with the first of them that does. -/
theorem generateAll_eq_error_iff {vs : List Value} :
    generateAll g c extra again vs = .error e ↔ ∃ before x behind, vs = before ++ x :: behind ∧
      (∀ b ∈ before, ∃ f, g.generateWith c extra again b = .ok f) ∧
      g.generateWith c extra again x = .error e := by
  induction vs with
  | nil => simp [generateAll]
  | cons v vs ih =>
    rw [exists_first_cons_iff, ← ih, generateAll, bind_eq_error_iff]
    refine or_congr_right ?_
    simp [bind_eq_error_iff, pure, Except.pure]

theorem exists_generateAll_iff {vs : List Value} :
    (∃ fs, generateAll g c extra again vs = .ok fs) ↔
      ∀ x ∈ vs, ∃ f, g.generateWith c extra again x = .ok f := by
  simp only [generateAll_eq_ok_iff, exists_forall₂_iff]

/-! ### Records -/

theorem lacks_iff_of_nearestRule {r : Record} {name : String} {rule : Rule}
    (hr : g.NearestRule c r.type name rule) :
    g.Lacks c extra r e ↔ ∃ front key separator behind,
      rule.segments = front ++ .placeholder key separator :: behind ∧
      (∀ other separator, .placeholder other separator ∈ front → Provides c extra r other) ∧
      ¬ Provides c extra r key ∧ .missingKey name key = e := by
  constructor
  · intro h
    cases h with
    | rule _ hn => exact absurd hr.covers hn
    | key hr' hs hf hk =>
      obtain ⟨rfl, rfl⟩ := hr.unique hr'
      exact ⟨_, _, _, _, hs, hf, hk, rfl⟩
  · rintro ⟨front, key, separator, behind, hs, hf, hk, rfl⟩
    exact .key hr hs hf hk

theorem lacks_iff_of_not_covers {r : Record} (hr : ¬ g.Covers c r.type) :
    g.Lacks c extra r e ↔ r.isNode = true ∧ .noRule r.type = e := by
  constructor
  · intro h
    cases h with
    | rule hn => exact ⟨hn, rfl⟩
    | key hrule => exact absurd hrule.covers hr
  · rintro ⟨hn, rfl⟩
    exact .rule hn hr

/-- A record with a rule fails with one of its parts, or, where these are generated, with the first
name in the rule that stands for nothing. -/
theorem generateWith_eq_error_iff_of_nearestRule {r : Record} {name : String} {rule : Rule}
    (hr : g.NearestRule c r.type name rule) (ht : rule.IsTextual) :
    g.generateWith c extra again (.record r) = .error e ↔
      generateAll g c extra again (g.demanded c (.record r)) = .error e ∨
        (∃ fs, generateAll g c extra again (g.demanded c (.record r)) = .ok fs) ∧
          g.Lacks c extra r e := by
  have hparts : generateBindings g c extra again (r.generated c ++ r.allAnnotations c) = _ :=
    generateBindings_eq _
  rw [generateWith_of_isTextual hr ht, demanded, if_pos hr.covers]
  cases hall : generateAll g c extra again ((r.generated c ++ r.allAnnotations c).map (·.2)) with
  | error e' =>
    rw [hall] at hparts
    simp [hparts, bind, Except.bind, Except.map]
  | ok fs =>
    rw [hall] at hparts
    obtain ⟨named, hnamed⟩ : ∃ named, generateBindings g c extra again
        (r.generated c ++ r.allAnnotations c) = .ok named := ⟨_, hparts⟩
    have hkeys := (generateBindings_eq_ok_iff.mp hnamed).keys_eq
    have hprovides (key : String) :
        Provides c extra r key ↔ key ∈ (named ++ ([] : Bindings) ++ extra).map (·.1) := by
      simp only [Provides, List.append_nil, List.map_append, hkeys, List.mem_append, or_assoc]
    rw [hnamed]
    change (renderSegments _ _ >>= fun text => pure (Fragment.text text)) = .error e ↔ _
    simp only [bind_eq_error_iff, renderSegments_eq_missingKey_iff, ← hprovides]
    simp [lacks_iff_of_nearestRule hr, pure, Except.pure]

/-! ### Values -/

/-- A value fails with one of its parts, or, where these are generated, with what the record that it
is lacks. -/
theorem generateWith_eq_error_iff (hg : g.IsTextual) :
    g.generateWith c extra again v = .error e ↔
      generateAll g c extra again (g.demanded c v) = .error e ∨
        (∃ fs, generateAll g c extra again (g.demanded c v) = .ok fs) ∧
          ∃ r, v = .record r ∧ g.Lacks c extra r e := by
  cases v with
  | tuple items | list items | set items => simp [generateWith, demanded, map_eq_error_iff]
  | map entries => simp [generateWith, demanded, generateEntries_eq, map_eq_error_iff]
  | record r =>
    by_cases hr : g.Covers c r.type
    · obtain ⟨name, rule, hrule⟩ := hr.exists_nearestRule
      simp [generateWith_eq_error_iff_of_nearestRule hrule (hrule.isTextual hg)]
    · rw [generateWith_of_not_covers hr, demanded, if_neg hr]
      cases hn : r.isNode <;> simp [generateAll, lacks_iff_of_not_covers hr, hn]
  | _ => simp [generateWith, demanded, generateAll]

theorem comesTo_iff {y : Value} : g.ComesTo c extra v y ↔ v = y ∨
    ∃ before x behind, g.demanded c v = before ++ x :: behind ∧
      (∀ b ∈ before, ∃ f, g.generate c extra b = .ok f) ∧ g.ComesTo c extra x y := by
  constructor
  · intro h
    cases h with
    | here => exact .inl rfl
    | next hv hb hx => exact .inr ⟨_, _, _, hv, hb, hx⟩
  · rintro (rfl | ⟨before, x, behind, hv, hb, hx⟩)
    · exact .here v
    · exact .next hv hb hx

/-- Generation with text templates fails exactly with what the first record that it comes to and
that lacks something lacks: all that is demanded before, and of the record itself, is served. By
induction on what the value is put together from. -/
theorem generate_eq_error_iff (hg : g.IsTextual) (root : Value) (e : RenderError) :
    g.generate c extra root = .error e ↔ ∃ r, g.ComesTo c extra root (.record r) ∧
      (∀ x ∈ g.demanded c (.record r), g.Serves c extra x) ∧ g.Lacks c extra r e := by
  obtain ⟨again, hrun⟩ := exists_generateWith g c extra
  induction root using Value.components_induction with
  | step v ih =>
    have hserves (x : Value) :
        (∃ f, g.generateWith c extra again x = .ok f) ↔ g.Serves c extra x := by
      simp only [generateWith_eq_ok_iff hg, exists_generates_iff]
    have hmem {before x behind} (hv : g.demanded c v = before ++ x :: behind) :
        x ∈ v.components := by
      have hx : g.Demands c v x := demands_of_mem_demanded (by simp [hv])
      exact hx.mem_components
    rw [hrun, generateWith_eq_error_iff hg]
    constructor
    · rintro (h | ⟨h, r, rfl, hl⟩)
      · obtain ⟨before, x, behind, hv, hb, hx⟩ := generateAll_eq_error_iff.mp h
        simp only [← hrun] at hb hx
        obtain ⟨r, hr, hs, hl⟩ := (ih x (hmem hv)).mp hx
        exact ⟨r, .next hv hb hr, hs, hl⟩
      · exact ⟨r, .here _, fun x hx => (hserves x).mp (exists_generateAll_iff.mp h x hx), hl⟩
    · rintro ⟨r, hr, hs, hl⟩
      rcases comesTo_iff.mp hr with rfl | ⟨before, x, behind, hv, hb, hx⟩
      · exact .inr ⟨exists_generateAll_iff.mpr fun x hx => (hserves x).mpr (hs x hx), r, rfl, hl⟩
      · refine .inl (generateAll_eq_error_iff.mpr ⟨before, x, behind, hv, ?_, ?_⟩)
        · simpa only [hrun] using hb
        · rw [← hrun]
          exact (ih x (hmem hv)).mpr ⟨r, hx, hs, hl⟩

end Generator

end TypedTree
