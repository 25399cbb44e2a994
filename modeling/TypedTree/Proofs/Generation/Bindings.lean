import TypedTree.Proofs.Generation.Correctness

/-!
# Bindings of a call

Generation looks up the bindings of a call only for the names in the rules of the records that it
comes to, and of these only for those that no child and no annotation has.
-/

namespace TypedTree

/-- A generated field or an annotation has the name. -/
def Record.Offers (c : Catalog) (r : Record) (key : String) : Prop :=
  key ∈ (r.generated c ++ r.allAnnotations c).map (·.1)

namespace Generator

/-- The values that are generated when a value is, in this order. -/
def demanded (g : Generator) (c : Catalog) : Value → List Value
  | .tuple items => items
  | .list items => items
  | .set items => items
  | .map entries => entries.map (·.2)
  | .record r =>
    if g.Covers c r.type then (r.generated c ++ r.allAnnotations c).map (·.2) else []
  | _ => []

/-- Generating the first value comes to the second: all that is demanded before is generated. -/
inductive ComesTo (g : Generator) (c : Catalog) (extra : Bindings) : Value → Value → Prop where
  | here (v) : ComesTo g c extra v v
  | next {v x y before behind} (hv : g.demanded c v = before ++ x :: behind)
      (hb : ∀ b ∈ before, ∃ f, g.generate c extra b = .ok f) (hx : ComesTo g c extra x y) :
      ComesTo g c extra v y

variable {g : Generator} {c : Catalog} {extra extra' : Bindings}
  {again again' : Value → Except RenderError Fragment} {v x : Value}

theorem demands_of_mem_demanded (h : x ∈ g.demanded c v) : g.Demands c v x := by
  cases v with
  | tuple items => exact .tuple h
  | list items => exact .list h
  | set items => exact .set h
  | map entries =>
    obtain ⟨e, he, rfl⟩ := List.mem_map.mp h
    exact .entry he
  | record r =>
    rw [demanded] at h
    split at h
    · next hr =>
      obtain ⟨e, he, rfl⟩ := List.mem_map.mp h
      exact (demands_record_iff hr).mpr ⟨e, List.mem_append.mp he, rfl⟩
    · cases h
  | _ => cases h

theorem ComesTo.demands (h : g.ComesTo c extra v x) :
    Relation.ReflTransGen (g.Demands c) v x := by
  induction h with
  | here v => exact .refl
  | next hv hb hx ih => exact .head (demands_of_mem_demanded (by simp [hv])) ih

/-- Generation does not leave values of which each demands only such values. -/
theorem ComesTo.mem {vs : List Value} (h : g.ComesTo c extra v x)
    (hvs : ∀ v ∈ vs, ∀ x ∈ g.demanded c v, x ∈ vs) (hv : v ∈ vs) : x ∈ vs := by
  induction h with
  | here v => exact hv
  | next hd hb hx ih => exact ih (hvs _ hv _ (by simp [hd]))

/-! ### Templates -/

/-- A template depends on what stands for its names, and on nothing else of its context but the
catalog and the name of the rule. -/
theorem renderSegments_congr {ctx ctx' : RenderContext} (hc : ctx.catalog = ctx'.catalog)
    (hr : ctx.rule = ctx'.rule) {segments : List Segment}
    (h : ∀ key separator, .placeholder key separator ∈ segments → ctx.find? key = ctx'.find? key) :
    renderSegments ctx segments = renderSegments ctx' segments := by
  induction segments with
  | nil => rfl
  | cons segment rest ih =>
    have hsegment : segment.render ctx = segment.render ctx' := by
      cases segment with
      | literal text => rfl
      | placeholder key separator =>
        have hget : ctx.get key = ctx'.get key := by
          rw [RenderContext.get, RenderContext.get, h key separator List.mem_cons_self, hr]
        cases separator with
        | none =>
          rw [Segment.render, Segment.render, RenderContext.text, RenderContext.text, hget, hc]
        | some separator =>
          rw [Segment.render, Segment.render, RenderContext.join, RenderContext.join, hget, hc]
    rw [renderSegments, renderSegments, hsegment,
      ih fun key separator hm => h key separator (List.mem_cons_of_mem _ hm)]

/-! ### Values in a row -/

/-- Two runs over values in a row give the same if they give the same for each value that the first
run comes to. -/
theorem generateAll_congr {vs : List Value}
    (h : ∀ before x behind, vs = before ++ x :: behind →
      (∀ b ∈ before, ∃ f, g.generateWith c extra again b = .ok f) →
        g.generateWith c extra again x = g.generateWith c extra' again' x) :
    generateAll g c extra again vs = generateAll g c extra' again' vs := by
  induction vs with
  | nil => rfl
  | cons v vs ih =>
    have hv := h [] v vs rfl (by simp)
    rw [generateAll, generateAll, ← hv]
    cases hf : g.generateWith c extra again v with
    | error e => rfl
    | ok f =>
      rw [ih fun before x behind hvs hb => h (v :: before) x behind (by rw [hvs]; rfl)
        (List.forall_mem_cons.mpr ⟨⟨f, hf⟩, hb⟩)]

theorem generateBindings_eq (named : List (String × Value)) :
    generateBindings g c extra again named =
      (generateAll g c extra again (named.map (·.2))).map ((named.map (·.1)).zip ·) := by
  induction named with
  | nil => rfl
  | cons e named ih =>
    rw [generateBindings, ih, List.map_cons, List.map_cons, generateAll]
    cases g.generateWith c extra again e.2 with
    | error _ => rfl
    | ok f => cases generateAll g c extra again (named.map (·.2)) <;> rfl

theorem generateEntries_eq (entries : List (Value × Value)) :
    generateEntries g c extra again entries =
      (generateAll g c extra again (entries.map (·.2))).map ((entries.map (·.1)).zip ·) := by
  induction entries with
  | nil => rfl
  | cons e entries ih =>
    rw [generateEntries, ih, List.map_cons, List.map_cons, generateAll]
    cases g.generateWith c extra again e.2 with
    | error _ => rfl
    | ok f => cases generateAll g c extra again (entries.map (·.2)) <;> rfl

theorem generateBindings_append (front behind : List (String × Value)) :
    generateBindings g c extra again (front ++ behind) = (do
      let bs ← generateBindings g c extra again front
      let rest ← generateBindings g c extra again behind
      return bs ++ rest) := by
  induction front with
  | nil =>
    change _ = generateBindings g c extra again behind >>= fun rest => pure rest
    rw [List.nil_append, bind_pure]
  | cons e front ih =>
    rw [List.cons_append, generateBindings, generateBindings, ih]
    simp

/-- A record with a template is generated to what the template shows over all that it offers. -/
theorem generateWith_of_isTextual {r : Record} {name : String} {rule : Rule}
    (hr : g.NearestRule c r.type name rule) (ht : rule.IsTextual) :
    g.generateWith c extra again (.record r) = (do
      let named ← generateBindings g c extra again (r.generated c ++ r.allAnnotations c)
      let text ← renderSegments {
        catalog := c, generator := g.name, record := r, rule := name, children := named
        attributes := [], extra, generate := again } rule.segments
      return .text text) := by
  rw [generateWith_of_nearestRule hr]
  simp only [Record.allAnnotations, generateBindings_append, bind_assoc, pure_bind]
  refine bind_congr fun children => bind_congr fun declared => bind_congr fun further => ?_
  rw [Rule.render_of_isTextual ht]
  congr 1
  refine renderSegments_congr ?_ ?_ ?_
  · rfl
  · rfl
  · simp [RenderContext.find?_eq]

/-! ### Bindings that do not matter -/

/-- The bindings give the same for every name that is looked up in them when the value is
generated: those that no child and no annotation has. -/
def BindsAlike (g : Generator) (c : Catalog) (extra extra' : Bindings) (v : Value) : Prop :=
  ∀ r name rule, g.ComesTo c extra v (.record r) → g.NearestRule c r.type name rule →
    ∀ key ∈ rule.placeholders, r.Offers c key ∨ extra.lookup key = extra'.lookup key

theorem generateRecord_congr {r : Record} {name : String} {rule : Rule}
    (hr : g.NearestRule c r.type name rule) (ht : rule.IsTextual)
    (hkeys : ∀ key ∈ rule.placeholders, r.Offers c key ∨ extra.lookup key = extra'.lookup key)
    (hnamed : generateBindings g c extra again (r.generated c ++ r.allAnnotations c) =
      generateBindings g c extra' again' (r.generated c ++ r.allAnnotations c)) :
    g.generateWith c extra again (.record r) = g.generateWith c extra' again' (.record r) := by
  rw [generateWith_of_isTextual hr ht, generateWith_of_isTextual hr ht, ← hnamed]
  cases hb : generateBindings g c extra again (r.generated c ++ r.allAnnotations c) with
  | error e => rfl
  | ok named =>
    have hoffers := (generateBindings_eq_ok_iff.mp hb).keys_eq
    have hfind (key : String) (hk : key ∈ rule.placeholders) :
        (named ++ extra).lookup key = (named ++ extra').lookup key := by
      rw [List.lookup_append, List.lookup_append]
      rcases hkeys key hk with ho | he
      · rw [Record.Offers, ← hoffers] at ho
        obtain ⟨f, hf⟩ := exists_lookup_iff.mpr ho
        rw [hf, Option.some_or, Option.some_or]
      · rw [he]
    change (renderSegments _ _ >>= fun text => pure (Fragment.text text)) =
      (renderSegments _ _ >>= fun text => pure (Fragment.text text))
    congr 1
    refine renderSegments_congr ?_ ?_ fun key separator hm => ?_
    · rfl
    · rfl
    · simpa [RenderContext.find?_eq] using
        hfind key (Rule.mem_placeholders_iff.mpr ⟨separator, hm⟩)

theorem exists_generateWith (g : Generator) (c : Catalog) (extra : Bindings) :
    ∃ again, ∀ v, g.generate c extra v = g.generateWith c extra again v :=
  ⟨g.generateWithin c extra (nestingLimit - 1), fun _ => rfl⟩

/-- Generation does not depend on anything else in the bindings, whether it fails or not. By
induction on what the value is put together from: the parts that come before a part are generated
alike, so both runs come to it. -/
theorem BindsAlike.generate_eq (hg : g.IsTextual) (h : g.BindsAlike c extra extra' v) :
    g.generate c extra v = g.generate c extra' v := by
  obtain ⟨again, hrun⟩ := exists_generateWith g c extra
  obtain ⟨again', hrun'⟩ := exists_generateWith g c extra'
  rw [hrun, hrun']
  induction v using Value.components_induction with
  | step v ih =>
    have hall : generateAll g c extra again (g.demanded c v) =
        generateAll g c extra' again' (g.demanded c v) := by
      refine generateAll_congr fun before x behind hv hb => ?_
      have hx : g.Demands c v x := demands_of_mem_demanded (by simp [hv])
      simp only [← hrun] at hb
      exact ih x hx.mem_components fun r name rule hr => h r name rule (.next hv hb hr)
    cases v with
    | tuple items | list items | set items =>
      rw [generateWith, generateWith]
      exact congrArg _ hall
    | map entries =>
      rw [generateWith, generateWith, generateEntries_eq, generateEntries_eq]
      exact congrArg _ (congrArg _ hall)
    | record r =>
      by_cases hr : g.Covers c r.type
      · obtain ⟨name, rule, hrule⟩ := hr.exists_nearestRule
        refine generateRecord_congr hrule (hrule.isTextual hg) (h r name rule (.here _) hrule) ?_
        rw [demanded, if_pos hr] at hall
        rw [generateBindings_eq, generateBindings_eq, hall]
      · rw [generateWith_of_not_covers hr, generateWith_of_not_covers hr]
    | _ => rfl

/-- More bindings do not change what is generated, and no binding shadows a child or an
annotation. -/
theorem generate_extra_laws (hg : g.IsTextual) (root : Value) (extra extra' : Bindings) :
    ((∀ key f, extra.lookup key = some f → extra'.lookup key = some f) →
      ∀ f, g.generate c extra root = .ok f → g.generate c extra' root = .ok f) ∧
    ∀ key, (∀ other, other ≠ key → extra.lookup other = extra'.lookup other) →
      (∀ r name rule, g.ComesTo c extra root (.record r) → g.NearestRule c r.type name rule →
        key ∈ rule.placeholders → r.Offers c key) →
      g.generate c extra root = g.generate c extra' root := by
  constructor
  · intro hextra f hf
    have hserves : g.Serves c extra root :=
      exists_generates_iff.mp ⟨f, (generateWith_eq_ok_iff hg).mp hf⟩
    rw [← hf]
    refine (BindsAlike.generate_eq hg ?_).symm
    intro r name rule hr hrule key hk
    rcases hserves.provides r name rule hr.demands hrule key hk with h | h | h
    · exact .inl (by simp [Record.Offers, h])
    · exact .inl (by simp [Record.Offers, h])
    · obtain ⟨f, hf⟩ := exists_lookup_iff.mpr h
      exact .inr (hf.trans (hextra key f hf).symm)
  · intro key hother hoffers
    refine BindsAlike.generate_eq hg ?_
    intro r name rule hr hrule other hk
    by_cases h : other = key
    · subst h
      exact .inl (hoffers r name rule hr hrule hk)
    · exact .inr (hother other h)

/-! ### Indented calls -/

/-- A generator that takes the indentation from the bindings. -/
def indentedGenerator : Generator where
  name := "indented calls"
  rules := ⟨[("Call", .substitution
    ⟨"$indent$callee", [.placeholder "indent" none, .placeholder "callee" none]⟩)]⟩

/-- Bindings with an indentation, and with another callee. -/
def withCallee (callee : String) : Bindings :=
  [("callee", .text callee), ("indent", .text "  ")]

theorem isTextual_indentedGenerator : indentedGenerator.IsTextual :=
  isTextual_of_forall_mem (List.forall_mem_singleton.mpr rfl)

theorem eq_of_comesTo_call {r : Record}
    (h : indentedGenerator.ComesTo callWorld.catalog extra (.record call) (.record r)) :
    r = call ∨ r = origin := by
  have hm : Value.record r ∈ [.record call, .str "f", .list [.record origin, .none],
      .record origin, .none] := by
    refine h.mem ?_ List.mem_cons_self
    intro v hv x hx
    simp only [List.mem_cons, List.not_mem_nil, or_false] at hv
    rcases hv with rfl | rfl | rfl | rfl | rfl
    · change x ∈ [.str "f", .list [.record origin, .none]] at hx
      simp only [List.mem_cons, List.not_mem_nil, or_false] at hx
      rcases hx with rfl | rfl <;> simp
    · cases hx
    · change x ∈ [.record origin, .none] at hx
      exact List.mem_append_right [.record call, .str "f", .list [.record origin, .none]] hx
    · cases hx
    · cases hx
  simpa using hm

theorem offers_callee {r : Record} {name : String} {rule : Rule}
    (h : indentedGenerator.ComesTo callWorld.catalog extra (.record call) (.record r))
    (hr : indentedGenerator.NearestRule callWorld.catalog r.type name rule) :
    r.Offers callWorld.catalog "callee" := by
  rcases eq_of_comesTo_call h with rfl | rfl
  · exact List.mem_cons_self
  · exact absurd hr.covers (by decide)

/-- The indentation is taken from the bindings, the callee from the call. -/
theorem generate_indented_call : indentedGenerator.IsTextual ∧
    ((∀ key f, [("indent", .text "  ")].lookup key = some f →
      (withCallee "g").lookup key = some f) ∧
      indentedGenerator.generate callWorld.catalog (withCallee "g") (.record call) =
        .ok (.text "  f")) ∧
    (∀ other, other ≠ "callee" →
      (withCallee "g").lookup other = (withCallee "h").lookup other) ∧
    (∀ r name rule,
      indentedGenerator.ComesTo callWorld.catalog (withCallee "g") (.record call) (.record r) →
        indentedGenerator.NearestRule callWorld.catalog r.type name rule →
          "callee" ∈ rule.placeholders → r.Offers callWorld.catalog "callee") ∧
    indentedGenerator.generate callWorld.catalog (withCallee "g") (.record call) =
      indentedGenerator.generate callWorld.catalog (withCallee "h") (.record call) := by
  have hmore (key : String) (f : Fragment) (h : [("indent", .text "  ")].lookup key = some f) :
      (withCallee "g").lookup key = some f := by
    by_cases hk : key = "indent"
    · subst hk
      exact h
    · have hk' : (key == "indent") = false := beq_eq_false_iff_ne.mpr hk
      simp [List.lookup_cons, hk'] at h
  have hother (other : String) (h : other ≠ "callee") :
      (withCallee "g").lookup other = (withCallee "h").lookup other := by
    have hk : (other == "callee") = false := beq_eq_false_iff_ne.mpr h
    simp [withCallee, List.lookup_cons, hk]
  have hrun : indentedGenerator.generate callWorld.catalog [("indent", .text "  ")]
      (.record call) = .ok (.text "  f") := by
    rfl
  exact ⟨isTextual_indentedGenerator,
    ⟨hmore, (generate_extra_laws isTextual_indentedGenerator _ _ _).1 hmore _ hrun⟩, hother,
    fun r name rule h hr _ => offers_callee h hr,
    (generate_extra_laws isTextual_indentedGenerator _ _ _).2 "callee" hother
      fun r name rule h hr _ => offers_callee h hr⟩

end Generator

end TypedTree
