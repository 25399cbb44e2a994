import TypedTree.Proofs.Schema.Extension
import TypedTree.Schema.Declaration

/-! # What a declaration builds -/

namespace TypedTree.Declaration

variable {c : Catalog} {record : String} {kind : RecordKind} {params : List TyVar}

/-! ### Parameters -/

theorem prefix_addTo (params : List TyVar) (p : TyVar) : params <+: p.addTo params := by
  rw [TyVar.addTo]
  split
  · exact List.prefix_rfl
  · exact List.prefix_append params [p]

/-- Inherited parameters stay in front. -/
theorem prefix_of_mergeParams {own : List String} {ps result : List TyVar}
    (h : mergeParams record own params ps = .ok result) : params <+: result := by
  induction ps generalizing own params with
  | nil =>
    obtain rfl := Except.ok.inj h
    exact List.prefix_rfl
  | cons p ps ih =>
    rw [mergeParams] at h
    split at h
    · cases h
    · exact (prefix_addTo params p).trans (ih h)

/-! ### Fields -/

/-- A field of a declaration as it stands in the table of the schema. -/
structure Builds (c : Catalog) (kind : RecordKind) (params : List TyVar) (f : FieldDecl)
    (g : Field) : Prop where
  name : g.name = f.name
  type : f.type = some g.type
  check : g.type.check c (some params) = .ok ()
  kind : g.kind = fieldKind kind f.name
  flags : g.flags = fieldFlags g.kind f.flags
  hash : g.flags.hash = true → g.flags.eq = true
  init : f.flags.init = false → g.default.isRequired = false
  converter : g.converter = f.converter
  checks : g.checks = []

/-- What every step of building a field gave. -/
theorem buildField_eq_ok {f : FieldDecl} {g : Field}
    (h : buildField c record kind params f = .ok g) :
    Builds c kind params f g ∧ fieldDefault record f = .ok g.default := by
  rw [buildField.eq_def] at h
  cases ht : f.type with
  | none =>
    rw [ht] at h
    cases h
  | some type =>
    simp only [ht] at h
    cases hc : type.check c (some params) with
    | error fault =>
      rw [hc] at h
      exact absurd h throw_bind_ne_ok
    | ok =>
      simp only [hc, bind_eq_ok_iff, guard_eq_ok_iff] at h
      obtain ⟨default, hd, hi, hh, hg⟩ := h
      obtain rfl := Except.ok.inj hg
      exact ⟨⟨rfl, ht, hc, rfl, rfl, by simpa using hh, by simpa using hi, rfl, rfl⟩, hd⟩

theorem builds_of_buildField {f : FieldDecl} {g : Field}
    (h : buildField c record kind params f = .ok g) : Builds c kind params f g :=
  (buildField_eq_ok h).1

/-- A default value stands in the declaration. -/
theorem default_of_buildField {f : FieldDecl} {g : Field} {v : Value}
    (h : buildField c record kind params f = .ok g) (hd : g.default = .value v) :
    f.default = some v := by
  have hdefault := (buildField_eq_ok h).2
  rw [hd, fieldDefault] at hdefault
  cases hv : f.default with
  | none => cases hf : f.factory <;> simp [hv, hf] at hdefault
  | some w => cases hf : f.factory <;> simp_all

theorem mem_putField {f g : Field} {table : List Field} (h : g ∈ putField f table) :
    g = f ∨ g ∈ table := by
  induction table with
  | nil => exact .inl (List.mem_singleton.mp h)
  | cons k rest ih =>
    rw [putField] at h
    split at h
    · rcases List.mem_cons.mp h with rfl | h
      · exact .inl rfl
      · exact .inr (List.mem_cons_of_mem k h)
    · rcases List.mem_cons.mp h with rfl | h
      · exact .inr List.mem_cons_self
      · exact (ih h).imp_right (List.mem_cons_of_mem k)

theorem exists_buildField_of_mem_mergeFields {own : List String} {fs : List FieldDecl}
    {table result : List Field} (h : mergeFields c record kind params own table fs = .ok result) :
    ∀ g ∈ result, g ∈ table ∨ ∃ f ∈ fs, buildField c record kind params f = .ok g := by
  induction fs generalizing own table with
  | nil =>
    obtain rfl := Except.ok.inj h
    exact fun g hg => .inl hg
  | cons f fs ih =>
    simp only [mergeFields, guard_eq_ok_iff, bind_eq_ok_iff] at h
    obtain ⟨-, field, hf, h⟩ := h
    intro g hg
    rcases ih h g hg with hg | ⟨f', hf', hb⟩
    · rcases mem_putField hg with rfl | hg
      · exact .inr ⟨f, List.mem_cons_self, hf⟩
      · exact .inl hg
    · exact .inr ⟨f', List.mem_cons_of_mem f hf', hb⟩

/-- Every field of the merged table is inherited or built from its declaration. -/
theorem mem_mergeFields {own : List String} {fs : List FieldDecl} {table result : List Field}
    (h : mergeFields c record kind params own table fs = .ok result) :
    ∀ g ∈ result, g ∈ table ∨ ∃ f ∈ fs, Builds c kind params f g := by
  intro g hg
  refine (exists_buildField_of_mem_mergeFields h g hg).imp_right ?_
  rintro ⟨f, hf, hb⟩
  exact ⟨f, hf, builds_of_buildField hb⟩

theorem mem_modify_addCheck {hook : HookId} {slot : Nat} {table : List Field} {g : Field}
    (hg : g ∈ table.modify slot (addCheck hook)) :
    ∃ f ∈ table, ∃ checks, g = { f with checks } := by
  obtain ⟨i, hi⟩ := List.mem_iff_getElem?.mp hg
  rw [List.getElem?_modify, Option.map_eq_map, Option.map_eq_some_iff] at hi
  obtain ⟨f, hf, rfl⟩ := hi
  refine ⟨f, List.mem_of_getElem? hf, ?_⟩
  split
  · exact ⟨_, rfl⟩
  · exact ⟨f.checks, rfl⟩

/-- Attaching checks changes nothing but the checks. -/
theorem mem_attachChecks {index : FieldIndex} {table result : List Field}
    {checks : List (String × HookId)}
    (h : attachChecks record index table checks = .ok result) :
    ∀ g ∈ result, ∃ f ∈ table, ∃ checks, g = { f with checks } := by
  induction checks generalizing table with
  | nil =>
    obtain rfl := Except.ok.inj h
    exact fun g hg => ⟨g, hg, g.checks, rfl⟩
  | cons p checks ih =>
    rw [attachChecks] at h
    split at h
    · intro g hg
      obtain ⟨f', hf', _, rfl⟩ := ih h g hg
      obtain ⟨f, hf, _, rfl⟩ := mem_modify_addCheck hf'
      exact ⟨f, hf, _, rfl⟩
    · cases h

/-! ### The schema -/

/-- What every step of building a schema gave. -/
theorem build_eq_ok {d : Declaration} {s : Schema} (h : d.build c = .ok s) :
    ∃ params table fields,
      mergeParams d.name [] (((d.parentSchema? c).map (·.params)).getD []) d.params = .ok params ∧
      mergeFields c d.name (d.recordKind c) params []
        (((d.parentSchema? c).map (·.fields)).getD []) d.fields = .ok table ∧
      attachChecks d.name (.ofFields table) table d.checks = .ok fields ∧
      ¬ ((d.mergedFlags c).scope && d.recordKind c != .node) = true ∧
      s = {
        name := d.name, kind := d.recordKind c, flags := d.mergedFlags c, params, fields
        index := .ofFields table
        rootChecks := ((d.parentSchema? c).map (·.rootChecks)).getD [] ++ d.rootChecks
        ancestors := (d.parent.map c.lineage).getD []
        origin := none
        session := d.session } := by
  simp only [build, bind_eq_ok_iff, guard_eq_ok_iff] at h
  obtain ⟨params, hp, hs, table, hm, fields, ha, h⟩ := h
  exact ⟨params, table, fields, hp, hm, ha, hs, (Except.ok.inj h).symm⟩

/-- The fields of a declared type are well formed in the scope of its parameters if those of the
type it derives from are. -/
theorem check_of_build {d : Declaration} {s : Schema} (h : d.build c = .ok s)
    (hp : ∀ p ∈ d.parentSchema? c, ∀ f ∈ p.fields, f.type.check c (some p.params) = .ok ()) :
    ∀ f ∈ s.fields, f.type.check c (some s.params) = .ok () := by
  obtain ⟨params, table, fields, hps, hm, ha, -, rfl⟩ := build_eq_ok h
  intro f hf
  obtain ⟨g, hg, _, rfl⟩ := mem_attachChecks ha f hf
  rcases mem_mergeFields hm g hg with hg | ⟨_, _, hb⟩
  · cases hd : d.parentSchema? c with
    | none => simp [hd] at hg
    | some p =>
      have hpre : p.params <+: params := by simpa [hd] using prefix_of_mergeParams hps
      refine Ty.check_mono (Catalog.Extends.refl c) ?_ (hp p hd g (by simpa [hd] using hg))
      intro name hn
      rw [Ty.inScope, List.any_eq_true] at hn ⊢
      obtain ⟨v, hv, he⟩ := hn
      exact ⟨v, hpre.subset hv, he⟩
  · exact hb.check

/-- The defaults of a declared type stand in the declaration or in the type that it derives from. -/
theorem default_of_build {d : Declaration} {s : Schema} {g : Field} {v : Value}
    (h : d.build c = .ok s) (hg : g ∈ s.fields) (hd : g.default = .value v) :
    (∃ p ∈ d.parentSchema? c, ∃ f ∈ p.fields, f.default = .value v) ∨
      ∃ f ∈ d.fields, f.default = some v := by
  obtain ⟨params, table, fields, -, hm, ha, -, rfl⟩ := build_eq_ok h
  obtain ⟨f, hf, _, rfl⟩ := mem_attachChecks ha g hg
  rcases exists_buildField_of_mem_mergeFields hm f hf with hf | ⟨f', hf', hb⟩
  · cases hp : d.parentSchema? c with
    | none => simp [hp] at hf
    | some p => exact .inl ⟨p, rfl, f, by simpa [hp] using hf, hd⟩
  · exact .inr ⟨f', hf', default_of_buildField hb hd⟩

end TypedTree.Declaration
