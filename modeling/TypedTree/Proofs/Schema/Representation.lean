import TypedTree.Proofs.Schema.Layout
import TypedTree.Proofs.Schema.Specialization

/-! # What schemas look like, and what they take from the types they derive from -/

namespace TypedTree

/-! ### Regular schemas -/

/-- The flags of a field agree with each other, with its default and with its role. -/
structure Field.Regular (f : Field) : Prop where
  hash : f.flags.hash = true → f.flags.eq = true
  order : f.flags.order = f.flags.eq
  init : f.flags.init = false → f.default.isRequired = false
  note : f.kind = .note → f.flags.eq = false ∧ f.flags.order = false ∧ f.flags.hash = false

/-- Each name stands at a place of its own in the field table, where the index has it; the fields are
regular and well formed in the scope of the parameters; and only nodes are scopes. -/
structure Schema.Regular (s : Schema) (c : Catalog) : Prop where
  names : (fieldNames s.fields).Nodup
  slots : ∀ name i, s.slot? name = some i ↔ (fieldNames s.fields)[i]? = some name
  fields : ∀ f ∈ s.fields, f.Regular
  types : ∀ f ∈ s.fields, f.type.check c (some s.params) = .ok ()
  scope : s.flags.scope = true → s.isNode = true

/-- The names of a table, the node kind and the root checks of a schema that another one derives
from. What is its own comes behind. -/
structure Schema.Inherits (s ancestor : Schema) : Prop where
  names : fieldNames ancestor.fields <+: fieldNames s.fields
  node : ancestor.isNode = true → s.isNode = true
  rootChecks : ancestor.rootChecks <+: s.rootChecks

variable {c c' : Catalog} {s t u : Schema}

theorem Schema.Inherits.trans (h : s.Inherits t) (h' : t.Inherits u) : s.Inherits u where
  names := h'.names.trans h.names
  node := h.node ∘ h'.node
  rootChecks := h'.rootChecks.trans h.rootChecks

theorem Schema.Regular.of_extends (h : s.Regular c) (hx : c.Extends c') : s.Regular c' :=
  { h with types := fun f hf => Ty.check_of_extends hx (h.types f hf) }

theorem Schema.Regular.indexed (h : s.Regular c) : s.Indexed :=
  h.slots

/-! ### Declared types -/

namespace Declaration

variable {d : Declaration}

/-- The field table that a declaration starts from. -/
def inherited (c : Catalog) (d : Declaration) : List Field :=
  ((d.parentSchema? c).map (·.fields)).getD []

/-- The schema of a declaration: the inherited names stay where they are, the new ones come behind
in the order in which they are declared, and fields declared again are replaced in place. -/
structure Shapes (d : Declaration) (c : Catalog) (s : Schema) : Prop where
  ancestors : s.ancestors = (d.parent.map c.lineage).getD []
  origin : s.origin = none
  kind : s.kind = d.recordKind c
  flags : s.flags = d.mergedFlags c
  once : (d.fields.map (·.name)).Nodup
  names : fieldNames s.fields = fieldNames (d.inherited c) ++
    (d.fields.map (·.name)).filter (· ∉ fieldNames (d.inherited c))
  fields : ∃ built,
    List.Forall₂ (fun f g => buildField c d.name s.kind s.params f = .ok g) d.fields built ∧
      s.fields = (overlay (d.inherited c) built).map (withChecks d.checks)
  rootChecks : s.rootChecks = ((d.parentSchema? c).map (·.rootChecks)).getD [] ++ d.rootChecks

theorem nodup_inherited (hp : ∀ p ∈ d.parentSchema? c, p.Regular c) :
    (fieldNames (d.inherited c)).Nodup := by
  rw [inherited]
  cases hd : d.parentSchema? c with
  | none => exact List.nodup_nil
  | some p => exact (hp p hd).names

theorem mem_inherited {g : Field} (h : g ∈ d.inherited c) :
    ∃ p, d.parentSchema? c = some p ∧ g ∈ p.fields := by
  rw [inherited] at h
  cases hd : d.parentSchema? c with
  | none => simp [hd] at h
  | some p => exact ⟨p, rfl, by simpa [hd] using h⟩

theorem shapes_of_build (h : d.build c = .ok s) (hp : ∀ p ∈ d.parentSchema? c, p.Regular c) :
    d.Shapes c s := by
  have hnodup := nodup_inherited hp
  obtain ⟨params, table, fields, -, hm, ha, -, rfl⟩ := build_eq_ok h
  obtain ⟨honce, -, built, hbuilt, rfl⟩ := mergeFields_eq_ok hnodup hm
  have hnames := fieldNames_of_buildFields hbuilt
  have hindexes := FieldIndex.indexes_ofFields (nodup_overlay hnodup (hnames ▸ honce))
  have hfields := attachChecks_eq_ok hindexes ha
  refine ⟨rfl, rfl, rfl, rfl, honce, ?_, ⟨built, hbuilt, hfields⟩, rfl⟩
  rw [hfields, fieldNames_map_withChecks, fieldNames_overlay, hnames]

/-- The index is recorded before checks are attached, which leave the names where they are. -/
theorem indexed_of_build (h : d.build c = .ok s) (hp : ∀ p ∈ d.parentSchema? c, p.Regular c) :
    s.Indexed := by
  have hnodup := nodup_inherited hp
  obtain ⟨params, table, fields, -, hm, ha, -, rfl⟩ := build_eq_ok h
  obtain ⟨honce, -, built, hbuilt, rfl⟩ := mergeFields_eq_ok hnodup hm
  have hnames := fieldNames_of_buildFields hbuilt
  have hindexes := FieldIndex.indexes_ofFields (nodup_overlay hnodup (hnames ▸ honce))
  refine hindexes.congr ?_
  rw [attachChecks_eq_ok hindexes ha]
  exact fieldNames_map_withChecks d.checks _

theorem buildField_of_extends (hx : c.Extends c') {record : String} {kind : RecordKind}
    {params : List TyVar} {f : FieldDecl} {g : Field}
    (h : buildField c record kind params f = .ok g) :
    buildField c' record kind params f = .ok g := by
  have hcheck := Ty.check_of_extends hx (builds_of_buildField h).check
  have htype := (builds_of_buildField h).type
  rw [← h, buildField.eq_def, buildField.eq_def, htype]
  simp only [hcheck, (builds_of_buildField h).check]

theorem Shapes.of_extends (h : d.Shapes c s) (hx : c.Extends c')
    (hp : ∀ p ∈ d.parent, p < c.schemas.length) : d.Shapes c' s := by
  have hparent : d.parentSchema? c' = d.parentSchema? c := by
    rw [parentSchema?, parentSchema?]
    exact Option.map_congr fun p hm => hx.schema_eq (hp p hm)
  have hlineage : d.parent.map c'.lineage = d.parent.map c.lineage :=
    Option.map_congr fun p hm => hx.lineage_eq (hp p hm)
  have hinherited : d.inherited c' = d.inherited c := by rw [inherited, inherited, hparent]
  obtain ⟨built, hbuilt, hfields⟩ := h.fields
  constructor
  · rw [hlineage, h.ancestors]
  · exact h.origin
  · rw [recordKind, hparent, h.kind, recordKind]
  · rw [mergedFlags, hparent, h.flags, mergedFlags]
  · exact h.once
  · rw [hinherited, h.names]
  · rw [hinherited]
    exact ⟨built, hbuilt.imp fun _ _ => buildField_of_extends hx, hfields⟩
  · rw [hparent, h.rootChecks]

theorem Builds.regular {kind : RecordKind} {params : List TyVar} {f : FieldDecl} {g : Field}
    (h : Builds c kind params f g) : g.Regular := by
  have hflags := h.flags
  rw [fieldFlags] at hflags
  refine ⟨h.hash, ?_, ?_, ?_⟩
  · rw [hflags]
    split <;> rfl
  · intro hi
    refine h.init ?_
    rw [hflags] at hi
    split at hi <;> exact hi
  · intro hn
    rw [hflags, if_pos hn]
    exact ⟨rfl, rfl, rfl⟩

theorem regular_of_buildFields {record : String} {kind : RecordKind} {params : List TyVar}
    {fs : List FieldDecl} {built : List Field}
    (h : List.Forall₂ (fun f g => buildField c record kind params f = .ok g) fs built) :
    ∀ g ∈ built, g.Regular := by
  induction h with
  | nil => simp
  | cons hb _ ih => exact List.forall_mem_cons.mpr ⟨(builds_of_buildField hb).regular, ih⟩

theorem scope_of_build (h : d.build c = .ok s) (hs : s.flags.scope = true) : s.isNode = true := by
  obtain ⟨_, _, _, -, -, -, hscope, rfl⟩ := build_eq_ok h
  rw [Schema.isNode]
  by_contra hn
  refine hscope ?_
  rw [Bool.and_eq_true]
  exact ⟨hs, by simpa using hn⟩

theorem regular_of_build (h : d.build c = .ok s) (hp : ∀ p ∈ d.parentSchema? c, p.Regular c) :
    s.Regular c := by
  have hshapes := shapes_of_build h hp
  obtain ⟨built, hbuilt, hfields⟩ := hshapes.fields
  have hnames : (fieldNames s.fields).Nodup := by
    rw [hfields, fieldNames_map_withChecks]
    refine nodup_overlay (nodup_inherited hp) ?_
    rw [fieldNames_of_buildFields hbuilt]
    exact hshapes.once
  refine ⟨hnames, indexed_of_build h hp, ?_, ?_, scope_of_build h⟩
  · intro f hf
    rw [hfields] at hf
    obtain ⟨g, hg, rfl⟩ := List.mem_map.mp hf
    have hregular : g.Regular := by
      rcases mem_overlay hg with hg | hg
      · obtain ⟨p, hd, hg⟩ := mem_inherited hg
        exact (hp p hd).fields g hg
      · exact regular_of_buildFields hbuilt g hg
    exact ⟨hregular.hash, hregular.order, hregular.init, hregular.note⟩
  · exact check_of_build h fun p hm => (hp p hm).types

theorem inherits_of_build (h : d.build c = .ok s) (hp : ∀ p ∈ d.parentSchema? c, p.Regular c) :
    ∀ p ∈ d.parentSchema? c, s.Inherits p := by
  intro p hd
  have hshapes := shapes_of_build h hp
  have hinherited : d.inherited c = p.fields := by
    rw [inherited, hd]
    rfl
  refine ⟨?_, ?_, ?_⟩
  · rw [hshapes.names, hinherited]
    exact List.prefix_append _ _
  · intro hn
    rw [Schema.isNode, hshapes.kind, recordKind, hd]
    simp [hn]
  · rw [hshapes.rootChecks, hd]
    exact List.prefix_append _ _

end Declaration

/-! ### Types made by applications -/

variable {app : Application} {generic : TypeId} {arguments : List Ty}

/-- The schema of an application: only the types of the fields differ from the generic type. -/
structure Application.Shapes (app : Application) (c : Catalog) (s : Schema) : Prop where
  ancestors : s.ancestors = c.lineage app.generic
  origin : s.origin = some app
  kind : s.kind = (c.schema app.generic).kind
  flags : s.flags = (c.schema app.generic).flags
  names : fieldNames s.fields = fieldNames (c.schema app.generic).fields
  index : s.index = (c.schema app.generic).index
  fields : s.fields = (c.schema app.generic).appliedFields app.arguments
  rootChecks : s.rootChecks = (c.schema app.generic).rootChecks

theorem fieldNames_appliedFields (s : Schema) (arguments : List Ty) :
    fieldNames (s.appliedFields arguments) = fieldNames s.fields := by
  rw [Schema.appliedFields, fieldNames, List.map_map]
  rfl

theorem Catalog.shapes_appliedSchema (c : Catalog) (app : Application) (name : String) :
    app.Shapes c (c.appliedSchema app name) :=
  ⟨rfl, rfl, rfl, rfl, fieldNames_appliedFields _ _, rfl, rfl, rfl⟩

theorem regular_of_specializedSchema (h : specializedSchema c generic arguments = .ok s)
    (hg : (c.schema generic).Regular c) : s.Regular c := by
  obtain ⟨⟨name, rfl⟩, htypes⟩ := specializedSchema_eq_ok h
  have hnames := (c.shapes_appliedSchema ⟨generic, arguments⟩ name).names
  -- The index of the generic type stays right, for no field leaves its place.
  have hindexed : (c.appliedSchema ⟨generic, arguments⟩ name).Indexed := hg.indexed.congr hnames
  refine ⟨hnames ▸ hg.names, hindexed, ?_, htypes, hg.scope⟩
  intro f hf
  obtain ⟨g, hm, rfl⟩ := List.mem_map.mp hf
  have hregular := hg.fields g hm
  exact ⟨hregular.hash, hregular.order, hregular.init, hregular.note⟩

theorem inherits_of_specializedSchema (h : specializedSchema c generic arguments = .ok s) :
    s.Inherits (c.schema generic) := by
  obtain ⟨⟨name, rfl⟩, -⟩ := specializedSchema_eq_ok h
  have hnames := (c.shapes_appliedSchema ⟨generic, arguments⟩ name).names
  exact ⟨hnames ▸ List.prefix_rfl, fun hn => hn, List.prefix_rfl⟩

end TypedTree
