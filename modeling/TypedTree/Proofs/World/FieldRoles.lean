import TypedTree.Proofs.Record.Roles
import TypedTree.Proofs.World.Representation

/-! # Which declaration a field takes its role from -/

namespace TypedTree

/-! ### Fields over a table -/

namespace Declaration

variable {f g : Field} {table fields : List Field}

/-- A field of a name that is put over the table is the one put there. -/
theorem eq_of_mem_overlay (hn : (fieldNames fields).Nodup) (hg : g ∈ overlay table fields)
    (hf : f ∈ fields) (hname : f.name = g.name) : g = f := by
  have hinj := fun g hg => List.inj_on_of_nodup_map hn (x := g) hg hf
  rcases List.mem_append.mp hg with hg | hg
  · obtain ⟨k, -, rfl⟩ := List.mem_map.mp hg
    cases hk : fields.find? (·.name = k.name) with
    | none =>
      rw [hk] at hname
      exact absurd (List.find?_eq_none.mp hk f hf) (by simp [hname])
    | some g =>
      rw [hk] at hname
      exact hinj g (List.mem_of_find?_eq_some hk) hname.symm
  · exact hinj g (List.mem_filter.mp hg).1 hname.symm

/-- Any other field is one of the table. -/
theorem mem_table_of_mem_overlay (hg : g ∈ overlay table fields)
    (hn : g.name ∉ fieldNames fields) : g ∈ table :=
  (mem_overlay hg).resolve_right fun hm => hn (List.mem_map_of_mem hm)

variable {c : Catalog} {s : Schema} {d : Declaration} {fd : FieldDecl}

theorem exists_builds {record : String} {kind : RecordKind} {params : List TyVar}
    {fs : List FieldDecl} {built : List Field} (hd : fd ∈ fs)
    (h : List.Forall₂ (fun f g => buildField c record kind params f = .ok g) fs built) :
    ∃ g ∈ built, Builds c kind params fd g := by
  induction h with
  | nil => cases hd
  | @cons _ g _ _ hb _ ih =>
    rcases List.mem_cons.mp hd with rfl | hd
    · exact ⟨g, List.mem_cons_self, builds_of_buildField hb⟩
    · obtain ⟨g', hg', hb'⟩ := ih hd
      exact ⟨g', List.mem_cons_of_mem g hg', hb'⟩

/-- A declared field has the role of its name among the instances of the type, and the declared
flags unless it is an annotation. -/
theorem Shapes.role_of_declared (h : d.Shapes c s) (hf : f ∈ s.fields) (hd : fd ∈ d.fields)
    (hn : fd.name = f.name) :
    f.kind = fieldKind s.kind f.name ∧ f.flags = fieldFlags f.kind fd.flags := by
  obtain ⟨built, hbuilt, hfields⟩ := h.fields
  rw [hfields] at hf
  obtain ⟨g, hg, rfl⟩ := List.mem_map.mp hf
  obtain ⟨g', hg', hb⟩ := exists_builds hd hbuilt
  have hnodup : (fieldNames built).Nodup := fieldNames_of_buildFields hbuilt ▸ h.once
  obtain rfl := eq_of_mem_overlay hnodup hg hg' (hb.name.trans hn)
  have hkind := hb.kind
  rw [← hb.name] at hkind
  exact ⟨hkind, hb.flags⟩

/-- Any other field is inherited as it is, except that it may be checked more. -/
theorem Shapes.exists_inherited (h : d.Shapes c s) (hf : f ∈ s.fields)
    (hn : f.name ∉ d.fields.map (·.name)) :
    ∃ g ∈ d.inherited c, g.name = f.name ∧ g.kind = f.kind ∧ g.flags = f.flags := by
  obtain ⟨built, hbuilt, hfields⟩ := h.fields
  rw [hfields] at hf
  obtain ⟨g, hg, rfl⟩ := List.mem_map.mp hf
  refine ⟨g, mem_table_of_mem_overlay hg ?_, rfl, rfl, rfl⟩
  rw [fieldNames_of_buildFields hbuilt]
  exact hn

end Declaration

namespace World

variable {w : World} {t a : TypeId} {d : Declaration} {fd : FieldDecl} {f : Field}

/-! ### Declarations that took place -/

/-- The type came from the declaration at an earlier time. -/
def Declares (w : World) (d : Declaration) (t : TypeId) : Prop :=
  ∃ u c', Reachable u ∧ (Operation.declare d).Refers u ∧ u.catalog.declare d = .ok (t, c') ∧
    Run (fun _ => True) { u with catalog := c' } w

theorem Declares.after {op : Operation} (h : w.Declares d t) (hr : op.Refers w) :
    (w.after op).Declares d t := by
  obtain ⟨u, c', hu, href, hd, hrun⟩ := h
  exact ⟨u, c', hu, href, hd, hrun.step trivial hr⟩

theorem Declares.shapes (h : w.Declares d t) : d.Shapes w.catalog (w.catalog.schema t) := by
  obtain ⟨u, c', hu, href, hd, hrun⟩ := h
  exact hu.shapes_of_declare href hd hrun.extends

/-- Each type was declared or made by an application. -/
theorem Reachable.declares_or_origin (hw : Reachable w) (ht : t < w.catalog.schemas.length) :
    (∃ d, w.Declares d t) ∨ ∃ app, (w.catalog.schema t).origin = some app := by
  induction hw with
  | refl => exact absurd ht (Nat.not_lt_zero t)
  | @step u op hu _ hr ih =>
    by_cases hlt : t < u.catalog.schemas.length
    · rcases ih hlt with ⟨d, hd⟩ | ⟨app, ho⟩
      · exact .inl ⟨d, hd.after hr⟩
      · exact .inr ⟨app, by rw [(u.effect_after op).extends.schema_eq hlt, ho]⟩
    · -- The operation added the type.
      have he := u.effect_after op
      generalize u.after op = w' at ht he
      cases he with
      | sessions hc =>
        rw [hc] at ht
        exact absurd ht hlt
      | @declared d s ho hb =>
        subst ho
        obtain rfl := (Catalog.lt_or_eq_of_lt_addSchema ht).resolve_left hlt
        refine .inl ⟨d, u, _, hu, hr, ?_, .refl⟩
        rw [Catalog.declare, hb]
        rfl
      | @applied app s _ _ _ hs =>
        obtain rfl := (Catalog.lt_or_eq_of_lt_addSchema ht).resolve_left hlt
        obtain ⟨⟨name, rfl⟩, -⟩ := specializedSchema_eq_ok hs
        exact .inr ⟨app, congrArg Schema.origin (u.catalog.schema_addSchema _)⟩

/-- The first type got its field of the declared name from the second type, where the field was
declared: from itself, from the type that it derives from or from the type that was applied. -/
inductive DeclaredIn (w : World) (fd : FieldDecl) : TypeId → TypeId → Prop where
  | own {d : Declaration} {t : TypeId} (h : w.Declares d t) (hm : fd ∈ d.fields) :
      DeclaredIn w fd t t
  | inherited {d : Declaration} {t p a : TypeId} (h : w.Declares d t) (hp : d.parent = some p)
      (hn : fd.name ∉ d.fields.map (·.name)) (ha : DeclaredIn w fd p a) : DeclaredIn w fd t a
  | applied {app : Application} {t a : TypeId} (ho : (w.catalog.schema t).origin = some app)
      (ha : DeclaredIn w fd app.generic a) : DeclaredIn w fd t a

/-! ### Where fields come from -/

/-- A declared type that derives from another one comes after it. -/
theorem Sound.parent_of_declares {p : TypeId} (h : w.Sound) (hd : w.Declares d t)
    (hp : d.parent = some p) : p < t ∧ (w.catalog.schema t).ancestors = w.catalog.lineage p := by
  have hancestors := hd.shapes.ancestors
  rw [hp] at hancestors
  have ha : (w.catalog.schema t).ancestors = w.catalog.lineage p := hancestors
  refine ⟨h.lt_of_mem_ancestors ?_, ha⟩
  rw [ha]
  exact List.mem_cons_self

theorem inherited_eq {p : TypeId} (hp : d.parent = some p) :
    d.inherited w.catalog = (w.catalog.schema p).fields := by
  rw [Declaration.inherited, Declaration.parentSchema?, hp]
  rfl

theorem lt_length_of_mem_fields (hf : f ∈ (w.catalog.schema t).fields) :
    t < w.catalog.schemas.length := by
  refine Nat.lt_of_not_le fun hn => ?_
  rw [Catalog.schema_eq_default hn] at hf
  exact absurd hf List.not_mem_nil

/-- Every field was declared. -/
theorem Reachable.exists_declaredIn (hw : Reachable w) (hf : f ∈ (w.catalog.schema t).fields) :
    ∃ a fd, fd.name = f.name ∧ w.DeclaredIn fd t a := by
  -- The type derived from and the type applied both come before this one.
  induction t using Nat.strongRecOn generalizing f with
  | ind t ih =>
    rcases hw.declares_or_origin (lt_length_of_mem_fields hf) with ⟨d, hd⟩ | ⟨app, ho⟩
    · by_cases hn : f.name ∈ d.fields.map (·.name)
      · obtain ⟨fd, hm, hname⟩ := List.mem_map.mp hn
        exact ⟨t, fd, hname, .own hd hm⟩
      · obtain ⟨g, hg, hname, -, -⟩ := hd.shapes.exists_inherited hf hn
        obtain ⟨_, hparent, -⟩ := Declaration.mem_inherited hg
        obtain ⟨p, hp, rfl⟩ := Option.map_eq_some_iff.mp hparent
        rw [inherited_eq hp] at hg
        obtain ⟨a, fd, hfd, ha⟩ := ih p (hw.sound.parent_of_declares hd hp).1 hg
        exact ⟨a, fd, hfd.trans hname, .inherited hd hp (by rwa [hfd, hname]) ha⟩
    · have hmakes := hw.sound.makesIn_of_origin ho
      rw [hmakes.fields] at hf
      obtain ⟨g, hg, rfl⟩ := List.mem_map.mp hf
      have hlt : app.generic < t := by
        refine hw.sound.lt_of_mem_ancestors ?_
        rw [hmakes.ancestors]
        exact List.mem_cons_self
      obtain ⟨a, fd, hfd, ha⟩ := ih app.generic hlt hg
      exact ⟨a, fd, hfd, .applied ho ha⟩

theorem Sound.mem_lineage_of_declaredIn (h : w.Sound) (ha : w.DeclaredIn fd t a) :
    a ∈ w.catalog.lineage t := by
  induction ha with
  | own => exact List.mem_cons_self
  | inherited hd hp _ _ ih =>
    refine List.mem_cons_of_mem _ ?_
    rw [(h.parent_of_declares hd hp).2]
    exact ih
  | applied ho _ ih =>
    refine List.mem_cons_of_mem _ ?_
    rw [h.ancestors_of_origin ho]
    exact ih

/-- A field keeps the role and the flags that it got from its declaration. -/
theorem Sound.role_of_declaredIn (h : w.Sound) (ha : w.DeclaredIn fd t a)
    (hf : f ∈ (w.catalog.schema t).fields) (hn : fd.name = f.name) :
    f.kind = Declaration.fieldKind (w.catalog.schema a).kind f.name ∧
      f.flags = Declaration.fieldFlags f.kind fd.flags := by
  induction ha generalizing f with
  | own hd hm => exact hd.shapes.role_of_declared hf hm hn
  | inherited hd hp hnot _ ih =>
    obtain ⟨g, hg, hname, hkind, hflags⟩ := hd.shapes.exists_inherited hf (hn ▸ hnot)
    rw [inherited_eq hp] at hg
    have hrole := ih hg (hn.trans hname.symm)
    rwa [hname, hkind, hflags] at hrole
  | applied ho _ ih =>
    rw [(h.makesIn_of_origin ho).fields] at hf
    obtain ⟨g, hg, rfl⟩ := List.mem_map.mp hf
    exact ih (f := g) hg hn

/-! ### The naming convention -/

/-- The field follows the naming convention of nodes, in its role and in what instances do. -/
structure Conventional (c : Catalog) (t : TypeId) (i : Nat) (f : Field) : Prop where
  kind : f.kind = .classify f.name
  note : "_attr_".toList <:+ f.name.toList → ActsAsNote c t i f
  internal : "_".toList <:+ f.name.toList → NeverChild c t f

/-- Whatever its name is, the field is a child with the flags of its declaration. -/
structure PlainlyDeclared (c : Catalog) (t : TypeId) (i : Nat) (f : Field) (fd : FieldDecl) :
    Prop where
  kind : f.kind = .child
  flags : f.flags = fd.flags
  child : ActsAsChild c t i f

theorem conventional_of_kind {c : Catalog} {i : Nat} (hs : (c.schema t).Regular c)
    (hf : (c.schema t).fields[i]? = some f) (hk : f.kind = .classify f.name) :
    Conventional c t i f := by
  refine ⟨hk, fun hn => ?_, fun hn => ?_⟩
  · exact actsAsNote hs hf (hk.trans ((FieldKind.classify_eq_note_iff f.name).mpr hn))
  · refine neverChild_of_kind hs hf fun hchild => ?_
    exact (FieldKind.classify_eq_child_iff f.name).mp (hk.symm.trans hchild) hn

/-- Every field was declared in its type or one that this one derives from. If that is a node type,
the field follows the naming convention. If it is a plain record type, the field is a child under
any name, also in the node types that derive from it. -/
theorem roles_of_fields (hw : Reachable w) {i : Nat}
    (hf : (w.catalog.schema t).fields[i]? = some f) :
    (∃ a fd, fd.name = f.name ∧ w.DeclaredIn fd t a) ∧
    ∀ a fd, fd.name = f.name → w.DeclaredIn fd t a → a ∈ w.catalog.lineage t ∧
      ((w.catalog.schema a).isNode = true → Conventional w.catalog t i f) ∧
      ((w.catalog.schema a).isNode = false → PlainlyDeclared w.catalog t i f fd) := by
  have hm := List.mem_of_getElem? hf
  have hs := hw.regular.schema t (lt_length_of_mem_fields hm)
  refine ⟨hw.exists_declaredIn hm, fun a fd hn ha => ?_⟩
  obtain ⟨hkind, hflags⟩ := hw.sound.role_of_declaredIn ha hm hn
  refine ⟨hw.sound.mem_lineage_of_declaredIn ha, fun hnode => ?_, fun hplain => ?_⟩
  · rw [eq_of_beq hnode] at hkind
    exact conventional_of_kind hs hf hkind
  · have hrecord : (w.catalog.schema a).kind = .plain := by
      cases hk : (w.catalog.schema a).kind with
      | plain => rfl
      | node => simp [Schema.isNode, hk] at hplain
    rw [hrecord] at hkind
    have hchild : f.kind = .child := hkind
    rw [hchild] at hflags
    exact ⟨hchild, hflags, actsAsChild hs hf hchild⟩

/-! ### A node type that derives from a plain record type -/

/-- A plain record type with a field that is named like an annotation. -/
def plainDeclaration : Declaration where
  session := 0
  name := "Plain"
  fields := [{ name := "note_attr_", type := some (.scalar .str) }]

/-- A node type that derives from it and declares an annotation of its own. -/
def mixedDeclaration : Declaration where
  session := 0
  name := "Mixed"
  kind := .node
  parent := some 0
  fields := [{ name := "type_attr_", type := some (.scalar .str) }]

def openWorld : World :=
  ({} : World).after .openSession

def plainWorld : World :=
  openWorld.after (.declare plainDeclaration)

def mixedWorld : World :=
  plainWorld.after (.declare mixedDeclaration)

theorem reachable_openWorld : Reachable openWorld :=
  Run.refl.step trivial trivial

theorem refers_plain : (Operation.declare plainDeclaration).Refers openWorld :=
  ⟨by decide, by decide⟩

theorem refers_mixed : (Operation.declare mixedDeclaration).Refers plainWorld :=
  ⟨by decide, by decide⟩

theorem reachable_plainWorld : Reachable plainWorld :=
  reachable_openWorld.step trivial refers_plain

theorem reachable_mixedWorld : Reachable mixedWorld :=
  reachable_plainWorld.step trivial refers_mixed

theorem declares_plain : mixedWorld.Declares plainDeclaration 0 := by
  have hdeclares : plainWorld.Declares plainDeclaration 0 :=
    ⟨openWorld, _, reachable_openWorld, refers_plain, rfl, .refl⟩
  exact hdeclares.after refers_mixed

theorem declares_mixed : mixedWorld.Declares mixedDeclaration 1 :=
  ⟨plainWorld, _, reachable_plainWorld, refers_mixed, rfl, .refl⟩

/-- The field of the node type that the plain record type declares. -/
def inheritedField : Field :=
  (mixedWorld.catalog.schema 1).fields[0]

/-- The field that the node type declares. -/
def ownField : Field :=
  (mixedWorld.catalog.schema 1).fields[1]

/-- The inherited field is a child, and the own one an annotation. -/
theorem roles_of_mixed :
    inheritedField.name = "note_attr_" ∧ ownField.name = "type_attr_" ∧
      ActsAsChild mixedWorld.catalog 1 0 inheritedField ∧
      ActsAsNote mixedWorld.catalog 1 1 ownField := by
  have hown : (mixedWorld.catalog.schema 1).fields[1]? = some ownField := rfl
  have hinherited : (mixedWorld.catalog.schema 1).fields[0]? = some inheritedField := rfl
  obtain ⟨-, hroles⟩ := roles_of_fields reachable_mixedWorld hown
  obtain ⟨-, hroles'⟩ := roles_of_fields reachable_mixedWorld hinherited
  obtain ⟨-, hnode, -⟩ := hroles 1 _ rfl (.own declares_mixed List.mem_cons_self)
  have hdeclared : mixedWorld.DeclaredIn _ 0 0 := .own declares_plain List.mem_cons_self
  obtain ⟨-, -, hplain⟩ := hroles' 0 _ rfl (.inherited declares_mixed rfl (by decide) hdeclared)
  exact ⟨rfl, rfl, (hplain rfl).child, (hnode rfl).note ⟨"type".toList, rfl⟩⟩

/-- A node type may have fields that do not follow the naming convention. -/
theorem not_classify_of_isNode :
    ¬ ∀ (w : World) (t : TypeId) (f : Field), Reachable w →
      (w.catalog.schema t).isNode = true → f ∈ (w.catalog.schema t).fields →
      f.kind = .classify f.name := by
  intro hall
  have hm : inheritedField ∈ (mixedWorld.catalog.schema 1).fields := List.mem_cons_self
  have hkind := hall mixedWorld 1 inheritedField reachable_mixedWorld rfl hm
  have hchild : inheritedField.kind = .child := rfl
  have hnote : FieldKind.classify inheritedField.name = .note := rfl
  rw [hchild, hnote] at hkind
  cases hkind

end World

end TypedTree
