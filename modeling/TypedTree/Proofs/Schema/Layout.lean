import Mathlib.Data.List.Nodup
import TypedTree.Proofs.Schema.Declaration
import TypedTree.Proofs.Schema.FieldIndex

/-! # The field table of a declaration -/

namespace TypedTree

namespace Declaration

/-! ### Fields over a table -/

/-- A table with fields put over it: those of a name in the table take the place there, and the
others come behind the table. -/
def overlay (table fields : List Field) : List Field :=
  table.map (fun g => (fields.find? (·.name = g.name)).getD g) ++
    fields.filter (·.name ∉ fieldNames table)

variable {f : Field} {table fields : List Field}

theorem overlay_nil (table : List Field) : overlay table [] = table := by
  simp [overlay]

/-- The names of a table stay where they are. -/
theorem fieldNames_overlay (table fields : List Field) :
    fieldNames (overlay table fields) =
      fieldNames table ++ (fieldNames fields).filter (· ∉ fieldNames table) := by
  have hname : ∀ g : Field, ((fields.find? (·.name = g.name)).getD g).name = g.name := by
    intro g
    cases hf : fields.find? (·.name = g.name) with
    | none => rfl
    | some f => simpa using List.find?_some hf
  rw [overlay, fieldNames_append, fieldNames_map hname, fieldNames, fieldNames, fieldNames,
    List.filter_map]
  rfl

theorem nodup_overlay (ht : (fieldNames table).Nodup) (hf : (fieldNames fields).Nodup) :
    (fieldNames (overlay table fields)).Nodup := by
  rw [fieldNames_overlay]
  refine ht.append (hf.filter _) fun name hm hn => ?_
  simp only [List.mem_filter, decide_eq_true_eq] at hn
  exact hn.2 hm

theorem mem_overlay (hf : f ∈ overlay table fields) : f ∈ table ∨ f ∈ fields := by
  rcases List.mem_append.mp hf with hf | hf
  · obtain ⟨g, hg, rfl⟩ := List.mem_map.mp hf
    cases hn : fields.find? (·.name = g.name) with
    | none => exact .inl hg
    | some k => exact .inr (List.mem_of_find?_eq_some hn)
  · exact .inr (List.mem_filter.mp hf).1

theorem find?_eq_none_of_notMem {name : String} (h : name ∉ fieldNames fields) :
    fields.find? (·.name = name) = none := by
  refine List.find?_eq_none.mpr fun g hg hn => h ?_
  rw [← of_decide_eq_true hn]
  exact List.mem_map_of_mem hg

/-- A field of another name leaves a table as it is. -/
theorem map_find?_of_notMem (h : f.name ∉ fieldNames table) :
    table.map (fun g => ([f].find? (·.name = g.name)).getD g) = table := by
  conv_rhs => rw [← List.map_id table]
  refine List.map_congr_left fun g hg => ?_
  have hne : g.name ∉ fieldNames [f] := fun hn =>
    have he : g.name = f.name := List.mem_singleton.mp hn
    h (he ▸ List.mem_map_of_mem hg)
  rw [find?_eq_none_of_notMem hne]
  rfl

/-- Putting a field into a table puts it over the table. -/
theorem putField_eq_overlay (ht : (fieldNames table).Nodup) :
    putField f table = overlay table [f] := by
  induction table with
  | nil => rfl
  | cons g rest ih =>
    rw [fieldNames_cons, List.nodup_cons] at ht
    rw [putField, overlay, List.map_cons]
    by_cases hn : g.name = f.name
    · rw [map_find?_of_notMem (hn ▸ ht.1)]
      simp [hn]
    · rw [if_neg hn, ih ht.2, overlay]
      simp [Ne.symm hn, List.filter_cons]

/-- Fields go over a table one after the other. -/
theorem overlay_overlay (hf : f.name ∉ fieldNames fields) :
    overlay (overlay table [f]) fields = overlay table (f :: fields) := by
  -- No later field has the name of `f`, so `f` stays where it is put.
  have hnone := find?_eq_none_of_notMem hf
  have hmap : (overlay table [f]).map (fun g => (fields.find? (·.name = g.name)).getD g) =
      table.map (fun g => ((f :: fields).find? (·.name = g.name)).getD g) ++
        [f].filter (·.name ∉ fieldNames table) := by
    rw [overlay, List.map_append, List.map_map]
    congr 1
    · refine List.map_congr_left fun g _ => ?_
      by_cases hn : f.name = g.name
      · simp [← hn, hnone]
      · simp [hn]
    · by_cases hm : f.name ∈ fieldNames table <;> simp [hm, hnone]
  have hfilter : fields.filter (·.name ∉ fieldNames (overlay table [f])) =
      fields.filter (·.name ∉ fieldNames table) := by
    refine List.filter_congr fun g hg => ?_
    have hne : g.name ≠ f.name := fun hn => hf (hn ▸ List.mem_map_of_mem hg)
    simp [fieldNames_overlay, hne]
  rw [overlay, hmap, hfilter, List.append_assoc, ← List.filter_append]
  rfl

variable {c : Catalog} {record : String} {kind : RecordKind} {params : List TyVar}

theorem fieldNames_of_buildFields {fs : List FieldDecl} {built : List Field}
    (h : List.Forall₂ (fun f g => buildField c record kind params f = .ok g) fs built) :
    fieldNames built = fs.map (·.name) := by
  induction h with
  | nil => rfl
  | cons hb _ ih => rw [fieldNames_cons, List.map_cons, ih, (builds_of_buildField hb).name]

/-- The merged table is the inherited one with the fields of the declaration over it. -/
theorem mergeFields_eq_ok {own : List String} {fs : List FieldDecl} {result : List Field}
    (ht : (fieldNames table).Nodup)
    (h : mergeFields c record kind params own table fs = .ok result) :
    (fs.map (·.name)).Nodup ∧ (∀ name ∈ own, name ∉ fs.map (·.name)) ∧
      ∃ built, List.Forall₂ (fun f g => buildField c record kind params f = .ok g) fs built ∧
        result = overlay table built := by
  induction fs generalizing own table with
  | nil =>
    obtain rfl := Except.ok.inj h
    exact ⟨List.nodup_nil, fun _ _ => List.not_mem_nil, [], .nil, (overlay_nil table).symm⟩
  | cons f fs ih =>
    simp only [mergeFields, guard_eq_ok_iff, bind_eq_ok_iff] at h
    obtain ⟨hown, field, hf, h⟩ := h
    have hput := putField_eq_overlay (f := field) ht
    -- The induction goes on with a table that holds the field, and in which names are distinct.
    have ht' : (fieldNames (putField field table)).Nodup :=
      hput ▸ nodup_overlay ht (List.nodup_singleton _)
    obtain ⟨hnodup, hdisjoint, built, hbuilt, rfl⟩ := ih ht' h
    obtain ⟨hfirst, hrest⟩ := List.forall_mem_cons.mp hdisjoint
    refine ⟨List.nodup_cons.mpr ⟨hfirst, hnodup⟩, ?_, field :: built, .cons hf hbuilt, ?_⟩
    · intro name hn
      rw [List.map_cons, List.mem_cons, not_or]
      refine ⟨?_, hrest name hn⟩
      rintro rfl
      exact hown (List.contains_iff_mem.mpr hn)
    · have hname : field.name ∉ fieldNames built := by
        rw [fieldNames_of_buildFields hbuilt, (builds_of_buildField hf).name]
        exact hfirst
      rw [hput, overlay_overlay hname]

/-! ### Checks of fields -/

/-- A field with the checks that are declared for it behind its own ones. -/
def withChecks (checks : List (String × HookId)) (f : Field) : Field :=
  { f with checks := f.checks ++ (checks.filter (·.1 = f.name)).map (·.2) }

theorem fieldNames_map_withChecks (checks : List (String × HookId)) (table : List Field) :
    fieldNames (table.map (withChecks checks)) = fieldNames table := by
  rw [fieldNames, List.map_map]
  rfl

theorem withChecks_nil (f : Field) : withChecks [] f = f := by
  simp [withChecks]

theorem withChecks_withChecks (check : String × HookId) (checks : List (String × HookId))
    (f : Field) : withChecks checks (withChecks [check] f) = withChecks (check :: checks) f := by
  simp [withChecks, List.filter_cons]
  split <;> simp

/-- The check comes to the one field of its name. -/
theorem modify_addCheck {index : FieldIndex} {name : String} {slot : Nat}
    (hi : index.Indexes table) (h : index.find? name = some slot) (hook : HookId) :
    table.modify slot (addCheck hook) = table.map (withChecks [(name, hook)]) := by
  refine List.ext_getElem? fun j => ?_
  rw [List.getElem?_modify, List.getElem?_map]
  cases hj : table[j]? with
  | none => rfl
  | some g =>
    have hg : index.find? g.name = some j := hi.find?_name hj
    by_cases hs : slot = j
    · subst hs
      obtain rfl := hi.name_inj h hg
      simp [withChecks, addCheck]
    · have hne : name ≠ g.name := by
        rintro rfl
        exact hs (Option.some.inj (h.symm.trans hg))
      simp [withChecks, hs, hne]

theorem attachChecks_eq_ok {index : FieldIndex} {checks : List (String × HookId)}
    {result : List Field} (hi : index.Indexes table)
    (h : attachChecks record index table checks = .ok result) :
    result = table.map (withChecks checks) := by
  induction checks generalizing table with
  | nil =>
    obtain rfl := Except.ok.inj h
    rw [List.map_congr_left fun f _ => withChecks_nil f, List.map_id']
  | cons check rest ih =>
    obtain ⟨name, hook⟩ := check
    rw [attachChecks] at h
    cases hs : index.find? name with
    | none => simp [hs] at h
    | some slot =>
      rw [hs] at h
      have hadd := modify_addCheck hi hs hook
      -- Checks leave the names alone, so the index is right for the changed table too.
      have hi' : index.Indexes (table.modify slot (addCheck hook)) := by
        rw [hadd]
        exact hi.congr (fieldNames_map_withChecks _ table)
      rw [ih hi' h, hadd, List.map_map]
      exact List.map_congr_left fun f _ => withChecks_withChecks (name, hook) rest f

end Declaration

end TypedTree
