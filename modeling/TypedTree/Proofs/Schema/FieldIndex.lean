import Mathlib.Data.List.Nodup
import TypedTree.Schema.Basic

/-!
# The index of a field table

The index is recorded once, from a table whose names are distinct. It goes on to be right as long as
the names stay where they are, whatever else about the fields changes.
-/

namespace TypedTree

/-- The names of the fields, in their order. -/
def fieldNames (table : List Field) : List String :=
  table.map (·.name)

@[simp] theorem fieldNames_nil : fieldNames [] = [] := rfl

@[simp] theorem fieldNames_cons (f : Field) (table : List Field) :
    fieldNames (f :: table) = f.name :: fieldNames table := rfl

@[simp] theorem fieldNames_append (table fields : List Field) :
    fieldNames (table ++ fields) = fieldNames table ++ fieldNames fields :=
  List.map_append

/-- Fields may change in anything but their names. -/
theorem fieldNames_map {change : Field → Field} (h : ∀ f, (change f).name = f.name)
    (table : List Field) : fieldNames (table.map change) = fieldNames table := by
  rw [fieldNames, fieldNames, List.map_map]
  exact List.map_congr_left fun f _ => h f

namespace FieldIndex

variable {index : FieldIndex} {table table' fields : List Field} {name : String} {i slot : Nat}

/-- The index has each name of the table at its place, and no other name. -/
def Indexes (index : FieldIndex) (table : List Field) : Prop :=
  ∀ name i, index.find? name = some i ↔ (fieldNames table)[i]? = some name

/-! ### Recording a table -/

theorem find?_insert (index : FieldIndex) (name name' : String) (slot : Nat) :
    (index.insert name slot).find? name' =
      if name' = name then some slot else index.find? name' := by
  rw [insert, find?, List.lookup_cons]
  by_cases h : name' = name
  · simp [h]
  · simp [h, beq_false_of_ne h, find?]

theorem find?_addFields_of_notMem (h : name ∉ fieldNames fields) :
    (index.addFields slot fields).find? name = index.find? name := by
  induction fields generalizing index slot with
  | nil => rfl
  | cons f fields ih =>
    obtain ⟨hf, hfields⟩ := not_or.mp (List.mem_cons.not.mp h)
    rw [addFields, ih hfields, find?_insert, if_neg hf]

/-- The first place is recorded for the first field, and no later one takes its name. -/
theorem find?_addFields_of_getElem? (hn : (fieldNames fields).Nodup)
    (hi : (fieldNames fields)[i]? = some name) :
    (index.addFields slot fields).find? name = some (slot + i) := by
  induction fields generalizing index slot i with
  | nil => cases hi
  | cons f fields ih =>
    obtain ⟨hf, hfields⟩ := List.nodup_cons.mp hn
    rw [addFields]
    cases i with
    | zero =>
      obtain rfl := Option.some.inj hi
      rw [find?_addFields_of_notMem hf, find?_insert, if_pos rfl, Nat.add_zero]
    | succ i =>
      rw [ih hfields hi, Nat.add_right_comm, Nat.add_assoc]

theorem indexes_ofFields (hn : (fieldNames table).Nodup) : (ofFields table).Indexes table := by
  have hfind {name : String} {i : Nat} (hi : (fieldNames table)[i]? = some name) :
      (ofFields table).find? name = some i := by
    rw [ofFields, find?_addFields_of_getElem? hn hi, Nat.zero_add]
  intro name i
  refine ⟨fun h => ?_, hfind⟩
  by_cases hm : name ∈ fieldNames table
  · obtain ⟨j, hj⟩ := List.mem_iff_getElem?.mp hm
    rwa [Option.some.inj (h.symm.trans (hfind hj))]
  · have hnone : ({} : FieldIndex).find? name = none := rfl
    rw [ofFields, find?_addFields_of_notMem hm, hnone] at h
    cases h

/-! ### A right index -/

namespace Indexes

/-- Fields may change in anything but their names and places. -/
theorem congr (h : index.Indexes table) (hn : fieldNames table' = fieldNames table) :
    index.Indexes table' := by
  intro name i
  rw [hn]
  exact h name i

theorem find?_eq_none_iff (h : index.Indexes table) :
    index.find? name = none ↔ name ∉ fieldNames table := by
  rw [Option.eq_none_iff_forall_ne_some, List.mem_iff_getElem?, not_exists]
  exact forall_congr' fun i => not_congr (h name i)

theorem exists_getElem? (h : index.Indexes table) (hi : index.find? name = some i) :
    ∃ f, table[i]? = some f ∧ f.name = name := by
  have hname := (h name i).mp hi
  rwa [fieldNames, List.getElem?_map, Option.map_eq_some_iff] at hname

theorem find?_name (h : index.Indexes table) {f : Field} (hf : table[i]? = some f) :
    index.find? f.name = some i := by
  rw [h, fieldNames, List.getElem?_map, hf, Option.map_some]

/-- A name that stood at two places would be found at both. -/
theorem nodup (h : index.Indexes table) : (fieldNames table).Nodup := by
  rw [List.nodup_iff_getElem?_ne_getElem?]
  intro i j hij hj he
  have hi := List.getElem?_eq_getElem (Nat.lt_trans hij hj)
  have hfound := (h _ i).mpr hi
  rw [(h _ j).mpr (he.symm.trans hi)] at hfound
  exact absurd (Option.some.inj hfound) (Nat.ne_of_gt hij)

/-- Two names do not share a place. -/
theorem name_inj (h : index.Indexes table) {name' : String} (hi : index.find? name = some i)
    (hi' : index.find? name' = some i) : name' = name :=
  Option.some.inj (((h name' i).mp hi').symm.trans ((h name i).mp hi))

theorem lt_length (h : index.Indexes table) (hi : index.find? name = some i) :
    i < table.length := by
  obtain ⟨f, hf, -⟩ := h.exists_getElem? hi
  exact (List.getElem?_eq_some_iff.mp hf).1

end Indexes

end FieldIndex

/-! ### Schemas -/

namespace Schema

variable {s : Schema} {name : String}

/-- The stored index is that of the field table. -/
def Indexed (s : Schema) : Prop :=
  s.index.Indexes s.fields

theorem Indexed.slot?_eq_none_iff (h : s.Indexed) :
    s.slot? name = none ↔ name ∉ fieldNames s.fields :=
  h.find?_eq_none_iff

theorem Indexed.field?_eq_some_iff (h : s.Indexed) {f : Field} :
    s.field? name = some f ↔ ∃ i : Nat, s.fields[i]? = some f ∧ f.name = name := by
  rw [field?, Option.bind_eq_some_iff]
  constructor
  · rintro ⟨i, hi, hf⟩
    obtain ⟨g, hg, hname⟩ := h.exists_getElem? hi
    obtain rfl := Option.some.inj (hf.symm.trans hg)
    exact ⟨i, hf, hname⟩
  · rintro ⟨i, hf, rfl⟩
    exact ⟨i, h.find?_name hf, hf⟩

end Schema

/-- All schemas have the index of their field table, also where no type is. -/
def Catalog.Indexed (c : Catalog) : Prop :=
  ∀ t, (c.schema t).Indexed

end TypedTree
