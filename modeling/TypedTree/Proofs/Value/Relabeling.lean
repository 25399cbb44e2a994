import TypedTree.Proofs.Validation.Correctness
import TypedTree.Proofs.Value.Induction

/-!
# Changing what nodes carry besides their fields

The nodes of a value are reached through containers and through the fields of records. Changing the
numbers, the symbol tables or the dynamic annotations of all nodes that are reached changes nothing
in how the value matches types, is hashable, is equal to others and is put together.
-/

namespace TypedTree

/-- A change of what nodes carry besides their fields. It reaches the children of nodes at least. -/
structure Relabeling where
  info : NodeInfo → NodeInfo
  annotations : List (String × Value) → List (String × Value)
  /-- Whether a field is entered, in a node or else in a plain record. -/
  enters : Bool → Field → Bool
  children : ∀ f, f.kind = .child → enters true f = true

mutual

/-- Relabels all nodes that are reached. The keys of maps stay as they are. -/
def Value.relabel (c : Catalog) (g : Relabeling) : Value → Value
  | .tuple items => .tuple (Value.relabelAll c g items)
  | .list items => .list (Value.relabelAll c g items)
  | .set items => .set (Value.relabelAll c g items)
  | .map entries => .map (Value.relabelEntries c g entries)
  | .record r => .record (r.relabel c g)
  | v => v
termination_by structural v => v

def Record.relabel (c : Catalog) (g : Relabeling) : Record → Record
  | ⟨type, values, node, annotations⟩ =>
    ⟨type, Value.relabelFields c g (g.enters node.isSome) (c.schema type).fields values,
      node.map g.info, if node.isSome then g.annotations annotations else annotations⟩
termination_by structural r => r

def Value.relabelAll (c : Catalog) (g : Relabeling) : List Value → List Value
  | [] => []
  | v :: vs => v.relabel c g :: Value.relabelAll c g vs
termination_by structural vs => vs

def Value.relabelEntries (c : Catalog) (g : Relabeling) :
    List (Value × Value) → List (Value × Value)
  | [] => []
  | (k, v) :: es => (k, v.relabel c g) :: Value.relabelEntries c g es
termination_by structural es => es

def Value.relabelFields (c : Catalog) (g : Relabeling) (enters : Field → Bool)
    (fields : List Field) : List Value → List Value
  | [] => []
  | v :: vs =>
    match fields with
    | f :: fs => (if enters f then v.relabel c g else v) :: Value.relabelFields c g enters fs vs
    | [] => v :: vs
termination_by structural vs => vs

end

/-! ### Some fields of a record -/

/-- Changes the values of the fields that are entered. -/
def mapFields (enters : Field → Bool) (change : Value → Value) :
    List Field → List Value → List Value
  | f :: fs, v :: vs => (if enters f then change v else v) :: mapFields enters change fs vs
  | _, vs => vs

section

variable {enters : Field → Bool} {change : Value → Value} {f : Field} {fields : List Field}
  {values : List Value} {v : Value}

theorem length_mapFields (fields : List Field) (values : List Value) :
    (mapFields enters change fields values).length = values.length := by
  induction fields generalizing values with
  | nil => rfl
  | cons f fields ih => cases values <;> simp [mapFields, ih]

theorem getElem?_mapFields {i : Nat} (hf : fields[i]? = some f) (values : List Value) :
    (mapFields enters change fields values)[i]? =
      values[i]?.map fun v => if enters f then change v else v := by
  induction fields generalizing values i with
  | nil => cases hf
  | cons g fields ih =>
    cases values with
    | nil => rfl
    | cons v values =>
      cases i with
      | zero =>
        obtain rfl := Option.some.inj hf
        rfl
      | succ i => exact ih hf values

theorem mapFields_congr {change' : Value → Value} (h : ∀ v ∈ values, change v = change' v) :
    mapFields enters change fields values = mapFields enters change' fields values := by
  induction fields generalizing values with
  | nil => rfl
  | cons f fields ih =>
    cases values with
    | nil => rfl
    | cons v values =>
      rw [List.forall_mem_cons] at h
      rw [mapFields, mapFields, h.1, ih h.2]

/-- Where no field is entered, nothing changes. -/
theorem mapFields_of_not_enters (h : ∀ f, enters f = false) (fields : List Field)
    (values : List Value) : mapFields enters change fields values = values := by
  induction fields generalizing values with
  | nil => rfl
  | cons f fields ih => cases values <;> simp [mapFields, h, ih]

/-- Where the changed values are the same, so are the values when all of them are changed. -/
theorem forall₂_of_mapFields_eq {values' : List Value}
    (h : mapFields enters change fields values = mapFields enters change fields values') :
    List.Forall₂ (fun v v' => change v = change v') values values' := by
  induction fields generalizing values values' with
  | nil =>
    obtain rfl : values = values' := h
    exact List.forall₂_same.mpr fun _ _ => rfl
  | cons f fields ih =>
    cases values with
    | nil =>
      cases values' with
      | nil => exact .nil
      | cons => cases h
    | cons v values =>
      cases values' with
      | nil => cases h
      | cons v' values' =>
        obtain ⟨hv, hvalues⟩ := List.cons.inj h
        refine .cons ?_ (ih hvalues)
        by_cases hk : enters f = true
        · rwa [if_pos hk, if_pos hk] at hv
        · rw [if_neg hk, if_neg hk] at hv
          exact congrArg change hv

theorem zip_mapFields (fields : List Field) (values : List Value) :
    fields.zip (mapFields enters change fields values) =
      (fields.zip values).map fun p => (p.1, if enters p.1 then change p.2 else p.2) := by
  induction fields generalizing values with
  | nil => rfl
  | cons f fields ih => cases values <;> simp [mapFields, ih]

theorem mem_mapFields (hv : v ∈ mapFields enters change fields values) :
    v ∈ values ∨ ∃ x ∈ values, v = change x := by
  induction fields generalizing values with
  | nil => exact .inl hv
  | cons f fields ih =>
    cases values with
    | nil => cases hv
    | cons x values =>
      rcases List.mem_cons.mp hv with rfl | hv
      · by_cases hf : enters f = true
        · exact .inr ⟨x, List.mem_cons_self, if_pos hf⟩
        · exact .inl (by simp [hf])
      · refine (ih hv).imp (List.mem_cons_of_mem x) ?_
        rintro ⟨y, hy, rfl⟩
        exact ⟨y, List.mem_cons_of_mem x hy, rfl⟩

end

/-! ### Relabeling by shapes -/

variable {c : Catalog} {g : Relabeling}

namespace Value

theorem relabelAll_eq (vs : List Value) : relabelAll c g vs = vs.map (relabel c g) := by
  induction vs with
  | nil => rfl
  | cons v vs ih => exact congrArg (v.relabel c g :: ·) ih

theorem relabelEntries_eq (es : List (Value × Value)) :
    relabelEntries c g es = es.map fun e => (e.1, e.2.relabel c g) := by
  induction es with
  | nil => rfl
  | cons e es ih => exact congrArg ((e.1, e.2.relabel c g) :: ·) ih

theorem relabelFields_eq (enters : Field → Bool) (fields : List Field) (vs : List Value) :
    relabelFields c g enters fields vs = mapFields enters (relabel c g) fields vs := by
  induction vs generalizing fields with
  | nil => cases fields <;> rfl
  | cons v vs ih =>
    cases fields with
    | nil => rfl
    | cons f fields => exact congrArg (_ :: ·) (ih fields)

theorem relabel_of_isAtom {v : Value} (h : v.isAtom = true) : v.relabel c g = v := by
  cases v with
  | tuple | list | set | map | record => cases h
  | _ => rfl

@[simp] theorem relabel_tuple (items : List Value) :
    (tuple items).relabel c g = tuple (items.map (relabel c g)) :=
  congrArg tuple (relabelAll_eq items)

@[simp] theorem relabel_list (items : List Value) :
    (list items).relabel c g = list (items.map (relabel c g)) :=
  congrArg list (relabelAll_eq items)

@[simp] theorem relabel_set (items : List Value) :
    (set items).relabel c g = set (items.map (relabel c g)) :=
  congrArg set (relabelAll_eq items)

@[simp] theorem relabel_map (entries : List (Value × Value)) :
    (map entries).relabel c g = map (entries.map fun e => (e.1, e.2.relabel c g)) :=
  congrArg map (relabelEntries_eq entries)

@[simp] theorem relabel_record (r : Record) : (record r).relabel c g = record (r.relabel c g) :=
  rfl

end Value

namespace Record

variable {r : Record}

theorem relabel_eq (r : Record) : r.relabel c g =
    ⟨r.type, mapFields (g.enters r.isNode) (Value.relabel c g) (r.schema c).fields r.values,
      r.node.map g.info, if r.isNode then g.annotations r.annotations else r.annotations⟩ := by
  obtain ⟨type, values, node, annotations⟩ := r
  rw [relabel, Value.relabelFields_eq]
  rfl

@[simp] theorem type_relabel (r : Record) : (r.relabel c g).type = r.type := by
  rw [relabel_eq]

@[simp] theorem schema_relabel (r : Record) : (r.relabel c g).schema c = r.schema c := by
  rw [schema, type_relabel, schema]

@[simp] theorem isNode_relabel (r : Record) : (r.relabel c g).isNode = r.isNode := by
  rw [relabel_eq, isNode, isNode, Option.isSome_map]

theorem values_relabel (r : Record) : (r.relabel c g).values =
    mapFields (g.enters r.isNode) (Value.relabel c g) (r.schema c).fields r.values := by
  rw [relabel_eq]

end Record

end TypedTree
