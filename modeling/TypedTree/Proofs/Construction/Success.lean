import TypedTree.Proofs.Construction.Stages
import TypedTree.Proofs.Schema.Layout
import TypedTree.Proofs.Value.Coercion

/-! # Construction from values that the fields accept as they are -/

namespace TypedTree

open Construct

variable {h : Hooks} {c : Catalog} {t : TypeId} {arguments : List (String × Value)} {f : Field}
  {v : Value} {r : Record}

/-! ### Checks -/

theorem gives_runChecks {hooks : List HookId}
    (hk : ∀ hook ∈ hooks, ∀ s, ((h.check hook c f v).run s).1 = .ok ()) :
    (runChecks h c t f v hooks).Gives fun _ => True := by
  induction hooks with
  | nil => exact gives_pure trivial
  | cons hook hooks ih =>
    obtain ⟨hhook, hrest⟩ := List.forall_mem_cons.mp hk
    refine Gives.bind (P := (· = .ok ())) (gives_lift hhook) fun verdict hv => ?_
    subst hv
    exact ih hrest

theorem gives_runRootChecks {hooks : List HookId}
    (hk : ∀ hook ∈ hooks, ∀ s, ((h.rootCheck hook c r).run s).1 = .ok ()) :
    (runRootChecks h c r hooks).Gives fun _ => True := by
  induction hooks with
  | nil => exact gives_pure trivial
  | cons hook hooks ih =>
    obtain ⟨hhook, hrest⟩ := List.forall_mem_cons.mp hk
    refine Gives.bind (P := (· = .ok ())) (gives_lift hhook) fun verdict hv => ?_
    subst hv
    exact ih hrest

/-! ### Fields -/

/-- A field without a converter leaves a value alone that matches its type. -/
theorem convertValue_of_valid (hc : f.converter = none)
    (hv : f.coerces = true → f.type.validate c v = .ok ()) : convertValue h c t f v = pure v := by
  rw [convertValue, hc]
  by_cases hcoerces : f.coerces = true
  · simp only [hcoerces, if_true, Ty.coerce_of_validate (hv hcoerces)]
  · simp only [hcoerces, Bool.false_eq_true, if_false]

/-- The field takes the value as it is, in every state. -/
structure Field.Accepts (h : Hooks) (c : Catalog) (f : Field) (v : Value) : Prop where
  converter : f.converter = none
  valid : f.type.validate c v = .ok ()
  checks : ∀ hook ∈ f.checks, ∀ s, ((h.check hook c f v).run s).1 = .ok ()

theorem gives_fieldValue (hn : (arguments.map (·.1)).Nodup) (hm : (f.name, v) ∈ arguments)
    (hf : f.Accepts h c v) : (fieldValue h c t arguments f).Gives (· = v) := by
  have hvalid : validateValue c t f v = pure () := by
    rw [validateValue, hf.valid]
  rw [fieldValue, rawValue_of_mem hn hm, pure_bind,
    convertValue_of_valid hf.converter fun _ => hf.valid, pure_bind, hvalid, pure_bind]
  exact (gives_runChecks hf.checks).bind fun _ _ => gives_pure rfl

theorem gives_fieldValues (hn : (arguments.map (·.1)).Nodup) {fs : List Field} {vs : List Value}
    (hf : List.Forall₂ (fun f v => (f.name, v) ∈ arguments ∧ f.Accepts h c v) fs vs) :
    (fieldValues h c t arguments fs).Gives (· = vs) := by
  induction hf with
  | nil => exact gives_pure rfl
  | cons hf _ ih =>
    rw [fieldValues]
    refine (gives_fieldValue hn hf.1 hf.2).bind fun v hv => ih.bind fun vs hvs => ?_
    exact gives_pure (by rw [hv, hvs])

/-! ### An argument for each field -/

theorem forall₂_accepts_zip {fs : List Field} {vs : List Value}
    (hf : List.Forall₂ (Field.Accepts h c) fs vs) :
    List.Forall₂ (fun f v => (f.name, v) ∈ (fieldNames fs).zip vs ∧ f.Accepts h c v) fs vs := by
  rw [List.forall₂_iff_zip] at hf ⊢
  refine ⟨hf.1, fun {f v} hm => ⟨?_, hf.2 hm⟩⟩
  rw [fieldNames, List.zip_map_left]
  exact List.mem_map_of_mem (f := Prod.map Field.name id) hm

/-- A type that has no field left out takes an argument for each of them. -/
theorem argumentsFit_fieldNames {s : Schema} (hs : s.Indexed)
    (hi : ∀ f ∈ s.fields, f.flags.init = true) : ArgumentsFit s (fieldNames s.fields) := by
  refine ⟨hs.nodup, fun name hm => ?_⟩
  obtain ⟨f, hf, hname⟩ := List.mem_map.mp hm
  exact hs.takes_iff.mpr ⟨f, hf, hname, hi f hf⟩

/-! ### Instances -/

theorem gives_collectSymbols
    (hd : (r.schema c).flags.scope = true → ((r.declarations c).map (·.1)).Nodup) :
    (collectSymbols c r).Gives (· = r.withSymbols c) :=
  fun s => ⟨_, congrArg Prod.fst (exec_collectSymbols hd s), rfl⟩

/-- All fields are given a value that they accept. -/
theorem gives_construct {values : List Value} (hi : (c.schema t).flags.abstract = false)
    (hs : (c.schema t).Indexed)
    (hinit : ∀ f ∈ (c.schema t).fields, f.flags.init = true)
    (hf : List.Forall₂ (Field.Accepts h c) (c.schema t).fields values)
    (hr : ∀ hook ∈ (c.schema t).rootChecks, ∀ s s',
      ((h.rootCheck hook c (draft c t s values)).run s').1 = .ok ())
    (hd : (c.schema t).flags.scope = true → ∀ s,
      (((draft c t s values).declarations c).map (·.1)).Nodup) :
    (construct h c t ((fieldNames (c.schema t).fields).zip values)).Gives fun r =>
      ∃ s, r = (draft c t s values).withSymbols c := by
  have hnames : ((fieldNames (c.schema t).fields).zip values).map (·.1) =
      fieldNames (c.schema t).fields := by
    refine List.map_fst_zip ?_
    rw [fieldNames, List.length_map]
    exact Nat.le_of_eq hf.length_eq
  have hfit := argumentsFit_fieldNames hs hinit
  rw [← hnames] at hfit
  intro s
  obtain ⟨vs, hvalues, he⟩ := gives_fieldValues (t := t) hfit.nodup (forall₂_accepts_zip hf) s
  rw [he] at hvalues
  rw [exec_construct_of_exec_fieldValues hi hfit (Prod.ext hvalues rfl)]
  have hsymbols : ∀ s, (collectSymbols c (draft c t s values)).Gives
      (· = (draft c t s values).withSymbols c) := fun s =>
    gives_collectSymbols (r := draft c t s values) fun hs => hd hs s
  obtain ⟨r, hr, he⟩ := (gives_runRootChecks fun hook hm => hr hook hm _).bind
    (fun _ _ => hsymbols _) (State.afterNumbering c t _)
  exact ⟨r, hr, _, he⟩

end TypedTree
