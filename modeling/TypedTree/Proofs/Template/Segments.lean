import Mathlib.Data.List.Chain
import TypedTree.Generation.Rule

/-! # Segments of text templates -/

namespace TypedTree

/-- What a template says at one place: a character to write, or a placeholder. -/
inductive Template.Atom where
  | char (c : Char)
  | placeholder (name : String) (separator : Option String)
deriving DecidableEq

namespace Segment

def isLiteral : Segment → Bool
  | literal _ => true
  | placeholder _ _ => false

/-- A literal run says its characters one by one. -/
def atoms : Segment → List Template.Atom
  | literal text => text.toList.map .char
  | placeholder name separator => [.placeholder name separator]

end Segment

namespace Template

/-! ### Normal form -/

/-- Literal runs are not empty, and no two of them are adjacent. -/
structure Normalized (segments : List Segment) : Prop where
  nonempty : ∀ text, .literal text ∈ segments → text ≠ ""
  apart : segments.IsChain fun s t => s.isLiteral = false ∨ t.isLiteral = false

variable {segments : List Segment} {atoms : List Atom} {name : String} {separator : Option String}

theorem normalized_nil : Normalized [] :=
  ⟨by simp, .nil⟩

theorem normalized_placeholder_iff :
    Normalized (.placeholder name separator :: segments) ↔ Normalized segments := by
  constructor
  · intro h
    exact ⟨fun text ht => h.nonempty text (List.mem_cons_of_mem _ ht), h.apart.tail⟩
  · intro h
    refine ⟨by simpa using h.nonempty, ?_⟩
    rw [List.isChain_cons]
    exact ⟨fun s _ => .inl rfl, h.apart⟩

theorem normalized_literal_iff {text : String} :
    Normalized (.literal text :: segments) ↔
      text ≠ "" ∧ (∀ s ∈ segments.head?, s.isLiteral = false) ∧ Normalized segments := by
  constructor
  · intro h
    obtain ⟨hn, ha⟩ := h
    rw [List.isChain_cons] at ha
    refine ⟨hn text (by simp), ?_, fun t ht => hn t (List.mem_cons_of_mem _ ht), ha.2⟩
    intro s hs
    simpa [Segment.isLiteral] using ha.1 s hs
  · rintro ⟨ht, hh, hn⟩
    refine ⟨?_, ?_⟩
    · intro t hm
      rcases List.mem_cons.mp hm with he | hm
      · cases he
        exact ht
      · exact hn.nonempty t hm
    · rw [List.isChain_cons]
      exact ⟨fun s hs => .inr (hh s hs), hn.apart⟩

theorem placeholder_mem_atoms (h : .placeholder name separator ∈ segments) :
    .placeholder name separator ∈ segments.flatMap Segment.atoms :=
  List.mem_flatMap.mpr ⟨_, h, List.mem_singleton_self _⟩

theorem eq_of_mem_addLiteral {s : Segment} {text : List Char} (h : s ∈ addLiteral text []) :
    s = .literal (String.ofList text) := by
  rw [addLiteral] at h
  split at h
  · cases h
  · exact List.mem_singleton.mp h

/-! ### Merging -/

/-- Puts a character in front of segments: into the literal run at their head, if there is one. -/
def addChar (c : Char) : List Segment → List Segment
  | .literal text :: rest => .literal (String.ofList (c :: text.toList)) :: rest
  | segments => .literal (String.ofList [c]) :: segments

/-- The segments that say the same, with adjacent characters in one run. -/
def mergeAtoms : List Atom → List Segment
  | [] => []
  | .char c :: rest => addChar c (mergeAtoms rest)
  | .placeholder name separator :: rest => .placeholder name separator :: mergeAtoms rest

theorem addChar_of_head (c : Char) (h : ∀ s ∈ segments.head?, s.isLiteral = false) :
    addChar c segments = .literal (String.ofList [c]) :: segments := by
  cases segments with
  | nil => rfl
  | cons s rest =>
    cases s with
    | literal text => simp [Segment.isLiteral] at h
    | placeholder => rfl

theorem normalized_addChar {c : Char} (h : Normalized segments) :
    Normalized (addChar c segments) := by
  cases segments with
  | nil => exact normalized_literal_iff.mpr ⟨by simp [← String.toList_inj], by simp, h⟩
  | cons s rest =>
    cases s with
    | literal text =>
      obtain ⟨-, hh, hn⟩ := normalized_literal_iff.mp h
      exact normalized_literal_iff.mpr ⟨by simp [← String.toList_inj], hh, hn⟩
    | placeholder =>
      refine normalized_literal_iff.mpr ⟨by simp [← String.toList_inj], ?_, h⟩
      simp [Segment.isLiteral]

theorem atoms_addChar (c : Char) (segments : List Segment) :
    (addChar c segments).flatMap Segment.atoms = .char c :: segments.flatMap Segment.atoms := by
  cases segments with
  | nil => simp [addChar, Segment.atoms]
  | cons s rest => cases s <;> simp [addChar, Segment.atoms]

theorem normalized_mergeAtoms (atoms : List Atom) : Normalized (mergeAtoms atoms) := by
  induction atoms with
  | nil => exact normalized_nil
  | cons a rest ih =>
    cases a with
    | char c => exact normalized_addChar ih
    | placeholder => exact normalized_placeholder_iff.mpr ih

theorem atoms_mergeAtoms (atoms : List Atom) :
    (mergeAtoms atoms).flatMap Segment.atoms = atoms := by
  induction atoms with
  | nil => rfl
  | cons a rest ih =>
    cases a with
    | char c => rw [mergeAtoms, atoms_addChar, ih]
    | placeholder => simp [mergeAtoms, Segment.atoms, ih]

/-- A run of characters in front of something else becomes one literal run. -/
theorem mergeAtoms_chars_append (text : List Char)
    (h : ∀ s ∈ (mergeAtoms atoms).head?, s.isLiteral = false) :
    mergeAtoms (text.map .char ++ atoms) = addLiteral text (mergeAtoms atoms) := by
  induction text with
  | nil => rfl
  | cons c text ih =>
    rw [List.map_cons, List.cons_append, mergeAtoms, ih]
    cases text with
    | nil => exact addChar_of_head c h
    | cons => simp [addLiteral, addChar]

theorem mergeAtoms_chars (text : List Char) :
    mergeAtoms (text.map .char) = addLiteral text [] := by
  have h : mergeAtoms (text.map .char ++ []) = addLiteral text (mergeAtoms []) :=
    mergeAtoms_chars_append text (by simp [mergeAtoms])
  rwa [List.append_nil] at h

theorem normalized_addLiteral (text : List Char) : Normalized (addLiteral text []) := by
  rw [← mergeAtoms_chars]
  exact normalized_mergeAtoms _

theorem mergeAtoms_atoms (h : Normalized segments) :
    mergeAtoms (segments.flatMap Segment.atoms) = segments := by
  induction segments with
  | nil => rfl
  | cons s rest ih =>
    cases s with
    | literal text =>
      obtain ⟨ht, hh, hn⟩ := normalized_literal_iff.mp h
      have hm := ih hn
      rw [List.flatMap_cons, Segment.atoms, mergeAtoms_chars_append _ (by rwa [hm]), hm, addLiteral,
        String.ofList_toList, if_neg (by simpa using ht)]
    | placeholder =>
      rw [List.flatMap_cons, Segment.atoms, List.singleton_append, mergeAtoms,
        ih (normalized_placeholder_iff.mp h)]

/-- Merging gives the only segments in normal form that say the same. -/
theorem mergeAtoms_eq_iff :
    mergeAtoms atoms = segments ↔
      Normalized segments ∧ segments.flatMap Segment.atoms = atoms := by
  constructor
  · rintro rfl
    exact ⟨normalized_mergeAtoms atoms, atoms_mergeAtoms atoms⟩
  · rintro ⟨h, rfl⟩
    exact mergeAtoms_atoms h

/-! ### Placeholders and rendering -/

/-- The name that the atom reads, if it is a placeholder. -/
def Atom.name? : Atom → Option String
  | char _ => none
  | placeholder name _ => some name

theorem placeholders_eq (t : TextTemplate) :
    t.placeholders = (t.segments.flatMap Segment.atoms).filterMap Atom.name? := by
  obtain ⟨source, segments⟩ := t
  induction segments with
  | nil => rfl
  | cons s rest ih =>
    rw [List.flatMap_cons, List.filterMap_append, ← ih]
    cases s with
    | literal text => simp [TextTemplate.placeholders, Segment.atoms, Function.comp_def, Atom.name?]
    | placeholder name separator => rfl

theorem renderSegments_addLiteral (ctx : RenderContext) (text : List Char) :
    renderSegments ctx (addLiteral text []) = .ok (String.ofList text) := by
  rw [addLiteral]
  split
  · simp_all [renderSegments]
  · simp [renderSegments, Segment.render, bind, Except.bind, pure, Except.pure]

end Template

end TypedTree
