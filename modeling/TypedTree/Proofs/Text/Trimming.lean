import Mathlib.Data.List.DropRight
import TypedTree.Text.Trim

/-!
# Trimming

Trimming takes white space off the ends of a text and nothing else, so it does not matter how much
white space is put around a text.
-/

namespace TypedTree.Text

open Unicode (isWhiteSpace)

/-- A text of white space only. -/
def IsBlank (text : List Char) : Prop :=
  ∀ ch ∈ text, isWhiteSpace ch = true

theorem trimEnd_cons (ch : Char) (text : List Char) : trimEnd (ch :: text) =
    if trimEnd text = [] ∧ isWhiteSpace ch = true then [] else ch :: trimEnd text := by
  simp only [trimEnd, List.reverse_cons, List.dropWhile_append, List.isEmpty_iff,
    List.reverse_eq_nil_iff]
  by_cases hrest : text.reverse.dropWhile isWhiteSpace = []
  · cases hw : isWhiteSpace ch <;> simp [hrest, hw]
  · simp [hrest]

theorem trimEnd_trimEnd (text : List Char) : trimEnd (trimEnd text) = trimEnd text :=
  List.rdropWhile_idempotent isWhiteSpace text

theorem trimStart_append {front : List Char} (h : IsBlank front) (rest : List Char) :
    trimStart (front ++ rest) = trimStart rest := by
  rw [trimStart, List.dropWhile_append, List.dropWhile_eq_nil_iff.mpr h]
  rfl

theorem trimEnd_append {behind : List Char} (h : IsBlank behind) (text : List Char) :
    trimEnd (text ++ behind) = trimEnd text := by
  have hreverse : IsBlank behind.reverse := fun ch hm => h ch (List.mem_reverse.mp hm)
  rw [trimEnd, List.reverse_append, ← trimStart, trimStart_append hreverse]
  rfl

/-- Trimming one end does not touch the other one. -/
theorem trimStart_trimEnd (text : List Char) :
    trimStart (trimEnd text) = trimEnd (trimStart text) := by
  induction text with
  | nil => rfl
  | cons ch text ih =>
    cases hw : isWhiteSpace ch with
    | true =>
      have hskip : trimStart (ch :: text) = trimStart text := List.dropWhile_cons_of_pos hw
      rw [hskip, ← ih, trimEnd_cons]
      split
      · next h => rw [h.1]
      · exact List.dropWhile_cons_of_pos hw
    | false =>
      have hstay (rest : List Char) : trimStart (ch :: rest) = ch :: rest :=
        List.dropWhile_cons_of_neg (by simp [hw])
      rw [hstay, trimEnd_cons, if_neg (by simp [hw]), hstay]

theorem trim_trimEnd (text : List Char) : trim (trimEnd text) = trim text := by
  rw [trim, trimStart_trimEnd, trimEnd_trimEnd, trim]

theorem trim_append {front : List Char} (h : IsBlank front) (rest : List Char) :
    trim (front ++ rest) = trim rest := by
  rw [trim, trimStart_append h, trim]

theorem trim_surrounded {front behind : List Char} (hf : IsBlank front) (hb : IsBlank behind)
    (text : List Char) : trim (front ++ text ++ behind) = trim text := by
  rw [← trim_trimEnd, trimEnd_append hb, trim_trimEnd, trim_append hf]

/-- A text is its trimmed text between two blank ones. -/
theorem exists_eq_surrounded (text : List Char) :
    ∃ front behind, text = front ++ trim text ++ behind ∧ IsBlank front ∧ IsBlank behind := by
  refine ⟨text.takeWhile isWhiteSpace, (trimStart text).rtakeWhile isWhiteSpace, ?_, ?_, ?_⟩
  · have hend : trim text ++ (trimStart text).rtakeWhile isWhiteSpace = trimStart text :=
      List.rdropWhile_append_rtakeWhile ..
    rw [List.append_assoc, hend, trimStart, List.takeWhile_append_dropWhile]
  · exact fun ch hm => List.mem_takeWhile_imp hm
  · exact fun ch hm => List.mem_rtakeWhile_imp hm

theorem trim_eq_self {text : List Char} (h : ∀ ch ∈ text, isWhiteSpace ch = false) :
    trim text = text := by
  have hstart : trimStart text = text := by
    rw [trimStart, List.dropWhile_eq_self_iff]
    exact fun hl => by simp [h _ (List.getElem_mem hl)]
  rw [trim, hstart]
  refine List.rdropWhile_eq_self_iff.mpr fun hl => ?_
  simp [h _ (List.getLast_mem hl)]

theorem trim_eq_nil_iff {text : List Char} : trim text = [] ↔ IsBlank text := by
  constructor
  · intro h ch hm
    rw [← List.takeWhile_append_dropWhile (p := isWhiteSpace) (l := text)] at hm
    rcases List.mem_append.mp hm with hm | hm
    · exact List.mem_takeWhile_imp hm
    · exact List.rdropWhile_eq_nil_iff.mp h ch hm
  · intro h
    rw [← List.append_nil text, trim_append h]
    rfl

end TypedTree.Text
