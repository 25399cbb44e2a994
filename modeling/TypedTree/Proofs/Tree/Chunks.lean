import TypedTree.Tree.Sequence

/-!
# Chunks of a sequence

A sequence is a number of full chunks and a rest that is too short for one more. The full chunks
come out in any case, and ways to end differ in what the rest gives.
-/

namespace TypedTree

variable {α : Type} {size : Nat} {xs rest : List α} {chunks : List (List α)} {tail : Tail α}

/-! ### One chunk -/

theorem chunksOf_nil : chunksOf tail size [] = [] := by
  rw [chunksOf]

theorem chunksOf_append {chunk : List α} (hl : chunk.length = size + 1) (rest : List α) :
    chunksOf tail size (chunk ++ rest) = chunk :: chunksOf tail size rest := by
  cases chunk with
  | nil => cases hl
  | cons x chunk =>
    have htake : (x :: chunk ++ rest).take (size + 1) = x :: chunk := List.take_left' hl
    have hdrop : (chunk ++ rest).drop size = rest := List.drop_left' (Nat.succ.inj hl)
    rw [List.cons_append] at htake ⊢
    rw [chunksOf, htake, hdrop]
    exact if_pos hl

/-- What a rest gives that is too short for a chunk; without a rest there is nothing to end. -/
def Tail.ending (tail : Tail α) (size : Nat) (rest : List α) : List (List α) :=
  if rest.isEmpty then [] else tail.finish size rest

theorem chunksOf_of_length_le (hl : rest.length ≤ size) :
    chunksOf tail size rest = tail.ending (size + 1) rest := by
  cases rest with
  | nil => exact chunksOf_nil
  | cons x rest =>
    have htake : (x :: rest).take (size + 1) = x :: rest :=
      List.take_of_length_le (Nat.le_succ_of_le hl)
    rw [chunksOf, htake]
    exact if_neg (by omega)

/-! ### All chunks -/

/-- A sequence is cut into full chunks and a rest that is too short for one. -/
structure Cut (size : Nat) (xs : List α) (chunks : List (List α)) (rest : List α) : Prop where
  eq : xs = chunks.flatten ++ rest
  full : ∀ chunk ∈ chunks, chunk.length = size + 1
  short : rest.length ≤ size

/-- By induction on the length: a sequence that is too long for a rest starts with a chunk. -/
theorem exists_cut (size : Nat) (xs : List α) : ∃ chunks rest, Cut size xs chunks rest := by
  induction hn : xs.length using Nat.strongRecOn generalizing xs with
  | ind n ih =>
    subst hn
    by_cases hl : xs.length ≤ size
    · exact ⟨[], xs, rfl, by simp, hl⟩
    · have hdrop : (xs.drop (size + 1)).length < xs.length := by
        rw [List.length_drop]
        omega
      obtain ⟨chunks, rest, h⟩ := ih _ hdrop _ rfl
      refine ⟨xs.take (size + 1) :: chunks, rest, ?_, List.forall_mem_cons.mpr ⟨?_, h.full⟩, h.short⟩
      · rw [List.flatten_cons, List.append_assoc, ← h.eq, List.take_append_drop]
      · rw [List.length_take]
        omega

namespace Cut

theorem chunksOf_eq (h : Cut size xs chunks rest) (tail : Tail α) :
    chunksOf tail size xs = chunks ++ tail.ending (size + 1) rest := by
  obtain ⟨rfl, hfull, hshort⟩ := h
  induction chunks with
  | nil => exact chunksOf_of_length_le hshort
  | cons chunk chunks ih =>
    obtain ⟨hl, hfull⟩ := List.forall_mem_cons.mp hfull
    rw [List.flatten_cons, List.append_assoc, chunksOf_append hl, ih hfull, List.cons_append]

theorem length_rest (h : Cut size xs chunks rest) : rest.length = xs.length % (size + 1) := by
  have hfull : chunks.flatten.length = chunks.length * (size + 1) := by
    have hmap : chunks.map List.length = List.replicate chunks.length (size + 1) :=
      List.map_eq_replicate_iff.mpr h.full
    rw [List.length_flatten, hmap, List.sum_replicate_nat]
  rw [h.eq, List.length_append, hfull, Nat.mul_add_mod', Nat.mod_eq_of_lt]
  exact Nat.lt_succ_of_le h.short

/-- If the chunks come out even, all ways to end are the same. -/
theorem chunksOf_eq_of_nil (h : Cut size xs chunks []) (tail : Tail α) :
    chunksOf tail size xs = chunks :=
  (h.chunksOf_eq tail).trans (List.append_nil chunks)

theorem chunksOf_eq_of_ne_nil (h : Cut size xs chunks rest) (hne : rest ≠ []) (tail : Tail α) :
    chunksOf tail size xs = chunks ++ tail.finish (size + 1) rest := by
  rw [h.chunksOf_eq, Tail.ending, if_neg (by simpa using hne)]

theorem drop_eq (h : Cut size xs chunks rest) : chunksOf .drop size xs = chunks := by
  rw [h.chunksOf_eq, Tail.ending, Tail.finish, ite_self, List.append_nil]

end Cut

/-- What cutting a sequence into chunks of `size + 1` elements promises. -/
structure ChunkLaws (size : Nat) (xs : List α) : Prop where
  /-- All elements come out, in order. -/
  flatten_keep : (chunksOf .keep size xs).flatten = xs
  /-- Every chunk but the last is full. -/
  front : ∀ chunk ∈ (chunksOf .keep size xs).dropLast, chunk.length = size + 1
  last : ∀ chunk ∈ (chunksOf .keep size xs).getLast?,
    1 ≤ chunk.length ∧ chunk.length ≤ size + 1
  /-- When a short chunk is dropped, the full ones are left. -/
  drop_eq : chunksOf .drop size xs =
    (chunksOf .keep size xs).filter fun chunk => chunk.length = size + 1
  lost : ∃ rest, xs = (chunksOf .drop size xs).flatten ++ rest ∧
    rest.length = xs.length % (size + 1)
  /-- When a short chunk is filled up, the full ones stay as they are. -/
  pad_eq : ∀ filler, chunksOf (.pad filler) size xs = (chunksOf .keep size xs).map fun chunk =>
    chunk ++ List.replicate (size + 1 - chunk.length) filler
  pad_even : size + 1 ∣ xs.length → ∀ filler,
    chunksOf (.pad filler) size xs = chunksOf .keep size xs

namespace Cut

theorem filter_full (h : Cut size xs chunks rest) :
    chunks.filter (fun chunk => chunk.length = size + 1) = chunks :=
  List.filter_eq_self.mpr fun chunk hm => by simpa using h.full chunk hm

theorem map_full (h : Cut size xs chunks rest) (filler : α) :
    chunks.map (fun chunk => chunk ++ List.replicate (size + 1 - chunk.length) filler) =
      chunks := by
  rw [List.map_congr_left (g := id), List.map_id]
  intro chunk hm
  rw [h.full chunk hm, Nat.sub_self, List.replicate_zero, List.append_nil, id]

theorem chunkLaws_of_nil (h : Cut size xs chunks []) : ChunkLaws size xs := by
  have hkeep := h.chunksOf_eq_of_nil .keep
  have hxs : chunks.flatten = xs := by rw [h.eq, List.append_nil]
  exact {
    flatten_keep := hkeep ▸ hxs
    front := fun chunk hm => h.full chunk (hkeep ▸ List.dropLast_subset _ hm)
    last := fun chunk hm => by
      have hl := h.full chunk (hkeep ▸ List.mem_of_getLast? hm)
      omega
    drop_eq := by rw [h.drop_eq, hkeep, h.filter_full]
    lost := ⟨[], by rw [h.drop_eq, ← h.eq], h.length_rest⟩
    pad_eq := fun filler => by rw [h.chunksOf_eq_of_nil, hkeep, h.map_full]
    pad_even := fun _ filler => by rw [h.chunksOf_eq_of_nil, hkeep] }

theorem chunkLaws_of_ne_nil (h : Cut size xs chunks rest) (hne : rest ≠ []) :
    ChunkLaws size xs := by
  have hkeep : chunksOf .keep size xs = chunks ++ [rest] := h.chunksOf_eq_of_ne_nil hne .keep
  have hpos : 0 < rest.length := List.length_pos_iff.mpr hne
  have hshort := h.short
  exact {
    flatten_keep := by rw [hkeep, List.flatten_append, List.flatten_singleton, ← h.eq]
    front := by
      rw [hkeep, List.dropLast_concat]
      exact h.full
    last := by
      rw [hkeep, List.getLast?_concat]
      rintro _ ⟨⟩
      omega
    drop_eq := by
      have hrest : [rest].filter (fun chunk => chunk.length = size + 1) = [] := by
        simp
        omega
      rw [h.drop_eq, hkeep, List.filter_append, h.filter_full, hrest, List.append_nil]
    lost := ⟨rest, by rw [h.drop_eq, ← h.eq], h.length_rest⟩
    pad_eq := fun filler => by
      rw [h.chunksOf_eq_of_ne_nil hne, hkeep, List.map_append, h.map_full]
      rfl
    pad_even := fun hdvd => by
      have hmod := h.length_rest
      rw [Nat.mod_eq_zero_of_dvd hdvd] at hmod
      omega }

end Cut

/-- Sequences of any length are cut into full chunks but for the last one, and ways to end differ in
nothing else than what becomes of a short one. -/
theorem chunkLaws (size : Nat) (xs : List α) : ChunkLaws size xs := by
  obtain ⟨chunks, rest, h⟩ := exists_cut size xs
  by_cases hrest : rest = []
  · subst hrest
    exact h.chunkLaws_of_nil
  · exact h.chunkLaws_of_ne_nil hrest

end TypedTree
