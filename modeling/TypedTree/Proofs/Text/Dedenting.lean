import Mathlib.Data.List.Forall2
import TypedTree.Proofs.Text.Trimming
import TypedTree.Text.Block

/-!
# What dedenting keeps of a line

The common leading white space of lines is measured in bytes and then cut off each line. White space
of a line may be made of longer characters than that of another one, and a cut inside of a character
takes the line with it. Lines that are cut between characters lose only white space.
-/

namespace TypedTree.Text

open Unicode (isWhiteSpace)

/-! ### Bytes -/

theorem byteLength_cons (ch : Char) (text : List Char) :
    byteLength (ch :: text) = ch.utf8Size + byteLength text := rfl

theorem byteLength_append (front rest : List Char) :
    byteLength (front ++ rest) = byteLength front + byteLength rest := by
  induction front with
  | nil => exact (Nat.zero_add _).symm
  | cons ch front ih =>
    rw [List.cons_append, byteLength_cons, byteLength_cons, ih, Nat.add_assoc]

theorem byteLength_eq_zero_iff {text : List Char} : byteLength text = 0 ↔ text = [] := by
  cases text with
  | nil => exact ⟨fun _ => rfl, fun _ => rfl⟩
  | cons ch text =>
    have hpos := Char.utf8Size_pos ch
    simp only [byteLength_cons, reduceCtorEq, iff_false]
    omega

theorem byteLength_eq_length {text : List Char} (h : ∀ ch ∈ text, ch.utf8Size = 1) :
    byteLength text = text.length := by
  induction text with
  | nil => rfl
  | cons ch text ih =>
    obtain ⟨hch, htext⟩ := List.forall_mem_cons.mp h
    rw [byteLength_cons, hch, ih htext, List.length_cons, Nat.add_comm]

theorem dropBytes?_eq_some_iff {text rest : List Char} {count : Nat} :
    dropBytes? text count = some rest ↔
      ∃ front, text = front ++ rest ∧ byteLength front = count := by
  fun_induction dropBytes? text count with
  | case1 text =>
    constructor
    · rintro ⟨⟩
      exact ⟨[], rfl, rfl⟩
    · rintro ⟨front, rfl, h⟩
      rw [byteLength_eq_zero_iff.mp h, List.nil_append]
  | case2 count =>
    constructor
    · rintro ⟨⟩
    · rintro ⟨front, h, hl⟩
      obtain ⟨rfl, -⟩ := List.append_eq_nil_iff.mp h.symm
      cases hl
  | case3 ch text count hle ih =>
    rw [ih]
    clear ih
    constructor
    · rintro ⟨front, rfl, h⟩
      have hl : byteLength (ch :: front) = count + 1 := by
        rw [byteLength_cons]
        omega
      exact ⟨ch :: front, rfl, hl⟩
    · rintro ⟨front, h, hl⟩
      cases front with
      | nil => cases hl
      | cons first front =>
        obtain ⟨rfl, rfl⟩ := List.cons.inj h
        rw [byteLength_cons] at hl
        exact ⟨front, rfl, by omega⟩
  | case4 ch text count hle =>
    constructor
    · rintro ⟨⟩
    · rintro ⟨front, h, hl⟩
      cases front with
      | nil => cases hl
      | cons first front =>
        obtain ⟨rfl, rfl⟩ := List.cons.inj h
        rw [byteLength_cons] at hl
        omega

/-- Some number of characters at the start of the text take that many bytes. -/
def CutsBetween (count : Nat) (text : List Char) : Prop :=
  ∃ front rest, text = front ++ rest ∧ byteLength front = count

theorem dropBytes?_eq_none_iff {text : List Char} {count : Nat} :
    dropBytes? text count = none ↔ ¬ CutsBetween count text := by
  rw [Option.eq_none_iff_forall_ne_some]
  simp only [ne_eq, dropBytes?_eq_some_iff, CutsBetween]
  constructor
  · exact fun h ⟨front, rest, hf⟩ => h rest ⟨front, hf⟩
  · exact fun h rest ⟨front, hf⟩ => h ⟨front, rest, hf⟩

/-- Of two parts at the start of a text, the one with fewer bytes is part of the other one. -/
theorem prefix_of_byteLength_le {front rest front' rest' : List Char}
    (h : front ++ rest = front' ++ rest') (hle : byteLength front ≤ byteLength front') :
    front <+: front' := by
  rcases List.append_eq_append_iff.mp h with ⟨more, hmore, -⟩ | ⟨more, rfl, -⟩
  · exact ⟨more, hmore.symm⟩
  · rw [byteLength_append] at hle
    have hmore : more = [] := byteLength_eq_zero_iff.mp (by omega)
    simp [hmore]

/-! ### Common white space -/

namespace Block

theorem commonBytes_le {lines : List (List Char)} {line : List Char} (hm : line ∈ lines)
    (h : trim line ≠ []) : commonBytes lines ≤ leadingBytes line := by
  have hleading : leadingBytes line ∈
      (lines.filter fun line => !(trim line).isEmpty).map leadingBytes :=
    List.mem_map_of_mem (List.mem_filter.mpr ⟨hm, by simpa [List.isEmpty_iff] using h⟩)
  rw [commonBytes]
  cases hmin : ((lines.filter fun line => !(trim line).isEmpty).map leadingBytes).min? with
  | none => exact Nat.zero_le _
  | some least => exact (List.min?_eq_some_iff.mp hmin).2 _ hleading

theorem isBlank_of_le_leadingBytes {line front rest : List Char} (h : line = front ++ rest)
    (hle : byteLength front ≤ leadingBytes line) : IsBlank front := by
  intro ch hm
  have hsplit : front ++ rest = line.takeWhile isWhiteSpace ++ line.dropWhile isWhiteSpace := by
    rw [List.takeWhile_append_dropWhile, h]
  exact List.mem_takeWhile_imp ((prefix_of_byteLength_le hsplit hle).subset hm)

/-! ### Dedented lines -/

theorem dedentLine_of_cut {count : Nat} {line front rest : List Char} (h : line = front ++ rest)
    (hl : byteLength front = count) : dedentLine count line = trimEnd rest := by
  rw [dedentLine, dropBytes?_eq_some_iff.mpr ⟨front, h, hl⟩, Option.getD_some]

theorem dedentLine_of_not_cutsBetween {count : Nat} {line : List Char}
    (h : ¬ CutsBetween count line) : dedentLine count line = [] := by
  rw [dedentLine, dropBytes?_eq_none_iff.mpr h]
  rfl

/-- The line says the same without its first bytes: they are white space, unless the line is blank
and has nothing to say. -/
theorem trim_dedentLine_iff {count : Nat} {line : List Char}
    (hle : trim line ≠ [] → count ≤ leadingBytes line) :
    trim (dedentLine count line) = trim line ↔ trim line = [] ∨ CutsBetween count line := by
  by_cases hcut : CutsBetween count line
  · obtain ⟨front, rest, hline, hl⟩ := id hcut
    refine iff_of_true ?_ (.inr hcut)
    have hwhite : IsBlank front := by
      by_cases hblank : trim line = []
      · intro ch hm
        exact trim_eq_nil_iff.mp hblank ch (hline ▸ List.mem_append_left rest hm)
      · exact isBlank_of_le_leadingBytes hline (hl ▸ hle hblank)
    rw [dedentLine_of_cut hline hl, trim_trimEnd, hline, trim_append hwhite]
  · rw [dedentLine_of_not_cutsBetween hcut]
    exact ⟨fun h => .inl h.symm, fun h => (h.resolve_right hcut).symm⟩

/-! ### Blocks -/

theorem drop_indentLine (b : Block) (line : List Char) :
    (b.indentLine (String.ofList line)).toList.drop b.indentation.length = line := by
  rw [indentLine]
  split
  · next h =>
    have hnil : line = [] := by simpa using congrArg String.toList h
    simp [hnil]
  · simp

/-- What a line appended now says: without the indentation in front of it, and without white space
around it. -/
def content (b : Block) (appended : String) : List Char :=
  trim (appended.toList.drop b.indentation.length)

/-- How a line is appended once the first bytes of each line are cut off. -/
structure Dedents (b : Block) (count : Nat) (line appended : String) : Prop where
  /-- A line that is cut between two characters keeps what is behind the cut. -/
  cut : ∀ front rest, line.toList = front ++ rest → byteLength front = count →
    appended = b.indentLine (String.ofList (trimEnd rest))
  /-- Nothing is left of a line that is not. -/
  lost : ¬ CutsBetween count line.toList → appended = ""
  content_iff : b.content appended = trim line.toList ↔
    trim line.toList = [] ∨ CutsBetween count line.toList

/-- The lines that dedenting appends behind those of the block. -/
def added (b : Block) (lines : List String) : List String :=
  (b.extendDedented lines).lines.drop b.lines.length

theorem added_eq (b : Block) (lines : List String) : b.added lines = lines.map fun line =>
    b.indentLine (.ofList (dedentLine (commonBytes (lines.map String.toList)) line.toList)) := by
  simp only [added, extendDedented, extend, List.drop_left, dedentLines, List.map_map,
    Function.comp_def]

theorem extendDedented_eq (b : Block) (lines : List String) :
    b.extendDedented lines = { b with lines := b.lines ++ b.added lines } := by
  simp only [added, extendDedented, extend, List.drop_left]

theorem dedents_added (b : Block) (lines : List String) :
    List.Forall₂ (b.Dedents (commonBytes (lines.map String.toList))) lines (b.added lines) := by
  rw [added_eq, List.forall₂_map_right_iff, List.forall₂_same]
  intro line hm
  exact {
    cut := fun front rest h hl => by rw [dedentLine_of_cut h hl]
    lost := fun h => by
      rw [dedentLine_of_not_cutsBetween h]
      rfl
    content_iff := by
      rw [content, drop_indentLine]
      exact trim_dedentLine_iff (commonBytes_le (List.mem_map_of_mem hm)) }

/-- One line is appended for each given one, in order, and says the same. -/
def KeepsContent (b : Block) (lines : List String) : Prop :=
  List.Forall₂ (fun line appended => b.content appended = trim line.toList) lines (b.added lines)

theorem keepsContent_iff (b : Block) (lines : List String) :
    b.KeepsContent lines ↔ ∀ line ∈ lines,
      trim line.toList = [] ∨ CutsBetween (commonBytes (lines.map String.toList)) line.toList := by
  have hall := b.dedents_added lines
  rw [added_eq, List.forall₂_map_right_iff, List.forall₂_same] at hall
  rw [KeepsContent, added_eq, List.forall₂_map_right_iff, List.forall₂_same]
  exact forall₂_congr fun line hm => (hall line hm).content_iff

/-- Leading white space of one-byte characters can be cut anywhere. -/
theorem cutsBetween_of_oneByte {count : Nat} {line : List Char} (hle : count ≤ leadingBytes line)
    (h : ∀ ch ∈ line.takeWhile isWhiteSpace, ch.utf8Size = 1) : CutsBetween count line := by
  rw [leadingBytes, byteLength_eq_length h] at hle
  have hfront : ∀ ch ∈ (line.takeWhile isWhiteSpace).take count, ch.utf8Size = 1 :=
    fun ch hm => h ch (List.mem_of_mem_take hm)
  refine ⟨(line.takeWhile isWhiteSpace).take count,
    (line.takeWhile isWhiteSpace).drop count ++ line.dropWhile isWhiteSpace, ?_, ?_⟩
  · rw [← List.append_assoc, List.take_append_drop, List.takeWhile_append_dropWhile]
  · rw [byteLength_eq_length hfront, List.length_take, Nat.min_eq_left hle]

theorem keepsContent_of_oneByte {b : Block} {lines : List String}
    (h : ∀ line ∈ lines, ∀ ch ∈ line.toList.takeWhile isWhiteSpace, ch.utf8Size = 1) :
    b.KeepsContent lines := by
  refine (b.keepsContent_iff lines).mpr fun line hm => ?_
  by_cases hblank : trim line.toList = []
  · exact .inl hblank
  · have hle := commonBytes_le (List.mem_map_of_mem hm) hblank
    exact .inr (cutsBetween_of_oneByte hle (h line hm))

/-- Dedenting only adds to a block, one line for each given one. A line is cut behind the common
number of bytes and loses nothing but white space, or it cannot be cut there and is lost. No line is
lost whose white space in front takes one byte per character. -/
theorem extendDedented_spec (b : Block) (lines : List String) :
    b.extendDedented lines = { b with lines := b.lines ++ b.added lines } ∧
      List.Forall₂ (b.Dedents (commonBytes (lines.map String.toList))) lines (b.added lines) ∧
      ((∀ line ∈ lines, ∀ ch ∈ line.toList.takeWhile isWhiteSpace, ch.utf8Size = 1) →
        b.KeepsContent lines) :=
  ⟨b.extendDedented_eq lines, b.dedents_added lines, keepsContent_of_oneByte⟩

/-- A space takes one byte and a no-break space two, so the common byte of these lines is half of
the latter. -/
theorem not_keepsContent :
    (({} : Block).extendDedented ["\u00a0x", " y"]).lines = ["", "y"] ∧
      ¬ ({} : Block).KeepsContent ["\u00a0x", " y"] := by
  unfold KeepsContent
  decide +kernel

end Block

end TypedTree.Text
