import Mathlib
import TypedTree.Naming.CaseStyle

/-!
# What respelling keeps

Splitting a name drops separators and the case of letters, joining words puts others in their place,
and neither does anything else to an ASCII name. Words that are free of separators come back from
the styles that write separators between them.
-/

namespace TypedTree.CaseStyle

open Unicode (lowercase lowercaseAfter toLowercase toUppercase)

/-! ### ASCII -/

/-- Every character is among the first 128. -/
def IsAscii (text : List Char) : Prop :=
  ∀ c ∈ text, c.toNat < 128

-- by the list, not by trying every character there is
instance (text : List Char) : Decidable (IsAscii text) :=
  text.decidableBAll fun c : Char => c.toNat < 128

theorem isAscii_cons {c : Char} {text : List Char} :
    IsAscii (c :: text) ↔ c.toNat < 128 ∧ IsAscii text :=
  List.forall_mem_cons

theorem lt_of_isAlphanum {c : Char} (h : c.isAlphanum = true) : c.toNat < 128 := by
  simp only [Char.isAlphanum, Char.isAlpha, Char.isUpper, Char.isLower, Char.isDigit,
    UInt32.le_iff_toNat_le, Bool.or_eq_true, Bool.and_eq_true, decide_eq_true_eq, ge_iff_le] at h
  simp at h
  omega

theorem toLower_lt {c : Char} (h : c.toNat < 128) : c.toLower.toNat < 128 := by
  by_cases ha : c.isAlpha = true
  · exact lt_of_isAlphanum (by simp [Char.isAlphanum, ha])
  · rwa [Char.toLower_eq_of_not_isUpper (by simp_all [Char.isAlpha])]

theorem isAscii_map_toLower {text : List Char} (h : IsAscii text) :
    IsAscii (text.map Char.toLower) := by
  intro c hc
  obtain ⟨d, hd, rfl⟩ := List.mem_map.mp hc
  exact toLower_lt (h d hd)

theorem isSeparator_eq_false {c : Char} (h : c.isAlphanum = true) : isSeparator c = false := by
  by_contra hs
  simp only [isSeparator, Bool.not_eq_false, Bool.or_eq_true, beq_iff_eq] at hs
  rcases hs with (rfl | rfl) | rfl <;> revert h <;> decide

@[simp]
theorem isSeparator_toLower (c : Char) : isSeparator c.toLower = isSeparator c := by
  by_cases h : c.isAlpha = true
  · rw [isSeparator_eq_false (by simp [Char.isAlphanum, h]),
      isSeparator_eq_false (by simp [Char.isAlphanum, h])]
  · rw [Char.toLower_eq_of_not_isUpper (by simp_all [Char.isAlpha])]

@[simp]
theorem isSeparator_toUpper (c : Char) : isSeparator c.toUpper = isSeparator c := by
  by_cases h : c.isAlpha = true
  · rw [isSeparator_eq_false (by simp [Char.isAlphanum, h]),
      isSeparator_eq_false (by simp [Char.isAlphanum, h])]
  · rw [Char.toUpper_eq_of_not_isLower (by simp_all [Char.isAlpha])]

/-! ### Case mappings of ASCII -/

theorem toLowercase_eq {c : Char} (h : c.toNat < 128) : toLowercase c = [c.toLower] :=
  if_pos h

theorem toUppercase_eq {c : Char} (h : c.toNat < 128) : toUppercase c = [c.toUpper] :=
  if_pos h

theorem flatMap_toLowercase {text : List Char} (h : IsAscii text) :
    text.flatMap toLowercase = text.map Char.toLower := by
  rw [List.map_eq_flatMap]
  exact List.flatMap_congr fun c hc => toLowercase_eq (h c hc)

/-- There is no sigma in ASCII, so the characters around one do not matter. -/
theorem lowercaseAfter_eq {text : List Char} (h : IsAscii text) (before : List Char) :
    lowercaseAfter before text = text.map Char.toLower := by
  induction text generalizing before with
  | nil => rfl
  | cons c text ih =>
    obtain ⟨hc, ht⟩ := isAscii_cons.mp h
    have hs : c ≠ 'Σ' := by
      rintro rfl
      revert hc
      decide
    simp [lowercaseAfter, hs, toLowercase_eq hc, ih ht]

theorem toList_lowercase {name : String} (h : IsAscii name.toList) :
    (lowercase name).toList = name.toList.map Char.toLower := by
  rw [lowercase, String.toList_ofList, lowercaseAfter_eq h]

theorem toList_titleCase {word : String} {c : Char} {rest : List Char}
    (hw : word.toList = c :: rest) (h : IsAscii word.toList) :
    (titleCase word).toList = c.toUpper :: rest.map Char.toLower := by
  obtain ⟨hc, hr⟩ := isAscii_cons.mp (hw ▸ h)
  rw [titleCase, hw]
  simp [toUppercase_eq hc, flatMap_toLowercase hr]

/-! ### Splitting -/

theorem flatten_closeWord (current : List Char) (words : List (List Char)) :
    (closeWord current words).flatten = current.reverse ++ words.flatten := by
  cases current <;> simp [closeWord]

theorem nil_notMem_closeWord {words : List (List Char)} (h : [] ∉ words) (current : List Char) :
    [] ∉ closeWord current words := by
  cases current <;> simp [closeWord, h]

/-- Splitting drops the separators and nothing else. -/
theorem flatten_splitAt (separator : Char) (current text : List Char) :
    (splitAt separator current text).flatten =
      current.reverse ++ text.filter fun c => !(c == separator) := by
  induction text generalizing current with
  | nil => simp [splitAt, flatten_closeWord]
  | cons c text ih =>
    by_cases h : c = separator
    · simp [splitAt, h, flatten_closeWord, ih]
    · simp [splitAt, h, ih]

theorem nil_notMem_splitAt (separator : Char) (current text : List Char) :
    [] ∉ splitAt separator current text := by
  induction text generalizing current with
  | nil => simpa [splitAt] using nil_notMem_closeWord List.not_mem_nil current
  | cons c text ih =>
    rw [splitAt]
    split
    · exact nil_notMem_closeWord (ih []) current
    · exact ih (c :: current)

/-- At capitals nothing is dropped. -/
theorem flatten_splitCapitals (previous : Option Char) (current text : List Char) :
    (splitCapitals previous current text).flatten =
      current.reverse ++ (text.filter fun c => !isSeparator c).flatMap toLowercase := by
  induction text generalizing previous current with
  | nil => simp [splitCapitals, flatten_closeWord]
  | cons c text ih =>
    rw [splitCapitals]
    split
    · next h => simp [h, flatten_closeWord, ih]
    · next h => split <;> simp [h, flatten_closeWord, ih]

theorem nil_notMem_splitCapitals (previous : Option Char) (current text : List Char) :
    [] ∉ splitCapitals previous current text := by
  induction text generalizing previous current with
  | nil => simpa [splitCapitals] using nil_notMem_closeWord List.not_mem_nil current
  | cons c text ih =>
    rw [splitCapitals]
    split
    · exact nil_notMem_closeWord (ih _ _) current
    · split
      · exact nil_notMem_closeWord (ih _ _) current
      · exact ih _ _

/-! ### Letters -/

/-- What a text says in every style: its characters other than separators, in lowercase. -/
def plain (text : List Char) : List Char :=
  (text.filter fun c => !isSeparator c).map Char.toLower

@[simp]
theorem plain_append (front rest : List Char) :
    plain (front ++ rest) = plain front ++ plain rest := by
  simp [plain]

theorem plain_flatten (words : List (List Char)) : plain words.flatten = words.flatMap plain := by
  induction words with
  | nil => rfl
  | cons word words ih => simp [ih]

@[simp]
theorem plain_map_toLower (text : List Char) : plain (text.map Char.toLower) = plain text := by
  induction text with
  | nil => rfl
  | cons c text ih =>
    cases h : isSeparator c <;> simp_all [plain]

theorem plain_filter {p : Char → Bool} (h : ∀ c, p c = false → isSeparator c = true)
    (text : List Char) : plain (text.filter p) = plain text := by
  rw [plain, plain, List.filter_filter]
  congr 1
  refine List.filter_congr fun c _ => ?_
  cases hp : p c with
  | false => simp [h c hp]
  | true => simp

theorem plain_plain (text : List Char) : plain (plain text) = plain text :=
  (plain_map_toLower _).trans (plain_filter (by simp) text)

/-! ### What splitting keeps -/

/-- The character that a style writes between words, if it writes one. -/
def separator? : CaseStyle → Option Char
  | canonical => some ' '
  | snake => some '_'
  | kebab => some '-'
  | _ => none

variable {style : CaseStyle} {separator : Char} {name : String} {words : List String}

theorem isSeparator_of_separator? (h : style.separator? = some separator) :
    isSeparator separator = true := by
  cases style <;> cases h <;> rfl

theorem split?_of_separator? (h : style.separator? = some separator) (name : String) :
    style.split? name = some (separatedWords separator name) := by
  cases style <;> cases h <;> rfl

theorem join_of_separator? (h : style.separator? = some separator) (words : List String) :
    style.join words = joinTexts (String.singleton separator) (words.map lowercase) := by
  cases style <;> cases h <;> rfl

/-- The words are not empty, and together they say what the name says. -/
structure Splits (name : String) (words : List String) : Prop where
  nonempty : ∀ w ∈ words, w ≠ ""
  ascii : ∀ w ∈ words, IsAscii w.toList
  plain_eq : words.flatMap (plain ·.toList) = plain name.toList

theorem splits_of_flatten {parts : List (List Char)} (hn : [] ∉ parts)
    (ha : IsAscii parts.flatten) (hp : plain parts.flatten = plain name.toList) :
    Splits name (parts.map String.ofList) where
  nonempty := by
    intro w hw he
    obtain ⟨part, hm, rfl⟩ := List.mem_map.mp hw
    have hnil : part = [] := by simpa using he
    exact hn (hnil ▸ hm)
  ascii := by
    intro w hw c hc
    obtain ⟨part, hm, rfl⟩ := List.mem_map.mp hw
    exact ha c (List.mem_flatten_of_mem hm (by simpa using hc))
  plain_eq := by
    simp only [List.flatMap_map, String.toList_ofList]
    rw [← plain_flatten, hp]

theorem splits_separatedWords (hs : isSeparator separator = true) (h : IsAscii name.toList) :
    Splits name (separatedWords separator name) := by
  have hflat : (splitAt separator [] name.toList).flatten =
      name.toList.filter fun c => !(c == separator) :=
    flatten_splitAt separator [] name.toList
  have hascii : IsAscii (splitAt separator [] name.toList).flatten := by
    intro c hc
    rw [hflat] at hc
    exact h c (List.mem_of_mem_filter hc)
  have hwords : separatedWords separator name =
      ((splitAt separator [] name.toList).map (·.map Char.toLower)).map String.ofList := by
    rw [separatedWords, List.map_map]
    refine List.map_congr_left fun part hm => ?_
    rw [Function.comp_apply, ← String.toList_inj, String.toList_ofList, toList_lowercase,
      String.toList_ofList]
    exact fun c hc => hascii c (List.mem_flatten_of_mem hm (by simpa using hc))
  rw [hwords]
  apply splits_of_flatten
  · simpa using nil_notMem_splitAt separator [] name.toList
  · rw [← List.map_flatten]
    exact isAscii_map_toLower hascii
  · rw [← List.map_flatten, plain_map_toLower, hflat]
    exact plain_filter (by simp [hs]) name.toList

theorem splits_splitCapitals (h : IsAscii name.toList) :
    Splits name ((splitCapitals none [] name.toList).map String.ofList) := by
  have hflat : (splitCapitals none [] name.toList).flatten = plain name.toList := by
    rw [flatten_splitCapitals, flatMap_toLowercase fun c hc => h c (List.mem_of_mem_filter hc)]
    rfl
  apply splits_of_flatten
  · exact nil_notMem_splitCapitals none [] name.toList
  · rw [hflat]
    exact isAscii_map_toLower fun c hc => h c (List.mem_of_mem_filter hc)
  · rw [hflat, plain_plain]

/-- Every name can be split, unless it is written in one word. -/
theorem exists_split? (hs : style ≠ .concatenated) (h : IsAscii name.toList) :
    ∃ words, style.split? name = some words ∧ Splits name words := by
  cases style with
  | concatenated => exact absurd rfl hs
  | canonical | snake | kebab => exact ⟨_, rfl, splits_separatedWords rfl h⟩
  | camel | pascal => exact ⟨_, rfl, splits_splitCapitals h⟩

/-! ### What joining keeps -/

theorem plain_lowercase (h : IsAscii name.toList) :
    plain (lowercase name).toList = plain name.toList := by
  rw [toList_lowercase h, plain_map_toLower]

theorem plain_titleCase (h : IsAscii name.toList) :
    plain (titleCase name).toList = plain name.toList := by
  cases hw : name.toList with
  | nil => simp [titleCase, hw]
  | cons c rest =>
    rw [toList_titleCase hw h]
    change plain ([c.toUpper] ++ rest.map Char.toLower) = plain ([c] ++ rest)
    rw [plain_append, plain_append, plain_map_toLower]
    cases h : isSeparator c <;> simp [plain, h]

/-- What stands between the words says nothing. -/
theorem plain_joinTexts {between : String} (h : plain between.toList = []) (words : List String) :
    plain (joinTexts between words).toList = words.flatMap (plain ·.toList) := by
  fun_induction joinTexts between words with
  | case1 => rfl
  | case2 text => simp
  | case3 text rest hr ih => simp [h, ih]

theorem plain_join (target : CaseStyle) (h : ∀ w ∈ words, IsAscii w.toList) :
    plain (target.join words).toList = words.flatMap (plain ·.toList) := by
  have hlower :
      (words.map lowercase).flatMap (plain ·.toList) = words.flatMap (plain ·.toList) := by
    rw [List.flatMap_map]
    exact List.flatMap_congr fun w hw => plain_lowercase (h w hw)
  have htitle {ws : List String} (hws : ∀ w ∈ ws, IsAscii w.toList) :
      (ws.map titleCase).flatMap (plain ·.toList) = ws.flatMap (plain ·.toList) := by
    rw [List.flatMap_map]
    exact List.flatMap_congr fun w hw => plain_titleCase (hws w hw)
  cases target with
  | concatenated | canonical | snake | kebab => exact (plain_joinTexts rfl _).trans hlower
  | pascal => exact (plain_joinTexts rfl _).trans (htitle h)
  | camel =>
    cases words with
    | nil => rfl
    | cons word rest =>
      obtain ⟨hw, hr⟩ := List.forall_mem_cons.mp h
      rw [join, String.toList_append, plain_append, plain_lowercase hw, plain_joinTexts rfl,
        htitle hr, List.flatMap_cons]

/-- What a name is respelled to says what the name says. -/
theorem exists_convert? (hs : style ≠ .concatenated) (h : IsAscii name.toList)
    (target : CaseStyle) :
    ∃ converted, style.convert? name target = some converted ∧
      plain converted.toList = plain name.toList := by
  obtain ⟨words, hw, hsplit⟩ := exists_split? hs h
  refine ⟨target.join words, by rw [convert?, hw, Option.map_some], ?_⟩
  rw [plain_join target hsplit.ascii, hsplit.plain_eq]

/-! ### Styles with separators -/

/-- A word in lowercase that can stand between any separators. -/
structure IsPlainWord (word : String) : Prop where
  nonempty : word ≠ ""
  ascii : IsAscii word.toList
  lowercase : ∀ c ∈ word.toList, c.isUpper = false
  unseparated : ∀ c ∈ word.toList, isSeparator c = false

theorem isPlainWord_iff {word : String} : IsPlainWord word ↔
    word ≠ "" ∧ ∀ c ∈ word.toList, c.toNat < 128 ∧ c.isUpper = false ∧ isSeparator c = false := by
  constructor
  · intro h
    exact ⟨h.nonempty, fun c hc => ⟨h.ascii c hc, h.lowercase c hc, h.unseparated c hc⟩⟩
  · intro ⟨hn, h⟩
    exact ⟨hn, fun c hc => (h c hc).1, fun c hc => (h c hc).2.1, fun c hc => (h c hc).2.2⟩

instance (word : String) : Decidable (IsPlainWord word) :=
  have := word.toList.decidableBAll fun c : Char =>
    c.toNat < 128 ∧ c.isUpper = false ∧ isSeparator c = false
  decidable_of_iff' _ isPlainWord_iff

theorem IsPlainWord.lowercase_eq {word : String} (h : IsPlainWord word) :
    Unicode.lowercase word = word := by
  have hmap : word.toList.map Char.toLower = word.toList.map id :=
    List.map_congr_left fun c hc => Char.toLower_eq_of_not_isUpper (by simp [h.lowercase c hc])
  rw [← String.toList_inj, toList_lowercase h.ascii, hmap, List.map_id]

theorem map_lowercase_eq (h : ∀ w ∈ words, IsPlainWord w) : words.map lowercase = words := by
  rw [List.map_congr_left fun w hw => (h w hw).lowercase_eq, List.map_id']

theorem splitAt_append {word : List Char} (h : separator ∉ word) (current text : List Char) :
    splitAt separator current (word ++ text) =
      splitAt separator (word.reverse ++ current) text := by
  induction word generalizing current with
  | nil => rfl
  | cons c word ih =>
    obtain ⟨hc, hw⟩ := not_or.mp (mt List.mem_cons.mpr h)
    simp [splitAt, Ne.symm hc, ih hw]

theorem closeWord_reverse {word : List Char} (h : word ≠ []) (words : List (List Char)) :
    closeWord word.reverse words = word :: words := by
  simp [closeWord, h]

/-- Joined words are split where they were joined. -/
theorem splitAt_joinTexts (h : ∀ w ∈ words, w ≠ "" ∧ separator ∉ w.toList) :
    splitAt separator [] (joinTexts (String.singleton separator) words).toList =
      words.map String.toList := by
  fun_induction joinTexts (String.singleton separator) words with
  | case1 => rfl
  | case2 text =>
    obtain ⟨hn, hs⟩ := h text (by simp)
    have hsplit := splitAt_append hs [] []
    rw [List.append_nil, List.append_nil] at hsplit
    rw [hsplit, splitAt, closeWord_reverse (by simpa using hn)]
    rfl
  | case3 text rest hr ih =>
    obtain ⟨⟨hn, hs⟩, hrest⟩ := List.forall_mem_cons.mp h
    rw [String.toList_append, String.toList_append, List.append_assoc, splitAt_append hs,
      List.append_nil]
    simp [splitAt, closeWord_reverse (show text.toList ≠ [] by simpa using hn), ih hrest]

/-- The words of a style with separators come back. -/
theorem split?_join (hs : style.separator?.isSome) (h : ∀ w ∈ words, IsPlainWord w) :
    style.split? (style.join words) = some words := by
  obtain ⟨separator, hs⟩ := Option.isSome_iff_exists.mp hs
  have hwords : ∀ w ∈ words, w ≠ "" ∧ separator ∉ w.toList := by
    intro w hw
    refine ⟨(h w hw).nonempty, fun hm => ?_⟩
    have hfree := (h w hw).unseparated separator hm
    rw [isSeparator_of_separator? hs] at hfree
    cases hfree
  rw [split?_of_separator? hs, join_of_separator? hs, map_lowercase_eq h, separatedWords,
    splitAt_joinTexts hwords, List.map_map]
  simp [Function.comp_def, map_lowercase_eq h]

/-- Spells a name of one style in others, one after the other. -/
def convertAlong? (style : CaseStyle) (name : String) : List CaseStyle → Option String
  | [] => some name
  | target :: rest => (style.convert? name target).bind (convertAlong? target · rest)

/-- A name can be respelled in any order in styles with separators: it ends up as if it had been
spelled in the last one at once. -/
theorem convertAlong?_join (h : ∀ w ∈ words, IsPlainWord w) {path : List CaseStyle}
    (hs : style.separator?.isSome) (hp : ∀ target ∈ path, target.separator?.isSome) :
    style.convertAlong? (style.join words) path = some ((path.getLastD style).join words) := by
  induction path generalizing style with
  | nil => rfl
  | cons target rest ih =>
    obtain ⟨ht, hr⟩ := List.forall_mem_cons.mp hp
    rw [convertAlong?, convert?, split?_join hs h, Option.map_some, Option.bind_some, ih ht hr,
      List.getLastD_cons]

/-- Respelling an ASCII name changes nothing but separators and the case of letters, and respelling
in styles with separators loses no word. -/
theorem respelling_laws :
    (∀ (name : String) (style target : CaseStyle), IsAscii name.toList → style ≠ .concatenated →
      ∃ (words : List String) (converted : String),
        style.split? name = some words ∧ (∀ w ∈ words, w ≠ "") ∧
          style.convert? name target = some converted ∧
            plain converted.toList = plain name.toList) ∧
    ∀ words : List String, (∀ w ∈ words, IsPlainWord w) → ∀ style : CaseStyle,
      style.separator?.isSome →
        style.split? (style.join words) = some words ∧
          ∀ path : List CaseStyle, (∀ target ∈ path, target.separator?.isSome) →
            style.convertAlong? (style.join words) path =
              some ((path.getLastD style).join words) := by
  constructor
  · intro name style target h hs
    obtain ⟨words, hw, hsplit⟩ := exists_split? hs h
    obtain ⟨converted, hc, hplain⟩ := exists_convert? hs h target
    exact ⟨words, converted, hw, hsplit.nonempty, hc, hplain⟩
  · intro words h style hs
    exact ⟨split?_join hs h, fun path hp => convertAlong?_join h hs hp⟩

theorem respelling_mixedNames :
    (IsAscii "HTTPServer_2Go".toList ∧ pascal ≠ concatenated ∧
      ∃ (words : List String) (converted : String),
        pascal.split? "HTTPServer_2Go" = some words ∧ (∀ w ∈ words, w ≠ "") ∧
          pascal.convert? "HTTPServer_2Go" kebab = some converted ∧
            plain converted.toList = plain "HTTPServer_2Go".toList) ∧
    (∀ w ∈ ["x.y", "1", "go2"], IsPlainWord w) ∧
    snake.split? (snake.join ["x.y", "1", "go2"]) = some ["x.y", "1", "go2"] ∧
    snake.convertAlong? (snake.join ["x.y", "1", "go2"]) [kebab, canonical, snake] =
      some (snake.join ["x.y", "1", "go2"]) :=
  ⟨⟨by decide, by decide, respelling_laws.1 _ _ _ (by decide) (by decide)⟩,
    by decide,
    (respelling_laws.2 _ (by decide) snake rfl).1,
    (respelling_laws.2 _ (by decide) snake rfl).2 [kebab, canonical, snake] (by decide)⟩

example : pascal.convert? "HTTPServer_2Go" kebab = some "http-server-2-go" := by
  decide

end TypedTree.CaseStyle
