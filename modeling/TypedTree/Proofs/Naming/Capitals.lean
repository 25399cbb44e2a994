import TypedTree.Proofs.Naming.Letters

/-!
# Capitals

Names in camel and Pascal case mark the start of a word by a capital and nothing else. A capital
starts a word behind a lowercase letter or a digit; in a run of capitals only the last one does,
and only in front of a lowercase letter. So words of one letter can be read together with those
behind them.
-/

namespace TypedTree.CaseStyle

open Unicode (isLowercase isUppercase toLowercase)

/-! ### Characters -/

/-- What the words of identifiers consist of. -/
def isSmall (c : Char) : Bool :=
  c.isLower || c.isDigit

variable {c : Char}

theorem isAlphanum_of_isSmall (h : isSmall c = true) : c.isAlphanum = true := by
  rcases (Bool.or_eq_true _ _).mp h with h | h <;> simp [Char.isAlphanum, Char.isAlpha, h]

theorem lt_of_isSmall (h : isSmall c = true) : c.toNat < 128 :=
  lt_of_isAlphanum (isAlphanum_of_isSmall h)

theorem isSeparator_eq_false_of_isSmall (h : isSmall c = true) : isSeparator c = false :=
  isSeparator_eq_false (isAlphanum_of_isSmall h)

theorem isUppercase_eq (h : c.toNat < 128) : isUppercase c = c.isUpper :=
  if_pos h

theorem isLowercase_eq (h : c.toNat < 128) : isLowercase c = c.isLower :=
  if_pos h

theorem isUpper_eq_false_of_isSmall (h : isSmall c = true) : c.isUpper = false := by
  by_contra hu
  rcases (Bool.or_eq_true _ _).mp h with h | h
  · exact Char.not_isLower_of_isUpper (by simpa using hu) h
  · have hd := (Char.isDigit_iff_toNat.mp h).2
    simp [Char.isUpper, UInt32.le_iff_toNat_le] at hu hd
    omega

theorem toLowercase_of_isSmall (h : isSmall c = true) : toLowercase c = [c] := by
  rw [toLowercase_eq (lt_of_isSmall h),
    Char.toLower_eq_of_not_isUpper (by simp [isUpper_eq_false_of_isSmall h])]

/-- The capital of a lowercase letter. -/
structure IsCapital (capital c : Char) : Prop where
  isUppercase : isUppercase capital = true
  isLowercase : isLowercase capital = false
  isDigit : capital.isDigit = false
  isSeparator : isSeparator capital = false
  toLowercase : toLowercase capital = [c]

theorem isCapital_toUpper (h : c.isLower = true) : IsCapital c.toUpper c := by
  have ha : c.toUpper.isAlpha = true := by simp [Char.isAlpha, h]
  have hn : c.toUpper.isAlphanum = true := by simp [Char.isAlphanum, ha]
  have hu : c.toUpper.isUpper = true := by simp [Char.isAlpha, h]
  have hlt : c.toUpper.toNat < 128 := lt_of_isAlphanum hn
  refine ⟨?_, ?_, ?_, isSeparator_eq_false hn, ?_⟩
  · rw [isUppercase_eq hlt, hu]
  · rw [isLowercase_eq hlt, Char.isLower_toUpper_eq_false]
  · by_contra hd
    rw [isUpper_eq_false_of_isSmall (by simp_all [isSmall])] at hu
    cases hu
  · rw [toLowercase_eq hlt, Char.toLower_toUpper_eq_toLower,
      Char.toLower_eq_of_not_isUpper (Char.not_isUpper_of_isLower h)]

/-! ### Words -/

/-- A lowercase letter, followed by lowercase letters and digits. -/
structure IsNameWord (word : String) : Prop where
  head : word.toList.head?.any Char.isLower = true
  small : word.toList.all isSmall = true

instance (word : String) : Decidable (IsNameWord word) :=
  decidable_of_iff (word.toList.head?.any Char.isLower = true ∧ word.toList.all isSmall = true)
    ⟨fun ⟨hh, hs⟩ => ⟨hh, hs⟩, fun ⟨hh, hs⟩ => ⟨hh, hs⟩⟩

variable {word front : String} {words : List String}

theorem IsNameWord.exists_cons (h : IsNameWord word) :
    ∃ c rest, word.toList = c :: rest ∧ c.isLower = true ∧ ∀ d ∈ rest, isSmall d = true := by
  obtain ⟨hh, hs⟩ := h
  cases hw : word.toList with
  | nil => simp [hw] at hh
  | cons c rest => exact ⟨c, rest, rfl, by simpa [hw] using hh, by simp_all⟩

theorem IsNameWord.ne_empty (h : IsNameWord word) : word ≠ "" := by
  obtain ⟨c, rest, hw, -⟩ := h.exists_cons
  rintro rfl
  cases hw

theorem IsNameWord.isAscii (h : IsNameWord word) : IsAscii word.toList :=
  fun _ hc => lt_of_isSmall (List.all_eq_true.mp h.small _ hc)

theorem IsNameWord.isPlainWord (h : IsNameWord word) : IsPlainWord word where
  nonempty := h.ne_empty
  ascii := h.isAscii
  lowercase _ hc := isUpper_eq_false_of_isSmall (List.all_eq_true.mp h.small _ hc)
  unseparated _ hc := isSeparator_eq_false_of_isSmall (List.all_eq_true.mp h.small _ hc)

theorem IsNameWord.append (hf : IsNameWord front) (h : IsNameWord word) :
    IsNameWord (front ++ word) := by
  obtain ⟨c, rest, hw, hc, -⟩ := hf.exists_cons
  constructor
  · simp [hw, hc]
  · rw [String.toList_append, List.all_append, hf.small, h.small, Bool.and_self]

theorem toList_titleCase_of_isNameWord {rest : List Char} (h : IsNameWord word)
    (hw : word.toList = c :: rest) : (titleCase word).toList = c.toUpper :: rest := by
  have hrest : rest.map Char.toLower = rest := by
    rw [← List.map_id rest, List.map_map]
    refine List.map_congr_left fun d hd => Char.toLower_eq_of_not_isUpper ?_
    simp [h.isPlainWord.lowercase d (by simp [hw, hd])]
  rw [toList_titleCase hw h.isAscii, hrest]

/-! ### Where a capital starts a word -/

/-- Whether a lowercase letter follows the first one. -/
def lowerFollows (word : String) : Bool :=
  word.toList[1]?.any Char.isLower

/-- Whether the capital of a word starts it: the word in front does not end with its own capital, or
a lowercase letter follows. -/
def setApart (front word : String) : Bool :=
  decide (1 < front.length) || lowerFollows word

/-- What is read if `ended` tells whether a lowercase letter or a digit is in front. A word that
its capital does not start is added to the one in front. -/
def readBack (ended : Bool) (current : String) : List String → List String
  | [] => [current]
  | word :: rest =>
    if ended || lowerFollows word then current :: readBack (1 < word.length) word rest
    else readBack (1 < word.length) (current ++ word) rest

theorem isNameWord_of_mem_readBack {ended : Bool} {current : String} (hc : IsNameWord current)
    (h : ∀ w ∈ words, IsNameWord w) : ∀ w ∈ readBack ended current words, IsNameWord w := by
  induction words generalizing ended current with
  | nil => simpa [readBack] using hc
  | cons word rest ih =>
    obtain ⟨hw, hr⟩ := List.forall_mem_cons.mp h
    rw [readBack]
    split
    · exact List.forall_mem_cons.mpr ⟨hc, ih hw hr⟩
    · exact ih (hc.append hw) hr

theorem length_readBack_le (ended : Bool) (current : String) (words : List String) :
    (readBack ended current words).length ≤ words.length + 1 := by
  induction words generalizing ended current with
  | nil => simp [readBack]
  | cons word rest ih =>
    rw [readBack]
    split
    · simpa using ih _ _
    · exact (ih _ _).trans (by simp)

/-- The words come back exactly if each of their capitals starts a word. -/
theorem readBack_eq_iff {ended : Bool} {current : String} :
    readBack ended current words = current :: words ↔
      (∀ w ∈ words.head?, (ended || lowerFollows w) = true) ∧
        words.IsChain fun front word => setApart front word = true := by
  induction words generalizing ended current with
  | nil => simp [readBack]
  | cons word rest ih =>
    by_cases h : ended = true ∨ lowerFollows word = true
    · simp [readBack, h, ih, List.isChain_cons, setApart]
    · -- what is read in all is one word too short
      have hlen := length_readBack_le (1 < word.length) (current ++ word) rest
      have hne : readBack ended current (word :: rest) ≠ current :: word :: rest := by
        intro he
        rw [readBack, if_neg (by simpa using h)] at he
        rw [he] at hlen
        simp at hlen
      simp [hne, h]

/-! ### Reading capitals -/

theorem startsWord_of_isSmall (h : isSmall c = true) (previous next : Option Char) :
    startsWord previous c next = false := by
  simp [startsWord, isUppercase_eq (lt_of_isSmall h), isUpper_eq_false_of_isSmall h]

/-- Lowercase letters and digits go on with the word. -/
theorem splitCapitals_append {rest : List Char} (h : ∀ d ∈ rest, isSmall d = true) (p : Char)
    (current text : List Char) :
    splitCapitals (some p) current (rest ++ text) =
      splitCapitals (p :: rest).getLast? (rest.reverse ++ current) text := by
  induction rest generalizing p current with
  | nil => rfl
  | cons d rest ih =>
    obtain ⟨hd, hr⟩ := List.forall_mem_cons.mp h
    have hcons : splitCapitals (some p) current (d :: (rest ++ text)) =
        splitCapitals (some d) (d :: current) (rest ++ text) := by
      simp [splitCapitals, isSeparator_eq_false_of_isSmall hd, startsWord_of_isSmall hd,
        toLowercase_of_isSmall hd]
    rw [List.cons_append, hcons, ih hr, List.getLast?_cons_cons]
    simp

/-- Behind the character, a capital starts a word if `ended` or if a lowercase letter follows. -/
def Ends (previous : Option Char) (ended : Bool) : Prop :=
  ∀ (c : Char) (next : Option Char), c.isLower = true →
    startsWord previous c.toUpper next = (ended || next.any isLowercase)

theorem ends_of_isSmall (h : isSmall c = true) : Ends (some c) true := by
  intro d next hd
  have hc : (isLowercase c || c.isDigit) = true := by
    rwa [isLowercase_eq (lt_of_isSmall h)]
  simp [startsWord, (isCapital_toUpper hd).isUppercase, hc]

theorem ends_capital (h : c.isLower = true) : Ends (some c.toUpper) false := by
  intro d next hd
  have hc := isCapital_toUpper h
  simp [startsWord, (isCapital_toUpper hd).isUppercase, hc.isUppercase, hc.isLowercase, hc.isDigit]

theorem ends_getLast? {text : List Char} (hs : ∀ d ∈ text, isSmall d = true) (hn : text ≠ []) :
    Ends text.getLast? true := by
  rw [List.getLast?_eq_some_getLast hn]
  exact ends_of_isSmall (hs _ (List.getLast_mem hn))

theorem ends_titleCase (h : IsNameWord word) :
    Ends (titleCase word).toList.getLast? (1 < word.length) := by
  obtain ⟨c, rest, hw, hc, hs⟩ := h.exists_cons
  rw [toList_titleCase_of_isNameWord h hw, ← String.length_toList, hw]
  cases rest with
  | nil => exact ends_capital hc
  | cons d rest =>
    rw [List.getLast?_cons_cons]
    simpa using ends_getLast? hs (List.cons_ne_nil d rest)

/-- The first word, without a capital. -/
theorem splitCapitals_word (h : IsNameWord word) (text : List Char) :
    splitCapitals none [] (word.toList ++ text) =
      splitCapitals word.toList.getLast? word.toList.reverse text := by
  obtain ⟨c, rest, hw, -, hs⟩ := h.exists_cons
  have hc : isSmall c = true := List.all_eq_true.mp h.small c (by simp [hw])
  rw [hw, List.reverse_cons, List.cons_append, ← splitCapitals_append hs]
  simp [splitCapitals, startsWord, isSeparator_eq_false_of_isSmall hc, toLowercase_of_isSmall hc]

/-- The first word, with a capital. -/
theorem splitCapitals_titleCase (h : IsNameWord word) (text : List Char) :
    splitCapitals none [] ((titleCase word).toList ++ text) =
      splitCapitals (titleCase word).toList.getLast? word.toList.reverse text := by
  obtain ⟨c, rest, hw, hc, hs⟩ := h.exists_cons
  have hcap := isCapital_toUpper hc
  rw [toList_titleCase_of_isNameWord h hw, hw, List.reverse_cons, List.cons_append,
    ← splitCapitals_append hs]
  simp [splitCapitals, startsWord, hcap.isSeparator, hcap.toLowercase]

/-- A word behind another one. -/
theorem splitCapitals_titleCase_of_ends {previous : Option Char} {ended : Bool} {current : String}
    (he : Ends previous ended) (hc : current ≠ "") (h : IsNameWord word) (text : List Char) :
    splitCapitals previous current.toList.reverse ((titleCase word).toList ++ text) =
      if ended || (word.toList.tail ++ text).head?.any isLowercase then
        current.toList :: splitCapitals (titleCase word).toList.getLast? word.toList.reverse text
      else
        splitCapitals (titleCase word).toList.getLast? (current ++ word).toList.reverse text := by
  obtain ⟨c, rest, hw, hl, hs⟩ := h.exists_cons
  have hcap := isCapital_toUpper hl
  have hcur : current.toList ≠ [] := by simpa using hc
  rw [toList_titleCase_of_isNameWord h hw, String.toList_append, List.reverse_append, hw,
    List.reverse_cons, List.append_assoc, List.cons_append, ← splitCapitals_append hs,
    ← splitCapitals_append hs]
  simp [splitCapitals, hcap.isSeparator, hcap.toLowercase, he c _ hl, closeWord_reverse hcur]

theorem head?_titleCases (h : ∀ w ∈ words, IsNameWord w) :
    (words.flatMap (titleCase · |>.toList)).head?.any isLowercase = false := by
  cases words with
  | nil => rfl
  | cons word words =>
    have hw : IsNameWord word := h word List.mem_cons_self
    obtain ⟨c, rest, hlist, hc, -⟩ := hw.exists_cons
    simp [toList_titleCase_of_isNameWord hw hlist, (isCapital_toUpper hc).isLowercase]

theorem lowerFollows_eq (hw : IsNameWord word) {text : List Char}
    (ht : text.head?.any isLowercase = false) :
    (word.toList.tail ++ text).head?.any isLowercase = lowerFollows word := by
  obtain ⟨c, rest, hlist, -, hs⟩ := hw.exists_cons
  rw [lowerFollows, hlist]
  cases rest with
  | nil => simpa using ht
  | cons d rest => simp [isLowercase_eq (lt_of_isSmall (hs d List.mem_cons_self))]

/-- All words behind the first. What the character in front of a word decides is carried along as
`ended`. -/
theorem splitCapitals_titleCases {previous : Option Char} {ended : Bool} {current : String}
    (he : Ends previous ended) (hc : current ≠ "") (h : ∀ w ∈ words, IsNameWord w) :
    (splitCapitals previous current.toList.reverse
        (words.flatMap (titleCase · |>.toList))).map String.ofList =
      readBack ended current words := by
  induction words generalizing previous ended current with
  | nil =>
    rw [List.flatMap_nil, splitCapitals, closeWord, if_neg (by simpa using hc), readBack]
    simp
  | cons word words ih =>
    obtain ⟨hw, hwords⟩ := List.forall_mem_cons.mp h
    rw [List.flatMap_cons, splitCapitals_titleCase_of_ends he hc hw,
      lowerFollows_eq hw (head?_titleCases hwords), readBack]
    split
    · rw [List.map_cons, String.ofList_toList, ih (ends_titleCase hw) hw.ne_empty hwords]
    · exact ih (ends_titleCase hw) (by simp [hw.ne_empty]) hwords

/-! ### Camel and Pascal case -/

theorem toList_joinTexts (words : List String) :
    (joinTexts "" words).toList = words.flatMap String.toList := by
  fun_induction joinTexts "" words with
  | case1 => rfl
  | case2 text => simp
  | case3 text rest hr ih => simp [ih]

theorem split?_join_pascal (hw : IsNameWord word) (h : ∀ w ∈ words, IsNameWord w) :
    pascal.split? (pascal.join (word :: words)) = some (readBack (1 < word.length) word words) := by
  rw [split?, join, toList_joinTexts, List.flatMap_map, List.flatMap_cons,
    splitCapitals_titleCase hw, splitCapitals_titleCases (ends_titleCase hw) hw.ne_empty h]

theorem split?_join_camel (hw : IsNameWord word) (h : ∀ w ∈ words, IsNameWord w) :
    camel.split? (camel.join (word :: words)) = some (readBack true word words) := by
  have hends : Ends word.toList.getLast? true :=
    ends_getLast? (List.all_eq_true.mp hw.small) (by simp [hw.ne_empty])
  rw [split?, join, hw.isPlainWord.lowercase_eq, String.toList_append, toList_joinTexts,
    List.flatMap_map, splitCapitals_word hw, splitCapitals_titleCases hends hw.ne_empty h]

/-- The words that the style spells with a capital. -/
def capitalized (style : CaseStyle) (words : List String) : List String :=
  match style with
  | camel => words.tail
  | pascal => words
  | _ => []

/-- Of neighbouring words that are both spelled with a capital, the capital of the second starts
it. -/
def TellsApart (style : CaseStyle) (words : List String) : Prop :=
  (style.capitalized words).IsChain fun front word => setApart front word = true

instance (style : CaseStyle) (words : List String) : Decidable (style.TellsApart words) :=
  inferInstanceAs (Decidable (List.IsChain _ _))

variable {style : CaseStyle}

/-- The words that come back. -/
theorem exists_split?_join (hs : style ≠ .concatenated) (h : ∀ w ∈ words, IsNameWord w) :
    ∃ read, style.split? (style.join words) = some read ∧ (∀ w ∈ read, IsNameWord w) ∧
      (read = words ↔ style.TellsApart words) := by
  have hplain : ∀ w ∈ words, IsPlainWord w := fun w hw => (h w hw).isPlainWord
  cases style with
  | concatenated => exact absurd rfl hs
  | canonical | snake | kebab =>
    exact ⟨words, split?_join rfl hplain, h, by simp [TellsApart, capitalized]⟩
  | camel =>
    cases words with
    | nil => exact ⟨[], rfl, h, by simp [TellsApart, capitalized]⟩
    | cons word rest =>
      obtain ⟨hw, hr⟩ := List.forall_mem_cons.mp h
      refine ⟨_, split?_join_camel hw hr, isNameWord_of_mem_readBack hw hr, ?_⟩
      simp [readBack_eq_iff, TellsApart, capitalized]
  | pascal =>
    cases words with
    | nil => exact ⟨[], rfl, h, by simp [TellsApart, capitalized]⟩
    | cons word rest =>
      obtain ⟨hw, hr⟩ := List.forall_mem_cons.mp h
      refine ⟨_, split?_join_pascal hw hr, isNameWord_of_mem_readBack hw hr, ?_⟩
      rw [readBack_eq_iff, TellsApart, capitalized, List.isChain_cons]
      rfl

theorem join_snake_inj {words' : List String} (h : ∀ w ∈ words, IsNameWord w)
    (h' : ∀ w ∈ words', IsNameWord w) : snake.join words = snake.join words' ↔ words = words' := by
  refine ⟨fun he => ?_, congrArg _⟩
  have hsplit : snake.split? (snake.join words) = some words :=
    split?_join rfl fun w hw => (h w hw).isPlainWord
  rw [he, split?_join rfl fun w hw => (h' w hw).isPlainWord] at hsplit
  exact (Option.some.inj hsplit).symm

/-- An identifier is read back exactly if its capitals tell its words apart, and exactly then its
snake case comes back from the style. -/
theorem reads_back_iff (style : CaseStyle) (words : List String) (hs : style ≠ .concatenated)
    (h : ∀ w ∈ words, IsNameWord w) :
    (Identifier.parse? (Identifier.spell ⟨words⟩ style) style = some ⟨words⟩ ↔
      style.TellsApart words) ∧
    (snake.convertAlong? (snake.join words) [style, snake] = some (snake.join words) ↔
      style.TellsApart words) := by
  obtain ⟨read, hread, hwords, hiff⟩ := exists_split?_join hs h
  have hsnake : snake.split? (snake.join words) = some words :=
    split?_join rfl fun w hw => (h w hw).isPlainWord
  constructor
  · rw [Identifier.parse?, Identifier.spell, hread]
    simpa using hiff
  · simp [convertAlong?, convert?, hsnake, hread, join_snake_inj hwords h, hiff]

theorem reads_back_shortWords :
    pascal ≠ concatenated ∧ (∀ w ∈ ["go", "a1", "b", "xy2"], IsNameWord w) ∧
    Identifier.parse? (Identifier.spell ⟨["go", "a1", "b", "xy2"]⟩ pascal) pascal =
      some ⟨["go", "a1", "b", "xy2"]⟩ ∧
    snake.convertAlong? (snake.join ["go", "a1", "b", "xy2"]) [pascal, snake] =
      some (snake.join ["go", "a1", "b", "xy2"]) :=
  have h := reads_back_iff pascal ["go", "a1", "b", "xy2"] (by decide) (by decide)
  ⟨by decide, by decide, h.1.mpr (by decide), h.2.mpr (by decide)⟩

/-- Words of one letter are read as one word, like an acronym. -/
theorem single_letters_read_as_one :
    (∀ w ∈ ["a", "b"], IsNameWord w) ∧
    Identifier.parse? (Identifier.spell ⟨["a", "b"]⟩ pascal) pascal = some ⟨["ab"]⟩ ∧
    snake.convertAlong? (snake.join ["a", "b"]) [pascal, snake] = some "ab" ∧
    (∀ w ∈ ["x", "a", "b"], IsNameWord w) ∧
    Identifier.parse? (Identifier.spell ⟨["x", "a", "b"]⟩ camel) camel = some ⟨["x", "ab"]⟩ ∧
    snake.convertAlong? (snake.join ["x", "a", "b"]) [camel, snake] = some "x_ab" := by
  decide

end TypedTree.CaseStyle
