import TypedTree.Proofs.Template.Reading
import TypedTree.Template.Printer

/-! # The format notation -/

namespace TypedTree

/-- The format notation can spell the segment. -/
def Segment.FitsFormat : Segment → Prop
  | .literal _ => True
  | .placeholder name separator =>
    Template.isIdentifier name.toList = true ∧
      ∀ s ∈ separator, ∀ c ∈ s.toList, Template.isBrace c = false

namespace Template

/-- What stands between the braces of a placeholder. -/
def placeholderBody (name : List Char) (separator : Option (List Char)) : List Char :=
  name ++ separator.elim [] (':' :: ·)

/-- A piece of a format template as it is spelled. -/
inductive FormatToken where
  | plain (c : Char)
  /-- A brace, which is spelled twice. -/
  | doubled (brace : Char)
  | placeholder (name : List Char) (separator : Option (List Char))

namespace FormatToken

def spelling : FormatToken → List Char
  | plain c => [c]
  | doubled brace => [brace, brace]
  | placeholder name separator => '{' :: (placeholderBody name separator ++ ['}'])

def atom : FormatToken → Atom
  | plain c => .char c
  | doubled brace => .char brace
  | placeholder name separator =>
    .placeholder (String.ofList name) (separator.map fun s => String.ofList (unescape s))

def WellFormed : FormatToken → Prop
  | plain c => isBrace c = false
  | doubled brace => isBrace brace = true
  | placeholder name separator =>
    isIdentifier name = true ∧ ∀ s ∈ separator, ∀ c ∈ s, isBrace c = false

end FormatToken

/-- What is wrong at the first brace of a text. -/
inductive FormatFault (source : String) (offset : ℕ) : List Char → TemplateError → Prop where
  | stray {rest} (h : rest.head? ≠ some '}') :
      FormatFault source offset ('}' :: rest) (.strayBrace source offset)
  | unclosed {rest} (h : rest.head? ≠ some '{') (hc : '}' ∉ rest) :
      FormatFault source offset ('{' :: rest) (.unclosed source offset)
  | invalid {body behind} (h : body.head? ≠ some '{') (hc : '}' ∉ body)
      (hb : ∀ name separator, (FormatToken.placeholder name separator).WellFormed →
        placeholderBody name separator ≠ body) :
      FormatFault source offset ('{' :: (body ++ '}' :: behind))
        (.invalidPlaceholder source (String.ofList body))

variable {name body behind more more' text : List Char} {separator : Option (List Char)}
  {t t' : FormatToken} {c : Char} {source : String} {offset : ℕ} {e e' : TemplateError}

/-! ### Bodies of placeholders -/

theorem isBrace_iff : isBrace c = true ↔ c = '{' ∨ c = '}' := by
  simp [isBrace]

theorem isBrace_eq_false_of_part (h : isIdentifierPart c = true) : isBrace c = false := by
  by_contra hb
  rcases isBrace_iff.mp (Bool.not_eq_false _ ▸ hb) with rfl | rfl
  · exact absurd h (by decide)
  · exact absurd h (by decide)

theorem colon_notMem_of_isIdentifier (h : isIdentifier name = true) : ':' ∉ name := by
  intro hm
  exact absurd (isIdentifierPart_of_mem h hm) (by decide)

theorem isBrace_of_mem_placeholderBody (h : (FormatToken.placeholder name separator).WellFormed)
    (hc : c ∈ placeholderBody name separator) : isBrace c = false := by
  obtain ⟨hn, hs⟩ := h
  rcases List.mem_append.mp hc with hc | hc
  · exact isBrace_eq_false_of_part (isIdentifierPart_of_mem hn hc)
  · cases separator with
    | none => cases hc
    | some s =>
      rcases List.mem_cons.mp hc with rfl | hc
      · decide
      · exact hs s rfl c hc

theorem brace_notMem_placeholderBody (h : (FormatToken.placeholder name separator).WellFormed)
    (hb : isBrace c = true) : c ∉ placeholderBody name separator := by
  intro hm
  rw [isBrace_of_mem_placeholderBody h hm] at hb
  cases hb

theorem placeholderBody_ne_nil (h : (FormatToken.placeholder name separator).WellFormed) :
    placeholderBody name separator ≠ [] := by
  obtain ⟨c, rest, rfl, -⟩ := exists_cons_of_isIdentifier h.1
  simp [placeholderBody]

theorem splitBody_cons (h : c ≠ ':') :
    splitBody (c :: body) = (c :: (splitBody body).1, (splitBody body).2) := by
  rw [splitBody, splitBody]
  simp only [List.takeWhile_cons, bne_iff_ne, ne_eq, h, not_false_eq_true, if_true,
    List.length_cons, List.drop_succ_cons]
  cases body.drop (body.takeWhile (· != ':')).length <;> rfl

/-- The name of a body ends at the first colon. -/
theorem splitBody_placeholderBody (h : ':' ∉ name) :
    splitBody (placeholderBody name separator) = (name, separator) := by
  induction name with
  | nil => cases separator <;> rfl
  | cons c name ih =>
    obtain ⟨hc, hn⟩ := List.ne_and_not_mem_of_not_mem_cons h
    have hb : placeholderBody (c :: name) separator = c :: placeholderBody name separator := rfl
    rw [hb, splitBody_cons (Ne.symm hc), ih hn]

theorem placeholderBody_splitBody (body : List Char) :
    placeholderBody (splitBody body).1 (splitBody body).2 = body := by
  induction body with
  | nil => rfl
  | cons c body ih =>
    by_cases hc : c = ':'
    · subst hc
      rfl
    · rw [splitBody_cons hc]
      exact congrArg (c :: ·) ih

theorem placeholder?_placeholderBody (h : (FormatToken.placeholder name separator).WellFormed) :
    placeholder? (placeholderBody name separator) = some (.placeholder (String.ofList name)
      (separator.map fun s => String.ofList (unescape s))) := by
  have hb : '{' ∉ placeholderBody name separator := brace_notMem_placeholderBody h rfl
  simp [placeholder?, splitBody_placeholderBody (colon_notMem_of_isIdentifier h.1), h.1, hb]

theorem exists_of_placeholder? {segment : Segment} (h : placeholder? body = some segment)
    (hc : '}' ∉ body) : ∃ name separator, (FormatToken.placeholder name separator).WellFormed ∧
      placeholderBody name separator = body ∧ segment = .placeholder (String.ofList name)
        (separator.map fun s => String.ofList (unescape s)) := by
  simp only [placeholder?] at h
  split at h
  · rename_i hi
    simp only [Bool.and_eq_true, Bool.not_eq_true', List.contains_eq_mem,
      decide_eq_false_iff_not] at hi
    refine ⟨_, _, ⟨hi.1, ?_⟩, placeholderBody_splitBody body, (Option.some.inj h).symm⟩
    intro s hs c hcs
    have hm : c ∈ body := by
      rw [← placeholderBody_splitBody body, placeholderBody, Option.mem_def.mp hs]
      exact List.mem_append_right _ (List.mem_cons_of_mem _ hcs)
    by_contra hb
    rcases isBrace_iff.mp (Bool.not_eq_false _ ▸ hb) with rfl | rfl
    · exact hi.2 hm
    · exact hc hm
  · cases h

/-! ### Tokens -/

namespace FormatToken

theorem spelling_placeholder_append (name : List Char) (separator : Option (List Char))
    (more : List Char) : (placeholder name separator).spelling ++ more =
      '{' :: (placeholderBody name separator ++ '}' :: more) := by
  simp [spelling]

theorem eq_plain (hc : isBrace c = false) (h : t.WellFormed)
    (he : t.spelling ++ more = c :: more') : t = .plain c ∧ more = more' := by
  cases t with
  | plain d => simpa [spelling] using he
  | doubled brace =>
    obtain ⟨rfl, -⟩ := List.cons.inj he
    exact absurd (hc.symm.trans h) (by decide)
  | placeholder name separator =>
    obtain ⟨rfl, -⟩ := List.cons.inj he
    exact absurd hc (by decide)

theorem eq_doubled (hc : isBrace c = true) (h : t.WellFormed)
    (he : t.spelling ++ more = c :: c :: more') : t = .doubled c ∧ more = more' := by
  cases t with
  | plain d =>
    obtain ⟨rfl, -⟩ := List.cons.inj he
    exact absurd (hc.symm.trans h) (by decide)
  | doubled brace => simpa [spelling] using he
  | placeholder name separator =>
    -- Behind the opening brace of a placeholder comes a character of its body.
    rw [spelling_placeholder_append] at he
    obtain ⟨rfl, he⟩ := List.cons.inj he
    cases hb : placeholderBody name separator with
    | nil => exact absurd hb (placeholderBody_ne_nil h)
    | cons d rest =>
      rw [hb] at he
      obtain ⟨rfl, -⟩ := List.cons.inj he
      exact absurd (hb ▸ List.mem_cons_self) (brace_notMem_placeholderBody h hc)

theorem eq_placeholder (h : (placeholder name separator).WellFormed) (ht : t.WellFormed)
    (he : t.spelling ++ more = (placeholder name separator).spelling ++ more') :
    t = placeholder name separator ∧ more = more' := by
  cases t with
  | plain c => exact absurd (eq_plain ht h he.symm).1 nofun
  | doubled brace => exact absurd (eq_doubled ht h he.symm).1 nofun
  | placeholder name' separator' =>
    -- Both bodies end at the first closing brace, and both names at the first colon.
    rw [spelling_placeholder_append, spelling_placeholder_append, List.cons_inj_right] at he
    obtain ⟨hb, rfl⟩ := append_brace_inj (brace_notMem_placeholderBody ht rfl)
      (brace_notMem_placeholderBody h rfl) he
    have hs := congrArg splitBody hb
    rw [splitBody_placeholderBody (colon_notMem_of_isIdentifier ht.1),
      splitBody_placeholderBody (colon_notMem_of_isIdentifier h.1)] at hs
    obtain ⟨rfl, rfl⟩ := Prod.mk.inj hs
    exact ⟨rfl, rfl⟩

theorem unique (h : t.WellFormed) (h' : t'.WellFormed)
    (he : t.spelling ++ more = t'.spelling ++ more') : t = t' ∧ more = more' := by
  cases t' with
  | plain c => exact eq_plain h' h he
  | doubled brace => exact eq_doubled h' h he
  | placeholder name separator => exact eq_placeholder h' h he

/-- A brace that is not doubled opens a placeholder. -/
theorem exists_placeholder_of_brace (hc : isBrace c = true) (hr : text.head? ≠ some c)
    (h : t.WellFormed) (he : t.spelling ++ more = c :: text) :
    ∃ name separator, (placeholder name separator).WellFormed ∧ c = '{' ∧
      text = placeholderBody name separator ++ '}' :: more := by
  cases t with
  | plain d =>
    obtain ⟨rfl, -⟩ := List.cons.inj he
    exact absurd (hc.symm.trans h) (by decide)
  | doubled brace =>
    obtain ⟨rfl, rfl⟩ := List.cons.inj he
    exact absurd rfl hr
  | placeholder name separator =>
    rw [spelling_placeholder_append] at he
    obtain ⟨rfl, rfl⟩ := List.cons.inj he
    exact ⟨name, separator, h, rfl, rfl⟩

theorem spelling_ne_nil (t : FormatToken) : t.spelling ≠ [] := by
  cases t <;> simp [spelling]

end FormatToken

/-! ### Faults -/

namespace FormatFault

theorem stuck (h : FormatFault source offset text e) (ht : t.WellFormed) :
    t.spelling ++ more ≠ text := by
  intro he
  cases h with
  | stray h =>
    obtain ⟨_, _, -, hc, -⟩ := FormatToken.exists_placeholder_of_brace rfl h ht he
    exact absurd hc (by decide)
  | unclosed h hc =>
    obtain ⟨_, _, -, -, rfl⟩ := FormatToken.exists_placeholder_of_brace rfl h ht he
    exact hc (by simp)
  | @invalid body behind h hc hb =>
    have hr : (body ++ '}' :: behind).head? ≠ some '{' := by
      cases body with
      | nil => simp
      | cons => exact h
    obtain ⟨name, separator, hw, -, hs⟩ := FormatToken.exists_placeholder_of_brace rfl hr ht he
    exact hb name separator hw
      (append_brace_inj hc (brace_notMem_placeholderBody hw rfl) hs).1.symm

theorem ne_nil (h : FormatFault source offset text e) : text ≠ [] := by
  cases h <;> simp

theorem unique (h : FormatFault source offset text e) (h' : FormatFault source offset text e') :
    e = e' := by
  cases h with
  | stray =>
    cases h'
    rfl
  | unclosed h hc =>
    generalize ht : '{' :: _ = text at h'
    cases h' with
    | stray => simp at ht
    | unclosed => rfl
    | invalid =>
      obtain ⟨-, rfl⟩ := List.cons.inj ht
      exact absurd (by simp) hc
  | invalid h hc =>
    generalize ht : '{' :: _ = text at h'
    cases h' with
    | stray => simp at ht
    | unclosed _ hc' =>
      obtain ⟨-, rfl⟩ := List.cons.inj ht
      exact absurd (by simp) hc'
    | invalid _ hc' =>
      obtain ⟨rfl, -⟩ := append_brace_inj hc hc' (List.cons.inj ht).2
      rfl

end FormatFault

/-! ### The reader -/

/-- The notation of format templates: what comes behind a token does not matter to it. -/
def formatGrammar : Grammar FormatToken where
  spelling := FormatToken.spelling
  atom := FormatToken.atom
  Admits t _ := t.WellFormed
  Fault := FormatFault
  unique := FormatToken.unique
  spelling_ne_nil := FormatToken.spelling_ne_nil
  stuck h ht := h.stuck ht
  fault_ne_nil h := h.ne_nil
  fault_unique h h' := h.unique h'

theorem reads_format_iff {tokens : List FormatToken} :
    formatGrammar.Reads text tokens more ↔
      (∀ t ∈ tokens, t.WellFormed) ∧ tokens.flatMap FormatToken.spelling ++ more = text := by
  constructor
  · intro h
    refine ⟨?_, h.spelling_append⟩
    induction h with
    | done => simp
    | token ht _ _ ih => exact List.forall_mem_cons.mpr ⟨ht, ih⟩
  · rintro ⟨hw, rfl⟩
    exact Grammar.reads_of_admits (fun t ht _ => hw t ht) more

theorem FormatToken.utf8ByteSize_plain (c : Char) :
    (String.ofList (plain c).spelling).utf8ByteSize = c.utf8Size := by
  simp [spelling]

theorem FormatToken.utf8ByteSize_placeholder (name : List Char) (separator : Option (List Char)) :
    (String.ofList (placeholder name separator).spelling).utf8ByteSize =
      2 + (String.ofList (placeholderBody name separator)).utf8ByteSize := by
  have hopen : '{'.utf8Size = 1 := rfl
  have hclose : (String.ofList ['}']).utf8ByteSize = 1 := rfl
  rw [spelling, utf8ByteSize_cons, String.ofList_append, String.utf8ByteSize_append]
  omega

/-- Reading goes on behind a token, at an offset that counts the bytes of its spelling. -/
theorem formatFrom_outcome (source : String) (offset : ℕ) (literal text : List Char) :
    formatGrammar.Outcome source offset literal text (formatFrom source offset literal text) := by
  fun_induction formatFrom source offset literal text with
  | case1 => exact .done
  | case2 offset literal rest ih =>
    exact .char (t := FormatToken.doubled '{') rfl rfl ih
  | case3 offset literal rest ih =>
    exact .char (t := FormatToken.doubled '}') rfl rfl ih
  | case4 offset literal rest h => exact .fault (.stray (head?_ne_some h))
  | case5 offset literal rest h hu =>
    exact .fault (.unclosed (head?_ne_some h) (untilBrace?_eq_none_iff.mp hu))
  | case6 offset literal rest h body behind hu hp =>
    obtain ⟨rfl, hc⟩ := eq_append_of_untilBrace? hu
    refine .fault (.invalid ?_ hc ?_)
    · intro hh
      obtain ⟨body, rfl⟩ := List.head?_eq_some_iff.mp hh
      exact h _ rfl
    · rintro name separator hw rfl
      rw [placeholder?_placeholderBody hw] at hp
      cases hp
  | case7 offset literal rest h body behind hu segment hp next ih =>
    obtain ⟨rfl, hc⟩ := eq_append_of_untilBrace? hu
    obtain ⟨name, separator, hw, rfl, rfl⟩ := exists_of_placeholder? hp hc
    rw [← FormatToken.spelling_placeholder_append]
    have hbytes : offset +
        (String.ofList (FormatToken.placeholder name separator).spelling).utf8ByteSize = next := by
      rw [FormatToken.utf8ByteSize_placeholder, ← Nat.add_assoc]
    exact .placeholder (t := FormatToken.placeholder name separator) hw rfl (hbytes.symm ▸ ih)
  | case8 offset literal c rest _ _ hclose hopen ih =>
    have hc : isBrace c = false := by
      simpa [isBrace] using ⟨hopen, hclose⟩
    have hbytes := FormatToken.utf8ByteSize_plain c
    exact .char (t := FormatToken.plain c) hc rfl (hbytes.symm ▸ ih)

theorem parseFormat_eq_ok_iff {template : TextTemplate} :
    parseFormat source = .ok template ↔ template.source = source ∧ ∃ tokens : List FormatToken,
      formatGrammar.Reads source.toList tokens [] ∧ Normalized template.segments ∧
        template.segments.flatMap Segment.atoms = tokens.map FormatToken.atom :=
  (formatFrom_outcome source 0 [] source.toList).map_eq_ok_iff

theorem parseFormat_eq_error_iff :
    parseFormat source = .error e ↔ ∃ (tokens : List FormatToken) (rest : List Char),
      formatGrammar.Reads source.toList tokens rest ∧ FormatFault source
        (String.ofList (tokens.flatMap FormatToken.spelling)).utf8ByteSize rest e :=
  (formatFrom_outcome source 0 [] source.toList).map_eq_error_iff

/-! ### Writing -/

theorem unescape_cons (h : c ≠ '\\') (text : List Char) :
    unescape (c :: text) = c :: unescape text := by
  simp [unescape, h]

/-- Doubled backslashes stand for backslashes. -/
theorem unescape_double (text : List Char) : unescape (double (· == '\\') text) = text := by
  induction text with
  | nil => rfl
  | cons c text ih =>
    by_cases hc : c = '\\'
    · subst hc
      change '\\' :: unescape (double (· == '\\') text) = _
      rw [ih]
    · have hd : double (· == '\\') (c :: text) = c :: double (· == '\\') text := by
        simp [double, hc]
      rw [hd, unescape_cons hc, ih]

theorem mem_of_mem_double {special : Char → Bool} (h : c ∈ double special text) : c ∈ text := by
  obtain ⟨d, hd, hc⟩ := List.mem_flatMap.mp h
  split at hc <;> simp_all

/-- An escape stands for a line feed, for a tab, or for the character in it. -/
theorem mem_of_mem_unescape (h : c ∈ unescape text) : c ∈ text ∨ c = '\n' ∨ c = '\t' := by
  fun_induction unescape text with
  | case1 => cases h
  | case2 => exact .inl h
  | case3 rest ih | case4 rest ih | case5 d rest _ _ ih | case6 d rest _ _ _ _ ih =>
    rcases List.mem_cons.mp h with rfl | h
    · simp
    · rcases ih h with hm | hm
      · exact .inl (by simp [hm])
      · exact .inr hm

/-- The tokens that spell a segment when it is written. -/
def FormatToken.ofSegment : Segment → List FormatToken
  | .literal text => text.toList.map fun c => if isBrace c then .doubled c else .plain c
  | .placeholder name separator =>
    [.placeholder name.toList (separator.map fun s => double (· == '\\') s.toList)]

theorem FormatToken.spelling_ofSegment (s : Segment) :
    (ofSegment s).flatMap spelling = formatSegment s := by
  cases s with
  | literal text =>
    rw [ofSegment, formatSegment, double, List.flatMap_map]
    congr 1
    funext c
    split <;> rfl
  | placeholder name separator =>
    cases separator <;> simp [ofSegment, formatSegment, spelling, placeholderBody]

theorem FormatToken.atom_ofSegment (s : Segment) : (ofSegment s).map atom = s.atoms := by
  cases s with
  | literal text =>
    rw [ofSegment, Segment.atoms, List.map_map]
    congr 1
    funext c
    rw [Function.comp_apply]
    split <;> rfl
  | placeholder name separator =>
    cases separator <;> simp [ofSegment, Segment.atoms, atom, unescape_double]

theorem FormatToken.wellFormed_ofSegment {s : Segment} (h : s.FitsFormat) :
    ∀ t ∈ ofSegment s, t.WellFormed := by
  cases s with
  | literal text =>
    intro t ht
    obtain ⟨c, -, rfl⟩ := List.mem_map.mp ht
    split <;> simp_all [WellFormed]
  | placeholder name separator =>
    rintro t ht
    obtain rfl := List.mem_singleton.mp ht
    refine ⟨h.1, ?_⟩
    intro s hs c hc
    obtain ⟨text, ht, rfl⟩ := Option.map_eq_some_iff.mp hs
    exact h.2 text ht c (mem_of_mem_double hc)

/-- Writing segments in normal form and reading them again gives them back. -/
theorem parseFormat_printFormat {segments : List Segment} (hn : Normalized segments)
    (hf : ∀ s ∈ segments, s.FitsFormat) :
    parseFormat (printFormat segments) = .ok ⟨printFormat segments, segments⟩ := by
  have hw : ∀ s ∈ segments, formatGrammar.Writes s (FormatToken.ofSegment s) (formatSegment s) := by
    intro s hs
    exact ⟨FormatToken.spelling_ofSegment s, FormatToken.atom_ofSegment s,
      fun t ht _ => FormatToken.wellFormed_ofSegment (hf s hs) t ht⟩
  exact (formatFrom_outcome _ 0 [] _).map_eq_ok_of_writes hn String.toList_ofList hw

/-- What was read can be written. -/
theorem fitsFormat_of_parseFormat {template : TextTemplate}
    (h : parseFormat source = .ok template) : ∀ s ∈ template.segments, s.FitsFormat := by
  obtain ⟨-, tokens, hr, -, ha⟩ := parseFormat_eq_ok_iff.mp h
  intro s hs
  cases s with
  | literal text => trivial
  | placeholder name separator =>
    obtain ⟨t, ht, he⟩ := List.mem_map.mp (ha ▸ placeholder_mem_atoms hs)
    obtain ⟨more, hw⟩ := hr.exists_admits t ht
    cases t with
    | plain => cases he
    | doubled => cases he
    | placeholder n raw =>
      obtain ⟨rfl, rfl⟩ := Atom.placeholder.inj he
      refine ⟨by simpa using hw.1, ?_⟩
      intro s hs c hc
      obtain ⟨text, ht, rfl⟩ := Option.map_eq_some_iff.mp hs
      rw [String.toList_ofList] at hc
      rcases mem_of_mem_unescape hc with hc | rfl | rfl
      · exact hw.2 text ht c hc
      · rfl
      · rfl

/-- A text with its braces doubled is read as the text. -/
theorem parseFormat_double (text : List Char) :
    parseFormat (String.ofList (double isBrace text)) =
      .ok ⟨String.ofList (double isBrace text), addLiteral text []⟩ := by
  have hf : ∀ s ∈ addLiteral text [], s.FitsFormat := by
    intro s hs
    rw [eq_of_mem_addLiteral hs]
    trivial
  have hp : printFormat (addLiteral text []) = String.ofList (double isBrace text) := by
    cases text <;> simp [printFormat, addLiteral, formatSegment, double]
  rw [← hp]
  exact parseFormat_printFormat (normalized_addLiteral text) hf

/-! ### The notation and its parser -/

/-- What a parser of the format notation does. -/
structure FormatParser (parse : String → Except TemplateError TextTemplate) : Prop where
  /-- The sources of templates are the sequences of tokens, and the segments of a template are those
  in normal form that say what the tokens say. -/
  accepts : ∀ source template, parse source = .ok template ↔
    template.source = source ∧ ∃ tokens : List FormatToken, (∀ t ∈ tokens, t.WellFormed) ∧
      tokens.flatMap FormatToken.spelling = source.toList ∧ Normalized template.segments ∧
      template.segments.flatMap Segment.atoms = tokens.map FormatToken.atom
  /-- A source is a sequence of tokens in one way. -/
  unique : ∀ tokens tokens' : List FormatToken, (∀ t ∈ tokens, t.WellFormed) →
    (∀ t ∈ tokens', t.WellFormed) →
    tokens.flatMap FormatToken.spelling = tokens'.flatMap FormatToken.spelling → tokens = tokens'
  /-- Other sources have a first brace at which a sequence of tokens cannot go on. -/
  rejects : ∀ source e, parse source = .error e ↔
    ∃ (tokens : List FormatToken) (rest : List Char), (∀ t ∈ tokens, t.WellFormed) ∧
      tokens.flatMap FormatToken.spelling ++ rest = source.toList ∧
      FormatFault source (String.ofList (tokens.flatMap FormatToken.spelling)).utf8ByteSize rest e
  /-- Segments that are written are read again. -/
  writes : ∀ segments, Normalized segments → (∀ s ∈ segments, s.FitsFormat) →
    parse (printFormat segments) = .ok ⟨printFormat segments, segments⟩
  /-- Segments that were read can be written, and are read again. -/
  rewrites : ∀ source template, parse source = .ok template →
    parse (printFormat template.segments) = .ok ⟨printFormat template.segments, template.segments⟩
  /-- A text with its braces doubled renders to the text. -/
  literal : ∀ text, ∃ template, parse (String.ofList (double isBrace text.toList)) = .ok template ∧
    ∀ ctx, (Rule.format template).render ctx = .ok text

theorem parseFormat_formatParser : FormatParser parseFormat where
  accepts source template := by
    rw [parseFormat_eq_ok_iff]
    simp only [reads_format_iff, List.append_nil, and_assoc]
  unique tokens tokens' hw hw' he := by
    have hr := reads_format_iff.mpr ⟨hw, List.append_nil (tokens.flatMap FormatToken.spelling)⟩
    have hr' := reads_format_iff.mpr ⟨hw', (List.append_nil _).trans he.symm⟩
    exact (hr.unique hr' Grammar.stuck_nil Grammar.stuck_nil).1
  rejects source e := by
    rw [parseFormat_eq_error_iff]
    simp only [reads_format_iff, and_assoc]
  writes _ hn hf := parseFormat_printFormat hn hf
  rewrites source template h := by
    obtain ⟨-, -, -, hn, -⟩ := parseFormat_eq_ok_iff.mp h
    exact parseFormat_printFormat hn (fitsFormat_of_parseFormat h)
  literal text := by
    refine ⟨_, parseFormat_double text.toList, fun ctx => ?_⟩
    rw [Rule.render, renderSegments_addLiteral, String.ofList_toList]

end Template

end TypedTree
