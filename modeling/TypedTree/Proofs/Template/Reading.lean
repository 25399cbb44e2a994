import TypedTree.Proofs.Except
import TypedTree.Proofs.Template.Segments

/-! # Notations of text templates -/

namespace TypedTree.Template

/-- A notation: how its tokens are spelled, what they say, and where a reader has to stop. At most
one token can be read at the beginning of a text, and none where there is a fault. -/
structure Grammar (τ : Type) where
  spelling : τ → List Char
  atom : τ → Atom
  /-- The token may be read in front of the text. -/
  Admits : τ → List Char → Prop
  /-- What is wrong with the text that begins at an offset of the source. -/
  Fault : String → ℕ → List Char → TemplateError → Prop
  unique : ∀ {t t' more more'}, Admits t more → Admits t' more' →
    spelling t ++ more = spelling t' ++ more' → t = t' ∧ more = more'
  spelling_ne_nil : ∀ t, spelling t ≠ []
  stuck : ∀ {source offset text e t more}, Fault source offset text e → Admits t more →
    spelling t ++ more ≠ text
  fault_ne_nil : ∀ {source offset text e}, Fault source offset text e → text ≠ []
  fault_unique : ∀ {source offset text e e'}, Fault source offset text e →
    Fault source offset text e' → e = e'

namespace Grammar

/-- The text begins with tokens, and this is what comes behind them. -/
inductive Reads {τ : Type} (g : Grammar τ) : List Char → List τ → List Char → Prop where
  | done (text : List Char) : Reads g text [] text
  | token {t tokens text more rest} (ha : g.Admits t more) (hs : g.spelling t ++ more = text) :
      Reads g more tokens rest → Reads g text (t :: tokens) rest

variable {τ : Type} {g : Grammar τ} {source : String} {offset : ℕ} {t : τ} {tokens tokens' : List τ}
  {literal text more rest rest' : List Char} {e : TemplateError}
  {result : Except TemplateError (List Segment)} {segments : List Segment}

theorem Reads.spelling_append (h : g.Reads text tokens rest) :
    tokens.flatMap g.spelling ++ rest = text := by
  induction h with
  | done => rfl
  | token _ hs _ ih => rw [List.flatMap_cons, List.append_assoc, ih, hs]

theorem Reads.exists_admits (h : g.Reads text tokens rest) :
    ∀ t ∈ tokens, ∃ more, g.Admits t more := by
  induction h with
  | done => simp
  | token ha _ _ ih => exact List.forall_mem_cons.mpr ⟨⟨_, ha⟩, ih⟩

/-- Tokens that do not mind what comes behind them are read where they are spelled. -/
theorem reads_of_admits (h : ∀ t ∈ tokens, ∀ more, g.Admits t more) (rest : List Char) :
    g.Reads (tokens.flatMap g.spelling ++ rest) tokens rest := by
  induction tokens with
  | nil => exact .done rest
  | cons t tokens ih =>
    obtain ⟨ht, hs⟩ := List.forall_mem_cons.mp h
    rw [List.flatMap_cons, List.append_assoc]
    exact .token (ht _) rfl (ih hs)

/-! ### There is one reading -/

/-- No token can be read. -/
def Stuck (g : Grammar τ) (text : List Char) : Prop :=
  ∀ t more, g.Admits t more → g.spelling t ++ more ≠ text

theorem stuck_nil : g.Stuck [] :=
  fun t _ _ h => g.spelling_ne_nil t (List.append_eq_nil_iff.mp h).1

theorem stuck_of_fault (h : g.Fault source offset text e) : g.Stuck text :=
  fun _ _ ha => g.stuck h ha

theorem Reads.unique (h : g.Reads text tokens rest) (h' : g.Reads text tokens' rest')
    (hr : g.Stuck rest) (hr' : g.Stuck rest') : tokens = tokens' ∧ rest = rest' := by
  induction h generalizing tokens' with
  | done text =>
    cases h' with
    | done => exact ⟨rfl, rfl⟩
    | token ha hs => exact absurd hs (hr _ _ ha)
  | @token t tokens text more rest ha hs _ ih =>
    cases h' with
    | done => exact absurd hs (hr' _ _ ha)
    | token ha' hs' h' =>
      obtain ⟨rfl, rfl⟩ := g.unique ha ha' (hs.trans hs'.symm)
      obtain ⟨rfl, rfl⟩ := ih h' hr
      exact ⟨rfl, rfl⟩

/-! ### What a reader gives -/

/-- A reader that comes to an offset with a literal run, in reverse, gives the segments of all that
is left, or the first fault in it. -/
inductive Outcome (g : Grammar τ) (source : String) (offset : ℕ) (literal text : List Char) :
    Except TemplateError (List Segment) → Prop where
  | accepted {tokens : List τ} (h : g.Reads text tokens []) : Outcome g source offset literal text
      (.ok (mergeAtoms (literal.reverse.map .char ++ tokens.map g.atom)))
  | rejected {tokens : List τ} {rest : List Char} {e : TemplateError} (h : g.Reads text tokens rest)
      (hf : g.Fault source (offset + (String.ofList (tokens.flatMap g.spelling)).utf8ByteSize)
        rest e) : Outcome g source offset literal text (.error e)

theorem Outcome.done :
    g.Outcome source offset literal [] (.ok (addLiteral literal.reverse [])) := by
  have h : g.Outcome source offset literal [] _ := .accepted (.done [])
  rwa [List.map_nil, List.append_nil, mergeAtoms_chars] at h

theorem Outcome.fault (h : g.Fault source offset text e) :
    g.Outcome source offset literal text (.error e) :=
  .rejected (.done text) h

/-- A fault behind a token lies that many bytes further on. -/
theorem Outcome.rejected_token (ha : g.Admits t more) (h : g.Reads more tokens rest)
    (hf : g.Fault source (offset + (String.ofList (g.spelling t)).utf8ByteSize +
      (String.ofList (tokens.flatMap g.spelling)).utf8ByteSize) rest e) :
    g.Outcome source offset literal (g.spelling t ++ more) (.error e) := by
  refine .rejected (.token ha rfl h) ?_
  rwa [List.flatMap_cons, String.ofList_append, String.utf8ByteSize_append, ← Nat.add_assoc]

/-- A token that stands for a character adds to the literal run. -/
theorem Outcome.char {c : Char} (ha : g.Admits t more) (hc : g.atom t = .char c)
    (h : g.Outcome source (offset + (String.ofList (g.spelling t)).utf8ByteSize) (c :: literal)
      more result) :
    g.Outcome source offset literal (g.spelling t ++ more) result := by
  cases h with
  | accepted h =>
    have ht : g.Outcome source offset literal (g.spelling t ++ more) _ :=
      .accepted (.token ha rfl h)
    simpa [hc] using ht
  | rejected h hf => exact .rejected_token ha h hf

/-- A placeholder ends the literal run. -/
theorem Outcome.placeholder {name : String} {separator : Option String} (ha : g.Admits t more)
    (hp : g.atom t = .placeholder name separator)
    (h : g.Outcome source (offset + (String.ofList (g.spelling t)).utf8ByteSize) [] more result) :
    g.Outcome source offset literal (g.spelling t ++ more) (result.map fun segments =>
      addLiteral literal.reverse (.placeholder name separator :: segments)) := by
  cases h with
  | accepted h =>
    have ht : g.Outcome source offset literal (g.spelling t ++ more) _ :=
      .accepted (.token ha rfl h)
    rw [List.map_cons, hp,
      mergeAtoms_chars_append _ (by simp [mergeAtoms, Segment.isLiteral])] at ht
    exact ht
  | rejected h hf => exact .rejected_token ha h hf

theorem Outcome.eq_ok_iff (h : g.Outcome source 0 [] text result) :
    result = .ok segments ↔ ∃ tokens, g.Reads text tokens [] ∧ Normalized segments ∧
      segments.flatMap Segment.atoms = tokens.map g.atom := by
  simp only [← mergeAtoms_eq_iff]
  cases h with
  | accepted h =>
    constructor
    · intro he
      exact ⟨_, h, Except.ok.inj he⟩
    · rintro ⟨tokens', h', rfl⟩
      obtain ⟨rfl, -⟩ := h.unique h' stuck_nil stuck_nil
      rfl
  | rejected h hf =>
    constructor
    · intro he
      cases he
    · rintro ⟨tokens', h', -⟩
      obtain ⟨-, rfl⟩ := h.unique h' (stuck_of_fault hf) stuck_nil
      exact absurd rfl (g.fault_ne_nil hf)

theorem Outcome.eq_error_iff (h : g.Outcome source 0 [] text result) :
    result = .error e ↔ ∃ tokens rest, g.Reads text tokens rest ∧
      g.Fault source (String.ofList (tokens.flatMap g.spelling)).utf8ByteSize rest e := by
  cases h with
  | accepted h =>
    constructor
    · intro he
      cases he
    · rintro ⟨tokens', rest', h', hf'⟩
      obtain ⟨-, rfl⟩ := h.unique h' stuck_nil (stuck_of_fault hf')
      exact absurd rfl (g.fault_ne_nil hf')
  | rejected h hf =>
    rw [Nat.zero_add] at hf
    constructor
    · intro he
      obtain rfl := Except.error.inj he
      exact ⟨_, _, h, hf⟩
    · rintro ⟨tokens', rest', h', hf'⟩
      obtain ⟨rfl, rfl⟩ := h.unique h' (stuck_of_fault hf) (stuck_of_fault hf')
      rw [g.fault_unique hf hf']

theorem Outcome.map_eq_ok_iff {template : TextTemplate}
    (h : g.Outcome source 0 [] source.toList result) :
    result.map (TextTemplate.mk source) = .ok template ↔
      template.source = source ∧ ∃ tokens, g.Reads source.toList tokens [] ∧
        Normalized template.segments ∧
        template.segments.flatMap Segment.atoms = tokens.map g.atom := by
  rw [TypedTree.map_eq_ok_iff]
  constructor
  · rintro ⟨segments, hs, rfl⟩
    exact ⟨rfl, h.eq_ok_iff.mp hs⟩
  · rintro ⟨rfl, hr⟩
    exact ⟨template.segments, h.eq_ok_iff.mpr hr, rfl⟩

theorem Outcome.map_eq_error_iff (h : g.Outcome source 0 [] source.toList result) :
    result.map (TextTemplate.mk source) = .error e ↔
      ∃ tokens rest, g.Reads source.toList tokens rest ∧
        g.Fault source (String.ofList (tokens.flatMap g.spelling)).utf8ByteSize rest e := by
  rw [← h.eq_error_iff]
  cases result <;> simp [Except.map]

/-! ### Writing -/

/-- The tokens say what the segment says, and spell the text wherever it stands. -/
structure Writes (g : Grammar τ) (s : Segment) (tokens : List τ) (text : List Char) : Prop where
  spelling : tokens.flatMap g.spelling = text
  atoms : tokens.map g.atom = s.atoms
  admits : ∀ t ∈ tokens, ∀ more, g.Admits t more

/-- Segments in normal form are read from what their tokens spell. -/
theorem Outcome.map_eq_ok_of_writes (h : g.Outcome source 0 [] source.toList result)
    {write : Segment → List τ} {print : Segment → List Char} (hn : Normalized segments)
    (hs : source.toList = segments.flatMap print)
    (hw : ∀ s ∈ segments, g.Writes s (write s) (print s)) :
    result.map (TextTemplate.mk source) = .ok ⟨source, segments⟩ := by
  have hadmits : ∀ t ∈ segments.flatMap write, ∀ more, g.Admits t more := by
    intro t ht
    obtain ⟨s, hs, ht⟩ := List.mem_flatMap.mp ht
    exact (hw s hs).admits t ht
  have hspelling : (segments.flatMap write).flatMap g.spelling = source.toList := by
    rw [hs, List.flatMap_assoc]
    exact List.flatMap_congr fun s hs => (hw s hs).spelling
  have hatoms : (segments.flatMap write).map g.atom = segments.flatMap Segment.atoms := by
    rw [List.map_flatMap]
    exact List.flatMap_congr fun s hs => (hw s hs).atoms
  have hreads := reads_of_admits hadmits []
  rw [List.append_nil, hspelling] at hreads
  exact h.map_eq_ok_iff.mpr ⟨rfl, _, hreads, hn, hatoms.symm⟩

end Grammar

/-! ### Pieces of both notations -/

theorem utf8ByteSize_cons (c : Char) (text : List Char) :
    (String.ofList (c :: text)).utf8ByteSize = c.utf8Size + (String.ofList text).utf8ByteSize := by
  rw [← List.singleton_append, String.ofList_append, String.utf8ByteSize_append,
    ← String.singleton_eq_ofList, String.utf8ByteSize_singleton]

variable {text body body' behind behind' name name' : List Char} {c : Char}

theorem head?_ne_some (h : ∀ rest, text = c :: rest → False) : text.head? ≠ some c := by
  intro hh
  obtain ⟨rest, rfl⟩ := List.head?_eq_some_iff.mp hh
  exact h rest rfl

theorem untilBrace?_eq_none_iff : untilBrace? text = none ↔ '}' ∉ text := by
  fun_induction untilBrace? text with
  | case1 => simp
  | case2 rest => simp
  | case3 c rest hc ih =>
    have hc' : '}' ≠ c := fun h => hc h.symm
    simp [ih, hc']

theorem eq_append_of_untilBrace? (h : untilBrace? text = some (body, behind)) :
    text = body ++ '}' :: behind ∧ '}' ∉ body := by
  fun_induction untilBrace? text generalizing body with
  | case1 => cases h
  | case2 rest =>
    cases h
    simp
  | case3 c rest hc ih =>
    obtain ⟨⟨front, _⟩, hu, he⟩ := Option.map_eq_some_iff.mp h
    obtain ⟨rfl, rfl⟩ := Prod.mk.inj he
    obtain ⟨rfl, hf⟩ := ih hu
    exact ⟨rfl, by simpa [eq_comm, hf] using hc⟩

theorem untilBrace?_append (h : '}' ∉ body) :
    untilBrace? (body ++ '}' :: behind) = some (body, behind) := by
  induction body with
  | nil => rfl
  | cons c body ih =>
    obtain ⟨hc, hb⟩ := List.ne_and_not_mem_of_not_mem_cons h
    rw [List.cons_append, untilBrace?, ih hb]
    · rfl
    · exact Ne.symm hc

/-- A text is cut in one way at its first closing brace. -/
theorem append_brace_inj (h : '}' ∉ body) (h' : '}' ∉ body')
    (he : body ++ '}' :: behind = body' ++ '}' :: behind') : body = body' ∧ behind = behind' := by
  have hu := congrArg untilBrace? he
  rw [untilBrace?_append h, untilBrace?_append h'] at hu
  exact Prod.mk.inj (Option.some.inj hu)

/-- A run of characters with a property ends where one without it follows. -/
theorem takeWhile_append_eq {p : Char → Bool} (h : ∀ c ∈ name, p c = true)
    (hb : ∀ c ∈ behind.head?, p c = false) : (name ++ behind).takeWhile p = name := by
  rw [List.takeWhile_append_of_pos h]
  cases behind with
  | nil => simp
  | cons c rest => simp [hb c rfl]

theorem exists_run (p : Char → Bool) (text : List Char) :
    ∃ name behind, text = name ++ behind ∧ (∀ c ∈ name, p c = true) ∧
      ∀ c ∈ behind.head?, p c = false := by
  induction text with
  | nil => exact ⟨[], [], rfl, by simp, by simp⟩
  | cons c text ih =>
    by_cases hc : p c = true
    · obtain ⟨name, behind, rfl, hn, hb⟩ := ih
      exact ⟨c :: name, behind, rfl, List.forall_mem_cons.mpr ⟨hc, hn⟩, hb⟩
    · exact ⟨[], c :: text, rfl, by simp, by simpa using hc⟩

/-- A text is cut in one way behind such a run. -/
theorem append_run_inj {p : Char → Bool} (h : ∀ c ∈ name, p c = true)
    (h' : ∀ c ∈ name', p c = true) (hb : ∀ c ∈ behind.head?, p c = false)
    (hb' : ∀ c ∈ behind'.head?, p c = false) (he : name ++ behind = name' ++ behind') :
    name = name' ∧ behind = behind' := by
  have hrun := congrArg (List.takeWhile p) he
  rw [takeWhile_append_eq h hb, takeWhile_append_eq h' hb'] at hrun
  subst hrun
  exact ⟨rfl, List.append_cancel_left he⟩

/-- An identifier is not empty. -/
theorem exists_cons_of_isIdentifier (h : isIdentifier name = true) :
    ∃ c rest, name = c :: rest ∧ (Unicode.isAlphabetic c || c == '_') = true := by
  cases name with
  | nil => cases h
  | cons c rest =>
    rw [isIdentifier, Bool.and_eq_true] at h
    exact ⟨c, rest, rfl, h.1⟩

/-- An identifier begins in its own way, but goes on with the same characters. -/
theorem isIdentifierPart_of_start (h : (Unicode.isAlphabetic c || c == '_') = true) :
    isIdentifierPart c = true := by
  rw [Bool.or_eq_true] at h
  rw [isIdentifierPart, Unicode.isAlphanumeric, Bool.or_eq_true, Bool.or_eq_true]
  exact h.imp_left .inl

theorem isIdentifierPart_of_mem (h : isIdentifier name = true) (hc : c ∈ name) :
    isIdentifierPart c = true := by
  obtain ⟨d, rest, rfl, hd⟩ := exists_cons_of_isIdentifier h
  rcases List.mem_cons.mp hc with rfl | hc
  · exact isIdentifierPart_of_start hd
  · rw [isIdentifier, Bool.and_eq_true, List.all_eq_true] at h
    exact h.2 c hc

end TypedTree.Template
