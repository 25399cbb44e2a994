import TypedTree.Proofs.Template.Reading
import TypedTree.Template.Printer

/-! # The substitution notation -/

namespace TypedTree

/-- The substitution notation can spell the segment: it has no separators. -/
def Segment.FitsSubstitution : Segment → Prop
  | .literal _ => True
  | .placeholder name separator => Template.isIdentifier name.toList = true ∧ separator = none

namespace Template

/-- A piece of a substitution template as it is spelled. -/
inductive SubstitutionToken where
  | plain (c : Char)
  /-- A dollar, which is spelled twice. -/
  | dollar
  | braced (name : List Char)
  | bare (name : List Char)

namespace SubstitutionToken

def spelling : SubstitutionToken → List Char
  | plain c => [c]
  | dollar => ['$', '$']
  | braced name => '$' :: '{' :: (name ++ ['}'])
  | bare name => '$' :: name

def atom : SubstitutionToken → Atom
  | plain c => .char c
  | dollar => .char '$'
  | braced name => .placeholder (String.ofList name) none
  | bare name => .placeholder (String.ofList name) none

/-- The name that is read, if any. -/
def name? : SubstitutionToken → Option String
  | braced name => some (String.ofList name)
  | bare name => some (String.ofList name)
  | _ => none

/-- The token with its name in braces, if it has one. -/
def inBraces : SubstitutionToken → SubstitutionToken
  | bare name => braced name
  | t => t

/-- The token may be read in front of a text. A name without braces is the longest run of the
characters that may stand in it. -/
def Admits : SubstitutionToken → List Char → Prop
  | plain c, _ => c ≠ '$'
  | dollar, _ => True
  | braced name, _ => isIdentifier name = true
  | bare name, more =>
    isIdentifier name = true ∧ ∀ c ∈ more.head?, isIdentifierPart c = false

end SubstitutionToken

/-- What is wrong at the first dollar of a text. -/
inductive SubstitutionFault (source : String) (offset : ℕ) :
    List Char → TemplateError → Prop where
  | unclosed {rest} (hc : '}' ∉ rest) :
      SubstitutionFault source offset ('$' :: '{' :: rest) (.unclosed source offset)
  | invalidBraced {name behind} (hc : '}' ∉ name) (hi : isIdentifier name = false) :
      SubstitutionFault source offset ('$' :: '{' :: (name ++ '}' :: behind))
        (.invalidPlaceholder source (String.ofList name))
  | invalidBare {name behind} (hd : (name ++ behind).head? ≠ some '$')
      (ho : (name ++ behind).head? ≠ some '{') (hp : ∀ c ∈ name, isIdentifierPart c = true)
      (hb : ∀ c ∈ behind.head?, isIdentifierPart c = false) (hi : isIdentifier name = false) :
      SubstitutionFault source offset ('$' :: (name ++ behind))
        (.invalidPlaceholder source (String.ofList ('$' :: name)))

variable {name behind more more' text : List Char} {t t' : SubstitutionToken} {c : Char}
  {source : String} {offset : ℕ} {e e' : TemplateError}

/-! ### Tokens -/

theorem brace_notMem_of_isIdentifier (h : isIdentifier name = true) : '}' ∉ name := by
  intro hm
  exact absurd (isIdentifierPart_of_mem h hm) (by decide)

/-- An identifier begins with a character of its own. -/
theorem head?_identifier_append (h : isIdentifier name = true) (more : List Char)
    (hc : isIdentifierPart c = false) : (name ++ more).head? ≠ some c := by
  obtain ⟨d, rest, rfl, hd⟩ := exists_cons_of_isIdentifier h
  intro he
  obtain rfl := Option.some.inj he
  exact absurd (hc.symm.trans (isIdentifierPart_of_start hd)) (by decide)

namespace SubstitutionToken

theorem spelling_ne_nil (t : SubstitutionToken) : t.spelling ≠ [] := by
  cases t <;> simp [spelling]

@[simp] theorem spelling_plain_append (c : Char) (more : List Char) :
    (plain c).spelling ++ more = c :: more := rfl

@[simp] theorem spelling_dollar_append (more : List Char) :
    dollar.spelling ++ more = '$' :: '$' :: more := rfl

@[simp] theorem spelling_braced_append (name more : List Char) :
    (braced name).spelling ++ more = '$' :: '{' :: (name ++ '}' :: more) := by
  simp [spelling]

@[simp] theorem spelling_bare_append (name more : List Char) :
    (bare name).spelling ++ more = '$' :: (name ++ more) := rfl

theorem eq_plain (hc : c ≠ '$') (he : t.spelling ++ more = c :: more') :
    t = .plain c ∧ more = more' := by
  cases t with
  | plain d => simpa using he
  | dollar | braced | bare => simp [Ne.symm hc] at he

/-- A name without braces stands apart from the other pieces that begin with a dollar. -/
theorem ne_bare (h : t.Admits more) (hc : isIdentifierPart c = false)
    (he : t.spelling ++ more = '$' :: c :: more') : t ≠ .bare name := by
  rintro rfl
  rw [spelling_bare_append, List.cons_inj_right] at he
  have hh := head?_identifier_append h.1 more hc
  rw [he] at hh
  exact hh rfl

theorem eq_dollar (h : t.Admits more) (he : t.spelling ++ more = '$' :: '$' :: more') :
    t = .dollar ∧ more = more' := by
  cases t with
  | plain d => exact absurd (List.cons.inj he).1 h
  | dollar => simpa using he
  | braced name => simp at he
  | bare name => exact absurd rfl (ne_bare h rfl he)

theorem eq_braced (hn : isIdentifier name = true) (h : t.Admits more)
    (he : t.spelling ++ more = (braced name).spelling ++ more') :
    t = .braced name ∧ more = more' := by
  rw [spelling_braced_append] at he
  cases t with
  | plain d => exact absurd (List.cons.inj he).1 h
  | dollar => simp at he
  | braced name' =>
    simp only [spelling_braced_append, List.cons_inj_right] at he
    obtain ⟨rfl, rfl⟩ := append_brace_inj (brace_notMem_of_isIdentifier h)
      (brace_notMem_of_isIdentifier hn) he
    exact ⟨rfl, rfl⟩
  | bare name' => exact absurd rfl (ne_bare h rfl he)

theorem eq_bare (h : (bare name).Admits more) (ht : t.Admits more')
    (he : t.spelling ++ more' = (bare name).spelling ++ more) :
    t = .bare name ∧ more' = more := by
  cases t with
  | plain d => exact absurd (List.cons.inj he).1 ht
  | dollar => exact absurd rfl (ne_bare h rfl he.symm)
  | braced name' =>
    rw [spelling_braced_append] at he
    exact absurd rfl (ne_bare h rfl he.symm)
  | bare name' =>
    -- Both names are the longest run.
    rw [spelling_bare_append, spelling_bare_append, List.cons_inj_right] at he
    obtain ⟨rfl, rfl⟩ := append_run_inj (fun c => isIdentifierPart_of_mem ht.1)
      (fun c => isIdentifierPart_of_mem h.1) ht.2 h.2 he
    exact ⟨rfl, rfl⟩

theorem unique (h : t.Admits more) (h' : t'.Admits more')
    (he : t.spelling ++ more = t'.spelling ++ more') : t = t' ∧ more = more' := by
  cases t' with
  | plain c => exact eq_plain h' he
  | dollar => exact eq_dollar h he
  | braced name => exact eq_braced h' h he
  | bare name => exact eq_bare h' h he

end SubstitutionToken

/-! ### Faults -/

namespace SubstitutionFault

theorem ne_nil (h : SubstitutionFault source offset text e) : text ≠ [] := by
  cases h <;> simp

theorem stuck (h : SubstitutionFault source offset text e) (ht : t.Admits more) :
    t.spelling ++ more ≠ text := by
  intro he
  cases h with
  | @unclosed rest hc =>
    cases t with
    | plain d => exact absurd (List.cons.inj he).1 ht
    | dollar => simp at he
    | braced name =>
      simp only [SubstitutionToken.spelling_braced_append, List.cons_inj_right] at he
      exact hc (by simp [← he])
    | bare name => exact absurd rfl (SubstitutionToken.ne_bare ht rfl he)
  | @invalidBraced name behind hc hi =>
    cases t with
    | plain d => exact absurd (List.cons.inj he).1 ht
    | dollar => simp at he
    | braced name' =>
      simp only [SubstitutionToken.spelling_braced_append, List.cons_inj_right] at he
      obtain ⟨rfl, -⟩ := append_brace_inj (brace_notMem_of_isIdentifier ht) hc he
      exact absurd (hi.symm.trans ht) (by decide)
    | bare name => exact absurd rfl (SubstitutionToken.ne_bare ht rfl he)
  | @invalidBare name behind hd ho hp hb hi =>
    cases t with
    | plain d => exact absurd (List.cons.inj he).1 ht
    | dollar =>
      rw [← (List.cons.inj he).2] at hd
      exact hd rfl
    | braced name' =>
      rw [SubstitutionToken.spelling_braced_append] at he
      rw [← (List.cons.inj he).2] at ho
      exact ho rfl
    | bare name' =>
      rw [SubstitutionToken.spelling_bare_append, List.cons_inj_right] at he
      obtain ⟨rfl, -⟩ := append_run_inj (fun c => isIdentifierPart_of_mem ht.1) hp ht.2 hb he
      exact absurd (hi.symm.trans ht.1) (by decide)

theorem unique (h : SubstitutionFault source offset text e)
    (h' : SubstitutionFault source offset text e') : e = e' := by
  cases h with
  | unclosed hc =>
    generalize ht : '$' :: _ = text at h'
    cases h' with
    | unclosed => rfl
    | invalidBraced =>
      simp only [List.cons.injEq, true_and] at ht
      exact absurd (by simp [ht]) hc
    | invalidBare _ ho => exact absurd (by simp [← (List.cons.inj ht).2]) ho
  | invalidBraced hc hi =>
    generalize ht : '$' :: _ = text at h'
    cases h' with
    | unclosed hc' =>
      simp only [List.cons.injEq, true_and] at ht
      exact absurd (by simp [← ht]) hc'
    | invalidBraced hc' =>
      simp only [List.cons.injEq, true_and] at ht
      obtain ⟨rfl, -⟩ := append_brace_inj hc hc' ht
      rfl
    | invalidBare _ ho => exact absurd (by simp [← (List.cons.inj ht).2]) ho
  | invalidBare hd ho hp hb hi =>
    generalize ht : '$' :: _ = text at h'
    cases h' with
    | unclosed => exact absurd (by simp [(List.cons.inj ht).2]) ho
    | invalidBraced => exact absurd (by simp [(List.cons.inj ht).2]) ho
    | invalidBare _ _ hp' hb' =>
      obtain ⟨rfl, -⟩ := append_run_inj hp hp' hb hb' (List.cons.inj ht).2
      rfl

end SubstitutionFault

/-! ### The reader -/

/-- The notation of substitution templates. -/
def substitutionGrammar : Grammar SubstitutionToken where
  spelling := SubstitutionToken.spelling
  atom := SubstitutionToken.atom
  Admits := SubstitutionToken.Admits
  Fault := SubstitutionFault
  unique := SubstitutionToken.unique
  spelling_ne_nil := SubstitutionToken.spelling_ne_nil
  stuck h ht := h.stuck ht
  fault_ne_nil h := h.ne_nil
  fault_unique h h' := h.unique h'

theorem SubstitutionToken.utf8ByteSize_plain (c : Char) :
    (String.ofList (plain c).spelling).utf8ByteSize = c.utf8Size := by
  simp [spelling]

theorem SubstitutionToken.utf8ByteSize_braced (name : List Char) :
    (String.ofList (braced name).spelling).utf8ByteSize =
      3 + (String.ofList name).utf8ByteSize := by
  have hdollar : '$'.utf8Size = 1 := rfl
  have hopen : '{'.utf8Size = 1 := rfl
  have hclose : (String.ofList ['}']).utf8ByteSize = 1 := rfl
  rw [spelling, utf8ByteSize_cons, utf8ByteSize_cons, String.ofList_append,
    String.utf8ByteSize_append]
  omega

theorem SubstitutionToken.utf8ByteSize_bare (name : List Char) :
    (String.ofList (bare name).spelling).utf8ByteSize = 1 + (String.ofList name).utf8ByteSize :=
  utf8ByteSize_cons '$' name

theorem substitutionFrom_outcome (source : String) (offset : ℕ) (literal text : List Char) :
    substitutionGrammar.Outcome source offset literal text
      (substitutionFrom source offset literal text) := by
  fun_induction substitutionFrom source offset literal text with
  | case1 => exact .done
  | case2 offset literal rest ih =>
    exact .char (t := SubstitutionToken.dollar) trivial rfl ih
  | case3 offset literal rest hu => exact .fault (.unclosed (untilBrace?_eq_none_iff.mp hu))
  | case4 offset literal rest name behind hu hi next ih =>
    obtain ⟨rfl, -⟩ := eq_append_of_untilBrace? hu
    have hbytes : offset + (String.ofList (SubstitutionToken.braced name).spelling).utf8ByteSize =
        next := by
      rw [SubstitutionToken.utf8ByteSize_braced, ← Nat.add_assoc]
    rw [← SubstitutionToken.spelling_braced_append]
    exact .placeholder (t := SubstitutionToken.braced name) hi rfl (hbytes.symm ▸ ih)
  | case5 offset literal rest name behind hu hi =>
    obtain ⟨rfl, hc⟩ := eq_append_of_untilBrace? hu
    exact .fault (.invalidBraced hc (by simpa using hi))
  | case6 offset literal rest _ _ name hi next ih =>
    obtain ⟨run, behind, rfl, hp, hb⟩ := exists_run isIdentifierPart rest
    have hname : name = run := takeWhile_append_eq hp hb
    clear_value name
    subst hname
    rw [List.drop_left] at ih ⊢
    have hbytes : offset + (String.ofList (SubstitutionToken.bare name).spelling).utf8ByteSize =
        next := by
      rw [SubstitutionToken.utf8ByteSize_bare, ← Nat.add_assoc]
    rw [← SubstitutionToken.spelling_bare_append]
    exact .placeholder (t := SubstitutionToken.bare name) ⟨hi, hb⟩ rfl (hbytes.symm ▸ ih)
  | case7 offset literal rest hd ho name hi =>
    obtain ⟨run, behind, rfl, hp, hb⟩ := exists_run isIdentifierPart rest
    have hname : name = run := takeWhile_append_eq hp hb
    clear_value name
    subst hname
    exact .fault (.invalidBare (head?_ne_some hd) (head?_ne_some ho) hp hb (by simpa using hi))
  | case8 offset literal c rest _ _ hc ih =>
    have hbytes := SubstitutionToken.utf8ByteSize_plain c
    exact .char (t := SubstitutionToken.plain c) hc rfl (hbytes.symm ▸ ih)

theorem parseSubstitution_eq_ok_iff {template : TextTemplate} :
    parseSubstitution source = .ok template ↔
      template.source = source ∧ ∃ tokens : List SubstitutionToken,
        substitutionGrammar.Reads source.toList tokens [] ∧ Normalized template.segments ∧
          template.segments.flatMap Segment.atoms = tokens.map SubstitutionToken.atom :=
  (substitutionFrom_outcome source 0 [] source.toList).map_eq_ok_iff

theorem parseSubstitution_eq_error_iff :
    parseSubstitution source = .error e ↔
      ∃ (tokens : List SubstitutionToken) (rest : List Char),
        substitutionGrammar.Reads source.toList tokens rest ∧ SubstitutionFault source
          (String.ofList (tokens.flatMap SubstitutionToken.spelling)).utf8ByteSize rest e :=
  (substitutionFrom_outcome source 0 [] source.toList).map_eq_error_iff

/-! ### Writing -/

/-- The tokens that spell a segment when it is written: every name stands in braces. -/
def SubstitutionToken.ofSegment : Segment → List SubstitutionToken
  | .literal text => text.toList.map fun c => if c == '$' then .dollar else .plain c
  | .placeholder name _ => [.braced name.toList]

theorem SubstitutionToken.spelling_ofSegment (s : Segment) :
    (ofSegment s).flatMap spelling = substitutionSegment s := by
  cases s with
  | literal text =>
    rw [ofSegment, substitutionSegment, double, List.flatMap_map]
    congr 1
    funext c
    by_cases hc : c = '$' <;> simp [hc, spelling]
  | placeholder name separator => simp [ofSegment, substitutionSegment, spelling]

theorem SubstitutionToken.atom_ofSegment {s : Segment} (h : s.FitsSubstitution) :
    (ofSegment s).map atom = s.atoms := by
  cases s with
  | literal text =>
    rw [ofSegment, Segment.atoms, List.map_map]
    congr 1
    funext c
    by_cases hc : c = '$' <;> simp [hc, atom]
  | placeholder name separator =>
    obtain ⟨-, rfl⟩ := h
    simp [ofSegment, Segment.atoms, atom]

/-- No written token minds what comes behind it. -/
theorem SubstitutionToken.admits_ofSegment {s : Segment} (h : s.FitsSubstitution)
    (more : List Char) : ∀ t ∈ ofSegment s, t.Admits more := by
  intro t ht
  cases s with
  | literal text =>
    obtain ⟨c, -, rfl⟩ := List.mem_map.mp ht
    by_cases hc : c = '$' <;> simp [hc, Admits]
  | placeholder name separator =>
    obtain rfl := List.mem_singleton.mp ht
    exact h.1

/-- Writing segments in normal form and reading them again gives them back. -/
theorem parseSubstitution_printSubstitution {segments : List Segment} (hn : Normalized segments)
    (hf : ∀ s ∈ segments, s.FitsSubstitution) :
    parseSubstitution (printSubstitution segments) =
      .ok ⟨printSubstitution segments, segments⟩ := by
  have hw : ∀ s ∈ segments, substitutionGrammar.Writes s (SubstitutionToken.ofSegment s)
      (substitutionSegment s) := by
    intro s hs
    exact ⟨SubstitutionToken.spelling_ofSegment s, SubstitutionToken.atom_ofSegment (hf s hs),
      fun t ht more => SubstitutionToken.admits_ofSegment (hf s hs) more t ht⟩
  exact (substitutionFrom_outcome _ 0 [] _).map_eq_ok_of_writes hn String.toList_ofList hw

/-- What was read can be written. -/
theorem fitsSubstitution_of_parseSubstitution {template : TextTemplate}
    (h : parseSubstitution source = .ok template) :
    ∀ s ∈ template.segments, s.FitsSubstitution := by
  obtain ⟨-, tokens, hr, -, ha⟩ := parseSubstitution_eq_ok_iff.mp h
  intro s hs
  cases s with
  | literal text => trivial
  | placeholder name separator =>
    obtain ⟨t, ht, he⟩ := List.mem_map.mp (ha ▸ placeholder_mem_atoms hs)
    obtain ⟨more, hw⟩ := hr.exists_admits t ht
    cases t with
    | plain => cases he
    | dollar => cases he
    | braced n =>
      obtain ⟨rfl, rfl⟩ := Atom.placeholder.inj he
      exact ⟨(congrArg isIdentifier String.toList_ofList).trans hw, rfl⟩
    | bare n =>
      obtain ⟨rfl, rfl⟩ := Atom.placeholder.inj he
      exact ⟨(congrArg isIdentifier String.toList_ofList).trans hw.1, rfl⟩

/-- A text with its dollars doubled is read as the text. -/
theorem parseSubstitution_double (text : List Char) :
    parseSubstitution (String.ofList (double (· == '$') text)) =
      .ok ⟨String.ofList (double (· == '$') text), addLiteral text []⟩ := by
  have hf : ∀ s ∈ addLiteral text [], s.FitsSubstitution := by
    intro s hs
    rw [eq_of_mem_addLiteral hs]
    trivial
  have hp : printSubstitution (addLiteral text []) = String.ofList (double (· == '$') text) := by
    cases text <;> simp [printSubstitution, addLiteral, substitutionSegment, double]
  rw [← hp]
  exact parseSubstitution_printSubstitution (normalized_addLiteral text) hf

/-! ### The notation and its parser -/

theorem SubstitutionToken.name?_atom (t : SubstitutionToken) : t.atom.name? = t.name? := by
  cases t <;> rfl

theorem SubstitutionToken.atom_inBraces (t : SubstitutionToken) : t.inBraces.atom = t.atom := by
  cases t <;> rfl

/-- What a parser of the substitution notation does. -/
structure SubstitutionParser (parse : String → Except TemplateError TextTemplate) : Prop where
  /-- The sources of templates are the sequences of tokens, and the segments of a template are those
  in normal form that say what the tokens say. -/
  accepts : ∀ source template, parse source = .ok template ↔
    template.source = source ∧ ∃ tokens : List SubstitutionToken,
      substitutionGrammar.Reads source.toList tokens [] ∧ Normalized template.segments ∧
      template.segments.flatMap Segment.atoms = tokens.map SubstitutionToken.atom
  /-- A source is a sequence of tokens in one way. -/
  unique : ∀ text tokens tokens', substitutionGrammar.Reads text tokens [] →
    substitutionGrammar.Reads text tokens' [] → tokens = tokens'
  /-- Other sources have a first dollar at which a sequence of tokens cannot go on. -/
  rejects : ∀ source e, parse source = .error e ↔
    ∃ (tokens : List SubstitutionToken) (rest : List Char),
      substitutionGrammar.Reads source.toList tokens rest ∧ SubstitutionFault source
        (String.ofList (tokens.flatMap SubstitutionToken.spelling)).utf8ByteSize rest e
  /-- Segments that are written are read again. -/
  writes : ∀ segments, Normalized segments → (∀ s ∈ segments, s.FitsSubstitution) →
    parse (printSubstitution segments) = .ok ⟨printSubstitution segments, segments⟩
  /-- Segments that were read can be written, and are read again. -/
  rewrites : ∀ source template, parse source = .ok template →
    parse (printSubstitution template.segments) =
      .ok ⟨printSubstitution template.segments, template.segments⟩
  /-- A text with its dollars doubled renders to the text. -/
  literal : ∀ text, ∃ template,
    parse (String.ofList (double (· == '$') text.toList)) = .ok template ∧
    ∀ ctx, (Rule.substitution template).render ctx = .ok text
  /-- The placeholders are the names that are read, in order. -/
  placeholders : ∀ source template tokens, parse source = .ok template →
    substitutionGrammar.Reads source.toList tokens [] →
    (Rule.substitution template).placeholders = tokens.filterMap SubstitutionToken.name?
  /-- Whether names stand in braces makes no difference to the segments, nor to rendering. -/
  spellings : ∀ source source' tokens tokens',
    substitutionGrammar.Reads source.toList tokens [] →
    substitutionGrammar.Reads source'.toList tokens' [] →
    tokens.map SubstitutionToken.inBraces = tokens'.map SubstitutionToken.inBraces →
    ∃ template template', parse source = .ok template ∧ parse source' = .ok template' ∧
      template.segments = template'.segments ∧
      ∀ ctx, (Rule.substitution template).render ctx = (Rule.substitution template').render ctx

theorem parseSubstitution_substitutionParser : SubstitutionParser parseSubstitution where
  accepts _ _ := parseSubstitution_eq_ok_iff
  unique text tokens tokens' h h' := (h.unique h' Grammar.stuck_nil Grammar.stuck_nil).1
  rejects _ _ := parseSubstitution_eq_error_iff
  writes _ hn hf := parseSubstitution_printSubstitution hn hf
  rewrites source template h := by
    obtain ⟨-, -, -, hn, -⟩ := parseSubstitution_eq_ok_iff.mp h
    exact parseSubstitution_printSubstitution hn (fitsSubstitution_of_parseSubstitution h)
  literal text := by
    refine ⟨_, parseSubstitution_double text.toList, fun ctx => ?_⟩
    rw [Rule.render, renderSegments_addLiteral, String.ofList_toList]
  placeholders source template tokens h hr := by
    obtain ⟨-, tokens', hr', -, ha⟩ := parseSubstitution_eq_ok_iff.mp h
    obtain ⟨rfl, -⟩ := hr.unique hr' Grammar.stuck_nil Grammar.stuck_nil
    rw [Rule.placeholders, placeholders_eq, ha, List.filterMap_map]
    exact List.filterMap_congr fun t _ => t.name?_atom
  spellings source source' tokens tokens' hr hr' he := by
    have ha : tokens.map SubstitutionToken.atom = tokens'.map SubstitutionToken.atom := by
      have := congrArg (List.map SubstitutionToken.atom) he
      simpa [Function.comp_def, SubstitutionToken.atom_inBraces] using this
    -- Both sources are read as the segments that merge these atoms.
    let segments := mergeAtoms (tokens.map SubstitutionToken.atom)
    have hm := mergeAtoms_eq_iff.mp (rfl : _ = segments)
    refine ⟨⟨source, segments⟩, ⟨source', segments⟩, ?_, ?_, rfl, fun ctx => rfl⟩
    · exact parseSubstitution_eq_ok_iff.mpr ⟨rfl, tokens, hr, hm⟩
    · exact parseSubstitution_eq_ok_iff.mpr ⟨rfl, tokens', hr', ha ▸ hm⟩

end Template

end TypedTree
