import TypedTree.Proofs.Numeric.Integer
import TypedTree.Proofs.Numeric.Truncation
import TypedTree.Proofs.Text.Trimming
import TypedTree.Value.Coercion

/-!
# Coercion to and from integers

A text becomes the integer that it spells between white space, and the text of an integer becomes
that integer again. A finite floating-point number becomes its integer part, but one beyond the
range becomes the end of the range.
-/

namespace TypedTree

open Text (IsBlank trim)

/-! ### Integers in texts -/

/-- The text spells an integer with white space around it, or none. -/
def Integer.Reads (text : String) (n : Int) : Prop :=
  ∃ front core behind, text.toList = front ++ core ++ behind ∧ IsBlank front ∧ IsBlank behind ∧
    Spells core n

theorem Integer.reads_iff {text : String} {n : Int} :
    Reads text n ↔ Spells (trim text.toList) n := by
  constructor
  · rintro ⟨front, core, behind, htext, hf, hb, hcore⟩
    rwa [htext, Text.trim_surrounded hf hb, Text.trim_eq_self hcore.isWhiteSpace_eq_false]
  · intro h
    obtain ⟨front, behind, htext, hf, hb⟩ := Text.exists_eq_surrounded text.toList
    exact ⟨front, _, behind, htext, hf, hb, h⟩

theorem parse_trimmed_eq_ok_iff {text : String} {n : Int64} :
    Integer.parse (trimmed text) = .ok n ↔ Integer.Reads text n.toInt := by
  rw [Integer.parse_eq_ok_iff, trimmed, String.toList_ofList, Integer.reads_iff]

theorem coerce_str_eq_ok_iff {text : String} {n : Int64} :
    Ty.coerce (.scalar .int) (.str text) = .ok (.int n) ↔ Integer.Reads text n.toInt := by
  rw [← parse_trimmed_eq_ok_iff, Ty.coerce, Scalar.coerce, coerceToInt]
  cases Integer.parse (trimmed text) <;> simp

/-- A text becomes an integer or is refused. -/
theorem exists_coerce_str_eq_error_iff {text : String} :
    (∃ fault, Ty.coerce (.scalar .int) (.str text) = .error (.integer text fault)) ↔
      ∀ n : Int64, ¬ Integer.Reads text n.toInt := by
  simp only [← parse_trimmed_eq_ok_iff, Ty.coerce, Scalar.coerce, coerceToInt]
  cases Integer.parse (trimmed text) <;> simp

/-- Integers survive a trip through text, and the texts of integers are exactly those with an
optional sign and decimal digits. -/
theorem integerTexts :
    (∀ n : Int64, ∃ text, Ty.coerce (.scalar .str) (.int n) = .ok (.str text) ∧
      ∀ front behind : String, IsBlank front.toList → IsBlank behind.toList →
        Ty.coerce (.scalar .int) (.str (front ++ text ++ behind)) = .ok (.int n)) ∧
    ∀ text : String,
      (∀ n : Int64, Ty.coerce (.scalar .int) (.str text) = .ok (.int n) ↔
        Integer.Reads text n.toInt) ∧
      ((∃ fault, Ty.coerce (.scalar .int) (.str text) = .error (.integer text fault)) ↔
        ∀ n : Int64, ¬ Integer.Reads text n.toInt) := by
  constructor
  · intro n
    refine ⟨toString n.toInt, rfl, fun front behind hf hb => ?_⟩
    refine coerce_str_eq_ok_iff.mpr ⟨_, _, _, ?_, hf, hb, Integer.spells_toString n.toInt⟩
    rw [String.toList_append, String.toList_append]
  · exact fun text => ⟨fun n => coerce_str_eq_ok_iff, exists_coerce_str_eq_error_iff⟩

example : Ty.coerce (.scalar .int) (.str "\u2003-007\n") = .ok (.int (-7)) := by rfl

/-! ### Floating-point numbers -/

namespace Binary64

variable {x : Binary64}

/-- If the number becomes an integer, that is its integer part. -/
def CoercesExactly (x : Binary64) : Prop :=
  ∀ n : Int64, Ty.coerce (.scalar .int) (.float x) = .ok (.int n) → n.toInt = towardZero x.toRat

theorem coerce_of_isFinite (hx : x.isFinite = true) : Ty.coerce (.scalar .int) (.float x) =
    .ok (.int (Integer.saturate (towardZero x.toRat))) := by
  rw [Ty.coerce, Scalar.coerce, coerceToInt, if_pos hx, truncate_eq]

/-- A finite number becomes the integer of the range that is nearest to its integer part. So
nothing but the fraction is lost exactly if the integer part lies in the range. -/
theorem coercesExactly_iff (hx : x.isFinite = true) :
    (∃ n : Int64, Ty.coerce (.scalar .int) (.float x) = .ok (.int n) ∧
      n.toInt = max Integer.least (min Integer.greatest (towardZero x.toRat))) ∧
    (x.CoercesExactly ↔ Integer.InRange (towardZero x.toRat)) := by
  refine ⟨⟨_, coerce_of_isFinite hx, Integer.toInt_saturate _⟩, ?_⟩
  constructor
  · intro h
    have hexact := h _ (coerce_of_isFinite hx)
    exact hexact ▸ Integer.inRange_toInt _
  · intro hrange n hn
    rw [coerce_of_isFinite hx] at hn
    cases hn
    rw [Integer.toInt_saturate, min_eq_right hrange.2, max_eq_right hrange.1]

/-- The least integer of the range is a floating-point number. -/
theorem coercesExactly_least :
    let x : Binary64 := ⟨0xC3E0000000000000⟩
    x.isFinite = true ∧ towardZero x.toRat = Integer.least ∧ x.CoercesExactly := by
  intro x
  have hfinite : x.isFinite = true := by decide +kernel
  have hleast : towardZero x.toRat = Integer.least := by
    rw [← truncate_eq]
    decide +kernel
  have hrange : Integer.InRange (towardZero x.toRat) := hleast ▸ by decide
  exact ⟨hfinite, hleast, (coercesExactly_iff hfinite).2.mpr hrange⟩

/-- The number next to the greatest integer of the range is one more, and becomes that integer. -/
theorem not_coercesExactly :
    let x : Binary64 := ⟨0x43E0000000000000⟩
    x.isFinite = true ∧ towardZero x.toRat = Integer.greatest + 1 ∧
      Ty.coerce (.scalar .int) (.float x) = .ok (.int 9223372036854775807) ∧
      ¬ x.CoercesExactly := by
  intro x
  have hfinite : x.isFinite = true := by decide +kernel
  have hvalue : towardZero x.toRat = Integer.greatest + 1 := by
    rw [← truncate_eq]
    decide +kernel
  have hcoerce : Ty.coerce (.scalar .int) (.float x) = .ok (.int 9223372036854775807) := by
    rw [coerce_of_isFinite hfinite, hvalue]
    rfl
  refine ⟨hfinite, hvalue, hcoerce, fun h => ?_⟩
  have hexact := h _ hcoerce
  rw [hvalue] at hexact
  exact absurd hexact (by decide)

end Binary64

end TypedTree
