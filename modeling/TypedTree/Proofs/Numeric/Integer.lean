import TypedTree.Numeric.Decimal
import TypedTree.Numeric.Integer
import TypedTree.Proofs.Except
import TypedTree.Unicode.Property

/-!
# Spelled integers

Reading succeeds exactly for an optional sign and decimal digits whose value lies in the range of 64
bits, however many zeros come first. Digits only ever move a value away from zero, so a value that
has left the range does not come back. The printed form of an integer spells it.
-/

namespace TypedTree.Integer

open Unicode (isWhiteSpace)

/-! ### The range -/

/-- The integers of 64 bits. -/
def InRange (n : Int) : Prop :=
  least ≤ n ∧ n ≤ greatest

instance (n : Int) : Decidable (InRange n) :=
  inferInstanceAs (Decidable (least ≤ n ∧ n ≤ greatest))

theorem inRange_toInt (n : Int64) : InRange n.toInt := by
  have hlow := n.le_toInt
  have hhigh := n.toInt_lt
  simp only [InRange, least, greatest]
  omega

theorem toInt_ofInt {n : Int} (h : InRange n) : (Int64.ofInt n).toInt = n := by
  simp only [InRange, least, greatest] at h
  exact Int64.toInt_ofInt_of_le (by omega) (by omega)

theorem toInt_saturate (n : Int) : (saturate n).toInt = max least (min greatest n) := by
  refine toInt_ofInt ?_
  simp only [InRange, least, greatest]
  omega

/-! ### Signs -/

/-- A magnitude with a sign. -/
def signed (negative : Bool) (magnitude : Nat) : Int :=
  if negative then -(magnitude : Int) else magnitude

@[simp] theorem signed_false (m : Nat) : signed false m = m := rfl

@[simp] theorem signed_true (m : Nat) : signed true m = -(m : Int) := rfl

/-- The range has no gap towards zero. -/
theorem InRange.of_le {negative : Bool} {m k : Nat} (h : InRange (signed negative k))
    (hle : m ≤ k) : InRange (signed negative m) := by
  cases negative <;> simp only [InRange, signed_false, signed_true, least, greatest] at h ⊢ <;>
    omega

/-! ### Digits -/

/-- At least one decimal digit and nothing else. -/
def IsNumeral (text : List Char) : Prop :=
  text ≠ [] ∧ ∀ c ∈ text, c.isDigit = true

/-- A text spells an integer: decimal digits that may stand behind a sign. -/
inductive Spells : List Char → Int → Prop where
  | unsigned {digits} (h : IsNumeral digits) : Spells digits (digitsValue digits)
  | plus {digits} (h : IsNumeral digits) : Spells ('+' :: digits) (digitsValue digits)
  | minus {digits} (h : IsNumeral digits) : Spells ('-' :: digits) (-(digitsValue digits))

theorem le_ofDigitChars (digits : List Char) (m : Nat) : m ≤ Nat.ofDigitChars 10 digits m := by
  induction digits generalizing m with
  | nil => exact Nat.le_refl m
  | cons c digits ih =>
    rw [Nat.ofDigitChars_cons]
    exact Nat.le_trans (by omega) (ih _)

/-- A magnitude with one more digit behind it. -/
def pushDigit (m : Nat) (c : Char) : Nat :=
  10 * m + (c.toNat - '0'.toNat)

theorem signed_pushDigit {negative : Bool} {m : Nat} {c : Char} (h : c.isDigit = true) :
    signed negative (pushDigit m c) =
      if negative then 10 * signed negative m - ((c.toNat : Int) - '0'.toNat)
      else 10 * signed negative m + ((c.toNat : Int) - '0'.toNat) := by
  obtain ⟨hlow, -⟩ := Char.isDigit_iff_toNat.mp h
  have hzero : '0'.toNat = 48 := rfl
  cases negative with
  | false =>
    rw [signed_false, signed_false, pushDigit, if_neg Bool.false_ne_true]
    omega
  | true =>
    rw [signed_true, signed_true, pushDigit, if_pos rfl]
    omega

theorem readDigits_cons {negative : Bool} {m : Nat} {c : Char} (h : c.isDigit = true)
    (digits : List Char) : readDigits negative (signed negative m) (c :: digits) =
      if signed negative (pushDigit m c) < least then .error .tooSmall
      else if greatest < signed negative (pushDigit m c) then .error .tooLarge
      else readDigits negative (signed negative (pushDigit m c)) digits := by
  rw [readDigits, if_pos h, signed_pushDigit h]

/-- A digit is read as long as the value does not leave the range. -/
theorem readDigits_cons_eq_ok_iff {negative : Bool} {m : Nat} {c : Char} (h : c.isDigit = true)
    {digits : List Char} {n : Int} :
    readDigits negative (signed negative m) (c :: digits) = .ok n ↔
      InRange (signed negative (pushDigit m c)) ∧
        readDigits negative (signed negative (pushDigit m c)) digits = .ok n := by
  rw [readDigits_cons h, InRange]
  by_cases hlow : signed negative (pushDigit m c) < least
  · simp [hlow, Int.not_le.mpr hlow]
  · by_cases hhigh : greatest < signed negative (pushDigit m c)
    · simp [hlow, hhigh, Int.not_le.mpr hhigh]
    · simp [hlow, hhigh, Int.not_lt.mp hlow, Int.not_lt.mp hhigh]

/-- By induction on the digits behind a value in the range. -/
theorem readDigits_eq_ok_iff {negative : Bool} {m : Nat} {digits : List Char} {n : Int}
    (hm : InRange (signed negative m)) : readDigits negative (signed negative m) digits = .ok n ↔
      (∀ c ∈ digits, c.isDigit = true) ∧ n = signed negative (Nat.ofDigitChars 10 digits m) ∧
        InRange n := by
  induction digits generalizing m with
  | nil =>
    rw [readDigits, Except.ok.injEq, Nat.ofDigitChars_nil]
    constructor
    · rintro rfl
      exact ⟨by simp, rfl, hm⟩
    · exact fun h => h.2.1.symm
  | cons c digits ih =>
    rw [List.forall_mem_cons, Nat.ofDigitChars_cons]
    by_cases hc : c.isDigit = true
    · rw [readDigits_cons_eq_ok_iff hc]
      by_cases hr : InRange (signed negative (pushDigit m c))
      · rw [and_iff_right hr, ih hr, and_iff_right hc]
        rfl
      · refine iff_of_false (fun h => hr h.1) ?_
        rintro ⟨-, rfl, hn⟩
        exact hr (hn.of_le (le_ofDigitChars digits _))
    · rw [readDigits, if_neg hc]
      simp [hc]

theorem readDigits_zero_eq_ok_iff {negative : Bool} {digits : List Char} {n : Int}
    (hne : digits ≠ []) : readDigits negative 0 digits = .ok n ↔
      (IsNumeral digits ∧ n = signed negative (digitsValue digits)) ∧ InRange n := by
  have hzero : signed negative 0 = 0 := by cases negative <;> rfl
  have hrange : InRange (signed negative 0) := hzero ▸ by decide
  rw [← hzero, readDigits_eq_ok_iff hrange, IsNumeral, and_iff_right hne, and_assoc]
  rfl

/-! ### Signed texts -/

theorem spells_minus_iff {digits : List Char} {n : Int} : Spells ('-' :: digits) n ↔
    IsNumeral digits ∧ n = signed true (digitsValue digits) := by
  constructor
  · intro h
    cases h with
    | unsigned h => exact absurd (h.2 '-' List.mem_cons_self) (by decide)
    | minus h => exact ⟨h, rfl⟩
  · rintro ⟨h, rfl⟩
    exact .minus h

theorem spells_plus_iff {digits : List Char} {n : Int} : Spells ('+' :: digits) n ↔
    IsNumeral digits ∧ n = signed false (digitsValue digits) := by
  constructor
  · intro h
    cases h with
    | unsigned h => exact absurd (h.2 '+' List.mem_cons_self) (by decide)
    | plus h => exact ⟨h, rfl⟩
  · rintro ⟨h, rfl⟩
    exact .plus h

theorem spells_unsigned_iff {text : List Char} {n : Int} (hm : ∀ digits, text ≠ '-' :: digits)
    (hp : ∀ digits, text ≠ '+' :: digits) :
    Spells text n ↔ IsNumeral text ∧ n = signed false (digitsValue text) := by
  constructor
  · intro h
    cases h with
    | unsigned h => exact ⟨h, rfl⟩
    | plus => exact absurd rfl (hp _)
    | minus => exact absurd rfl (hm _)
  · rintro ⟨h, rfl⟩
    exact .unsigned h

theorem readSigned_eq_ok_iff {text : List Char} {n : Int} :
    readSigned text = .ok n ↔ Spells text n ∧ InRange n := by
  fun_cases readSigned text with
  | case1 =>
    rw [spells_unsigned_iff (by simp) (by simp)]
    simp [IsNumeral]
  | case2 => simp [spells_plus_iff, IsNumeral]
  | case3 => simp [spells_minus_iff, IsNumeral]
  | case4 digits hne => rw [spells_minus_iff, readDigits_zero_eq_ok_iff hne]
  | case5 digits hne => rw [spells_plus_iff, readDigits_zero_eq_ok_iff hne]
  | case6 text hne _ _ hm hp => rw [spells_unsigned_iff hm hp, readDigits_zero_eq_ok_iff hne]

/-- Reading gives the integers of 64 bits that texts spell. -/
theorem parse_eq_ok_iff {text : String} {n : Int64} :
    parse text = .ok n ↔ Spells text.toList n.toInt := by
  rw [parse, map_eq_ok_iff]
  constructor
  · rintro ⟨value, hread, rfl⟩
    obtain ⟨hspells, hrange⟩ := readSigned_eq_ok_iff.mp hread
    rwa [toInt_ofInt hrange]
  · intro h
    exact ⟨n.toInt, readSigned_eq_ok_iff.mpr ⟨h, inRange_toInt n⟩, n.ofInt_toInt⟩

/-! ### Printed integers -/

theorem isNumeral_toDigits (n : Nat) : IsNumeral (Nat.toDigits 10 n) :=
  ⟨Nat.toDigits_ne_nil, fun _ hc => Nat.isDigit_of_mem_toDigits (by decide) (by decide) hc⟩

theorem digitsValue_toDigits (n : Nat) : digitsValue (Nat.toDigits 10 n) = n :=
  Nat.ofDigitChars_ten_toDigits

theorem spells_toString (n : Int) : Spells (toString n).toList n := by
  rw [Int.toString_eq_repr, Int.repr_eq_if]
  by_cases hn : 0 ≤ n
  · have hspells := Spells.unsigned (isNumeral_toDigits n.toNat)
    rw [digitsValue_toDigits, Int.toNat_of_nonneg hn] at hspells
    rwa [if_pos hn, Nat.repr_eq_ofList_toDigits, String.toList_ofList]
  · have hspells := Spells.minus (isNumeral_toDigits (-n).toNat)
    rw [digitsValue_toDigits, Int.toNat_of_nonneg (by omega), Int.neg_neg] at hspells
    simpa [hn, Nat.repr_eq_ofList_toDigits] using hspells

/-! ### White space -/

theorem isWhiteSpace_of_isDigit {c : Char} (h : c.isDigit = true) : isWhiteSpace c = false := by
  obtain ⟨hlow, hhigh⟩ := Char.isDigit_iff_toNat.mp h
  change 48 ≤ c.toNat at hlow
  change c.toNat ≤ 57 at hhigh
  simp only [isWhiteSpace, Bool.or_eq_false_iff, beq_eq_false_iff_ne, Bool.and_eq_false_iff,
    decide_eq_false_iff_not]
  omega

theorem Spells.isWhiteSpace_eq_false {text : List Char} {n : Int} (h : Spells text n) :
    ∀ c ∈ text, isWhiteSpace c = false := by
  cases h with
  | unsigned h => exact fun c hc => isWhiteSpace_of_isDigit (h.2 c hc)
  | plus h | minus h =>
    exact List.forall_mem_cons.mpr ⟨by decide, fun c hc => isWhiteSpace_of_isDigit (h.2 c hc)⟩

end TypedTree.Integer
