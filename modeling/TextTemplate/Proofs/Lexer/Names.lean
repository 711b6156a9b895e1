import TextTemplate.Proofs.Lexer.Spelling

/-!
# Names, digits and white space

What starts a name starts nothing else, and white space belongs neither to names nor to numerals.

* `isNamePart_of_isBlank`, `isDigit_of_isBlank`: the statements for white space.
* `Lexer.ne_of_class`: characters of a class are none of those that it does not have.
* `Lexer.isWord_iff`: the names of the lexer.
-/

namespace TextTemplate

open Lexer

/-! ## White space -/

/-- The code points of white space. -/
def Text.blanks : List Nat :=
  [0x09, 0x0a, 0x0b, 0x0c, 0x0d, 0x20, 0x85, 0xa0, 0x1680, 0x2000, 0x2001, 0x2002, 0x2003, 0x2004,
   0x2005, 0x2006, 0x2007, 0x2008, 0x2009, 0x200a, 0x2028, 0x2029, 0x202f, 0x205f, 0x3000]

theorem Text.mem_blanks {c : Char} (h : isBlank c = true) : c.toNat ∈ blanks := by
  simp only [isBlank, Bool.or_eq_true, Bool.and_eq_true, decide_eq_true_eq, beq_iff_eq] at h
  simp only [blanks, List.mem_cons, List.not_mem_nil, or_false]
  omega

theorem isNamePart_of_isBlank {c : Char} (h : Text.isBlank c = true) :
    Lexer.isNamePart c = false := by
  have hAll : ∀ n ∈ Text.blanks, Lexer.isNamePart (Char.ofNat n) = false := by decide +kernel
  have hc := hAll c.toNat (Text.mem_blanks h)
  rwa [Char.ofNat_toNat] at hc

theorem isDigit_of_isBlank {c : Char} (h : Text.isBlank c = true) : c.isDigit = false := by
  cases hDigit : c.isDigit with
  | false => rfl
  | true =>
    rw [(digit_starts hDigit).1] at h
    cases h

theorem ne_point_of_isBlank {c : Char} (h : Text.isBlank c = true) : (c == '.') = false := by
  cases hPoint : c == '.' with
  | false => rfl
  | true =>
    obtain rfl := beq_iff_eq.mp hPoint
    cases h

/-! ## Names -/

namespace Lexer

/-- A name for the lexer: it starts with a letter, `_` or `$` and goes on with letters, digits, `_`
and `$`. -/
def IsName (name : String) : Prop :=
  ∃ first rest, name.toList = first :: rest ∧ isNameStart first = true
    ∧ ∀ c ∈ rest, isNamePart c = true

/-- A character of a class is none of the special ones, if the class has none of them. -/
theorem ne_of_class {p : Char → Bool} {special : List Char} (hClass : special.any p = false)
    {c : Char} (h : p c = true) : ∀ d ∈ special, c ≠ d := by
  rintro d hd rfl
  exact List.any_eq_false.mp hClass c hd h

theorem isNameStart_of_isDigit {c : Char} (h : c.isDigit = true) : isNameStart c = false := by
  have hDigits : ∀ n < 10, isNameStart (Char.ofNat (48 + n)) = false := by decide +kernel
  simp only [Char.isDigit, ge_iff_le, Bool.and_eq_true, decide_eq_true_eq,
    UInt32.le_iff_toNat_le] at h
  have hLow : 48 ≤ c.toNat := h.1
  have hHigh : c.toNat ≤ 57 := h.2
  have hStart := hDigits (c.toNat - 48) (by omega)
  rwa [show 48 + (c.toNat - 48) = c.toNat by omega, Char.ofNat_toNat] at hStart

/-- What starts a name starts nothing else. -/
theorem startsWord_of_isNameStart {c : Char} (h : isNameStart c = true) : StartsWord c := by
  have hPart := isNamePart_of_isNameStart h
  refine ⟨?_, ?_, ?_, ?_, ?_, h⟩
  · cases hBlank : Text.isBlank c with
    | false => rfl
    | true =>
      rw [isNamePart_of_isBlank hBlank] at hPart
      cases hPart
  · unfold single?
    split <;> first | rfl | cases h
  · unfold operator?
    split <;> first | rfl | cases h
  · rintro (rfl | rfl) <;> cases h
  · cases hDigit : c.isDigit with
    | false => rfl
    | true =>
      rw [isNameStart_of_isDigit hDigit] at h
      cases h

theorem isWord_iff {name : String} : IsWord name ↔ IsName name := by
  constructor
  · intro h
    obtain ⟨c, rest, hChars, hStart, hRest⟩ := h.exists_cons
    exact ⟨c, rest, hChars, hStart.start, hRest⟩
  · rintro ⟨c, rest, hChars, hStart, hRest⟩
    rw [IsWord, hChars]
    exact ⟨startsWord_of_isNameStart hStart, hRest⟩

theorem isIdentifier_of_ne {name : String} (h : IsWord name)
    (hKeyword : name ≠ "true" ∧ name ≠ "false" ∧ name ≠ "null") : IsIdentifier name := by
  refine ⟨h, ?_⟩
  rw [wordToken, if_neg hKeyword.1, if_neg hKeyword.2.1, if_neg hKeyword.2.2]

end Lexer

end TextTemplate
