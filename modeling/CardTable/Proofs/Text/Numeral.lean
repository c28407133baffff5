import Mathlib.Data.Nat.Digits.Defs
import CardTable.Text.Numeral

namespace CardTable
namespace Text

/-!
# Decimal numerals read back

A number is written by its digits in base ten, without a leading zero, and what
is written is read back as the number.  Digits are valued as the standard
library values them, from the left.
-/

theorem bounds_of_isDigit {c : Char} (digit : c.isDigit = true) :
    48 ≤ c.toNat ∧ c.toNat ≤ 57 :=
  Char.isDigit_iff_toNat.mp digit

theorem digitIn?_of_isDigit {c : Char} (digit : c.isDigit = true) :
    digitIn? 10 c = some (c.toNat - 48) := by
  have bounds := bounds_of_isDigit digit
  rw [digitIn?, digitValue?, if_pos digit, Option.filter_some,
    if_pos (decide_eq_true (by omega))]

theorem ofDigitChars_cons (total : Nat) (c : Char) (rest : List Char) :
    Nat.ofDigitChars 10 (c :: rest) total =
      Nat.ofDigitChars 10 rest (total * 10 + (c.toNat - 48)) := by
  rw [Nat.ofDigitChars_eq_foldl, Nat.ofDigitChars_eq_foldl, List.foldl_cons, Nat.mul_comm]
  rfl

theorem digitsFrom?_of_isDigit (total : Nat) {digits : List Char}
    (allDigits : forall c, c ∈ digits -> c.isDigit = true) :
    digitsFrom? 10 total digits = some (Nat.ofDigitChars 10 digits total) := by
  induction digits generalizing total with
  | nil => rfl
  | cons c rest inductionHypothesis =>
      have first := digitIn?_of_isDigit (allDigits c List.mem_cons_self)
      rw [digitsFrom?, first]
      dsimp only
      rw [inductionHypothesis _ fun d member => allDigits d (List.mem_cons_of_mem c member),
        ofDigitChars_cons]

theorem isDigit_of_mem_decimal {n : Nat} {c : Char} (member : c ∈ decimal n) :
    c.isDigit = true :=
  Nat.isDigit_of_mem_toDigits (by decide) (by decide) member

theorem ofDigitChars_decimal (n : Nat) : Nat.ofDigitChars 10 (decimal n) 0 = n :=
  Nat.ofDigitChars_ten_toDigits

theorem decimal_ne_nil (n : Nat) : decimal n ≠ [] :=
  Nat.toDigits_ne_nil

/-- Only the number zero is written with a leading zero. -/
theorem eq_nil_of_decimal_eq_zero_cons {n : Nat} {more : List Char}
    (leading : decimal n = '0' :: more) : more = [] := by
  have unfolded : decimal n =
      if n < 10 then [n.digitChar] else decimal (n / 10) ++ [(n % 10).digitChar] :=
    Nat.toDigits_eq_if (by decide)
  rw [unfolded] at leading
  split at leading
  · exact (List.cons.inj leading).2.symm
  · next large =>
    exfalso
    cases higher : decimal (n / 10) with
    | nil => exact decimal_ne_nil _ higher
    | cons digit others =>
        rw [higher, List.cons_append] at leading
        rw [(List.cons.inj leading).1] at higher
        have alone := eq_nil_of_decimal_eq_zero_cons higher
        rw [alone] at higher
        have value := ofDigitChars_decimal (n / 10)
        rw [higher] at value
        have vanishes : n / 10 = 0 := value.symm
        omega
termination_by n

theorem dropPlus_of_isDigit {c : Char} {rest : List Char} (digit : c.isDigit = true) :
    dropPlus (c :: rest) = c :: rest := by
  have notSign : c ≠ '+' := by
    rintro rfl
    cases digit
  rw [dropPlus, if_neg notSign]

theorem dropPlus_decimal (n : Nat) : dropPlus (decimal n) = decimal n := by
  cases digits : decimal n with
  | nil => rfl
  | cons c rest =>
      exact dropPlus_of_isDigit (isDigit_of_mem_decimal (digits ▸ List.mem_cons_self))

theorem natural?_decimal (n : Nat) : natural? 10 (decimal n) = some n := by
  have filled : (decimal n).isEmpty = false := by
    rw [List.isEmpty_eq_false_iff]
    exact decimal_ne_nil n
  rw [natural?, filled, if_neg Bool.false_ne_true,
    digitsFrom?_of_isDigit 0 fun c => isDigit_of_mem_decimal, ofDigitChars_decimal]

theorem naturalBelow?_decimal {limit n : Nat} (below : n < limit) :
    naturalBelow? limit (decimal n) = some n := by
  rw [naturalBelow?, dropPlus_decimal, natural?_decimal, Option.filter_some,
    if_pos (decide_eq_true below)]

end Text
end CardTable
