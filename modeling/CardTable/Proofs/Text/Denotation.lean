import CardTable.Proofs.Text.Numeral

namespace CardTable
namespace Text

/-!
# What a numeral denotes

The readers of numbers differ in the signs that they take and in the range of
the values.  None of them is said here to follow another: each is compared with
the one value that a text has as a numeral, in exact arithmetic and for texts of
any length.  A reader that has a limit gives that value when it lies within the
limit, and refuses the text otherwise; so nothing wraps and nothing is cut.
-/

/-- A run of decimal digits, and the number that it stands for. -/
structure Digits (text : List Char) (number : Nat) : Prop where
  filled : text ≠ []
  digits : forall c, c ∈ text -> c.isDigit = true
  value : Nat.ofDigitChars 10 text 0 = number

theorem digits_iff {text : List Char} {number : Nat} :
    Digits text number ↔
      text ≠ [] ∧ text.all Char.isDigit = true ∧ Nat.ofDigitChars 10 text 0 = number := by
  rw [List.all_eq_true]
  exact ⟨fun run => ⟨run.filled, run.digits, run.value⟩, fun ⟨filled, digits, value⟩ =>
    ⟨filled, digits, value⟩⟩

instance (text : List Char) (number : Nat) : Decidable (Digits text number) :=
  decidable_of_iff _ digits_iff.symm

/-- Digits behind at most one plus sign. -/
inductive Counts : List Char -> Nat -> Prop
  | plain {text : List Char} {number : Nat} (run : Digits text number) : Counts text number
  | plus {text : List Char} {number : Nat} (run : Digits text number) :
      Counts ('+' :: text) number

/-- Digits behind at most one sign, plus or minus. -/
inductive Denotes : List Char -> Int -> Prop
  | count {text : List Char} {number : Nat} (counts : Counts text number) : Denotes text number
  | minus {text : List Char} {number : Nat} (run : Digits text number) :
      Denotes ('-' :: text) (-number)

/-! ## Runs of digits -/

theorem isDigit_of_digitIn? {c : Char} {digit : Nat} (read : digitIn? 10 c = some digit) :
    c.isDigit = true := by
  unfold digitIn? digitValue? at read
  split at read
  · assumption
  · exfalso
    split at read
    · simp only [Option.filter_eq_some_iff, Option.some.injEq, decide_eq_true_eq] at read
      simp only [Bool.and_eq_true, decide_eq_true_eq] at *
      omega
    · split at read
      · simp only [Option.filter_eq_some_iff, Option.some.injEq, decide_eq_true_eq] at read
        simp only [Bool.and_eq_true, decide_eq_true_eq] at *
        omega
      · cases read

theorem isDigit_of_digitsFrom? {total number : Nat} {digits : List Char}
    (read : digitsFrom? 10 total digits = some number) :
    forall c, c ∈ digits -> c.isDigit = true := by
  induction digits generalizing total with
  | nil => simp
  | cons first rest inductionHypothesis =>
      rw [digitsFrom?] at read
      split at read
      · next digit known =>
        intro c member
        rcases List.mem_cons.mp member with rfl | later
        · exact isDigit_of_digitIn? known
        · exact inductionHypothesis read c later
      · cases read

theorem natural?_eq_some_iff {text : List Char} {number : Nat} :
    natural? 10 text = some number ↔ Digits text number := by
  unfold natural?
  constructor
  · intro read
    split at read
    · cases read
    · next filled =>
      have digits := isDigit_of_digitsFrom? read
      rw [digitsFrom?_of_isDigit 0 digits] at read
      exact ⟨by simpa using filled, digits, Option.some.inj read⟩
  · rintro ⟨filled, digits, value⟩
    rw [if_neg (by simpa using filled), digitsFrom?_of_isDigit 0 digits, value]

/-- A run of digits stands for one number. -/
theorem Digits.unique {text : List Char} {number other : Nat} (run : Digits text number)
    (again : Digits text other) : number = other :=
  run.value.symm.trans again.value

/-- No sign is a digit. -/
theorem Digits.head_ne {text : List Char} {number : Nat} (run : Digits text number) {sign : Char}
    (notDigit : sign.isDigit = false) (rest : List Char) : text ≠ sign :: rest := by
  rintro rfl
  have digit := run.digits sign List.mem_cons_self
  rw [notDigit] at digit
  cases digit

/-! ## Readers -/

theorem natural?_dropPlus_iff {text : List Char} {number : Nat} :
    natural? 10 (dropPlus text) = some number ↔ Counts text number := by
  rw [natural?_eq_some_iff]
  constructor
  · intro run
    cases text with
    | nil => exact .plain run
    | cons first rest =>
        rw [dropPlus] at run
        split at run
        · next sign =>
          subst sign
          exact .plus run
        · exact .plain run
  · intro counts
    cases counts with
    | plus run =>
        rw [dropPlus, if_pos rfl]
        exact run
    | plain run =>
        cases text with
        | nil => exact run
        | cons first rest =>
            rw [dropPlus_of_isDigit (run.digits first List.mem_cons_self)]
            exact run

theorem Counts.unique {text : List Char} {number other : Nat} (counts : Counts text number)
    (again : Counts text other) : number = other := by
  have read := natural?_dropPlus_iff.mpr counts
  rw [natural?_dropPlus_iff.mpr again] at read
  exact (Option.some.inj read).symm

/-- A reader with a limit gives the value of the numeral, if that is below the
limit. -/
theorem naturalBelow?_eq_some_iff {limit : Nat} {text : List Char} {number : Nat} :
    naturalBelow? limit text = some number ↔ Counts text number ∧ number < limit := by
  rw [naturalBelow?, Option.filter_eq_some_iff, natural?_dropPlus_iff, decide_eq_true_eq]

theorem Counts.head_ne_minus {text : List Char} {number : Nat} (counts : Counts text number)
    (rest : List Char) : text ≠ '-' :: rest := by
  cases counts with
  | plain run => exact run.head_ne rfl rest
  | plus run => simp

theorem Denotes.unique {text : List Char} {value other : Int} (denotes : Denotes text value)
    (again : Denotes text other) : value = other := by
  cases denotes with
  | count counts =>
      cases again with
      | count same => rw [counts.unique same]
      | minus run => exact absurd rfl (counts.head_ne_minus _)
  | minus run =>
      cases again with
      | count counts => exact absurd rfl (counts.head_ne_minus _)
      | minus same => rw [run.unique same]

/-- What is not negative is written without a minus sign, zero apart. -/
theorem Denotes.counts {text : List Char} {number : Nat} (denotes : Denotes text number)
    (positive : 0 < number) : Counts text number := by
  generalize same : (number : Int) = value at denotes
  cases denotes with
  | count counts => rwa [Int.ofNat.inj same]
  | minus run => omega

/-- A reader of signed numbers gives the value of the numeral, if that lies
between the limits. -/
theorem integerWithin?_eq_some_iff {limit : Nat} (positive : 0 < limit) {text : List Char}
    {value : Int} :
    integerWithin? 10 limit text = some value ↔
      Denotes text value ∧ -(limit : Int) ≤ value ∧ value < limit := by
  cases text with
  | nil =>
      refine iff_of_false (by simp [integerWithin?]) ?_
      rintro ⟨denotes, _⟩
      cases denotes with
      | count counts =>
          cases counts with
          | plain run => exact run.filled rfl
  | cons first rest =>
      rw [integerWithin?]
      split
      · next sign =>
        subst sign
        simp only [Option.map_eq_some_iff, Option.bind_eq_bind, Option.bind_eq_some_iff,
          Option.pure_def, Option.some.injEq, Option.filter_eq_some_iff, natural?_eq_some_iff,
          decide_eq_true_eq]
        constructor
        · rintro ⟨_, ⟨magnitude, ⟨run, within⟩, rfl⟩, rfl⟩
          exact ⟨.minus run, by omega, by omega⟩
        · rintro ⟨denotes, low, high⟩
          cases denotes with
          | count counts => exact absurd rfl (counts.head_ne_minus rest)
          | minus run => exact ⟨_, ⟨_, ⟨run, by omega⟩, rfl⟩, rfl⟩
      · next other =>
        simp only [Option.map_eq_some_iff, Option.filter_eq_some_iff, natural?_dropPlus_iff,
          decide_eq_true_eq]
        constructor
        · rintro ⟨number, ⟨counts, within⟩, rfl⟩
          rw [Int.ofNat_eq_natCast]
          exact ⟨.count counts, by omega, by omega⟩
        · rintro ⟨denotes, low, high⟩
          cases denotes with
          | count counts => exact ⟨_, ⟨counts, by omega⟩, rfl⟩
          | minus run => exact absurd rfl other

/-- An integer is printed by its digits, as the library prints it. -/
theorem ofList_integer (value : Int) : String.ofList (integer value) = toString value := by
  rw [Int.toString_eq_repr, integer]
  cases value with
  | ofNat number =>
      rw [if_neg (by simp), Int.repr, Nat.repr_eq_ofList_toDigits]
      rfl
  | negSucc number =>
      rw [if_pos (Int.negSucc_lt_zero number), Int.repr, Nat.repr_eq_ofList_toDigits,
        String.ofList_cons]
      rfl

/-! ## Literals -/

/-- The one decimal form that an integer has: digits without a leading zero, zero
itself apart, behind a minus sign if it is negative.  There is no negative zero. -/
inductive Literal : List Char -> Int -> Prop
  | natural {text : List Char} {number : Nat} (run : Digits text number)
      (lean : text.head? = some '0' -> text = ['0']) : Literal text number
  | negative {text : List Char} {number : Nat} (run : Digits text number)
      (lean : text.head? ≠ some '0') : Literal ('-' :: text) (-number)

theorem digitChar_of_isDigit {c : Char} (digit : c.isDigit = true) :
    Nat.digitChar (c.toNat - 48) = c := by
  have bounds := bounds_of_isDigit digit
  apply Char.toNat_inj.mp
  rw [Nat.toNat_digitChar_of_lt_ten (by omega)]
  omega

/-- Digits that follow a numeral make a longer numeral. -/
theorem decimal_append (total : Nat) (positive : 0 < total) {digits : List Char}
    (allDigits : forall c, c ∈ digits -> c.isDigit = true) :
    decimal total ++ digits = decimal (Nat.ofDigitChars 10 digits total) := by
  induction digits generalizing total with
  | nil => rw [List.append_nil]; rfl
  | cons c rest inductionHypothesis =>
      rw [List.forall_mem_cons] at allDigits
      have bounds := bounds_of_isDigit allDigits.1
      have small : c.toNat - 48 < 10 := by omega
      have joined := Nat.toDigits_append_toDigits (b := 10) (by decide) positive small
      rw [Nat.toDigits_of_lt_base small, digitChar_of_isDigit allDigits.1] at joined
      calc
        decimal total ++ c :: rest = (decimal total ++ [c]) ++ rest := by
          rw [List.append_assoc, List.singleton_append]
        _ = decimal (10 * total + (c.toNat - 48)) ++ rest := congrArg (· ++ rest) joined
        _ = decimal (Nat.ofDigitChars 10 (c :: rest) total) := by
          rw [inductionHypothesis _ (by omega) allDigits.2, ofDigitChars_cons, Nat.mul_comm]

/-- A run of digits without a leading zero is the numeral of its value. -/
theorem Digits.eq_decimal {text : List Char} {number : Nat} (run : Digits text number)
    (lean : text.head? = some '0' -> text = ['0']) : text = decimal number := by
  rcases run with ⟨filled, digits, rfl⟩
  rcases List.exists_cons_of_ne_nil filled with ⟨c, rest, rfl⟩
  rw [List.forall_mem_cons] at digits
  by_cases zero : c = '0'
  · subst zero
    cases lean rfl
    rfl
  · have bounds := bounds_of_isDigit digits.1
    have different : c.toNat ≠ 48 := fun same => zero (Char.toNat_inj.mp same)
    have small : c.toNat - 48 < 10 := by omega
    have longer := decimal_append (c.toNat - 48) (by omega) digits.2
    rw [decimal, Nat.toDigits_of_lt_base small, digitChar_of_isDigit digits.1] at longer
    rw [ofDigitChars_cons, Nat.zero_mul, Nat.zero_add, ← longer, List.singleton_append]

theorem digits_decimal (number : Nat) : Digits (decimal number) number :=
  ⟨decimal_ne_nil number, fun _ => isDigit_of_mem_decimal, ofDigitChars_decimal number⟩

/-- An integer is written as its literal. -/
theorem literal_iff {text : List Char} {value : Int} :
    Literal text value ↔ text = integer value := by
  constructor
  · intro literal
    cases literal with
    | natural run lean =>
        rw [integer, if_neg (by omega), Int.natAbs_natCast]
        exact run.eq_decimal lean
    | @negative text number run lean =>
        have positive : number ≠ 0 := by
          rintro rfl
          have zero := run.eq_decimal fun leading => absurd leading lean
          rw [zero] at lean
          exact lean rfl
        rw [integer, if_pos (by omega), Int.natAbs_neg, Int.natAbs_natCast]
        exact congrArg _ (run.eq_decimal fun leading => absurd leading lean)
  · rintro rfl
    have run := digits_decimal value.natAbs
    have lean : (decimal value.natAbs).head? = some '0' -> decimal value.natAbs = ['0'] := by
      intro leading
      rcases List.head?_eq_some_iff.mp leading with ⟨rest, same⟩
      rw [same, eq_nil_of_decimal_eq_zero_cons same]
    rw [integer]
    split
    · next below =>
      have notZero : (decimal value.natAbs).head? ≠ some '0' := by
        intro leading
        have zero := ofDigitChars_decimal value.natAbs
        rw [lean leading] at zero
        have vanishes : value.natAbs = 0 := zero.symm
        omega
      have literal := Literal.negative run notZero
      rwa [Int.ofNat_natAbs_of_nonpos (by omega), Int.neg_neg] at literal
    · next notBelow =>
      have literal := Literal.natural run lean
      rwa [Int.natAbs_of_nonneg (Int.not_lt.mp notBelow)] at literal

end Text
end CardTable
