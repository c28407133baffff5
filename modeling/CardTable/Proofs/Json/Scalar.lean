import CardTable.Proofs.Json.Spelling
import CardTable.Proofs.Text.Numeral
import Mathlib.Data.List.TakeDrop
import Mathlib.Data.List.TakeWhile

namespace CardTable
namespace Json

/-!
# Reading strings and numbers

The reader takes blanks, strings and numbers from the front of a text and goes
on with what is left.  Each lemma here gives a spelling and what follows it, and
says that exactly the spelling is taken.  A number has to be kept apart from
what follows, for more digits would belong to it.
-/

/-! ## Blanks -/

theorem skipBlanks_append {blanks : List Char} (areBlanks : Blanks blanks) (text : List Char) :
    skipBlanks (blanks ++ text) = skipBlanks text :=
  List.dropWhile_append_of_pos areBlanks

theorem skipBlanks_cons {c : Char} (notBlank : isBlank c = false) (rest : List Char) :
    skipBlanks (c :: rest) = c :: rest :=
  List.dropWhile_cons_of_neg (Bool.eq_false_iff.mp notBlank)

theorem skipBlanks_eq_nil {blanks : List Char} (areBlanks : Blanks blanks) :
    skipBlanks blanks = [] :=
  List.dropWhile_eq_nil_iff.mpr areBlanks

/-- What follows does not go on with a number. -/
def Stops (text : List Char) : Prop :=
  forall c rest, text = c :: rest -> isBlank c = true ∨ c = ',' ∨ c = ']' ∨ c = '\x7d'

/-- Blanks and a separator keep a number apart from what follows. -/
theorem stops_append {blanks : List Char} (areBlanks : Blanks blanks) {c : Char}
    (separator : c = ',' ∨ c = ']' ∨ c = '\x7d') (rest : List Char) :
    Stops (blanks ++ c :: rest) := by
  intro d after same
  cases blanks with
  | nil =>
      cases same
      exact Or.inr separator
  | cons first others =>
      cases same
      exact Or.inl (areBlanks _ List.mem_cons_self)

theorem Stops.apart {c : Char} {rest : List Char} (stops : Stops (c :: rest)) :
    c.isDigit = false ∧ c ≠ '.' ∧ c ≠ 'e' ∧ c ≠ 'E' := by
  have separator : c ∈ [' ', '\n', '\t', '\r', ',', ']', '\x7d'] := by
    simpa [isBlank, or_assoc] using stops c rest rfl
  simp only [List.mem_cons, List.not_mem_nil, or_false] at separator
  rcases separator with rfl | rfl | rfl | rfl | rfl | rfl | rfl <;> decide

/-! ## Strings -/

section Characters

variable {c letter : Char} {a b d e f g h : Char} {unit high low : Nat}

theorem readString_plain (printed : 0x20 ≤ c.toNat) (notQuote : c ≠ Text.doubleQuote)
    (notBackslash : c ≠ '\\') (rest : List Char) :
    readString (c :: rest) = prepend c (readString rest) := by
  rw [readString.eq_def]
  dsimp only
  rw [if_neg notQuote, if_neg notBackslash, if_neg (Nat.not_lt.mpr printed)]

theorem readString_short (short : (letter, c) ∈ shortEscapes) (rest : List Char) :
    readString ('\\' :: letter :: rest) = prepend c (readString rest) := by
  have all : forall row, row ∈ shortEscapes -> row.1 ≠ 'u' ∧ escaped? row.1 = some row.2 := by
    decide
  rcases all (letter, c) short with ⟨notUnit, escaped⟩
  rw [readString.eq_def]
  dsimp only at notUnit escaped ⊢
  rw [if_neg (by decide), if_pos rfl, if_neg notUnit, escaped]

theorem isHighHalf_eq (unit : Nat) : isHighHalf unit = decide (HighHalf unit) :=
  (Bool.decide_and _ _).symm

theorem isLowHalf_eq (unit : Nat) : isLowHalf unit = decide (LowHalf unit) :=
  (Bool.decide_and _ _).symm

theorem readString_unit (spelled : SpellsUnit unit a b c d) (notHigh : ¬ HighHalf unit)
    (notLow : ¬ LowHalf unit) (rest : List Char) :
    readString ('\\' :: 'u' :: a :: b :: c :: d :: rest) =
      prepend (Char.ofNat unit) (readString rest) := by
  have digits : fourDigits? a b c d = some unit := spelled
  rw [readString.eq_def]
  dsimp only
  rw [if_neg (by decide), if_pos rfl, if_pos rfl, digits]
  dsimp only
  rw [isLowHalf_eq, isHighHalf_eq, decide_eq_false notLow, decide_eq_false notHigh,
    if_neg Bool.false_ne_true, if_neg Bool.false_ne_true]

theorem readString_pair (spelledHigh : SpellsUnit high a b c d) (isHigh : HighHalf high)
    (spelledLow : SpellsUnit low e f g h) (isLow : LowHalf low) (rest : List Char) :
    readString ('\\' :: 'u' :: a :: b :: c :: d :: '\\' :: 'u' :: e :: f :: g :: h :: rest) =
      prepend (joinHalves high low) (readString rest) := by
  have first : fourDigits? a b c d = some high := spelledHigh
  have second : fourDigits? e f g h = some low := spelledLow
  have notLow : ¬ LowHalf high := fun low => absurd (Nat.le_trans low.1 isHigh.2) (by decide)
  rw [readString.eq_def]
  dsimp only
  rw [if_neg (by decide), if_pos rfl, if_pos rfl, first]
  dsimp only
  rw [isLowHalf_eq, isHighHalf_eq, decide_eq_false notLow, decide_eq_true isHigh,
    if_neg Bool.false_ne_true, if_pos rfl, if_pos rfl, if_pos rfl, second]
  dsimp only
  rw [isLowHalf_eq, decide_eq_true isLow, if_pos rfl]

end Characters

theorem readString_of_spells {characters text : List Char}
    (spelled : SpellsString characters text) (rest : List Char) :
    readString (text ++ Text.doubleQuote :: rest) = .ok (characters, rest) := by
  induction spelled with
  | nil =>
      rw [List.nil_append, readString.eq_def]
      exact if_pos rfl
  | plain printed notQuote notBackslash _ inductionHypothesis =>
      rw [List.cons_append, readString_plain printed notQuote notBackslash, inductionHypothesis]
      rfl
  | short escape _ inductionHypothesis =>
      simp only [List.cons_append]
      rw [readString_short escape, inductionHypothesis]
      rfl
  | unit spelledUnit notHigh notLow _ inductionHypothesis =>
      simp only [List.cons_append]
      rw [readString_unit spelledUnit notHigh notLow, inductionHypothesis]
      rfl
  | pair spelledHigh isHigh spelledLow isLow _ inductionHypothesis =>
      simp only [List.cons_append]
      rw [readString_pair spelledHigh isHigh spelledLow isLow, inductionHypothesis]
      rfl

/-! ## Numbers -/

theorem takeDigits_append {digits rest : List Char}
    (allDigits : forall c, c ∈ digits -> c.isDigit = true) (stops : Stops rest) :
    takeDigits (digits ++ rest) = (digits, rest) := by
  rw [takeDigits, List.span_eq_takeWhile_dropWhile, List.takeWhile_append_of_pos allDigits,
    List.dropWhile_append_of_pos allDigits]
  cases rest with
  | nil => rw [List.takeWhile_nil, List.append_nil, List.dropWhile_nil]
  | cons c after =>
      have notDigit := Bool.eq_false_iff.mp stops.apart.1
      rw [List.takeWhile_cons_of_neg notDigit, List.dropWhile_cons_of_neg notDigit,
        List.append_nil]

/-- Digits of a number that fits are all kept, for no number is less than one
with fewer of its digits. -/
theorem keepDigits_of_lt (total : Nat) (digits : List Char)
    (fits : Nat.ofDigitChars 10 digits total < wholeLimit) :
    keepDigits total digits = (Nat.ofDigitChars 10 digits total, 0) := by
  induction digits generalizing total with
  | nil => rfl
  | cons c rest inductionHypothesis =>
      rw [Text.ofDigitChars_cons] at fits ⊢
      have below : total * 10 + (c.toNat - 48) < wholeLimit := by
        refine Nat.lt_of_le_of_lt ?_ fits
        rw [Nat.ofDigitChars_eq_ofDigitChars_zero]
        exact Nat.le_add_right_of_le (Nat.le_mul_of_pos_left _ (Nat.pow_pos (by decide)))
      rw [keepDigits, if_pos below, inductionHypothesis _ fits]

theorem readNumber_decimal {negative : Bool} {n : Nat} {number : Number} {rest : List Char}
    (fits : n < wholeLimit) (whole : wholeNumber negative n = some number)
    (stops : Stops rest) : readNumber negative (Text.decimal n ++ rest) = .ok (number, rest) := by
  have kept : keepDigits 0 (Text.decimal n) = (n, 0) := by
    rw [keepDigits_of_lt, Text.ofDigitChars_decimal]
    rw [Text.ofDigitChars_decimal]
    exact fits
  have read : readNumber.readInteger negative n 0 rest = .ok (number, rest) := by
    rw [readNumber.readInteger, if_pos rfl, whole]
  rw [readNumber, takeDigits_append (fun c => Text.isDigit_of_mem_decimal) stops]
  dsimp only
  cases digits : Text.decimal n with
  | nil => exact absurd digits (Text.decimal_ne_nil n)
  | cons leading more =>
      have noLeadingZero : ¬ ((decide (leading = '0') && !more.isEmpty) = true) := by
        rw [Bool.and_eq_true, decide_eq_true_eq]
        rintro ⟨rfl, filled⟩
        rw [Text.eq_nil_of_decimal_eq_zero_cons digits] at filled
        cases filled
      dsimp only
      rw [if_neg noLeadingZero, ← digits, kept]
      dsimp only
      cases rest with
      | nil => exact read
      | cons c after =>
          rcases stops.apart with ⟨_, notPoint, notSmall, notLarge⟩
          dsimp only
          rw [if_neg notPoint, if_neg (by simp [notSmall, notLarge]), read]

/-- Digits begin neither a string nor an array nor an object nor a word. -/
theorem isDigit_apart {c : Char} (digit : c.isDigit = true) :
    isBlank c = false ∧ c ≠ Text.doubleQuote ∧ c ≠ '[' ∧ c ≠ '\x7b' ∧ c ≠ '-' ∧
      c ≠ ']' := by
  have notBlank : isBlank c = false := by
    rw [Bool.eq_false_iff]
    intro blank
    simp only [isBlank, Bool.or_eq_true, decide_eq_true_eq] at blank
    rcases blank with ((rfl | rfl) | rfl) | rfl <;> cases digit
  refine ⟨notBlank, ?_, ?_, ?_, ?_, ?_⟩
  all_goals
    rintro rfl
    cases digit

theorem Fits.bounds {value : Int} (fits : Fits value) :
    -9223372036854775808 ≤ value ∧ value < 18446744073709551616 :=
  fits

theorem readValue_integer {value : Int} (fits : Fits value) {rest : List Char}
    (stops : Stops rest) (levels steps : Nat) :
    readValue levels (steps + 1) (Text.integer value ++ rest) =
      .ok (.number (.whole value), rest) := by
  rw [Text.integer]
  split
  · next negative =>
    have lower := fits.bounds.1
    have below : value.natAbs < wholeLimit := by
      rw [wholeLimit, Nat.pow_eq]
      omega
    have whole : wholeNumber true value.natAbs = some (.whole value) := by
      rw [wholeNumber, if_neg (by decide), if_pos]
      · rw [Int.ofNat_natAbs_of_nonpos (Int.le_of_lt negative), Int.neg_neg]
      · rw [Bool.and_eq_true, decide_eq_true_eq, decide_eq_true_eq, Nat.pow_eq]
        omega
    rw [List.cons_append, readValue, skipBlanks_cons (by decide)]
    dsimp only
    rw [if_neg (by decide), if_neg (by decide), if_neg (by decide), if_pos rfl,
      readNumber_decimal below whole stops]
    rfl
  · next notNegative =>
    have below : value.natAbs < wholeLimit := by
      have upper := fits.bounds.2
      rw [wholeLimit, Nat.pow_eq]
      omega
    have whole : wholeNumber false value.natAbs = some (.whole value) := by
      rw [wholeNumber, if_pos (by decide), Int.natAbs_of_nonneg (Int.not_lt.mp notNegative)]
    have read := readNumber_decimal below whole stops
    cases digits : Text.decimal value.natAbs with
    | nil => exact absurd digits (Text.decimal_ne_nil _)
    | cons c more =>
        have digit : c.isDigit = true :=
          Text.isDigit_of_mem_decimal (digits ▸ List.mem_cons_self)
        rcases isDigit_apart digit with ⟨notBlank, notQuote, notArray, notObject, notMinus, _⟩
        rw [digits] at read
        rw [List.cons_append, readValue, skipBlanks_cons notBlank]
        dsimp only
        rw [if_neg notQuote, if_neg notArray, if_neg notObject, if_neg notMinus, if_pos digit,
          ← List.cons_append, read]
        rfl

end Json
end CardTable
