import CardTable.Proofs.Command.Requests

namespace CardTable
namespace Index

/-!
# Index arguments

An index is read as a number of any size, which is then held against the limit.
A machine can do with less.  It keeps one word of 32 bits, takes it ten times
and adds the next digit, and it gives up as soon as one of the two does not fit.
Both ways come to the same: the value of the digits never falls while they are
read, so what does not fit once will not fit later, and before that nothing has
wrapped.
-/

/-! ## Reading with one word -/

/-- The product of two words, if it is a word. -/
def times? (word factor : UInt32) : Option UInt32 :=
  if word.toBitVec.umulOverflow factor.toBitVec then none else some (word * factor)

/-- The sum of two words, if it is a word. -/
def plus? (word summand : UInt32) : Option UInt32 :=
  if word.toBitVec.uaddOverflow summand.toBitVec then none else some (word + summand)

/-- The word with one more decimal digit behind it. -/
def append? (word : UInt32) (c : Char) : Option UInt32 :=
  if c.isDigit then
    (times? word 10).bind fun tens => plus? tens (UInt32.ofNat (c.toNat - 48))
  else none

/-- Read an index digit by digit, with one word to hold what was read. -/
def word? (text : List Char) : Option UInt32 :=
  if Text.dropPlus text = [] then none else (Text.dropPlus text).foldlM append? 0

section

variable {word next : UInt32} {c : Char} {digits text : List Char}

theorem times?_eq_some_iff {factor : UInt32} :
    times? word factor = some next ↔ next.toNat = word.toNat * factor.toNat := by
  have fits := next.toNat_lt
  unfold times?
  by_cases overflow : word.toBitVec.umulOverflow factor.toBitVec = true
  · have large : 2 ^ 32 ≤ word.toNat * factor.toNat := of_decide_eq_true overflow
    rw [if_pos overflow]
    exact iff_of_false nofun (by omega)
  · have exact : (word * factor).toNat = word.toNat * factor.toNat :=
      BitVec.toNat_mul_of_not_umulOverflow overflow
    rw [if_neg overflow, Option.some.injEq, ← UInt32.toNat_inj, exact, eq_comm]

theorem plus?_eq_some_iff {summand : UInt32} :
    plus? word summand = some next ↔ next.toNat = word.toNat + summand.toNat := by
  have fits := next.toNat_lt
  unfold plus?
  by_cases overflow : word.toBitVec.uaddOverflow summand.toBitVec = true
  · have large : 2 ^ 32 ≤ word.toNat + summand.toNat := of_decide_eq_true overflow
    rw [if_pos overflow]
    exact iff_of_false nofun (by omega)
  · have exact : (word + summand).toNat = word.toNat + summand.toNat :=
      BitVec.toNat_add_of_not_uaddOverflow overflow
    rw [if_neg overflow, Option.some.injEq, ← UInt32.toNat_inj, exact, eq_comm]

theorem exists_word (number : Nat) (fits : number < 2 ^ 32) :
    Exists fun word : UInt32 => word.toNat = number :=
  ⟨UInt32.ofNat number, UInt32.toNat_ofNat_of_lt' fits⟩

/-- One more digit is taken exactly if the longer number fits. -/
theorem append?_eq_some_iff :
    append? word c = some next ↔
      c.isDigit = true ∧ next.toNat = word.toNat * 10 + (c.toNat - 48) := by
  rw [append?]
  by_cases digit : c.isDigit = true
  · have bounds := Text.bounds_of_isDigit digit
    have small : c.toNat - 48 < 2 ^ 32 := by omega
    have value : (UInt32.ofNat (c.toNat - 48)).toNat = c.toNat - 48 :=
      UInt32.toNat_ofNat_of_lt' small
    rw [if_pos digit, and_iff_right digit, Option.bind_eq_some_iff]
    simp only [times?_eq_some_iff, plus?_eq_some_iff, value]
    constructor
    · rintro ⟨tens, product, sum⟩
      rw [sum, product]
      rfl
    · intro sum
      have fits := next.toNat_lt
      obtain ⟨tens, product⟩ := exists_word (word.toNat * 10) (by omega)
      exact ⟨tens, product, by rw [product, sum]⟩
  · rw [if_neg digit]
    exact iff_of_false nofun fun taken => digit taken.1

/-- The value of the digits that were read is never above that of all of them. -/
theorem le_ofDigitChars (total : Nat) (digits : List Char) :
    total ≤ Nat.ofDigitChars 10 digits total := by
  rw [Nat.ofDigitChars_eq_ofDigitChars_zero]
  have grows : total ≤ 10 ^ digits.length * total :=
    Nat.le_mul_of_pos_left total (Nat.pow_pos (by decide))
  omega

/-- The word in the end is the exact value of the digits, and there is one
exactly if that value fits. -/
theorem foldlM_append?_eq_some_iff {last : UInt32} :
    digits.foldlM append? word = some last ↔
      (forall c, c ∈ digits -> c.isDigit = true) ∧
        last.toNat = Nat.ofDigitChars 10 digits word.toNat := by
  induction digits generalizing word with
  | nil =>
      rw [List.foldlM_nil, Nat.ofDigitChars_nil, and_iff_right (List.forall_mem_nil _),
        UInt32.toNat_inj, eq_comm (a := last)]
      exact Option.some_inj
  | cons c rest inductionHypothesis =>
      rw [List.foldlM_cons, Option.bind_eq_bind, Option.bind_eq_some_iff, List.forall_mem_cons,
        Text.ofDigitChars_cons]
      simp only [append?_eq_some_iff, inductionHypothesis]
      constructor
      · rintro ⟨next, ⟨digit, longer⟩, digits, value⟩
        exact ⟨⟨digit, digits⟩, longer ▸ value⟩
      · rintro ⟨⟨digit, digits⟩, value⟩
        have fits := last.toNat_lt
        have grows := le_ofDigitChars (word.toNat * 10 + (c.toNat - 48)) rest
        obtain ⟨next, longer⟩ := exists_word (word.toNat * 10 + (c.toNat - 48)) (by omega)
        exact ⟨next, ⟨digit, longer⟩, digits, longer ▸ value⟩

theorem digits_dropPlus_iff {number : Nat} :
    Text.Digits (Text.dropPlus text) number ↔ Text.Counts text number := by
  rw [← Text.natural?_eq_some_iff, Text.natural?_dropPlus_iff]

theorem word?_eq_some_iff {index : UInt32} :
    word? text = some index ↔ Text.Counts text index.toNat := by
  rw [← digits_dropPlus_iff, word?]
  by_cases empty : Text.dropPlus text = []
  · rw [if_pos empty]
    exact iff_of_false nofun fun run => run.filled empty
  · rw [if_neg empty, foldlM_append?_eq_some_iff]
    constructor
    · rintro ⟨digits, value⟩
      exact ⟨empty, digits, value.symm⟩
    · rintro ⟨_, digits, value⟩
      exact ⟨digits, value.symm⟩

/-! ## What is no index -/

/-- The ways in which a text fails to be an index. -/
inductive NoIndex : List Char -> Prop
  | empty : NoIndex []
  /-- A plus sign and nothing else. -/
  | sign : NoIndex ['+']
  /-- A character that is no digit, a plus sign in front apart. -/
  | foreign {before after : List Char} {c : Char} (notDigit : c.isDigit = false)
      (inside : before = [] -> c ≠ '+') : NoIndex (before ++ c :: after)
  | excess {text : List Char} {number : Nat} (counts : Text.Counts text number)
      (large : 2 ^ 32 ≤ number) : NoIndex text

theorem NoIndex.not_counts (noIndex : NoIndex text) (index : UInt32) :
    ¬ Text.Counts text index.toNat := by
  intro counts
  cases noIndex with
  | empty =>
      cases counts with
      | plain run => exact run.filled rfl
  | sign =>
      cases counts with
      | plain run => exact run.head_ne rfl [] rfl
      | plus run => exact run.filled rfl
  | @foreign before after c notDigit inside =>
      have foreignTo {digits : List Char} {number : Nat} (run : Text.Digits digits number) :
          c ∉ digits := by
        intro member
        rw [run.digits c member] at notDigit
        cases notDigit
      generalize same : before ++ c :: after = whole at counts
      cases counts with
      | plain run =>
          subst same
          exact foreignTo run (List.mem_append_right before List.mem_cons_self)
      | plus run =>
          cases before with
          | nil => exact inside rfl (List.cons.inj same).1
          | cons first others =>
              rw [← (List.cons.inj same).2] at run
              exact foreignTo run (List.mem_append_right others List.mem_cons_self)
  | excess larger large =>
      have fits := index.toNat_lt
      have same := counts.unique larger
      omega

/-- At most one plus sign is dropped, and only in front. -/
theorem dropPlus_cases (text : List Char) :
    text = '+' :: Text.dropPlus text ∨
      (text = Text.dropPlus text ∧ forall rest, text ≠ '+' :: rest) := by
  cases text with
  | nil => exact Or.inr ⟨rfl, fun _ => nofun⟩
  | cons c rest =>
      rw [Text.dropPlus]
      by_cases sign : c = '+'
      · exact Or.inl (by rw [if_pos sign, sign])
      · refine Or.inr ⟨by rw [if_neg sign], fun other same => sign (List.cons.inj same).1⟩

theorem noIndex_of_foreign
    (foreign : ¬ forall c, c ∈ Text.dropPlus text -> c.isDigit = true) : NoIndex text := by
  obtain ⟨c, member, notDigit⟩ : Exists fun c => c ∈ Text.dropPlus text ∧ c.isDigit = false := by
    simpa using foreign
  obtain ⟨before, after, split⟩ := List.append_of_mem member
  rcases dropPlus_cases text with signed | ⟨unsigned, noSign⟩
  · rw [signed, split, ← List.cons_append]
    exact .foreign notDigit nofun
  · rw [unsigned, split]
    refine .foreign notDigit ?_
    rintro rfl rfl
    exact noSign after (unsigned.trans split)

/-- What is no index is exactly what denotes no number of 32 bits. -/
theorem noIndex_iff : NoIndex text ↔ forall index : UInt32, ¬ Text.Counts text index.toNat := by
  refine ⟨NoIndex.not_counts, fun other => ?_⟩
  by_cases filled : Text.dropPlus text = []
  · rcases dropPlus_cases text with signed | ⟨unsigned, _⟩
    · rw [signed, filled]
      exact .sign
    · rw [unsigned, filled]
      exact .empty
  · by_cases digits : forall c, c ∈ Text.dropPlus text -> c.isDigit = true
    · have counts : Text.Counts text (Nat.ofDigitChars 10 (Text.dropPlus text) 0) :=
        digits_dropPlus_iff.mp ⟨filled, digits, rfl⟩
      refine .excess counts ?_
      by_contra small
      obtain ⟨index, value⟩ := exists_word _ (Nat.not_le.mp small)
      exact other index (value ▸ counts)
    · exact noIndex_of_foreign digits

/-! ## Reading -/

theorem readIndex_eq (raw : String) :
    readIndex raw = (word? raw.toList).elim (.error (.badIndex raw)) .ok := by
  cases found : word? raw.toList with
  | some index => exact readIndex_ok_iff.mpr (word?_eq_some_iff.mp found)
  | none =>
      apply readIndex_of_not_counts
      intro index counts
      rw [word?_eq_some_iff.mpr counts] at found
      cases found

theorem readIndex_error_iff {raw : String} {cause : Error} :
    readIndex raw = .error cause ↔ cause = .badIndex raw ∧ NoIndex raw.toList := by
  rw [noIndex_iff]
  constructor
  · intro refused
    have other : forall index : UInt32, ¬ Text.Counts raw.toList index.toNat := by
      intro index counts
      rw [readIndex_ok_iff.mpr counts] at refused
      cases refused
    rw [readIndex_of_not_counts other] at refused
    exact ⟨(Except.error.inj refused).symm, other⟩
  · rintro ⟨rfl, other⟩
    exact readIndex_of_not_counts other

theorem exists_readIndex_iff {raw : String} {number : Nat} :
    (Exists fun index => readIndex raw = .ok index ∧ index.toNat = number) ↔
      Text.Counts raw.toList number ∧ number ≤ 4294967295 := by
  simp only [readIndex_ok_iff]
  constructor
  · rintro ⟨index, counts, rfl⟩
    exact ⟨counts, Nat.le_of_lt_succ index.toNat_lt⟩
  · rintro ⟨counts, bounded⟩
    obtain ⟨index, value⟩ := exists_word number (Nat.lt_succ_of_le bounded)
    exact ⟨index, value.symm ▸ counts, value⟩

end

theorem counts_decimal (zeros number : Nat) :
    Text.Counts (List.replicate zeros '0' ++ Text.decimal number) number := by
  refine .plain ⟨?_, ?_, ?_⟩
  · exact List.append_ne_nil_of_right_ne_nil _ (Text.decimal_ne_nil number)
  · intro c member
    rcases List.mem_append.mp member with padding | digit
    · rw [List.eq_of_mem_replicate padding]
      rfl
    · exact Text.isDigit_of_mem_decimal digit
  · rw [Nat.ofDigitChars_append, Nat.ofDigitChars_replicate_zero, Nat.mul_zero,
      Text.ofDigitChars_decimal]

/-- Indices are read exactly, whatever the length of the text.

A text is read as a number if and only if it consists of decimal digits behind
at most one plus sign, their exact value is that number, and it is at most
4294967295.  All other texts are refused as they are: empty ones, a lone sign,
those with a character that is no ASCII digit, and those whose value is too
large.  Reading with a single word that checks each product and each sum gives
the same result.  A number is read back from its decimal numeral, with any
number of zeros in front of it, exactly if it is below `2 ^ 32`. -/
theorem reading_exact :
    (forall (raw : String) (number : Nat),
      (Exists fun index => readIndex raw = .ok index ∧ index.toNat = number) ↔
        Text.Counts raw.toList number ∧ number ≤ 4294967295) ∧
    (forall (raw : String) (cause : Error),
      readIndex raw = .error cause ↔ cause = .badIndex raw ∧ NoIndex raw.toList) ∧
    (forall raw : String, (Error.badIndex raw).code.label = "BAD_INDEX") ∧
    (forall raw : String,
      readIndex raw = (word? raw.toList).elim (.error (.badIndex raw)) .ok) ∧
    (forall number : Nat,
      (Exists fun index => readIndex (toString number) = .ok index ∧ index.toNat = number) ↔
        number < 2 ^ 32) ∧
    (forall (zeros : Nat) (index : UInt32),
      readIndex (String.ofList (List.replicate zeros '0' ++ Text.decimal index.toNat)) =
        .ok index) := by
  refine ⟨fun _ _ => exists_readIndex_iff, fun _ _ => readIndex_error_iff, fun _ => rfl,
    readIndex_eq, ?_, ?_⟩
  · intro number
    have counts : Text.Counts (toString number).toList number := by
      rw [Nat.toString_eq_ofList_toDigits, String.toList_ofList]
      exact counts_decimal 0 number
    rw [exists_readIndex_iff, and_iff_right counts]
    exact Nat.lt_succ_iff.symm
  · intro zeros index
    rw [readIndex_ok_iff, String.toList_ofList]
    exact counts_decimal zeros index.toNat

/-- A zero has no minus sign, and the first number that is too large is not taken
for a small one. -/
example : readIndex "+004294967295" = .ok 4294967295 ∧
    readIndex "4294967296" = .error (.badIndex "4294967296") ∧
    readIndex "-0" = .error (.badIndex "-0") := by
  decide +kernel

end Index
end CardTable
