import CardTable.Proofs.Command.Words
import CardTable.Proofs.Session.OwnHand
import CardTable.Proofs.Text.Denotation

namespace CardTable
namespace Choosing

/-!
# The grammar of answers

Three readers look at the first token of an answer: one asks whether it is a
number at all, one reads it as the label of an option, and one reads it in order
to print it.  They differ in the signs and in the range that they take.  Here
all three are compared with the one value that the token denotes, and the answer
is told from that value alone.
-/

/-! ## The three readers -/

theorem all_isDigit_iff {text : List Char} (filled : text ≠ []) :
    text.all Char.isDigit = true ↔ Exists fun number => Text.Digits text number := by
  rw [List.all_eq_true]
  constructor
  · intro digits
    exact ⟨_, filled, digits, rfl⟩
  · rintro ⟨number, run⟩
    exact run.digits

/-- What counts as a number is what denotes one. -/
theorem isNumber_iff {text : List Char} :
    isNumber text = true ↔ Exists fun value => Text.Denotes text value := by
  cases text with
  | nil =>
      refine iff_of_false (by simp [isNumber]) ?_
      rintro ⟨value, denotes⟩
      cases denotes with
      | count counts =>
          cases counts with
          | plain run => exact run.filled rfl
  | cons first rest =>
      have all := all_isDigit_iff (List.cons_ne_nil first rest)
      rw [isNumber]
      by_cases sign : first = '+' ∨ first = '-'
      · rw [if_pos (by simpa using sign), Bool.and_eq_true, Bool.not_eq_true',
          List.isEmpty_eq_false_iff]
        constructor
        · rintro ⟨filled, digits⟩
          obtain ⟨number, run⟩ := (all_isDigit_iff filled).mp digits
          rcases sign with rfl | rfl
          · exact ⟨_, .count (.plus run)⟩
          · exact ⟨_, .minus run⟩
        · rintro ⟨value, denotes⟩
          have behind : Exists fun number => Text.Digits rest number := by
            cases denotes with
            | minus run => exact ⟨_, run⟩
            | count counts =>
                cases counts with
                | plus run => exact ⟨_, run⟩
                | plain run =>
                    rcases sign with rfl | rfl
                    · exact absurd rfl (run.head_ne rfl rest)
                    · exact absurd rfl (run.head_ne rfl rest)
          obtain ⟨number, run⟩ := behind
          exact ⟨run.filled, (all_isDigit_iff run.filled).mpr ⟨number, run⟩⟩
      · rw [if_neg (by simpa using sign), all]
        constructor
        · rintro ⟨number, run⟩
          exact ⟨_, .count (.plain run)⟩
        · rintro ⟨value, denotes⟩
          cases denotes with
          | minus run => exact absurd (Or.inr rfl) sign
          | count counts =>
              cases counts with
              | plain run => exact ⟨_, run⟩
              | plus run => exact absurd (Or.inl rfl) sign

/-- A token picks the option whose label it denotes. -/
theorem picked?_eq_some_iff {count which : Nat} {token : String} :
    picked? count token = some which ↔
      Text.Counts token.toList which ∧ which < 2 ^ 64 ∧ 1 ≤ which ∧ which ≤ count := by
  rw [picked?, Option.filter_eq_some_iff, Text.naturalBelow?_eq_some_iff, Bool.and_eq_true,
    decide_eq_true_eq, decide_eq_true_eq, and_assoc]
  rfl

/-- A number of 64 bits is shown in its one plain spelling, any other as typed. -/
theorem shownNumber_eq {token : String} {value : Int} (denotes : Text.Denotes token.toList value) :
    shownNumber token = if -2 ^ 63 ≤ value ∧ value < 2 ^ 63 then toString value else token := by
  have limit : ((Nat.pow 2 63 : Nat) : Int) = 2 ^ 63 := by decide
  have positive : 0 < Nat.pow 2 63 := by decide
  unfold shownNumber
  split
  · next read found =>
    have within := (Text.integerWithin?_eq_some_iff positive).mp found
    rw [limit] at within
    have same : read = value := within.1.unique denotes
    subst same
    rw [if_pos within.2, Text.ofList_integer]
  · next refused =>
    rw [if_neg]
    intro within
    rw [← limit] at within
    have found := (Text.integerWithin?_eq_some_iff positive).mpr ⟨denotes, within⟩
    rw [refused] at found
    cases found

/-! ## The answers -/

variable {session : Session} {token : String} {arguments : List String}

theorem answer_of_picked {which : Nat} (picks : picked? session.choices.length token = some which) :
    answer session token arguments =
      (.send (.choose session.identity.player (UInt64.ofNat which)), session.clear) := by
  have counts := (picked?_eq_some_iff.mp picks).1
  rw [answer, if_pos (isNumber_iff.mpr ⟨which, .count counts⟩), picks]

theorem answer_of_not_picked (number : isNumber token.toList = true)
    (none : picked? session.choices.length token = none) :
    answer session token arguments =
      (.info ("Index " ++ shownNumber token ++ " is out of range."), session) := by
  rw [answer, if_pos number, none]
  rfl

/-- A number that is the label of an option picks that option. -/
theorem answer_of_label {which : UInt64} (denotes : Text.Denotes token.toList which.toNat)
    (first : 1 ≤ which.toNat) (last : which.toNat ≤ session.choices.length) :
    answer session token arguments =
      (.send (.choose session.identity.player which), session.clear) := by
  have picks : picked? session.choices.length token = some which.toNat :=
    picked?_eq_some_iff.mpr ⟨denotes.counts first, which.toNat_lt, first, last⟩
  rw [answer_of_picked picks, UInt64.ofNat_toNat]

/-- Any other number is reported and changes nothing. -/
theorem answer_of_no_label {value : Int} (denotes : Text.Denotes token.toList value)
    (outside : ¬ (1 ≤ value ∧ value ≤ session.choices.length)) :
    answer session token arguments =
      (.info ("Index " ++
        (if -2 ^ 63 ≤ value ∧ value < 2 ^ 63 then toString value else token) ++
          " is out of range."), session) := by
  have none : picked? session.choices.length token = none := by
    cases picks : picked? session.choices.length token with
    | none => rfl
    | some which =>
        obtain ⟨counts, _, first, last⟩ := picked?_eq_some_iff.mp picks
        have same : (which : Int) = value := (Text.Denotes.count counts).unique denotes
        exact absurd ⟨by omega, by omega⟩ outside
  rw [answer_of_not_picked (isNumber_iff.mpr ⟨value, denotes⟩) none, shownNumber_eq denotes]

/-- The token is a word with which a card is asked for. -/
def AsksForCard (token : String) : Prop :=
  Command.Alike token "inspect" ∨ Command.Alike token "i"

/-- The token is a word with which the options are asked for once more. -/
def AsksAgain (token : String) : Prop :=
  Command.Alike token "again" ∨ Command.Alike token "a"

theorem asksForCard_iff :
    AsksForCard token ↔ Command.folded token = "inspect" ∨ Command.folded token = "i" := by
  rw [AsksForCard, Command.folded_eq_iff_alike (by decide +kernel),
    Command.folded_eq_iff_alike (by decide +kernel)]

theorem asksAgain_iff :
    AsksAgain token ↔ Command.folded token = "again" ∨ Command.folded token = "a" := by
  rw [AsksAgain, Command.folded_eq_iff_alike (by decide +kernel),
    Command.folded_eq_iff_alike (by decide +kernel)]

/-- No word asks for both. -/
theorem AsksAgain.not_asksForCard (again : AsksAgain token) : ¬ AsksForCard token := by
  rw [asksForCard_iff]
  rcases asksAgain_iff.mp again with same | same <;> rw [same] <;> decide

theorem resolveWord_inspect (identity : Identity) (roster : Roster) (arguments : List String) :
    Command.resolveWord identity roster "inspect" arguments =
      Command.inspecting identity arguments := by
  have known : Command.ofWord? "inspect" = some .inspect := by
    decide +kernel
  rw [Command.resolveWord, known]
  rfl

section Words

variable (other : forall value, ¬ Text.Denotes token.toList value)

include other

/-- A token that denotes no number is read as a word. -/
theorem answer_of_word :
    answer session token arguments =
      if Command.folded token = "inspect" || Command.folded token = "i" then
        (Command.inspecting session.identity arguments, session)
      else if Command.folded token = "again" || Command.folded token = "a" then
        (.info (listing session.choices), session)
      else (.failure (.unknownCommand token), session) := by
  have word : ¬ isNumber token.toList = true := by
    rw [isNumber_iff]
    exact not_exists.mpr other
  rw [answer, if_neg word]

theorem answer_of_asksForCard (card : AsksForCard token) :
    answer session token arguments =
      (Command.inspecting session.identity arguments, session) := by
  rw [answer_of_word other, if_pos (by simpa using asksForCard_iff.mp card)]

theorem answer_of_asksAgain (again : AsksAgain token) :
    answer session token arguments = (.info (listing session.choices), session) := by
  have card := again.not_asksForCard
  rw [asksForCard_iff] at card
  rw [answer_of_word other, if_neg (by simpa using card),
    if_pos (by simpa using asksAgain_iff.mp again)]

theorem answer_of_other (card : ¬ AsksForCard token) (again : ¬ AsksAgain token) :
    answer session token arguments = (.failure (.unknownCommand token), session) := by
  rw [asksForCard_iff] at card
  rw [asksAgain_iff] at again
  rw [answer_of_word other, if_neg (by simpa using card), if_neg (by simpa using again)]

end Words

/-- An answer is told from the value that its first token denotes, or else from
the word that it is.

For every session with fewer than `2 ^ 63` options, every token and every rest:
a number from one to the number of options picks that option and ends the
choice; any other number, of whatever length, is reported as out of range, in
plain digits if it has at most 64 bits and as typed otherwise.  A token that is
no number asks for a card, as it does while no choice is pending, or for the
options once more, or it is refused.  But for an option that is picked, the
session stays as it is. -/
theorem answer_grammar {session : Session} (bounded : session.choices.length < 2 ^ 63)
    (token : String) (arguments : List String) :
    let count := session.choices.length
    let answered := answer session token arguments
    (forall value : Int, Text.Denotes token.toList value ->
      (1 ≤ value ∧ value ≤ count ->
        (Exists fun which : UInt64 => (which.toNat : Int) = value ∧
          answered.1 = .send (.choose session.identity.player which)) ∧
        answered.2 = { session with mode := .normal } ∧ answered.2.choices = []) ∧
      (¬ (1 ≤ value ∧ value ≤ count) ->
        answered.1 = .info ("Index " ++
          (if -2 ^ 63 ≤ value ∧ value < 2 ^ 63 then toString value else token) ++
            " is out of range.") ∧
        answered.1.clearsInput = true ∧ answered.2 = session)) ∧
    ((forall value : Int, ¬ Text.Denotes token.toList value) ->
      answered.2 = session ∧
      (AsksForCard token -> forall roster,
        answered.1 = Command.resolveWord session.identity roster "inspect" arguments) ∧
      (AsksAgain token -> answered.1 = .info (listing session.choices)) ∧
      (¬ AsksForCard token -> ¬ AsksAgain token ->
        answered.1 = .failure (.unknownCommand token) ∧
          (Error.unknownCommand token).code.label = "UNKNOWN_COMMAND")) := by
  intro count answered
  constructor
  · intro value denotes
    constructor
    · rintro ⟨first, last⟩
      obtain ⟨number, rfl⟩ := Int.eq_ofNat_of_zero_le (Int.le_trans Int.one_nonneg first)
      have below : number < 2 ^ 64 := by omega
      have wide : (UInt64.ofNat number).toNat = number := UInt64.toNat_ofNat_of_lt' below
      have picked : answered =
          (.send (.choose session.identity.player (UInt64.ofNat number)), session.clear) :=
        answer_of_label (by rwa [wide]) (by omega) (by omega)
      rw [picked]
      exact ⟨⟨_, by rw [wide], rfl⟩, rfl, rfl⟩
    · intro outside
      have reported : answered = _ := answer_of_no_label denotes outside
      rw [reported]
      exact ⟨rfl, rfl, rfl⟩
  · intro other
    refine ⟨?_, ?_, ?_, ?_⟩
    · by_cases card : AsksForCard token
      · exact congrArg Prod.snd (answer_of_asksForCard other card)
      · by_cases again : AsksAgain token
        · exact congrArg Prod.snd (answer_of_asksAgain other again)
        · exact congrArg Prod.snd (answer_of_other other card again)
    · intro card roster
      rw [resolveWord_inspect]
      exact congrArg Prod.fst (answer_of_asksForCard other card)
    · intro again
      exact congrArg Prod.fst (answer_of_asksAgain other again)
    · intro card again
      exact ⟨congrArg Prod.fst (answer_of_other other card again), rfl⟩

/-- Two options are pending.  Padding and a plus sign do not matter, a zero has no
sign, and a number that is one more than `2 ^ 64` is not taken for one. -/
theorem answers_to_two_options :
    let session : Session := ⟨⟨"ada", "den"⟩, .choosing ⟨"Attack", ["Defend"]⟩⟩
    session.choices.length < 2 ^ 63 ∧
      (answer session "+002" ["now"]).2.mode = .normal ∧
      (answer session "-000" []).1 = .info "Index 0 is out of range." ∧
      (answer session "18446744073709551617" []).1 =
        .info "Index 18446744073709551617 is out of range." := by
  intro session
  have bounded : session.choices.length < 2 ^ 63 := by decide
  have second : Text.Denotes "+002".toList (2 : Nat) :=
    .count (.plus (by decide))
  have zero : Text.Denotes "-000".toList (-(0 : Nat)) :=
    .minus (by decide)
  have wide : Text.Denotes "18446744073709551617".toList (18446744073709551617 : Nat) :=
    .count (.plain (by decide))
  refine ⟨bounded, ?_, ?_, ?_⟩
  · rw [(((answer_grammar bounded "+002" ["now"]).1 _ second).1 (by decide)).2.1]
  · exact (((answer_grammar bounded "-000" []).1 _ zero).2 (by decide)).1
  · exact (((answer_grammar bounded "18446744073709551617" []).1 _ wide).2 (by decide)).1

end Choosing
end CardTable
