import CardTable.Interpretation

namespace CardTable

/-!
# The player's own hand

Three commands need not name the area that they mean: a drawn card goes to the
player's own hand, a played card comes from it, and `hand` is short for it when
a card is looked at.  For each of them it is said here which lines make a
request, and which one.  A card can be looked at in both modes alike, since no
word of a command is a number.
-/

namespace Choosing

theorem toLower_of_isDigit {c : Char} (digit : c.isDigit = true) : c.toLower = c := by
  unfold Char.toLower
  apply dif_neg
  rintro ⟨upper, _⟩
  have large : 'A'.toNat ≤ c.toNat := UInt32.le_iff_toNat_le.mp upper
  have small := (Char.isDigit_iff_toNat.mp digit).2
  exact absurd (Nat.le_trans large small) (by decide)

/-- Lower case leaves numbers alone. -/
theorem map_toLower_of_isNumber {text : List Char} (number : isNumber text = true) :
    text.map Char.toLower = text := by
  have digits {rest : List Char} (all : rest.all Char.isDigit = true) :
      rest.map Char.toLower = rest := by
    rw [List.all_eq_true] at all
    have same : rest.map Char.toLower = rest.map id :=
      List.map_congr_left fun c member => toLower_of_isDigit (all c member)
    rw [same, List.map_id]
  cases text with
  | nil => cases number
  | cons c rest =>
      rw [isNumber] at number
      split at number
      · next sign =>
        rw [Bool.and_eq_true] at number
        rw [List.map_cons, digits number.2]
        rw [Bool.or_eq_true, decide_eq_true_eq, decide_eq_true_eq] at sign
        rcases sign with rfl | rfl <;> rfl
      · exact digits number

/-- No word of a command is a number, whatever the case of its letters. -/
theorem isNumber_of_ofWord? {word : String} {command : Command}
    (known : Command.ofWord? word = some command) : isNumber word.toList = false := by
  cases number : isNumber word.toList with
  | false => rfl
  | true =>
      have same : Command.folded word = word := by
        apply String.toList_inj.mp
        rw [Command.folded, String.toList_map, map_toLower_of_isNumber number]
      have found := List.find?_some known
      rw [same, Bool.or_eq_true, beq_iff_eq, beq_iff_eq] at found
      have name : isNumber command.name.toList = false := by
        cases command <;> rfl
      have letter : forall short, command.shorthand? = some short ->
          isNumber short.toList = false := by
        intro short spelled
        cases command <;> cases spelled <;> rfl
      rcases found with rfl | short
      · rw [name] at number
        cases number
      · rw [letter word short] at number
        cases number

end Choosing

namespace Command

theorem playTarget_eq_iff {roster : Roster} {dst : String} :
    playTarget roster dst = dst ++ ".play" ↔ '.' ∉ dst.toList ∧ roster.isActive dst = true := by
  have asked : (!dst.toList.contains '.' && roster.isActive dst) = true ↔
      '.' ∉ dst.toList ∧ roster.isActive dst = true := by
    rw [Bool.and_eq_true, Bool.not_eq_true', ← Bool.not_eq_true, List.contains_iff_mem]
  rw [← asked, playTarget]
  split
  · next active => exact iff_of_true rfl active
  · next inactive =>
    refine iff_of_false ?_ inactive
    intro same
    have length := congrArg String.length same
    rw [String.length_append] at length
    exact absurd length (Nat.ne_of_lt (Nat.lt_add_of_pos_right (by decide)))

theorem playTarget_of_ne {roster : Roster} {dst : String}
    (other : playTarget roster dst ≠ dst ++ ".play") :
    playTarget roster dst = dst := by
  unfold playTarget at other ⊢
  split
  · next active =>
    rw [if_pos active] at other
    exact absurd rfl other
  · rfl

theorem miscounted_request? (command : Command) (expected : Nat) (arguments : List String) :
    (miscounted command expected arguments).request? = none := by
  unfold miscounted
  split <;> rfl

theorem ofExcept_request? {Value : Type} {read : Except Error Value} {build : Value -> Request}
    {request : Request} :
    (Outcome.ofExcept (read.map fun value => .send (build value))).request? = some request ↔
      Exists fun value => read = .ok value ∧ request = build value := by
  cases read with
  | error cause => simp [Except.map, Outcome.ofExcept, Outcome.request?]
  | ok value => simp [Except.map, Outcome.ofExcept, Outcome.request?, eq_comm]

variable (identity : Identity) (roster : Roster) (arguments : List String) (request : Request)

theorem draw_request?_iff :
    (resolve identity roster draw arguments).request? = some request ↔
      arguments = [] ∧ request = .move identity.player "drawpile" 1 identity.hand := by
  cases arguments with
  | nil => simp [resolve, Outcome.request?, eq_comm]
  | cons first others => simp [resolve, miscounted_request?]

theorem play_request?_iff :
    (resolve identity roster play arguments).request? = some request ↔
      Exists fun index => Exists fun dst => Exists fun value =>
        arguments = [index, dst] ∧ readIndex index = .ok value ∧
          request = .move identity.player identity.hand value (playTarget roster dst) := by
  rcases arguments with _ | ⟨index, _ | ⟨dst, _ | ⟨third, others⟩⟩⟩
  · simp [resolve, miscounted_request?]
  · simp [resolve, miscounted_request?]
  · rw [resolve, moving, ofExcept_request?]
    constructor
    · rintro ⟨value, read, rfl⟩
      exact ⟨index, dst, value, rfl, read, rfl⟩
    · rintro ⟨_, _, value, same, read, rfl⟩
      cases same
      exact ⟨value, read, rfl⟩
  · simp [resolve, miscounted_request?]

theorem inspecting_hand_request?_iff :
    (inspecting identity ("hand" :: arguments)).request? = some request ↔
      Exists fun index => Exists fun value =>
        arguments = [index] ∧ readIndex index = .ok value ∧
          request = .inspect identity.player identity.hand value := by
  rcases arguments with _ | ⟨index, _ | ⟨second, others⟩⟩
  · simp [inspecting, miscounted_request?]
  · rw [inspecting, if_pos rfl, ofExcept_request?]
    constructor
    · rintro ⟨value, read, rfl⟩
      exact ⟨index, value, rfl, read, rfl⟩
    · rintro ⟨_, value, same, read, rfl⟩
      cases same
      exact ⟨value, read, rfl⟩
  · simp [inspecting, miscounted_request?]

end Command

namespace Session

/-- A command to inspect a card is read alike in both modes. -/
theorem interpret_inspect (session : Session) (roster : Roster) {line word : String}
    {arguments : List String} (tokens : Line.tokenize line = .ok (word :: arguments))
    (known : Command.ofWord? word = some .inspect) :
    session.interpret roster line = (Command.inspecting session.identity arguments, session) := by
  rw [interpret, tokens]
  dsimp only
  cases session.mode with
  | normal =>
      dsimp only
      rw [Command.resolveWord, known]
      rfl
  | choosing options =>
      have found := List.find?_some known
      rw [Bool.or_eq_true, beq_iff_eq, beq_iff_eq] at found
      have inspects : Command.folded word = "inspect" ∨ Command.folded word = "i" :=
        found.imp Eq.symm fun short => (Option.some.inj short).symm
      dsimp only
      rw [Choosing.answer, Choosing.isNumber_of_ofWord? known, if_neg Bool.false_ne_true]
      dsimp only
      rw [if_pos]
      rwa [Bool.or_eq_true, decide_eq_true_eq, decide_eq_true_eq]

end Session

end CardTable
