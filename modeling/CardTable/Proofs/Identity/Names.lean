import CardTable.Identity

namespace CardTable
namespace Identity

/-!
# Names

A player name is judged in lower case and a room name as it is.  What is
accepted is made of ASCII letters, digits and dashes alone.
-/

/-- One letter from a to z or more, and nothing else. -/
def IsName (name : String) : Prop :=
  name ≠ "" ∧ forall c, c ∈ name.toList -> 'a' ≤ c ∧ c ≤ 'z'

theorem isName_of_isPlayerName {name : String} (accepted : isPlayerName name.toList = true) :
    IsName name := by
  rw [isPlayerName, Bool.and_eq_true, Bool.not_eq_true', List.all_eq_true] at accepted
  refine ⟨?_, ?_⟩
  · rintro rfl
    cases accepted.1
  · intro c member
    have letter := accepted.2 c member
    change (decide ('a' ≤ c) && decide (c ≤ 'z')) = true at letter
    rwa [Bool.and_eq_true, decide_eq_true_eq, decide_eq_true_eq] at letter

theorem create_ok_iff {player room : String} {identity : Identity} :
    create player room = .ok identity ↔
      isPlayerName (Text.lower player).toList = true ∧ isRoomName room.toList = true ∧
        identity = ⟨Text.lower player, room⟩ := by
  unfold create
  dsimp only
  cases playerJudged : isPlayerName (Text.lower player).toList with
  | false => simp
  | true =>
      cases roomJudged : isRoomName room.toList with
      | false => simp
      | true => simp [eq_comm]

theorem create_error {player room : String} {cause : Error}
    (refused : create player room = .error cause) : cause.code = .invalidConfig := by
  unfold create at refused
  dsimp only at refused
  split at refused
  · cases refused
    rfl
  · split at refused
    · cases refused
      rfl
    · cases refused

/-- An identity that is accepted has the two names, the player's in lower case. -/
theorem of_create {player room : String} {identity : Identity}
    (accepted : create player room = .ok identity) :
    identity = ⟨Text.lower player, room⟩ ∧ IsName identity.player := by
  rcases create_ok_iff.mp accepted with ⟨playerAccepted, _, rfl⟩
  exact ⟨rfl, isName_of_isPlayerName playerAccepted⟩

theorem isAlphanum_of_mem {name : List Char} (accepted : isPlayerName name = true) :
    forall c, c ∈ name -> c.isAlphanum = true := by
  rw [isPlayerName, Bool.and_eq_true, List.all_eq_true] at accepted
  intro c member
  have letter : c.isLower = true := accepted.2 c member
  change (c.isUpper || c.isLower || c.isDigit) = true
  simp [letter]

/-- Every character of a room name is a letter, a digit or a dash. -/
theorem isAlphanum_or_dash {startOfWord : Bool} {room : List Char}
    (accepted : isRoomRest startOfWord room = true) :
    forall c, c ∈ room -> c.isAlphanum = true ∨ c = '-' := by
  induction room generalizing startOfWord with
  | nil => exact List.forall_mem_nil _
  | cons first rest inductionHypothesis =>
      rw [isRoomRest] at accepted
      split at accepted
      · next letter =>
        exact List.forall_mem_cons.mpr ⟨Or.inl letter, inductionHypothesis accepted⟩
      · simp only [Bool.and_eq_true, decide_eq_true_eq] at accepted
        exact List.forall_mem_cons.mpr ⟨Or.inr accepted.1.1, inductionHypothesis accepted.2⟩

end Identity
end CardTable
