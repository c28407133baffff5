import CardTable.Proofs.Command.Words
import CardTable.Proofs.Session.OwnHand
import CardTable.Proofs.Text.Denotation

namespace CardTable

/-!
# What the commands ask for

Each command with its arguments asks for at most one request.  Which one it is
is laid down here as a relation, with a rule for each way to ask, and with the
index of a card as the number that its argument denotes.  Resolving a command
makes a request exactly when the relation has it.
-/

/-- An index is read as the number that it denotes. -/
theorem readIndex_ok_iff {raw : String} {index : UInt32} :
    readIndex raw = .ok index ↔ Text.Counts raw.toList index.toNat := by
  unfold readIndex
  constructor
  · intro read
    split at read
    · next number found =>
      have denoted := Text.naturalBelow?_eq_some_iff.mp found
      cases read
      rw [UInt32.toNat_ofNat_of_lt' denoted.2]
      exact denoted.1
    · cases read
  · intro counts
    have found : Text.naturalBelow? (Nat.pow 2 32) raw.toList = some index.toNat :=
      Text.naturalBelow?_eq_some_iff.mpr ⟨counts, index.toNat_lt⟩
    rw [found]
    dsimp only
    rw [UInt32.ofNat_toNat]

/-- A text that denotes no number below `2 ^ 32` is refused as it is. -/
theorem readIndex_of_not_counts {raw : String}
    (other : forall index : UInt32, ¬ Text.Counts raw.toList index.toNat) :
    readIndex raw = .error (.badIndex raw) := by
  cases read : readIndex raw with
  | ok index => exact absurd (readIndex_ok_iff.mp read) (other index)
  | error cause =>
      unfold readIndex at read
      split at read
      · cases read
      · exact read.symm

namespace Command

/-- The number of arguments of a command, if it is fixed. -/
def arity? : Command -> Option Nat
  | draw => some 0
  | play => some 2
  | inspect => some 2
  | discard => some 2
  | move => some 3
  | help => none
  | endTurn => none
  | say => none

/-- The requests of the commands.  All of them go out in the player's own name. -/
inductive Asks (identity : Identity) (roster : Roster) : Command -> List String -> Request -> Prop
  /-- A card from the pile to the player's own hand. -/
  | draw : Asks identity roster draw []
      (.move identity.player "drawpile" 1 (identity.player ++ ".hand"))
  /-- A card to the play area of somebody who is in the game. -/
  | playTo {index dst : String} {value : UInt32} (number : Text.Counts index.toList value.toNat)
      (undotted : '.' ∉ dst.toList) (active : roster.isActive dst = true) :
      Asks identity roster play [index, dst]
        (.move identity.player (identity.player ++ ".hand") value (dst ++ ".play"))
  | playAt {index dst : String} {value : UInt32} (number : Text.Counts index.toList value.toNat)
      (other : ¬ ('.' ∉ dst.toList ∧ roster.isActive dst = true)) :
      Asks identity roster play [index, dst]
        (.move identity.player (identity.player ++ ".hand") value dst)
  | discard {area index : String} {value : UInt32}
      (number : Text.Counts index.toList value.toNat) :
      Asks identity roster discard [area, index] (.move identity.player area value "discard")
  | move {src index dst : String} {value : UInt32}
      (number : Text.Counts index.toList value.toNat) :
      Asks identity roster move [src, index, dst] (.move identity.player src value dst)
  /-- The area `hand` is the player's own. -/
  | inspectHand {index : String} {value : UInt32}
      (number : Text.Counts index.toList value.toNat) :
      Asks identity roster inspect ["hand", index]
        (.inspect identity.player (identity.player ++ ".hand") value)
  | inspectArea {area index : String} {value : UInt32} (other : area ≠ "hand")
      (number : Text.Counts index.toList value.toNat) :
      Asks identity roster inspect [area, index] (.inspect identity.player area value)
  | endTurn (words : List String) : Asks identity roster endTurn words
      (.endTurn identity.player (String.intercalate " " words))
  | sayNothing : Asks identity roster say [] (.say identity.player none)
  | say {words : List String} (filled : words ≠ []) : Asks identity roster say words
      (.say identity.player (some (String.intercalate " " words)))

variable {identity : Identity} {roster : Roster} {command : Command} {arguments : List String}
  {request : Request}

theorem Asks.caller (asks : Asks identity roster command arguments request) :
    request.caller = identity.player := by
  cases asks <;> rfl

/-! ## The number of arguments -/

theorem Asks.length_eq (asks : Asks identity roster command arguments request) {count : Nat}
    (fixed : command.arity? = some count) : arguments.length = count := by
  cases asks <;> cases fixed <;> rfl

/-- With any other number of arguments than its own a command does nothing else
than to say so. -/
theorem resolve_of_length_ne {count : Nat} (fixed : command.arity? = some count)
    (other : arguments.length ≠ count) :
    resolve identity roster command arguments = miscounted command count arguments := by
  cases command with
  | help | endTurn | say => cases fixed
  | draw =>
      cases fixed
      cases arguments with
      | nil => exact absurd rfl other
      | cons first others => rfl
  | play | inspect | discard =>
      cases fixed
      rcases arguments with _ | ⟨first, _ | ⟨second, _ | ⟨third, others⟩⟩⟩
      case cons.cons.nil => exact absurd rfl other
      all_goals rfl
  | move =>
      cases fixed
      rcases arguments with _ | ⟨first, _ | ⟨second, _ | ⟨third, _ | ⟨fourth, others⟩⟩⟩⟩
      case cons.cons.cons.nil => exact absurd rfl other
      all_goals rfl

theorem asks_iff_of_length_ne {count : Nat} (fixed : command.arity? = some count)
    (other : arguments.length ≠ count) :
    (resolve identity roster command arguments).request? = some request ↔
      Asks identity roster command arguments request := by
  rw [resolve_of_length_ne fixed other, miscounted_request?]
  refine iff_of_false (Option.some_ne_none request).symm ?_
  intro asks
  exact other (asks.length_eq fixed)

/-! ## The request of each command -/

theorem play_asks_iff {index dst : String} :
    (resolve identity roster play [index, dst]).request? = some request ↔
      Asks identity roster play [index, dst] request := by
  rw [resolve, moving, ofExcept_request?]
  simp only [readIndex_ok_iff]
  by_cases active : '.' ∉ dst.toList ∧ roster.isActive dst = true
  · rw [playTarget_eq_iff.mpr active]
    constructor
    · rintro ⟨value, number, rfl⟩
      exact .playTo number active.1 active.2
    · intro asks
      cases asks with
      | playTo number undotted known => exact ⟨_, number, rfl⟩
      | playAt number other => exact absurd active other
  · have target : playTarget roster dst = dst :=
      playTarget_of_ne fun same => active (playTarget_eq_iff.mp same)
    rw [target]
    constructor
    · rintro ⟨value, number, rfl⟩
      exact .playAt number active
    · intro asks
      cases asks with
      | playTo number undotted known => exact absurd ⟨undotted, known⟩ active
      | playAt number other => exact ⟨_, number, rfl⟩

theorem inspecting_asks_iff {area index : String} :
    (inspecting identity [area, index]).request? = some request ↔
      Asks identity roster inspect [area, index] request := by
  rw [inspecting, ofExcept_request?]
  simp only [readIndex_ok_iff]
  by_cases own : area = "hand"
  · rw [if_pos own]
    subst own
    constructor
    · rintro ⟨value, number, rfl⟩
      exact .inspectHand number
    · intro asks
      cases asks with
      | inspectHand number => exact ⟨_, number, rfl⟩
      | inspectArea other number => exact absurd rfl other
  · rw [if_neg own]
    constructor
    · rintro ⟨value, number, rfl⟩
      exact .inspectArea own number
    · intro asks
      cases asks with
      | inspectHand number => exact absurd rfl own
      | inspectArea other number => exact ⟨_, number, rfl⟩

theorem discard_asks_iff {area index : String} :
    (resolve identity roster discard [area, index]).request? = some request ↔
      Asks identity roster discard [area, index] request := by
  rw [resolve, moving, ofExcept_request?]
  simp only [readIndex_ok_iff]
  constructor
  · rintro ⟨value, number, rfl⟩
    exact .discard number
  · intro asks
    cases asks with
    | discard number => exact ⟨_, number, rfl⟩

theorem move_asks_iff {src index dst : String} :
    (resolve identity roster move [src, index, dst]).request? = some request ↔
      Asks identity roster move [src, index, dst] request := by
  rw [resolve, moving, ofExcept_request?]
  simp only [readIndex_ok_iff]
  constructor
  · rintro ⟨value, number, rfl⟩
    exact .move number
  · intro asks
    cases asks with
    | move number => exact ⟨_, number, rfl⟩

theorem endTurn_asks_iff :
    (resolve identity roster endTurn arguments).request? = some request ↔
      Asks identity roster endTurn arguments request := by
  constructor
  · intro made
    cases made
    exact .endTurn arguments
  · intro asks
    cases asks with
    | endTurn => rfl

theorem say_asks_iff :
    (resolve identity roster say arguments).request? = some request ↔
      Asks identity roster say arguments request := by
  cases arguments with
  | nil =>
      constructor
      · intro made
        cases made
        exact .sayNothing
      · intro asks
        cases asks with
        | sayNothing => rfl
        | say filled => exact absurd rfl filled
  | cons word others =>
      constructor
      · intro made
        cases made
        exact .say (List.cons_ne_nil word others)
      · intro asks
        cases asks with
        | say filled => rfl

/-- A command makes exactly the request that it asks for. -/
theorem resolve_request?_iff :
    (resolve identity roster command arguments).request? = some request ↔
      Asks identity roster command arguments request := by
  by_cases fits : forall count, command.arity? = some count -> arguments.length = count
  · cases command with
    | help =>
        refine iff_of_false (by simp [resolve, Outcome.request?]) ?_
        intro asks
        cases asks
    | draw =>
        cases List.length_eq_zero_iff.mp (fits 0 rfl)
        constructor
        · intro made
          cases made
          exact .draw
        · intro asks
          cases asks with
          | draw => rfl
    | play =>
        obtain ⟨index, dst, rfl⟩ := List.length_eq_two.mp (fits 2 rfl)
        exact play_asks_iff
    | endTurn => exact endTurn_asks_iff
    | inspect =>
        obtain ⟨area, index, rfl⟩ := List.length_eq_two.mp (fits 2 rfl)
        exact inspecting_asks_iff
    | discard =>
        obtain ⟨area, index, rfl⟩ := List.length_eq_two.mp (fits 2 rfl)
        exact discard_asks_iff
    | move =>
        obtain ⟨src, index, dst, rfl⟩ := List.length_eq_three.mp (fits 3 rfl)
        exact move_asks_iff
    | say => exact say_asks_iff
  · simp only [not_forall] at fits
    obtain ⟨count, fixed, other⟩ := fits
    exact asks_iff_of_length_ne fixed other

end Command
end CardTable
