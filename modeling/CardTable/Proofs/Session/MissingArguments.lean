import CardTable.Interpretation

namespace CardTable

/-!
# Lines that lack arguments

A line stays in the input field when its command got too few arguments, and then
the player is told how the command is used.  The text begins in a fixed way, and
no other text does: not the help, not the options, not the report of a number
that picks nothing.  So whether a line stays can be told from what is said.
-/

namespace Outcome

/-- The player is told that arguments are missing. -/
def asksForArguments (outcome : Outcome) : Bool :=
  match outcome.text? with
  | some text => "Not enough arguments: ".toList.isPrefixOf text.toList
  | none => false

/-- The line leaves the field, and nothing is said of missing arguments. -/
def Consumed (outcome : Outcome) : Prop :=
  outcome.clearsInput = true ∧ outcome.asksForArguments = false

/-- The line is consumed, or it stays and the usage of a command is shown. -/
def ConsumedOrHint (outcome : Outcome) : Prop :=
  outcome.Consumed ∨ Exists fun command : Command => outcome = command.usageHint

theorem consumed_send (request : Request) : (send request).Consumed :=
  ⟨rfl, rfl⟩

theorem consumed_failure (cause : Error) : (failure cause).Consumed :=
  ⟨rfl, rfl⟩

theorem consumed_info {text : String} (other : (info text).asksForArguments = false) :
    (info text).Consumed :=
  ⟨rfl, other⟩

theorem consumed_ofExcept_map {Value : Type} (read : Except Error Value)
    (build : Value -> Request) :
    (ofExcept (read.map fun value => .send (build value))).Consumed := by
  cases read with
  | error cause => exact consumed_failure cause
  | ok value => exact consumed_send (build value)

/-- Whether the line leaves the field is told by what is said. -/
theorem ConsumedOrHint.clearsInput {outcome : Outcome} (settled : outcome.ConsumedOrHint) :
    outcome.clearsInput = !outcome.asksForArguments := by
  rcases settled with ⟨clears, other⟩ | ⟨command, rfl⟩
  · rw [clears, other]
    rfl
  · cases command <;> rfl

end Outcome

namespace Command

open Outcome

/-- No usage begins as the hint does. -/
theorem asksForArguments_usage (command : Command) (rest : String) :
    (info (command.usage ++ rest)).asksForArguments = false := by
  dsimp only [asksForArguments, text?]
  rw [String.toList_append]
  cases command <;> rfl

/-- Help begins with a fixed word or with the usage of a command. -/
theorem asksForArguments_helpText (words : List String) :
    (info (helpText words)).asksForArguments = false := by
  unfold helpText
  split
  · dsimp only [asksForArguments, text?]
    rw [String.toList_append]
    rfl
  · cases words.filterMap ofWord? with
    | nil =>
        dsimp only [asksForArguments, text?]
        rw [String.toList_append]
        rfl
    | cons command others =>
        dsimp only
        rw [List.map_cons]
        cases others with
        | nil =>
            rw [List.map_nil, String.intercalate_singleton, String.append_assoc]
            exact asksForArguments_usage command _
        | cons second rest =>
            rw [List.map_cons, String.intercalate_cons_cons]
            simp only [String.append_assoc]
            exact asksForArguments_usage command _

theorem miscounted_consumedOrHint (command : Command) (expected : Nat) (arguments : List String) :
    (miscounted command expected arguments).ConsumedOrHint := by
  unfold miscounted
  split
  · exact Or.inl (consumed_failure _)
  · exact Or.inr ⟨command, rfl⟩

theorem inspecting_consumedOrHint (identity : Identity) (arguments : List String) :
    (inspecting identity arguments).ConsumedOrHint := by
  unfold inspecting
  split
  · exact Or.inl (consumed_ofExcept_map _ _)
  · exact miscounted_consumedOrHint _ _ _

theorem resolve_consumedOrHint (identity : Identity) (roster : Roster) (command : Command)
    (arguments : List String) : (resolve identity roster command arguments).ConsumedOrHint := by
  unfold resolve
  split
  · exact Or.inl (consumed_info (asksForArguments_helpText _))
  · exact Or.inl (consumed_send _)
  · exact miscounted_consumedOrHint _ _ _
  · exact Or.inl (consumed_ofExcept_map _ _)
  · exact miscounted_consumedOrHint _ _ _
  · exact Or.inl (consumed_send _)
  · exact inspecting_consumedOrHint _ _
  · exact Or.inl (consumed_ofExcept_map _ _)
  · exact miscounted_consumedOrHint _ _ _
  · exact Or.inl (consumed_ofExcept_map _ _)
  · exact miscounted_consumedOrHint _ _ _
  · exact Or.inl (consumed_send _)
  · exact Or.inl (consumed_send _)

end Command

namespace Choosing

open Outcome

theorem answer_consumedOrHint (session : Session) (token : String) (arguments : List String) :
    (answer session token arguments).1.ConsumedOrHint := by
  unfold answer
  split
  · split
    · exact Or.inl (consumed_send _)
    · refine Or.inl (consumed_info ?_)
      dsimp only [asksForArguments, text?]
      simp only [String.toList_append]
      rfl
  · dsimp only
    split
    · exact Command.inspecting_consumedOrHint _ _
    · split
      · refine Or.inl (consumed_info ?_)
        dsimp only [asksForArguments, text?]
        rw [listing, String.toList_append]
        rfl
      · exact Or.inl (consumed_failure _)

end Choosing

/-- Every line is consumed, in either mode, or answered by the usage of its
command. -/
theorem Session.interpret_consumedOrHint (session : Session) (roster : Roster) (line : String) :
    (session.interpret roster line).1.ConsumedOrHint := by
  unfold interpret
  split
  · exact Or.inl (Outcome.consumed_failure _)
  · exact Or.inl (Outcome.consumed_failure _)
  · next word arguments _ =>
    cases session.mode with
    | normal =>
        dsimp only
        unfold Command.resolveWord
        split
        · exact Command.resolve_consumedOrHint _ _ _ _
        · exact Or.inl (Outcome.consumed_failure _)
    | choosing options => exact Choosing.answer_consumedOrHint session word arguments

end CardTable
