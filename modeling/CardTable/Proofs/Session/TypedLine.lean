import CardTable.Interpretation

namespace CardTable

/-!
# What a typed line can ask for

Two resolvers read a line, one for each mode.  Neither is opened again after
this module: what the outcome of a line may be, and what becomes of the
session, is said here once for every command and for every answer to a choice.

The session changes in one way only.  A number that picks one of the pending
options ends the choice; every other line leaves the session as it found it.
-/

namespace Request

/-- The request picks one of the options that the server offered. -/
def answersChoice : Request -> Bool
  | choose _ _ => true
  | _ => false

/-- The request asks to see a card. -/
def asksForCard : Request -> Bool
  | inspect _ _ _ => true
  | _ => false

/-- A request for a card is no answer to a choice. -/
theorem answersChoice_of_asksForCard {request : Request} (asks : request.asksForCard = true) :
    request.answersChoice = false := by
  cases request with
  | inspect => rfl
  | _ => cases asks

end Request

namespace Outcome

theorem eq_send_of_request? {outcome : Outcome} {request : Request}
    (asks : outcome.request? = some request) : outcome = .send request := by
  cases outcome with
  | send sent => exact congrArg send (Option.some.inj asks)
  | _ => cases asks

/-- Something came of the line, and the request that goes out, if there is one,
is one of the allowed ones. -/
def Within (allowed : Request -> Prop) (outcome : Outcome) : Prop :=
  outcome ≠ .nothing ∧ forall request, outcome.request? = some request -> allowed request

variable {allowed : Request -> Prop}

theorem within_send {request : Request} (allows : allowed request) :
    (send request).Within allowed := by
  constructor
  · intro impossible
    cases impossible
  · intro sent same
    cases same
    exact allows

theorem within_info (text : String) : (info text).Within allowed :=
  ⟨Outcome.noConfusion, fun _ impossible => nomatch impossible⟩

theorem within_hint (text : String) : (hint text).Within allowed :=
  ⟨Outcome.noConfusion, fun _ impossible => nomatch impossible⟩

theorem within_failure (cause : Error) : (failure cause).Within allowed :=
  ⟨Outcome.noConfusion, fun _ impossible => nomatch impossible⟩

theorem Within.mono {wider : Request -> Prop} {outcome : Outcome}
    (within : outcome.Within allowed) (widens : forall request, allowed request -> wider request) :
    outcome.Within wider :=
  ⟨within.1, fun request sent => widens request (within.2 request sent)⟩

/-- A request that hangs on an index goes out or the index is refused. -/
theorem within_ofExcept_map {Value : Type} (read : Except Error Value) (build : Value -> Request)
    (allows : forall value, allowed (build value)) :
    (ofExcept (read.map fun value => .send (build value))).Within allowed := by
  cases read with
  | error cause => exact within_failure cause
  | ok value => exact within_send (allows value)

end Outcome

namespace Command

open Outcome

/-! ## Commands -/

theorem miscounted_within {allowed : Request -> Prop} (command : Command) (expected : Nat)
    (arguments : List String) : (miscounted command expected arguments).Within allowed := by
  unfold miscounted
  split
  · exact within_failure _
  · exact within_hint _

theorem moving_within (player src index dst : String) :
    (moving player src index dst).Within fun request =>
      request.caller = player ∧ request.answersChoice = false :=
  within_ofExcept_map _ _ fun _ => ⟨rfl, rfl⟩

/-- Only a card in some area is asked for, and in the player's own name. -/
theorem inspecting_within (identity : Identity) (arguments : List String) :
    (inspecting identity arguments).Within fun request =>
      request.caller = identity.player ∧ request.asksForCard = true := by
  unfold inspecting
  split
  · exact within_ofExcept_map _ _ fun _ => ⟨rfl, rfl⟩
  · exact miscounted_within _ _ _

/-- A command speaks in the name of the player and never answers a choice. -/
theorem resolve_within (identity : Identity) (roster : Roster) (command : Command)
    (arguments : List String) :
    (resolve identity roster command arguments).Within fun request =>
      request.caller = identity.player ∧ request.answersChoice = false := by
  unfold resolve
  split
  · exact within_info _
  · exact within_send ⟨rfl, rfl⟩
  · exact miscounted_within _ _ _
  · exact moving_within _ _ _ _
  · exact miscounted_within _ _ _
  · exact within_send ⟨rfl, rfl⟩
  · exact (inspecting_within identity _).mono fun request asks =>
      ⟨asks.1, Request.answersChoice_of_asksForCard asks.2⟩
  · exact moving_within _ _ _ _
  · exact miscounted_within _ _ _
  · exact moving_within _ _ _ _
  · exact miscounted_within _ _ _
  · exact within_send ⟨rfl, rfl⟩
  · exact within_send ⟨rfl, rfl⟩

theorem resolveWord_within (identity : Identity) (roster : Roster) (word : String)
    (arguments : List String) :
    (resolveWord identity roster word arguments).Within fun request =>
      request.caller = identity.player ∧ request.answersChoice = false := by
  unfold resolveWord
  split
  · exact resolve_within _ _ _ _
  · exact within_failure _

end Command

namespace Choosing

open Outcome

/-! ## Answers to a choice -/

/-- A number picks an option only if there is one with that label. -/
theorem picked?_bounds {count which : Nat} {token : String}
    (picks : picked? count token = some which) :
    1 ≤ which ∧ which ≤ count ∧ which < Nat.pow 2 64 := by
  simp only [picked?, Text.naturalBelow?, Option.filter_eq_some_iff, Bool.and_eq_true,
    decide_eq_true_eq] at picks
  exact ⟨picks.2.1, picks.2.2, picks.1.2⟩

/-- Either a number picks a pending option, which ends the choice, or the
session stays and at most a card is asked for. -/
theorem answer_cases (session : Session) (token : String) (arguments : List String) :
    (Exists fun which : UInt64 =>
      1 ≤ which.toNat ∧ which.toNat ≤ session.choices.length ∧
        answer session token arguments =
          (.send (.choose session.identity.player which), session.clear)) ∨
    ((answer session token arguments).2 = session ∧
      (answer session token arguments).1.Within fun request =>
        request.caller = session.identity.player ∧ request.asksForCard = true) := by
  unfold answer
  split
  · split
    · next which picks =>
      have bounds := picked?_bounds picks
      refine Or.inl ⟨UInt64.ofNat which, ?_, ?_, rfl⟩
      · rw [UInt64.toNat_ofNat_of_lt' bounds.2.2]
        exact bounds.1
      · rw [UInt64.toNat_ofNat_of_lt' bounds.2.2]
        exact bounds.2.1
    · exact Or.inr ⟨rfl, within_info _⟩
  · refine Or.inr ?_
    dsimp only
    split
    · exact ⟨rfl, Command.inspecting_within _ _⟩
    · split
      · exact ⟨rfl, within_info _⟩
      · exact ⟨rfl, within_failure _⟩

end Choosing

namespace Session

open Outcome

/-! ## Lines -/

/-- The requests that leave the choice as it is: any but an answer while no
choice is pending, and only those for a card while one is. -/
def Permits (session : Session) (request : Request) : Prop :=
  request.caller = session.identity.player ∧
    match session.mode with
    | .normal => request.answersChoice = false
    | .choosing _ => request.asksForCard = true

theorem Permits.answersChoice {session : Session} {request : Request}
    (permits : session.Permits request) : request.answersChoice = false := by
  rcases permits with ⟨_, fits⟩
  split at fits
  · exact fits
  · exact Request.answersChoice_of_asksForCard fits

/-- Either the line picks a pending option, which ends the choice, or the
session stays and what goes out is permitted in it. -/
theorem interpret_cases (session : Session) (roster : Roster) (line : String) :
    (Exists fun options => Exists fun which : UInt64 =>
      session.mode = .choosing options ∧ 1 ≤ which.toNat ∧
        which.toNat ≤ options.toList.length ∧
        session.interpret roster line =
          (.send (.choose session.identity.player which), session.clear)) ∨
    ((session.interpret roster line).2 = session ∧
      (session.interpret roster line).1.Within session.Permits) := by
  unfold interpret
  split
  · exact Or.inr ⟨rfl, within_failure _⟩
  · exact Or.inr ⟨rfl, within_failure _⟩
  · next word arguments _ =>
    cases mode : session.mode with
    | normal =>
        refine Or.inr ⟨rfl, (Command.resolveWord_within _ _ word arguments).mono ?_⟩
        intro request made
        refine ⟨made.1, ?_⟩
        rw [mode]
        exact made.2
    | choosing options =>
        have pending : session.choices = options.toList := by
          rw [choices, mode]
        rcases Choosing.answer_cases session word arguments with
          ⟨which, positive, bounded, answered⟩ | ⟨same, within⟩
        · exact Or.inl ⟨options, which, rfl, positive, pending ▸ bounded, answered⟩
        · refine Or.inr ⟨same, within.mono ?_⟩
          intro request asks
          refine ⟨asks.1, ?_⟩
          rw [mode]
          exact asks.2

/-- Something comes of every line. -/
theorem interpret_ne_nothing (session : Session) (roster : Roster) (line : String) :
    (session.interpret roster line).1 ≠ .nothing := by
  rcases interpret_cases session roster line with ⟨_, _, _, _, _, answered⟩ | ⟨_, within⟩
  · rw [answered]
    exact Outcome.noConfusion
  · exact within.1

end Session
end CardTable
