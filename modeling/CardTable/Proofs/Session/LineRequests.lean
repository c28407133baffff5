import CardTable.Proofs.Command.Requests
import CardTable.Proofs.Session.ChoiceGrammar
import CardTable.Proofs.Session.TypedLine

namespace CardTable

/-!
# The request of a typed line

Whatever is typed, the request that goes out can be read off the tokens of the
line.  While no choice is pending they are a command with its arguments; while
one is pending they are the label of an option, or a command to look at a card.
Both directions hold: nothing else makes a request, and each of these lines does.
-/

namespace Choosing

theorem named_inspect_iff {word : String} :
    Command.Named word .inspect ↔ AsksForCard word := by
  simp [Command.Named, Command.words, AsksForCard]

/-- A request that answers a choice picks an option by its label, or it asks for
a card. -/
theorem request?_answer_cases {session : Session} {token : String} {arguments : List String}
    {request : Request}
    (made : (answer session token arguments).1.request? = some request) :
    (Exists fun which : UInt64 =>
      Text.Denotes token.toList which.toNat ∧ 1 ≤ which.toNat ∧
        which.toNat ≤ session.choices.length ∧
          request = .choose session.identity.player which) ∨
    (AsksForCard token ∧
      (Command.inspecting session.identity arguments).request? = some request) := by
  by_cases number : isNumber token.toList = true
  · refine Or.inl ?_
    cases picks : picked? session.choices.length token with
    | none =>
        rw [answer_of_not_picked number picks] at made
        cases made
    | some which =>
        obtain ⟨counts, below, first, last⟩ := picked?_eq_some_iff.mp picks
        have wide : (UInt64.ofNat which).toNat = which := UInt64.toNat_ofNat_of_lt' below
        rw [answer_of_picked picks] at made
        refine ⟨UInt64.ofNat which, ?_, ?_, ?_, (Option.some.inj made).symm⟩
        · rw [wide]
          exact .count counts
        · rwa [wide]
        · rwa [wide]
  · refine Or.inr ?_
    rw [isNumber_iff, not_exists] at number
    by_cases card : AsksForCard token
    · rw [answer_of_asksForCard number card] at made
      exact ⟨card, made⟩
    · by_cases again : AsksAgain token
      · rw [answer_of_asksAgain number again] at made
        cases made
      · rw [answer_of_other number card again] at made
        cases made

end Choosing

namespace Session

/-- The requests that the tokens of a line ask for in a session. -/
inductive Asks (session : Session) (roster : Roster) : String -> List String -> Request -> Prop
  /-- Any command, while no choice is pending. -/
  | command {word : String} {command : Command} {arguments : List String} {request : Request}
      (normal : session.mode = .normal) (named : Command.Named word command)
      (asks : Command.Asks session.identity roster command arguments request) :
      Asks session roster word arguments request
  /-- A look at a card, in either mode. -/
  | inspect {word : String} {arguments : List String} {request : Request}
      (named : Command.Named word .inspect)
      (asks : Command.Asks session.identity roster .inspect arguments request) :
      Asks session roster word arguments request
  /-- The label of a pending option, whatever follows it. -/
  | choose {word : String} {arguments : List String} {options : Options} {which : UInt64}
      (pending : session.mode = .choosing options) (label : Text.Denotes word.toList which.toNat)
      (first : 1 ≤ which.toNat) (last : which.toNat ≤ options.toList.length) :
      Asks session roster word arguments (.choose session.identity.player which)

variable {session : Session} {roster : Roster} {word : String} {arguments : List String}
  {request : Request}

theorem Asks.caller (asks : session.Asks roster word arguments request) :
    request.caller = session.identity.player := by
  cases asks with
  | command normal named asks => exact asks.caller
  | inspect named asks => exact asks.caller
  | choose pending label first last => rfl

theorem asks_of_request? {line : String}
    (made : (session.interpret roster line).1.request? = some request) :
    Exists fun word => Exists fun arguments =>
      Line.tokenize line = .ok (word :: arguments) ∧ session.Asks roster word arguments request := by
  unfold interpret at made
  split at made
  · cases made
  · cases made
  · next word arguments tokens =>
    refine ⟨word, arguments, tokens, ?_⟩
    cases mode : session.mode with
    | normal =>
        rw [mode] at made
        dsimp only [Command.resolveWord] at made
        split at made
        · next command known =>
          exact .command mode (Command.ofWord?_eq_some_iff.mp known)
            (Command.resolve_request?_iff.mp made)
        · cases made
    | choosing options =>
        rw [mode] at made
        have pending : session.choices = options.toList := by
          rw [choices, mode]
        rcases Choosing.request?_answer_cases made with
          ⟨which, label, first, last, rfl⟩ | ⟨card, inspects⟩
        · exact .choose mode label first (pending ▸ last)
        · have asks : (Command.resolve session.identity roster .inspect arguments).request? =
              some request := inspects
          exact .inspect (Choosing.named_inspect_iff.mpr card)
            (Command.resolve_request?_iff.mp asks)

theorem request?_of_asks {line : String} (tokens : Line.tokenize line = .ok (word :: arguments))
    (asks : session.Asks roster word arguments request) :
    (session.interpret roster line).1.request? = some request := by
  cases asks with
  | command normal named asks =>
      rw [interpret, tokens, normal]
      dsimp only
      rw [Command.resolveWord, Command.ofWord?_eq_some_iff.mpr named]
      exact Command.resolve_request?_iff.mpr asks
  | inspect named asks =>
      rw [session.interpret_inspect roster tokens (Command.ofWord?_eq_some_iff.mpr named)]
      have inspects := Command.resolve_request?_iff.mpr asks
      exact inspects
  | @choose _ options which pending label first last =>
      have offered : session.choices = options.toList := by
        rw [choices, pending]
      rw [interpret, tokens, pending]
      dsimp only
      rw [Choosing.answer_of_label label first (offered ▸ last)]
      rfl

/-- A line makes a request exactly when its tokens ask for it.

For every session, roster and line: a request goes out if and only if the line
has tokens that ask for that very request, as a command while no choice is
pending, as a look at a card in either mode, or by the label of a pending
option.  Every request speaks in the name of the player. -/
theorem requests_of_line (session : Session) (roster : Roster) (line : String) :
    (forall request, (session.interpret roster line).1.request? = some request ↔
      Exists fun word => Exists fun arguments =>
        Line.tokenize line = .ok (word :: arguments) ∧
          session.Asks roster word arguments request) ∧
    (forall request, (session.interpret roster line).1.request? = some request ->
      request.caller = session.identity.player) := by
  constructor
  · intro request
    constructor
    · exact asks_of_request?
    · rintro ⟨word, arguments, tokens, asks⟩
      exact request?_of_asks tokens asks
  · intro request made
    obtain ⟨word, arguments, tokens, asks⟩ := asks_of_request? made
    exact asks.caller

end Session
end CardTable
