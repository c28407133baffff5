import CardTable.Proofs.Client.LostChoice
import CardTable.Proofs.Client.OfferedOptions
import CardTable.Proofs.Session.ChoiceGrammar
import CardTable.Proofs.Session.PendingChoice

namespace CardTable

/-!
# Options shown once more

While a choice is pending, the player can ask for its options again.  They are
shown as a text of the client's own, so a terminal writes them as the server
spelled them, with tags and entities, whereas they were cleaned when they
arrived.  The two texts are one exactly if the list has nothing to clean.
-/

namespace Choosing

/-- A word that asks for the options once more is no number. -/
theorem AsksAgain.not_denotes {token : String} (again : AsksAgain token) (value : Int) :
    ¬ Text.Denotes token.toList value := by
  intro denotes
  have number := isNumber_iff.mpr ⟨value, denotes⟩
  have same : Command.folded token = token := by
    apply String.toList_inj.mp
    rw [Command.folded, String.toList_map, map_toLower_of_isNumber number]
  have word := asksAgain_iff.mp again
  rw [same] at word
  rcases word with rfl | rfl <;> cases number

end Choosing

namespace Client

/-- The operation neither answers a pending choice nor puts another in its
place. -/
def LeavesChoice (client : Client) : Operation -> Prop
  | .submit line => ¬ client.Picks line
  | .receive frame => forall options, Frame.read frame = .ok (.choices options) -> options = []
  | _ => True

/-- Nothing in a run answers a pending choice or puts another in its place. -/
def Undisturbed (client : Client) : List Operation -> Prop
  | [] => True
  | operation :: rest =>
      client.LeavesChoice operation ∧ (client.perform operation).client.Undisturbed rest

section

variable {client : Client} {pending : Options} {options : List String}

theorem perform_mode (mode : client.session.mode = .choosing pending) {operation : Operation}
    (leaves : client.LeavesChoice operation) :
    (client.perform operation).client.session.mode = .choosing pending := by
  cases operation with
  | submit line =>
      rcases picks_cases mode line with ⟨which, _, _, asks, _⟩ | ⟨_, same⟩
      · exact absurd ⟨which, asks⟩ leaves
      · rw [perform, same, mode]
  | receive frame =>
      dsimp only [perform, receive, LeavesChoice] at leaves ⊢
      cases found : Frame.read frame with
      | error fault => exact mode
      | ok content =>
          cases content with
          | choices options =>
              rw [leaves options found]
              exact mode
          | _ => exact mode
  | identity player room =>
      dsimp only [perform, logIn]
      split <;> exact mode
  | _ => exact mode

theorem after_mode (mode : client.session.mode = .choosing pending) {operations : List Operation}
    (undisturbed : client.Undisturbed operations) :
    (client.after operations).session.mode = .choosing pending := by
  induction operations generalizing client with
  | nil => exact mode
  | cons operation rest inductionHypothesis =>
      exact inductionHypothesis (perform_mode mode undisturbed.1) undisturbed.2

theorem after_choices (some : options ≠ []) (same : client.session.choices = options)
    {operations : List Operation} (undisturbed : client.Undisturbed operations) :
    (client.after operations).session.choices = options := by
  obtain ⟨pending, mode⟩ := (Session.choices_ne_nil_iff _).mp (same ▸ some)
  rw [Session.choices, after_mode mode undisturbed, ← same, Session.choices, mode]

/-- The options are shown as they are. -/
theorem submit_again (some : options ≠ []) (same : client.session.choices = options)
    {line word : String} {arguments : List String}
    (tokens : Line.tokenize line = .ok (word :: arguments)) (again : Choosing.AsksAgain word) :
    (client.submit line).shown = [.line ("%%% " ++ Choosing.listing options)] := by
  obtain ⟨pending, mode⟩ := (Session.choices_ne_nil_iff _).mp (same ▸ some)
  have verdict : client.verdict line = .info (Choosing.listing options) := by
    rw [Client.verdict, Session.interpret, tokens]
    dsimp only
    rw [mode]
    dsimp only
    rw [Choosing.answer_of_asksAgain again.not_denotes again, same]
  rw [submit_of_typed client (Line.ne_empty_of_tokenize tokens), verdict]
  rfl

end

/-- The texts are the same but for the marks in front of them. -/
def SameText (received shown : String) : Prop :=
  Exists fun text => received = "<<< " ++ text ++ "\n" ∧ shown = "%%% " ++ text ++ "\n"

theorem sameText_iff {received shown : String} :
    SameText ("<<< " ++ received ++ "\n") ("%%% " ++ shown ++ "\n") ↔ received = shown := by
  constructor
  · rintro ⟨text, first, second⟩
    rw [String.append_left_inj, String.append_right_inj] at first second
    rw [first, second]
  · rintro rfl
    exact ⟨received, rfl, rfl⟩

/-- Options that are asked for again are written as they came, and so they are
written as before exactly if nothing in the list is a tag or an entity.

For every list of options that arrives, in whatever client, and everything that
comes in between: the list is pending as long as no line picks an option and no
frame offers others.  While it is, a line whose first token asks for the options
has them written without cleaning. -/
theorem again_repeats_iff {client : Client} {frame : String} {options : List String}
    (offered : Frame.read frame = .ok (.choices options)) (some : options ≠ [])
    (between : List Operation) :
    let arrival := client.receive frame
    let now := arrival.client.after between
    (arrival.client.Undisturbed between -> now.session.choices = options) ∧
    forall line word arguments, now.session.choices = options ->
      Line.tokenize line = .ok (word :: arguments) -> Choosing.AsksAgain word ->
        Terminal.text arrival.shown =
          "<<< " ++ Markup.plain (Choosing.listing options) ++ "\n" ∧
        Terminal.text (now.submit line).shown = "%%% " ++ Choosing.listing options ++ "\n" ∧
        (SameText (Terminal.text arrival.shown) (Terminal.text (now.submit line).shown) ↔
          Markup.Unmarked (Choosing.listing options).toList) := by
  intro arrival now
  refine ⟨after_choices some (receive_of_choices offered some).1, ?_⟩
  intro line word arguments same tokens again
  have first : Terminal.text arrival.shown =
      "<<< " ++ Markup.plain (Choosing.listing options) ++ "\n" := text_of_choices offered some
  have second : Terminal.text (now.submit line).shown =
      "%%% " ++ Choosing.listing options ++ "\n" := by
    rw [submit_again some same tokens again, Terminal.text_line]
  refine ⟨first, second, ?_⟩
  rw [first, second, sameText_iff, Markup.plain_eq_self_iff]

/-! ## An option with an entity -/

/-- The first option was typed with an ampersand, which the server escaped. -/
def escapedList : String :=
  "\x7b\"type\":\"choices\",\"choices\":[\"Attack &amp; run\",\"Defend\"]\x7d"

theorem read_escaped :
    Frame.read escapedList = .ok (.choices ["Attack &amp; run", "Defend"]) := by
  have written : escapedList = Frame.choicesText ["Attack &amp; run", "Defend"] := by
    decide +kernel
  rw [written, Frame.read_choicesText]

theorem listing_escaped :
    Choosing.listing ["Attack &amp; run", "Defend"] =
      "Options:\n [1] Attack &amp; run\n [2] Defend" := by
  decide +kernel

theorem tokenize_again : Line.tokenize "AGAIN now" = .ok ["AGAIN", "now"] := by
  cbv

theorem asksAgain_capitals : Choosing.AsksAgain "AGAIN" := by
  rw [Choosing.asksAgain_iff]
  decide +kernel

/-- Somebody looks at a card while the options are pending. -/
theorem undisturbed_inspection :
    ((start ⟨"ada", "den"⟩ 1).receive escapedList).client.Undisturbed
      [.submit "inspect hand 0"] := by
  refine ⟨?_, trivial⟩
  rintro ⟨which, picks⟩
  have asks : (((start ⟨"ada", "den"⟩ 1).receive escapedList).client.verdict
      "inspect hand 0").request? = some (.inspect "ada" "ada.hand" 0) := by
    rw [receive, read_escaped]
    decide +kernel
  rw [asks] at picks
  cases picks

/-- The ampersand was decoded when the options arrived, and it is not when they
are asked for. -/
theorem again_shows_entity :
    let arrival := (start ⟨"ada", "den"⟩ 1).receive escapedList
    let now := arrival.client.after [.submit "inspect hand 0"]
    now.session.choices = ["Attack &amp; run", "Defend"] ∧
      Line.tokenize "AGAIN now" = .ok ["AGAIN", "now"] ∧ Choosing.AsksAgain "AGAIN" ∧
      Terminal.text (now.submit "AGAIN now").shown =
        "%%% Options:\n [1] Attack &amp; run\n [2] Defend\n" ∧
      ¬ SameText (Terminal.text arrival.shown) (Terminal.text (now.submit "AGAIN now").shown) := by
  have repeats := @again_repeats_iff (start ⟨"ada", "den"⟩ 1) _ _ read_escaped (by decide)
    [.submit "inspect hand 0"]
  have choices := repeats.1 undisturbed_inspection
  have texts := repeats.2 _ _ _ choices tokenize_again asksAgain_capitals
  refine ⟨choices, tokenize_again, asksAgain_capitals, ?_, fun same => ?_⟩
  · rw [texts.2.1, listing_escaped]
    rfl
  · have unmarked := texts.2.2.mp same
    rw [listing_escaped] at unmarked
    apply unmarked.2 _ _ .ampersand
    exact ⟨"Options:\n [1] Attack ".toList, " run\n [2] Defend".toList, rfl⟩

/-- Not everything that is asked for again is shown as it was before. -/
theorem not_again_repeats :
    ¬ forall (identity : Identity) (capacity : Nat) (earlier : List Operation) (frame : String)
      (options : List String) (between : List Operation) (line word : String)
      (arguments : List String),
      let arrival := ((start identity capacity).after earlier).receive frame
      Frame.read frame = .ok (.choices options) -> options ≠ [] ->
        arrival.client.Undisturbed between -> Line.tokenize line = .ok (word :: arguments) ->
        Choosing.AsksAgain word ->
          SameText (Terminal.text arrival.shown)
            (Terminal.text ((arrival.client.after between).submit line).shown) := by
  intro repeats
  have same := repeats ⟨"ada", "den"⟩ 1 [] escapedList _ [] "AGAIN now" "AGAIN" ["now"]
    read_escaped (by decide) trivial tokenize_again asksAgain_capitals
  have pending : ((start ⟨"ada", "den"⟩ 1).receive escapedList).client.session.choices = _ :=
    (receive_of_choices read_escaped (by decide)).1
  dsimp only [after] at same
  rw [text_of_choices read_escaped (by decide),
    submit_again (by decide) pending tokenize_again asksAgain_capitals, Terminal.text_line,
    sameText_iff, Markup.plain_eq_self_iff, listing_escaped] at same
  apply same.2 _ _ .ampersand
  exact ⟨"Options:\n [1] Attack ".toList, " run\n [2] Defend".toList, rfl⟩

end Client
end CardTable
