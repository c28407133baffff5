import CardTable.Proofs.Client.Run

namespace CardTable

/-!
# The pending choice over a whole run

The session carries the options of the pending choice, but nothing of how it
came to them.  Here the choice is read off the history instead: a list of
options is pending when it was offered and everything after the offer left it
standing.  `Agrees.append` says that the two readings agree after every run, in
whatever order lines, offers, withdrawals and logins come.

The definition of `Pending` looks at what was asked and answered, never at a
session.  What one more event does to it (`pending_concat_iff`) is therefore a
fact about lists, and the session enters only where a step is compared with
its event.
-/

namespace Session

/-- A step, and the roster by which it is taken. -/
structure Move where
  roster : Roster
  step : Step
  deriving DecidableEq, Repr

/-- What is seen of a step from outside. -/
structure Event where
  step : Step
  answer : Answer
  deriving DecidableEq, Repr

namespace Event

/-- The request that the event put out. -/
def request? (event : Event) : Option Request :=
  match event.answer with
  | .outcome outcome => outcome.request?
  | _ => none

/-- Options were offered, and there was at least one. -/
def offers (event : Event) : Bool :=
  match event.step with
  | .choices options => !options.isEmpty
  | _ => false

/-- A line was typed that picked an option. -/
def answers (event : Event) : Bool :=
  match event.step with
  | .line _ => event.request?.any Request.answersChoice
  | _ => false

/-- A list of options that was pending before is pending still: it was neither
replaced, nor answered, nor taken back. -/
def LeavesStanding (event : Event) : Prop :=
  event.offers = false ∧ event.answers = false ∧ event.step ≠ .clear

end Event

/-- The event of a move in a session. -/
def event (session : Session) (move : Move) : Event :=
  ⟨move.step, (session.step move.roster move.step).1⟩

/-- The session that a move leaves behind. -/
def next (session : Session) (move : Move) : Session :=
  (session.step move.roster move.step).2

/-- The session after a run. -/
def after (session : Session) : List Move -> Session
  | [] => session
  | move :: rest => (session.next move).after rest

/-- The events of a run, in order. -/
def events (session : Session) : List Move -> List Event
  | [] => []
  | move :: rest => session.event move :: (session.next move).events rest

/-- These options were offered, and no later event put an end to that. -/
def Pending (history : List Event) (options : List String) : Prop :=
  options ≠ [] ∧ Exists fun earlier => Exists fun offer => Exists fun later =>
    history = earlier ++ offer :: later ∧ offer.step = .choices options ∧
      forall event, event ∈ later -> event.LeavesStanding

/-! ## What one more event does to a history -/

theorem not_pending_nil (options : List String) : ¬ Pending [] options := by
  rintro ⟨_, earlier, offer, later, split, _⟩
  cases earlier <;> cases split

/-- After one more event a list is pending if the event offers it, or if it was
pending and the event leaves it standing. -/
theorem pending_concat_iff (history : List Event) (last : Event) (options : List String) :
    Pending (history ++ [last]) options <->
      (options ≠ [] ∧ last.step = .choices options) ∨
        (last.LeavesStanding ∧ Pending history options) := by
  constructor
  · rintro ⟨filled, earlier, offer, later, split, offered, standing⟩
    rcases List.eq_nil_or_concat later with empty | ⟨others, final, parts⟩
    · subst empty
      have ends := List.append_inj' split rfl
      cases ends.2
      exact Or.inl ⟨filled, offered⟩
    · rw [List.concat_eq_append] at parts
      subst parts
      rw [← List.cons_append, ← List.append_assoc] at split
      have ends := List.append_inj' split rfl
      cases ends.2
      refine Or.inr ⟨standing last (by simp), filled, earlier, offer, others, ends.1, offered, ?_⟩
      intro event member
      exact standing event (List.mem_append_left _ member)
  · rintro (⟨filled, offered⟩ | ⟨stands, filled, earlier, offer, later, split, offered, standing⟩)
    · exact ⟨filled, history, last, [], rfl, offered, fun _ impossible => nomatch impossible⟩
    · refine ⟨filled, earlier, offer, later ++ [last], ?_, offered, ?_⟩
      · rw [split, List.append_assoc, List.cons_append]
      · intro event member
        rcases List.mem_append.mp member with before | same
        · exact standing event before
        · rw [List.mem_singleton.mp same]
          exact stands

/-- A list that is pending although an option was picked once was offered after
that, for no event behind the offer picks.  So no list outlives its answer. -/
theorem Pending.offered_since {earlier later : List Event} {pick : Event} {options : List String}
    (pending : Pending (earlier ++ pick :: later) options) (picks : pick.answers = true) :
    Exists fun event => event ∈ later ∧ event.offers = true := by
  rcases pending with ⟨filled, before, offer, rest, split, offered, standing⟩
  have offers : offer.offers = true := by
    rw [Event.offers, offered]
    cases options with
    | nil => exact absurd rfl filled
    | cons first others => rfl
  have different : pick ≠ offer := by
    rintro rfl
    rw [Event.answers, offered] at picks
    cases picks
  rcases List.append_eq_append_iff.mp split with ⟨between, _, tail⟩ | ⟨between, _, tail⟩
  · cases between with
    | nil => exact absurd (List.cons.inj tail).1 different
    | cons head between =>
        rw [List.cons_append] at tail
        refine ⟨offer, ?_, offers⟩
        rw [(List.cons.inj tail).2]
        exact List.mem_append_right _ List.mem_cons_self
  · cases between with
    | nil => exact absurd (List.cons.inj tail).1.symm different
    | cons head between =>
        rw [List.cons_append] at tail
        have member : pick ∈ rest := by
          rw [(List.cons.inj tail).2]
          exact List.mem_append_right _ List.mem_cons_self
        rw [(standing pick member).2.1] at picks
        cases picks

/-! ## What one step does to the choice -/

/-- The history and the session tell the same story. -/
def Agrees (history : List Event) (session : Session) : Prop :=
  forall options, Pending history options <-> options ≠ [] ∧ session.choices = options

theorem agrees_fresh (identity : Identity) : Agrees [] { identity := identity } := by
  intro options
  constructor
  · exact fun pending => absurd pending (not_pending_nil options)
  · rintro ⟨filled, empty⟩
    exact absurd empty.symm filled

theorem Agrees.concat_of_standing {history : List Event} {session following : Session}
    (agrees : Agrees history session) {last : Event} (stands : last.LeavesStanding)
    (offersNothing : forall options, options ≠ [] -> last.step ≠ .choices options)
    (same : following.choices = session.choices) : Agrees (history ++ [last]) following := by
  intro options
  rw [pending_concat_iff, agrees options, same]
  constructor
  · rintro (⟨filled, offered⟩ | ⟨_, pending⟩)
    · exact absurd offered (offersNothing options filled)
    · exact pending
  · exact fun pending => Or.inr ⟨stands, pending⟩

theorem agrees_concat_of_ended (history : List Event) {following : Session} {last : Event}
    (ends : ¬ last.LeavesStanding) (offersNothing : forall options, last.step ≠ .choices options)
    (empty : following.choices = []) : Agrees (history ++ [last]) following := by
  intro options
  rw [pending_concat_iff, empty]
  constructor
  · rintro (⟨_, offered⟩ | ⟨stands, _⟩)
    · exact absurd offered (offersNothing options)
    · exact absurd stands ends
  · rintro ⟨filled, same⟩
    exact absurd same.symm filled

/-- A line either answers the pending choice or leaves the whole session. -/
theorem line_cases (session : Session) (roster : Roster) (line : String) :
    (Exists fun options => Exists fun which : UInt64 =>
      session.mode = .choosing options ∧ 1 ≤ which.toNat ∧
        which.toNat ≤ options.toList.length ∧
        (session.event ⟨roster, .line line⟩).request? =
          some (.choose session.identity.player which) ∧
        session.next ⟨roster, .line line⟩ = session.clear) ∨
    (session.next ⟨roster, .line line⟩ = session ∧
      forall request, (session.event ⟨roster, .line line⟩).request? = some request ->
        session.Permits request) := by
  rcases interpret_cases session roster line with
    ⟨options, which, mode, positive, bounded, answered⟩ | ⟨same, within⟩
  · refine Or.inl ⟨options, which, mode, positive, bounded, ?_, ?_⟩
    · simp only [event, step, answered, Event.request?, Outcome.request?]
    · simp only [next, step, answered]
  · exact Or.inr ⟨same, within.2⟩

/-- One step keeps the history and the session in agreement. -/
theorem Agrees.concat {history : List Event} {session : Session} (agrees : Agrees history session)
    (move : Move) : Agrees (history ++ [session.event move]) (session.next move) := by
  rcases move with ⟨roster, step⟩
  cases step with
  | line text =>
      rcases line_cases session roster text with
        ⟨options, which, _, _, _, request, cleared⟩ | ⟨same, permitted⟩
      · apply agrees_concat_of_ended
        · intro stands
          have picks : (session.event ⟨roster, .line text⟩).answers = true := by
            change Option.any _ (session.event ⟨roster, .line text⟩).request? = true
            rw [request]
            rfl
          rw [stands.2.1] at picks
          cases picks
        · exact fun _ impossible => nomatch impossible
        · rw [cleared]
          rfl
      · refine agrees.concat_of_standing ⟨rfl, ?_, Step.noConfusion⟩
          (fun _ _ impossible => nomatch impossible) (congrArg choices same)
        change Option.any _ (session.event ⟨roster, .line text⟩).request? = false
        cases made : (session.event ⟨roster, .line text⟩).request? with
        | none => rfl
        | some request => exact (permitted request made).answersChoice
  | choices offered =>
      cases offered with
      | nil =>
          refine agrees.concat_of_standing ⟨rfl, rfl, Step.noConfusion⟩ ?_ rfl
          intro options filled same
          cases same
          exact filled rfl
      | cons first others =>
          intro options
          rw [pending_concat_iff]
          constructor
          · rintro (⟨filled, offered⟩ | ⟨stands, _⟩)
            · cases offered
              exact ⟨filled, rfl⟩
            · cases stands.1
          · rintro ⟨filled, same⟩
            subst same
            exact Or.inl ⟨filled, rfl⟩
  | clear =>
      exact agrees_concat_of_ended history (fun stands => stands.2.2 rfl)
        (fun _ impossible => nomatch impossible) rfl
  | identity player room =>
      refine agrees.concat_of_standing ⟨rfl, rfl, Step.noConfusion⟩
        (fun _ _ impossible => nomatch impossible) ?_
      simp only [next, step]
      split <;> rfl

/-! ## Whole runs -/

theorem Agrees.append {history : List Event} {session : Session} (agrees : Agrees history session)
    (moves : List Move) : Agrees (history ++ session.events moves) (session.after moves) := by
  induction moves generalizing history session with
  | nil =>
      rw [events, List.append_nil]
      exact agrees
  | cons move rest inductionHypothesis =>
      have following := inductionHypothesis (agrees.concat move)
      rw [List.append_assoc, List.singleton_append] at following
      exact following

theorem choices_ne_nil_iff (session : Session) :
    session.choices ≠ [] <-> Exists fun options => session.mode = .choosing options := by
  unfold choices
  cases session.mode with
  | normal =>
      constructor
      · exact fun different => absurd rfl different
      · rintro ⟨_, impossible⟩
        cases impossible
  | choosing options => exact ⟨fun _ => ⟨options, rfl⟩, fun _ => List.cons_ne_nil _ _⟩

/-- Only a line puts out a request. -/
theorem line_of_request? {session : Session} {move : Move} {request : Request}
    (made : (session.event move).request? = some request) :
    Exists fun text => move.step = .line text := by
  rcases move with ⟨roster, step⟩
  cases step with
  | line text => exact ⟨text, rfl⟩
  | choices offered => cases offered <;> cases made
  | clear => cases made
  | identity player room =>
      simp only [event, step] at made
      split at made <;> cases made

theorem answers_of_request? {session : Session} {move : Move} {request : Request}
    (made : (session.event move).request? = some request) :
    (session.event move).answers = request.answersChoice := by
  rcases line_of_request? made with ⟨text, typed⟩
  have line : (session.event move).step = .line text := typed
  rw [Event.answers, line, made]
  rfl

/-- A request answers the pending choice or is one that leaves the choice as it
is. -/
theorem request_cases {session : Session} {move : Move} {request : Request}
    (made : (session.event move).request? = some request) :
    (Exists fun which : UInt64 =>
      session.choices ≠ [] ∧ 1 ≤ which.toNat ∧ which.toNat ≤ session.choices.length ∧
        request = .choose session.identity.player which) ∨
    session.Permits request := by
  rcases line_of_request? made with ⟨text, typed⟩
  rcases move with ⟨roster, step⟩
  subst typed
  rcases line_cases session roster text with
    ⟨options, which, mode, positive, bounded, answered, _⟩ | ⟨_, permitted⟩
  · have pending : session.choices = options.toList := by
      rw [choices, mode]
    rw [answered] at made
    refine Or.inl ⟨which, ?_, positive, pending ▸ bounded, (Option.some.inj made).symm⟩
    exact (choices_ne_nil_iff session).mpr ⟨options, mode⟩
  · exact Or.inr (permitted request made)

end Session

/-! ## The steps that a client takes -/

namespace Client

/-- What an operation does to the session.  Most operations do nothing to it,
and none takes more than one step. -/
def sessionMoves (client : Client) : Operation -> List Session.Move
  | .submit line => if line.isEmpty then [] else [⟨client.roster, .line line⟩]
  | .receive frame =>
      match Frame.read frame with
      | .ok (.choices options) => [⟨client.roster, .choices options⟩]
      | _ => []
  | .identity player room => [⟨client.roster, .identity player room⟩]
  | _ => []

/-- An operation drives the session by its steps and in no other way, and
builds the request that the steps build. -/
def Effect.DrivenBy (effect : Effect) (session : Session) (moves : List Session.Move) : Prop :=
  effect.client.session = session.after moves ∧
    effect.built?.toList = (session.events moves).filterMap Session.Event.request?

theorem submit_driven (client : Client) (line : String) :
    (client.submit line).DrivenBy client.session (client.sessionMoves (.submit line)) := by
  by_cases empty : line = ""
  · subst empty
    exact ⟨rfl, rfl⟩
  · have moves : client.sessionMoves (.submit line) = [⟨client.roster, .line line⟩] :=
      if_neg fun same => empty (String.isEmpty_iff.mp same)
    rw [moves]
    refine ⟨client.submit_session empty, ?_⟩
    rw [client.submit_built? empty]
    change (client.verdict line).request?.toList =
      List.filterMap Session.Event.request? [⟨.line line, .outcome (client.verdict line)⟩]
    cases built : (client.verdict line).request? with
    | none => simp [Session.Event.request?, built]
    | some request => simp [Session.Event.request?, built]

/-- A frame reaches the session only when it offers options. -/
theorem receive_driven (client : Client) (frame : String) :
    (client.receive frame).DrivenBy client.session (client.sessionMoves (.receive frame)) := by
  cases found : Frame.read frame with
  | error fault =>
      simp only [receive, sessionMoves, found]
      exact ⟨rfl, rfl⟩
  | ok content =>
      cases content with
      | choices options =>
          simp only [receive, sessionMoves, found, accept]
          cases options <;> exact ⟨rfl, rfl⟩
      | _ =>
          simp only [receive, sessionMoves, found, accept]
          exact ⟨rfl, rfl⟩

theorem logIn_driven (client : Client) (player room : String) :
    (client.logIn player room).DrivenBy client.session
      (client.sessionMoves (.identity player room)) := by
  cases created : Identity.create player room <;>
    simp [Effect.DrivenBy, logIn, sessionMoves, Session.after, Session.events, Session.next,
      Session.event, Session.step, created, Effect.built?, Session.Event.request?]

theorem perform_driven (client : Client) (operation : Operation) :
    (client.perform operation).DrivenBy client.session (client.sessionMoves operation) := by
  cases operation with
  | submit line => exact client.submit_driven line
  | receive frame => exact client.receive_driven frame
  | identity player room => exact client.logIn_driven player room
  | _ => exact ⟨rfl, rfl⟩

end Client

namespace Session

/-! ## The protocol of choices -/

theorem request?_of_answers {event : Event} (answers : event.answers = true) :
    Exists fun request => event.request? = some request ∧ request.answersChoice = true := by
  unfold Event.answers at answers
  split at answers
  · exact (Option.any_eq_true _ _).mp answers
  · cases answers

/-- Once a request answers a choice, some list is pending by the history. -/
theorem Agrees.pending_of_answers {history : List Event} {session : Session}
    (agrees : Agrees history session) {move : Move}
    (answers : (session.event move).answers = true) :
    Pending history session.choices := by
  rcases request?_of_answers answers with ⟨request, made, picks⟩
  rcases request_cases made with ⟨_, filled, _⟩ | permits
  · exact (agrees session.choices).mpr ⟨filled, rfl⟩
  · rw [permits.answersChoice] at picks
    cases picks

/-- The protocol of choices, for every run from a fresh session and for
whatever move comes next.

The session is choosing exactly while a list of options is pending by the
history, and it carries that list.  A request that answers a choice answers the
pending list, with a label that the list has, and between two such requests
options were offered anew.  While a list is pending, only cards can be asked
for besides; while none is, nothing answers a choice.  A line that does not
answer leaves the session as it is.  Clients drive their sessions by these
moves alone. -/
theorem choice_protocol (identity : Identity) (moves : List Move) :
    let fresh : Session := { identity := identity }
    let session := fresh.after moves
    let history := fresh.events moves
    ((Exists fun options => session.mode = .choosing options) <-> session.choices ≠ []) ∧
    (session.choices ≠ [] <-> Exists fun options => Pending history options) ∧
    (forall options, Pending history options -> session.choices = options) ∧
    (forall move caller which, (session.event move).request? = some (.choose caller which) ->
      (session.event move).answers = true ∧ caller = session.identity.player ∧
      Exists fun options => Pending history options ∧
        1 ≤ which.toNat ∧ which.toNat ≤ options.length) ∧
    (forall first between second, (session.event first).answers = true ->
      ((session.after (first :: between)).event second).answers = true ->
      Exists fun event => event ∈ (session.next first).events between ∧ event.offers = true) ∧
    (forall move request, (session.event move).request? = some request ->
      (forall options, Pending history options ->
        request.answersChoice = true ∨ request.asksForCard = true) ∧
      ((forall options, ¬ Pending history options) -> request.answersChoice = false)) ∧
    (forall roster line, (session.event ⟨roster, .line line⟩).answers = false ->
      session.next ⟨roster, .line line⟩ = session) ∧
    (forall (client : Client) operation,
      (client.perform operation).DrivenBy client.session (client.sessionMoves operation)) := by
  intro fresh session history
  have agrees : Agrees history session := (agrees_fresh identity).append moves
  refine ⟨(choices_ne_nil_iff session).symm, ?_, ?_, ?_, ?_, ?_, ?_, Client.perform_driven⟩
  · constructor
    · exact fun filled => ⟨session.choices, (agrees session.choices).mpr ⟨filled, rfl⟩⟩
    · rintro ⟨options, pending⟩
      rcases (agrees options).mp pending with ⟨filled, same⟩
      exact same ▸ filled
  · exact fun options pending => ((agrees options).mp pending).2
  · intro move caller which made
    refine ⟨answers_of_request? made, ?_⟩
    rcases request_cases made with ⟨label, filled, positive, bounded, same⟩ | permits
    · cases same
      exact ⟨rfl, session.choices, (agrees _).mpr ⟨filled, rfl⟩, positive, bounded⟩
    · cases permits.answersChoice
  · intro first between second firstAnswers secondAnswers
    have pending := (agrees.append (first :: between)).pending_of_answers secondAnswers
    exact pending.offered_since firstAnswers
  · intro move request made
    rcases request_cases made with ⟨which, filled, _, _, same⟩ | permits
    · cases same
      refine ⟨fun _ _ => Or.inl rfl, fun nonePending => ?_⟩
      exact absurd ((agrees session.choices).mpr ⟨filled, rfl⟩) (nonePending _)
    · refine ⟨fun options pending => Or.inr ?_, fun _ => permits.answersChoice⟩
      rcases (agrees options).mp pending with ⟨filled, same⟩
      rcases (choices_ne_nil_iff session).mp (same ▸ filled) with ⟨_, mode⟩
      have asks := permits.2
      rw [mode] at asks
      exact asks
  · intro roster line answersNothing
    rcases line_cases session roster line with ⟨_, _, _, _, _, made, _⟩ | ⟨same, _⟩
    · change Option.any _ (session.event ⟨roster, .line line⟩).request? = false at answersNothing
      rw [made] at answersNothing
      cases answersNothing
    · exact same

end Session
end CardTable
