import CardTable.Client
import CardTable.Proofs.Command.Requests
import CardTable.Proofs.Session.TypedLine

namespace CardTable

/-!
# The decision table of the commands

What becomes of a command line is decided by the first of five questions whose
answer is no or too many: whether the word is known, whether there are more
arguments than the command takes, whether there are fewer, whether the index is
a number, and whether the command is any other than help.  Each row of the table
is a lemma; the last theorem puts them together, with what an outcome shows,
keeps and logs in each row.
-/

namespace Outcome

/-- The line is refused for a cause, which is logged once and under this code. -/
def RefusedFor (outcome : Outcome) (cause : Error) (label : String) : Prop :=
  outcome = .failure cause ∧ outcome.log = [.inputRejected cause] ∧ cause.code.label = label

theorem refusedFor_failure {cause : Error} {label : String} (code : cause.code.label = label) :
    (failure cause).RefusedFor cause label :=
  ⟨rfl, rfl, code⟩

theorem info_ne_echo (text line : String) : Shown.info text ≠ Shown.echo line := by
  intro same
  have mark := congrArg (fun text => text.toList.head?) (Shown.line.inj same)
  simp at mark

/-- A request goes out exactly when the line is shown as it was typed. -/
theorem request?_isSome_iff (outcome : Outcome) :
    outcome.request?.isSome = true ↔
      forall line, Client.display line outcome = [.echo line] := by
  constructor
  · intro asks line
    cases outcome with
    | send request => rfl
    | _ => cases asks
  · intro echoes
    have shown := echoes ""
    cases outcome with
    | send request => rfl
    | nothing => cases shown
    | info text => exact absurd (List.cons.inj shown).1 (info_ne_echo _ _)
    | hint text => exact absurd (List.cons.inj shown).1 (info_ne_echo _ _)
    | failure cause => exact absurd (List.cons.inj shown).1 (info_ne_echo _ _)

/-- What is logged of a line is its refusal, if it is refused. -/
theorem log_iff (outcome : Outcome) :
    (outcome.isFailure = true ↔
      Exists fun cause => outcome.log = [.inputRejected cause]) ∧
    (outcome.isFailure = false ↔ outcome.log = []) := by
  cases outcome <;> simp [isFailure, log]

end Outcome

namespace Command

/-! ## The index argument -/

/-- The argument that is read as an index, when there are as many arguments as
the command takes. -/
def indexArgument? : Command -> List String -> Option String
  | play, [index, _] => some index
  | inspect, [_, index] => some index
  | discard, [_, index] => some index
  | move, [_, index, _] => some index
  | _, _ => none

/-- The text denotes a number of 32 bits. -/
def IsIndex (raw : String) : Prop :=
  Exists fun number => Text.Counts raw.toList number ∧ number < 2 ^ 32

theorem isIndex_iff {raw : String} :
    IsIndex raw ↔ Exists fun value : UInt32 => Text.Counts raw.toList value.toNat := by
  constructor
  · rintro ⟨number, counts, below⟩
    refine ⟨UInt32.ofNat number, ?_⟩
    rwa [UInt32.toNat_ofNat_of_lt' below]
  · rintro ⟨value, counts⟩
    exact ⟨value.toNat, counts, value.toNat_lt⟩

variable {identity : Identity} {roster : Roster} {command : Command} {arguments : List String}

/-- With an index argument, a command asks for something as soon as that argument
is an index, and is refused for that argument otherwise. -/
theorem resolve_of_indexArgument? {index : String}
    (indexed : command.indexArgument? arguments = some index) :
    (IsIndex index -> Exists fun request => Asks identity roster command arguments request) ∧
    (¬ IsIndex index ->
      resolve identity roster command arguments = .failure (.badIndex index)) := by
  have refused (bad : ¬ IsIndex index) : readIndex index = .error (.badIndex index) :=
    readIndex_of_not_counts fun value counts => bad (isIndex_iff.mpr ⟨value, counts⟩)
  unfold indexArgument? at indexed
  split at indexed
  · next first dst =>
    cases indexed
    refine ⟨?_, fun bad => by rw [resolve, moving, refused bad]; rfl⟩
    intro number
    obtain ⟨value, counts⟩ := isIndex_iff.mp number
    by_cases active : '.' ∉ dst.toList ∧ roster.isActive dst = true
    · exact ⟨_, .playTo counts active.1 active.2⟩
    · exact ⟨_, .playAt counts active⟩
  · next area second =>
    cases indexed
    refine ⟨?_, fun bad => by rw [resolve, inspecting, refused bad]; rfl⟩
    intro number
    obtain ⟨value, counts⟩ := isIndex_iff.mp number
    by_cases own : area = "hand"
    · subst own
      exact ⟨_, .inspectHand counts⟩
    · exact ⟨_, .inspectArea own counts⟩
  · cases indexed
    refine ⟨?_, fun bad => by rw [resolve, moving, refused bad]; rfl⟩
    intro number
    obtain ⟨value, counts⟩ := isIndex_iff.mp number
    exact ⟨_, .discard counts⟩
  · cases indexed
    refine ⟨?_, fun bad => by rw [resolve, moving, refused bad]; rfl⟩
    intro number
    obtain ⟨value, counts⟩ := isIndex_iff.mp number
    exact ⟨_, .move counts⟩
  · cases indexed

/-- A command other than help asks for something, if it has its number of
arguments and an index where it wants one. -/
theorem exists_asks (identity : Identity) (roster : Roster) (other : command ≠ help)
    (fits : forall count, command.arity? = some count -> arguments.length = count)
    (indexed : forall index, command.indexArgument? arguments = some index -> IsIndex index) :
    Exists fun request => Asks identity roster command arguments request := by
  cases command with
  | help => exact absurd rfl other
  | draw =>
      cases List.length_eq_zero_iff.mp (fits 0 rfl)
      exact ⟨_, .draw⟩
  | play =>
      obtain ⟨index, dst, rfl⟩ := List.length_eq_two.mp (fits 2 rfl)
      exact (resolve_of_indexArgument? rfl).1 (indexed index rfl)
  | endTurn => exact ⟨_, .endTurn arguments⟩
  | inspect =>
      obtain ⟨area, index, rfl⟩ := List.length_eq_two.mp (fits 2 rfl)
      exact (resolve_of_indexArgument? rfl).1 (indexed index rfl)
  | discard =>
      obtain ⟨area, index, rfl⟩ := List.length_eq_two.mp (fits 2 rfl)
      exact (resolve_of_indexArgument? rfl).1 (indexed index rfl)
  | move =>
      obtain ⟨src, index, dst, rfl⟩ := List.length_eq_three.mp (fits 3 rfl)
      exact (resolve_of_indexArgument? rfl).1 (indexed index rfl)
  | say =>
      by_cases silent : arguments = []
      · subst silent
        exact ⟨_, .sayNothing⟩
      · exact ⟨_, .say silent⟩

/-! ## Help -/

/-- The commands that some words ask for, in the order of the words. -/
inductive NamedAmong : List String -> List Command -> Prop
  | nil : NamedAmong [] []
  | known {word : String} {words : List String} {command : Command} {commands : List Command}
      (named : Named word command) (rest : NamedAmong words commands) :
      NamedAmong (word :: words) (command :: commands)
  | unknown {word : String} {words : List String} {commands : List Command}
      (other : forall command, ¬ Named word command) (rest : NamedAmong words commands) :
      NamedAmong (word :: words) commands

theorem namedAmong_iff {words : List String} {commands : List Command} :
    NamedAmong words commands ↔ words.filterMap ofWord? = commands := by
  constructor
  · intro among
    induction among with
    | nil => rfl
    | known named rest inductionHypothesis =>
        rw [List.filterMap_cons_some (ofWord?_eq_some_iff.mpr named), inductionHypothesis]
    | unknown other rest inductionHypothesis =>
        rw [List.filterMap_cons_none (ofWord?_eq_none_iff.mpr other), inductionHypothesis]
  · rintro rfl
    induction words with
    | nil => exact .nil
    | cons word rest inductionHypothesis =>
        cases found : ofWord? word with
        | none =>
            rw [List.filterMap_cons_none found]
            exact .unknown (ofWord?_eq_none_iff.mp found) inductionHypothesis
        | some command =>
            rw [List.filterMap_cons_some found]
            exact .known (ofWord?_eq_some_iff.mp found) inductionHypothesis

/-- What help says about one command. -/
def entry : Command -> String
  | help =>
      "help [command]\n - Display the available commands, or help on specific commands."
  | draw => "draw\n - Draw a single card from the deck to your hand."
  | play => "play index dst\n - Play the card at `index` in your hand to `dst`."
  | endTurn => "end [comment]\n - End your turn."
  | inspect =>
      "inspect area index\n - Display the card in `area` at `index` in the inspect window."
  | discard => "discard area index\n - Discard the card in `area` at `index`."
  | move => "move src index dst\n - Move the card in `src` at `index` to `dst`."
  | say => "say [message]\n - Say something in chat for everyone to see."

theorem usage_details (command : Command) :
    command.usage ++ "\n - " ++ command.details = entry command := by
  cases command <;> decide +kernel

/-- The usage of every command, in the order of the table. -/
def overview : String :=
  "Commands available:\n - help [command]\n - draw\n - play index dst\n - end [comment]" ++
    "\n - inspect area index\n - discard area index\n - move src index dst\n - say [message]"

theorem helpText_nil : helpText [] = overview := by
  decide +kernel

theorem helpText_of_namedAmong {words : List String} {known : List Command} (filled : words ≠ [])
    (among : NamedAmong words known) :
    helpText words =
      if known = [] then "No help available for: " ++ String.intercalate " " words
      else String.intercalate "\n" (known.map entry) := by
  rw [helpText, if_neg (by simpa using filled), namedAmong_iff.mp among]
  simp only [usage_details]
  cases known with
  | nil => rfl
  | cons command others => rfl

/-! ## The table -/

theorem resolve_of_more {count : Nat} (fixed : command.arity? = some count)
    (more : count < arguments.length) :
    resolve identity roster command arguments =
      .failure (.tooManyArguments command arguments.length count) := by
  rw [resolve_of_length_ne fixed (Nat.ne_of_gt more), miscounted, if_pos more]

theorem resolve_of_fewer {count : Nat} (fixed : command.arity? = some count)
    (fewer : arguments.length < count) :
    resolve identity roster command arguments =
      .hint ("Not enough arguments: " ++ command.usage) := by
  rw [resolve_of_length_ne fixed (Nat.ne_of_lt fewer), miscounted, if_neg (Nat.not_lt_of_gt fewer)]
  rfl

theorem resolve_of_asks {request : Request} (asks : Asks identity roster command arguments request) :
    resolve identity roster command arguments = .send request :=
  Outcome.eq_send_of_request? (resolve_request?_iff.mpr asks)

/-- The rows of the table leave nothing out. -/
theorem row_cases (identity : Identity) (roster : Roster) (command : Command)
    (arguments : List String) :
    (Exists fun count => command.arity? = some count ∧ count < arguments.length) ∨
    (Exists fun count => command.arity? = some count ∧ arguments.length < count) ∨
    (Exists fun index => command.indexArgument? arguments = some index ∧ ¬ IsIndex index) ∨
    command = help ∨
    (Exists fun request => Asks identity roster command arguments request) := by
  by_cases fits : forall count, command.arity? = some count -> arguments.length = count
  · by_cases indexed : forall index, command.indexArgument? arguments = some index -> IsIndex index
    · by_cases helps : command = help
      · exact Or.inr (Or.inr (Or.inr (Or.inl helps)))
      · exact Or.inr (Or.inr (Or.inr (Or.inr (exists_asks identity roster helps fits indexed))))
    · simp only [not_forall] at indexed
      obtain ⟨index, given, bad⟩ := indexed
      exact Or.inr (Or.inr (Or.inl ⟨index, given, bad⟩))
  · simp only [not_forall] at fits
    obtain ⟨count, fixed, other⟩ := fits
    rcases Nat.lt_or_gt_of_ne other with fewer | more
    · exact Or.inr (Or.inl ⟨count, fixed, fewer⟩)
    · exact Or.inl ⟨count, fixed, more⟩

/-- The line stays exactly in the row of missing arguments. -/
theorem clearsInput_resolve_iff :
    (resolve identity roster command arguments).clearsInput = false ↔
      Exists fun count => command.arity? = some count ∧ arguments.length < count := by
  constructor
  · intro stays
    rcases row_cases identity roster command arguments with
      ⟨count, fixed, more⟩ | few | ⟨index, given, bad⟩ | rfl | ⟨request, asks⟩
    · rw [resolve_of_more fixed more] at stays
      cases stays
    · exact few
    · rw [(resolve_of_indexArgument? given).2 bad] at stays
      cases stays
    · cases stays
    · rw [resolve_of_asks asks] at stays
      cases stays
  · rintro ⟨count, fixed, fewer⟩
    rw [resolve_of_fewer fixed fewer]
    rfl

/-- The first of the cases that applies decides the outcome.

For every word, arguments, session and roster: an unknown word is refused; a
command with a fixed number of arguments is refused when it gets more, and
answered by its usage when it gets fewer; an index that is no number of 32 bits
is refused; any other command line makes a request, except that help shows a
text.  A request goes out exactly when the line is echoed, the line stays only
when arguments are missing, and a refusal is what is logged. -/
theorem decision_table (session : Session) (roster : Roster) (word : String)
    (arguments : List String) :
    let outcome := resolveWord session.identity roster word arguments
    ((forall command, ¬ Named word command) ->
      outcome.RefusedFor (.unknownCommand word) "UNKNOWN_COMMAND") ∧
    (forall command, Named word command ->
      (forall count, command.arity? = some count ->
        (count < arguments.length ->
          outcome.RefusedFor (.tooManyArguments command arguments.length count)
            "TOO_MANY_ARGS") ∧
        (arguments.length < count ->
          outcome = .hint ("Not enough arguments: " ++ command.usage))) ∧
      (forall index, command.indexArgument? arguments = some index -> ¬ IsIndex index ->
        outcome.RefusedFor (.badIndex index) "BAD_INDEX") ∧
      (command ≠ .help ->
        (forall count, command.arity? = some count -> arguments.length = count) ->
        (forall index, command.indexArgument? arguments = some index -> IsIndex index) ->
        Exists fun request => outcome = .send request) ∧
      (command = .help ->
        (arguments = [] -> outcome = .info overview) ∧
        (arguments ≠ [] -> forall known, NamedAmong arguments known ->
          outcome = .info
            (if known = [] then "No help available for: " ++ String.intercalate " " arguments
            else String.intercalate "\n" (known.map entry))))) ∧
    (outcome.request?.isSome = true ↔ forall line, Client.display line outcome = [.echo line]) ∧
    (outcome.clearsInput = false ↔
      Exists fun command => Exists fun count =>
        Named word command ∧ command.arity? = some count ∧ arguments.length < count) ∧
    (outcome.isFailure = true ↔ Exists fun cause => outcome.log = [.inputRejected cause]) ∧
    (outcome.isFailure = false ↔ outcome.log = []) := by
  intro outcome
  have known {command : Command} (named : Named word command) :
      outcome = resolve session.identity roster command arguments := by
    change resolveWord session.identity roster word arguments = _
    rw [resolveWord, ofWord?_eq_some_iff.mpr named]
  have unknown (other : forall command, ¬ Named word command) :
      outcome = .failure (.unknownCommand word) := by
    change resolveWord session.identity roster word arguments = _
    rw [resolveWord, ofWord?_eq_none_iff.mpr other]
  refine ⟨?_, ?_, outcome.request?_isSome_iff, ?_, outcome.log_iff⟩
  · intro other
    rw [unknown other]
    exact Outcome.refusedFor_failure rfl
  · intro command named
    rw [known named]
    refine ⟨?_, ?_, ?_, ?_⟩
    · intro count fixed
      refine ⟨?_, resolve_of_fewer fixed⟩
      intro more
      rw [resolve_of_more fixed more]
      exact Outcome.refusedFor_failure rfl
    · intro index given bad
      rw [(resolve_of_indexArgument? given).2 bad]
      exact Outcome.refusedFor_failure rfl
    · intro other fits indexed
      obtain ⟨request, asks⟩ := exists_asks session.identity roster other fits indexed
      exact ⟨request, resolve_of_asks asks⟩
    · rintro rfl
      constructor
      · rintro rfl
        exact congrArg Outcome.info helpText_nil
      · intro filled commands among
        exact congrArg Outcome.info (helpText_of_namedAmong filled among)
  · constructor
    · intro stays
      by_cases named : Exists fun command => Named word command
      · obtain ⟨command, named⟩ := named
        rw [known named, clearsInput_resolve_iff] at stays
        obtain ⟨count, few⟩ := stays
        exact ⟨command, count, named, few⟩
      · rw [unknown (not_exists.mp named)] at stays
        cases stays
    · rintro ⟨command, count, named, few⟩
      rw [known named, clearsInput_resolve_iff]
      exact ⟨count, few⟩

end Command
end CardTable
