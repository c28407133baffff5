import CardTable.Proofs.Client.Delivery
import CardTable.Proofs.Line.Quoting
import CardTable.Proofs.Request.Wire

namespace CardTable

/-!
# What is typed is what is sent

A quoted token passes through four stages: the line is cut into tokens, the
command checks and takes its arguments, the request is put on the queue as a
text, and the text is read at the other end.  Each stage gives back what the
one before took in, so the strings of a request are those between the quotes,
whatever characters they have.
-/

/-- An index in plain decimal is read as itself. -/
theorem readIndex_decimal {n : Nat} (below : n < 2 ^ 32) :
    readIndex (String.ofList (Text.decimal n)) = .ok (UInt32.ofNat n) := by
  have fits : n < Nat.pow 2 32 := below
  rw [readIndex, String.toList_ofList, Text.naturalBelow?_decimal fits]

namespace Command

/-- A command is found by its name. -/
theorem ofWord?_name (command : Command) : ofWord? command.name = some command := by
  cases command <;> decide +kernel

theorem name_bare (command : Command) :
    command.name ≠ "" ∧ forall c, c ∈ command.name.toList -> Line.isBare c = true := by
  rw [← List.all_eq_true]
  cases command <;> decide

variable (identity : Identity) (roster : Roster)

theorem resolve_move (src dst : String) {n : Nat} (below : n < 2 ^ 32) :
    resolve identity roster move [src, String.ofList (Text.decimal n), dst] =
      .send (.move identity.player src (UInt32.ofNat n) dst) := by
  rw [resolve, moving, readIndex_decimal below]
  rfl

theorem resolve_inspect {area : String} (notHand : area ≠ "hand") {n : Nat} (below : n < 2 ^ 32) :
    resolve identity roster inspect [area, String.ofList (Text.decimal n)] =
      .send (.inspect identity.player area (UInt32.ofNat n)) := by
  rw [resolve, inspecting, readIndex_decimal below, if_neg notHand]
  rfl

theorem resolve_endTurn (words : List String) :
    resolve identity roster endTurn words =
      .send (.endTurn identity.player (String.intercalate " " words)) :=
  rfl

theorem resolve_say {words : List String} (some : words ≠ []) :
    resolve identity roster say words =
      .send (.say identity.player (.some (String.intercalate " " words))) := by
  cases words with
  | nil => exact absurd rfl some
  | cons first others => rfl

end Command

namespace Client

/-- The line that types a command with its arguments. -/
def commandLine (command : Command) (arguments : List String) : String :=
  String.intercalate " " (command.name :: arguments)

/-- A submission adds one message to the queue, and it is read as an object with
these members. -/
def Queues (client : Client) (line : String) (members : Json.Members) : Prop :=
  Exists fun text =>
    (client.submit line).client.outbox.queued = client.outbox.queued ++ [text] ∧
      Json.read text = .ok (.object members)

section Stages

variable {client : Client}

/-- A command that is typed and makes a request puts that request on the queue. -/
theorem queues_of_resolve (normal : client.session.mode = .normal) (room : client.outbox.HasRoom)
    {command : Command} {arguments texts : List String} {request : Request}
    (typed : Line.AllTyped arguments texts)
    (makes : Command.resolve client.session.identity client.roster command arguments =
      .send request) :
    client.Queues (commandLine command texts) request.object := by
  have name : Line.Typed command.name command.name.toList :=
    Line.typed_of_bare command.name_bare.1 command.name_bare.2
  have tokens : Line.tokenize (commandLine command texts) = .ok (command.name :: arguments) :=
    Line.tokenize_intercalate (.cons name typed)
  have typedSomething : commandLine command texts ≠ "" := Line.ne_empty_of_tokenize tokens
  have asks : (client.verdict (commandLine command texts)).request? = some request := by
    rw [verdict_of_command normal tokens command.ofWord?_name, makes]
    rfl
  refine ⟨request.wire, ?_, request.read_wire⟩
  rw [(submit_of_hasRoom typedSomething asks room).1]

theorem typed_decimal (n : Nat) :
    Line.Typed (String.ofList (Text.decimal n)) (String.ofList (Text.decimal n)).toList := by
  rw [String.toList_ofList]
  apply Line.Typed.bare (Text.decimal_ne_nil n)
  intro c member
  exact Line.isBare_of_isDigit (Text.isDigit_of_mem_decimal member)

end Stages

/-- What is typed is what is sent.

In the normal mode and with room in the queue, a command whose strings are typed
between quotes adds exactly one message.  It is read as the object that holds
the command, the player and the arguments: the strings unchanged, the index as a
number, and words joined by single spaces. -/
theorem typed_verbatim {client : Client} (normal : client.session.mode = .normal)
    (room : client.outbox.HasRoom) :
    let player := client.session.identity.player
    (forall (src dst : String) (n : Nat), Line.Representable src -> Line.Representable dst ->
      n < 2 ^ 32 ->
      client.Queues
        (commandLine .move [Line.quote src, String.ofList (Text.decimal n), Line.quote dst])
        [("caller", .string player), ("cmd", .string "move"), ("dst", .string dst),
          ("index", .number (.whole n)), ("src", .string src)]) ∧
    (forall (area : String) (n : Nat), Line.Representable area -> area ≠ "hand" -> n < 2 ^ 32 ->
      client.Queues (commandLine .inspect [Line.quote area, String.ofList (Text.decimal n)])
        [("area", .string area), ("caller", .string player), ("cmd", .string "inspect"),
          ("index", .number (.whole n))]) ∧
    (forall words : List String, words ≠ [] ->
      (forall word, word ∈ words -> Line.Representable word) ->
      client.Queues (commandLine .say (words.map Line.quote))
          [("caller", .string player), ("cmd", .string "say"),
            ("msg", .string (String.intercalate " " words))] ∧
        client.Queues (commandLine .endTurn (words.map Line.quote))
          [("caller", .string player), ("cmd", .string "end"),
            ("comment", .string (String.intercalate " " words))]) := by
  intro player
  refine ⟨?_, ?_, ?_⟩
  · intro src dst n source target below
    have typed : Line.AllTyped [src, String.ofList (Text.decimal n), dst] _ :=
      .cons (Line.typed_quote source)
        (.cons (typed_decimal n) (.cons (Line.typed_quote target) .nil))
    have sent := queues_of_resolve normal room typed
      (Command.resolve_move client.session.identity client.roster src dst below)
    rw [Request.object, UInt32.toNat_ofNat_of_lt' below] at sent
    exact sent
  · intro area n shown notHand below
    have typed : Line.AllTyped [area, String.ofList (Text.decimal n)] _ :=
      .cons (Line.typed_quote shown) (.cons (typed_decimal n) .nil)
    have sent := queues_of_resolve normal room typed
      (Command.resolve_inspect client.session.identity client.roster notHand below)
    rw [Request.object, UInt32.toNat_ofNat_of_lt' below] at sent
    exact sent
  · intro words some each
    have typed := Line.allTyped_quote each
    constructor
    · exact queues_of_resolve normal room typed
        (Command.resolve_say client.session.identity client.roster some)
    · exact queues_of_resolve normal room typed
        (Command.resolve_endTurn client.session.identity client.roster words)

/-- An apostrophe, a line break, a backslash and double quotes, with the largest
index; and words of a comment of which one holds a space. -/
theorem queues_move_quotes :
    (start ⟨"ada", "den"⟩ 1).Queues
        "move \"it's\n\\ odd\" 4294967295 '\"é\" \u00a0'"
        [("caller", .string "ada"), ("cmd", .string "move"), ("dst", .string "\"é\" \u00a0"),
          ("index", .number (.whole 4294967295)), ("src", .string "it's\n\\ odd")] ∧
      (start ⟨"ada", "den"⟩ 1).Queues "end \"well  then\" '\"'"
        [("caller", .string "ada"), ("cmd", .string "end"),
          ("comment", .string "well  then \"")] := by
  have normal : (start ⟨"ada", "den"⟩ 1).session.mode = .normal := rfl
  have room : (start ⟨"ada", "den"⟩ 1).outbox.HasRoom := by decide
  have sent := typed_verbatim normal room
  constructor
  · have source : Line.Representable "it's\n\\ odd" := ⟨by decide, by decide⟩
    have target : Line.Representable "\"é\" \u00a0" := ⟨by decide, by decide⟩
    have line : commandLine .move [Line.quote "it's\n\\ odd",
        String.ofList (Text.decimal 4294967295), Line.quote "\"é\" \u00a0"] =
          "move \"it's\n\\ odd\" 4294967295 '\"é\" \u00a0'" := by
      decide
    exact line ▸ sent.1 _ _ 4294967295 source target (by decide)
  · have words : forall word, word ∈ ["well  then", "\""] -> Line.Representable word := by
      intro word member
      rcases List.mem_cons.mp member with rfl | later
      · exact ⟨by decide, by decide⟩
      · cases List.mem_singleton.mp later
        exact ⟨by decide, by decide⟩
    have line : commandLine .endTurn (["well  then", "\""].map Line.quote) =
        "end \"well  then\" '\"'" := by
      decide
    exact line ▸ (sent.2.2 _ (List.cons_ne_nil _ _) words).2

end Client
end CardTable
