import CardTable.Proofs.Client.Run
import CardTable.Proofs.Frame.WrittenOptions
import CardTable.Proofs.Markup.Listing

namespace CardTable
namespace Client

/-!
# Options on a terminal

When options arrive, a terminal shows them as one text from the server: they are
numbered, and the numbered list is cleaned.  So a terminal shows each option
under its own number exactly if no option has a bracket that only a later one
closes.  Otherwise at least one number is not shown at all, and nothing else
tells the player that there is such an option.
-/

/-- The text that shows each option, cleaned by itself, behind its number. -/
def numbered (options : List String) : String :=
  "<<< Options:" ++ String.join (options.mapIdx fun index option =>
    "\n [" ++ toString (index + 1) ++ "] " ++ Markup.plain option) ++ "\n"

section

variable {client : Client} {frame : String} {options : List String}

/-- Options that arrive are pending and are shown. -/
theorem receive_of_choices (offered : Frame.read frame = .ok (.choices options))
    (filled : options ≠ []) :
    (client.receive frame).client.session.choices = options ∧
      (client.receive frame).shown = [.received (Choosing.listing options)] := by
  rw [receive, offered]
  cases options with
  | nil => exact absurd rfl filled
  | cons first others => exact ⟨rfl, rfl⟩

theorem numbered_eq (options : List String) :
    numbered options = "<<< " ++ Choosing.listing (options.map Markup.plain) ++ "\n" := by
  have mark : "<<< Options:" = "<<< " ++ "Options:" := rfl
  have lines : (options.map Markup.plain).mapIdx (fun index option =>
        "\n [" ++ toString (index + 1) ++ "] " ++ option) =
      options.mapIdx fun index option =>
        "\n [" ++ toString (index + 1) ++ "] " ++ Markup.plain option := by
    apply List.ext_getElem?
    intro index
    rw [List.getElem?_mapIdx, List.getElem?_mapIdx, List.getElem?_map, Option.map_map]
    rfl
  rw [numbered, Choosing.listing_eq, lines, mark, ← String.append_assoc]

theorem text_of_choices (offered : Frame.read frame = .ok (.choices options))
    (filled : options ≠ []) :
    Terminal.text (client.receive frame).shown =
      "<<< " ++ Markup.plain (Choosing.listing options) ++ "\n" := by
  rw [(receive_of_choices offered filled).2, Terminal.text_received]

/-- A terminal shows each option under its own number exactly if no option has a
bracket that only a later option closes.

For every list of options that arrives, in whatever client.  If options do meet
in a tag, fewer lines are written than there should be. -/
theorem each_option_shown_iff (offered : Frame.read frame = .ok (.choices options))
    (filled : options ≠ []) :
    (Terminal.text (client.receive frame).shown = numbered options ↔
      Choosing.SelfContained options) ∧
    (¬ Choosing.SelfContained options ->
      (Terminal.text (client.receive frame).shown).toList.count '\n' <
        (numbered options).toList.count '\n') := by
  have fewer (meeting : ¬ Choosing.SelfContained options) :
      (Terminal.text (client.receive frame).shown).toList.count '\n' <
        (numbered options).toList.count '\n' := by
    have lost := Choosing.count_plain_listing_lt meeting
    rw [text_of_choices offered filled, numbered_eq]
    simp only [String.toList_append, List.count_append]
    omega
  refine ⟨⟨fun same => ?_, fun contained => ?_⟩, fewer⟩
  · by_contra meeting
    have lost := fewer meeting
    rw [same] at lost
    exact Nat.lt_irrefl _ lost
  · rw [text_of_choices offered filled, numbered_eq, Choosing.plain_listing contained]

end

/-! ## Two options that compare numbers -/

/-- The second option opens a bracket, and the third one closes it. -/
def comparingList : String :=
  "\x7b\"type\":\"choices\",\"choices\":[\"Attack\",\"5 < 6\",\"7 > 6\"]\x7d"

theorem read_comparing :
    Frame.read comparingList = .ok (.choices ["Attack", "5 < 6", "7 > 6"]) := by
  have written : comparingList = Frame.choicesText ["Attack", "5 < 6", "7 > 6"] := by
    decide +kernel
  rw [written, Frame.read_choicesText]

/-- The third option is not shown, and the second one ends as it does. -/
theorem option_hidden_by_brackets :
    Frame.read comparingList = .ok (.choices ["Attack", "5 < 6", "7 > 6"]) ∧
      (Terminal.text ((start ⟨"ada", "den"⟩ 1).receive comparingList).shown).toList.count '\n' <
        (numbered ["Attack", "5 < 6", "7 > 6"]).toList.count '\n' := by
  have meeting : ¬ Choosing.SelfContained ["Attack", "5 < 6", "7 > 6"] := by
    intro contained
    have apart := List.pairwise_cons.mp (List.pairwise_cons.mp contained).2
    exact apart.1 "7 > 6" List.mem_cons_self ⟨"5 ".toList, " 6".toList, rfl, by decide⟩ (by decide)
  exact ⟨read_comparing, (each_option_shown_iff read_comparing (by decide)).2 meeting⟩

/-- Not every option that arrives is shown under its own number. -/
theorem not_each_option_shown :
    ¬ forall (identity : Identity) (capacity : Nat) (earlier : List Operation) (frame : String)
      (options : List String), Frame.read frame = .ok (.choices options) -> options ≠ [] ->
        Terminal.text (((start identity capacity).after earlier).receive frame).shown =
          numbered options := by
  intro each
  have shown := each ⟨"ada", "den"⟩ 1 [] comparingList _ read_comparing (by decide)
  rw [text_of_choices read_comparing (by decide)] at shown
  revert shown
  decide +kernel

end Client
end CardTable
