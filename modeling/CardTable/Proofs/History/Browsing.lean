import CardTable.Proofs.History.Cursor

namespace CardTable
namespace History

/-!
# Going through the history

Positions are counted from the newest entry; one before it is the place where no
entry is looked at.  The recall keys walk over these positions and stop at both
ends.

What a walk does to the draft is decided at that one place: a key that brings a
text there makes it the draft, and at all other positions the draft is left
alone.  So what was in the field when browsing began is there again when the walk
comes back, and is shown.
-/

/-- A key that goes through the entries or changes the field.  The text is what
the field holds when going up, and what it holds after typing. -/
inductive Move where
  | up (field : String)
  | down
  | key (field : String)
  deriving DecidableEq, Repr

/-- The place before the newest entry, where no entry is looked at. -/
def away : Int := -1

/-- Where the cursor is, counted from the newest entry. -/
def position (history : History) : Int :=
  match history.cursor with
  | none => away
  | some index => index

namespace Move

/-- One step of a walk that stops at the oldest of `count` entries and at the
place before the newest. -/
def walked (count : Nat) (position : Int) : Move -> Int
  | up _ => min (position + 1) (count - 1)
  | down => max (position - 1) away
  | key _ => position

/-- The text that comes with the key. -/
def text? : Move -> Option String
  | up field => some field
  | down => none
  | key field => some field

/-- The texts of the keys that are pressed while no entry is looked at. -/
def drafted (count : Nat) (position : Int) : List Move -> List String
  | [] => []
  | move :: rest =>
      (if position = away then move.text?.toList else []) ++
        drafted count (move.walked count position) rest

end Move

def press (history : History) : Move -> History
  | .up field => history.up field
  | .down => history.down
  | .key field => history.typed field

/-- The history after several keys. -/
def browse (history : History) (moves : List Move) : History :=
  moves.foldl press history

/-! ## One key -/

section

variable {history : History}

theorem position_eq_away_iff : history.position = away ↔ history.cursor = none := by
  unfold position away
  split
  · next gone => simp [gone]
  · next index there =>
    rw [there]
    exact iff_of_false (by omega) (Option.some_ne_none index)

theorem cursor_of_position {index : Nat} (there : history.position = index) :
    history.cursor = some index := by
  unfold position away at there
  split at there
  · omega
  · next same => rw [same, Int.ofNat_inj.mp there]

/-- The bounds of a walk. -/
theorem InBounds.position_bounds (inBounds : history.InBounds) :
    away ≤ history.position ∧ history.position ≤ history.entries.length - 1 := by
  unfold position
  split
  · unfold away
    omega
  · next index points =>
    have below := inBounds index points
    unfold away
    omega

theorem press_entries (history : History) (move : Move) :
    (history.press move).entries = history.entries := by
  cases move with
  | up field => exact history.up_entries field
  | down => rfl
  | key field => exact history.typed_entries field

theorem InBounds.press (inBounds : history.InBounds) (move : Move) :
    (history.press move).InBounds := by
  cases move with
  | up field => exact inBounds.up field
  | down => exact inBounds.down
  | key field => exact inBounds.typed field

theorem up_cursor (history : History) (field : String) :
    (history.up field).cursor = older history.entries.length history.cursor := by
  rw [← history.typed_entries field, ← history.typed_cursor field]
  rfl

/-- A key moves the cursor by one step of the walk. -/
theorem InBounds.press_position (inBounds : history.InBounds) (move : Move) :
    (history.press move).position = move.walked history.entries.length history.position := by
  have bounds := inBounds.position_bounds
  unfold position away at bounds
  cases move with
  | up field =>
      unfold position
      rw [History.press, up_cursor]
      cases cursor : history.cursor with
      | none =>
          dsimp only [older, Move.walked, away]
          by_cases empty : history.entries.length = 0
          · rw [if_pos empty, empty]
            rfl
          · rw [if_neg empty]
            dsimp only
            omega
      | some index =>
          have below := inBounds index cursor
          have filled : history.entries.length ≠ 0 := Nat.ne_zero_of_lt below
          dsimp only [older, Move.walked]
          rw [if_neg filled]
          dsimp only
          omega
  | down =>
      unfold position
      rw [History.press, History.down]
      cases history.cursor with
      | none => rfl
      | some index =>
          cases index with
          | zero => rfl
          | succ smaller =>
              dsimp only [newer, Move.walked, away]
              omega
  | key field =>
      rw [position, History.press, typed_cursor]
      rfl

/-- The draft is replaced only while no entry is looked at. -/
theorem press_draft (history : History) (move : Move) :
    (history.press move).draft =
      if history.position = away then move.text?.getD history.draft else history.draft := by
  have typedDraft : forall field, (history.typed field).draft =
      if history.position = away then field else history.draft := by
    intro field
    rw [typed]
    cases cursor : history.cursor with
    | none => rw [if_pos (position_eq_away_iff.mpr cursor)]
    | some index =>
        have looking : history.position ≠ away := fun none =>
          Option.some_ne_none index (cursor.symm.trans (position_eq_away_iff.mp none))
        rw [if_neg looking]
  cases move with
  | up field => exact typedDraft field
  | down => exact (ite_self _).symm
  | key field => exact typedDraft field

end

/-! ## Several keys -/

section

variable {history : History}

theorem browse_cons (history : History) (move : Move) (moves : List Move) :
    history.browse (move :: moves) = (history.press move).browse moves :=
  List.foldl_cons ..

theorem browse_entries (history : History) (moves : List Move) :
    (history.browse moves).entries = history.entries := by
  induction moves generalizing history with
  | nil => rfl
  | cons move rest inductionHypothesis =>
      rw [browse_cons, inductionHypothesis, press_entries]

theorem InBounds.browse (inBounds : history.InBounds) (moves : List Move) :
    (history.browse moves).InBounds := by
  induction moves generalizing history with
  | nil => exact inBounds
  | cons move rest inductionHypothesis =>
      rw [browse_cons]
      exact inductionHypothesis (inBounds.press move)

theorem InBounds.browse_position (inBounds : history.InBounds) (moves : List Move) :
    (history.browse moves).position =
      moves.foldl (Move.walked history.entries.length) history.position := by
  induction moves generalizing history with
  | nil => rfl
  | cons move rest inductionHypothesis =>
      rw [browse_cons, inductionHypothesis (inBounds.press move), press_entries,
        inBounds.press_position, List.foldl_cons]

/-- The draft is the last text that was brought to the place away from the
entries, and if there was none, the draft is the one from before. -/
theorem InBounds.browse_draft (inBounds : history.InBounds) (moves : List Move) :
    (history.browse moves).draft =
      (Move.drafted history.entries.length history.position moves).getLast?.getD
        history.draft := by
  induction moves generalizing history with
  | nil => rfl
  | cons move rest inductionHypothesis =>
      rw [browse_cons, inductionHypothesis (inBounds.press move), press_entries,
        inBounds.press_position, press_draft, Move.drafted]
      by_cases there : history.position = away
      · rw [if_pos there, if_pos there]
        cases move.text? with
        | none => rfl
        | some text =>
            simp only [Option.getD_some, Option.toList_some, List.singleton_append,
              List.getLast?_cons]
      · rw [if_neg there, if_neg there, List.nil_append]

/-- As long as an entry is looked at, no text gets into the draft. -/
theorem drafted_of_looking {count : Nat} {position : Int} {moves : List Move}
    (looking : forall front rest, moves = front ++ rest -> rest ≠ [] ->
      front.foldl (Move.walked count) position ≠ away) :
    Move.drafted count position moves = [] := by
  induction moves generalizing position with
  | nil => rfl
  | cons move rest inductionHypothesis =>
      have now : position ≠ away := looking [] (move :: rest) rfl (List.cons_ne_nil move rest)
      rw [Move.drafted, if_neg now, List.nil_append]
      apply inductionHypothesis
      rintro front behind rfl
      exact looking (move :: front) behind rfl

theorem drafted_append (count : Nat) (position : Int) (moves others : List Move) :
    Move.drafted count position (moves ++ others) =
      Move.drafted count position moves ++
        Move.drafted count (moves.foldl (Move.walked count) position) others := by
  induction moves generalizing position with
  | nil => rfl
  | cons move rest inductionHypothesis =>
      rw [List.cons_append, Move.drafted, Move.drafted, inductionHypothesis, List.foldl_cons,
        List.append_assoc]

/-! ## Up some times and down some times -/

theorem foldl_walked_ups {count : Nat} {position : Int} (inside : position ≤ count - 1)
    (fields : List String) :
    (fields.map Move.up).foldl (Move.walked count) position =
      min (position + fields.length) (count - 1) := by
  induction fields generalizing position with
  | nil =>
      rw [List.map_nil, List.foldl_nil, List.length_nil]
      omega
  | cons field rest inductionHypothesis =>
      rw [List.map_cons, List.foldl_cons, Move.walked, inductionHypothesis (Int.min_le_right _ _),
        List.length_cons]
      omega

theorem foldl_walked_downs {count : Nat} {position : Int} (inside : away ≤ position)
    (times : Nat) :
    (List.replicate times Move.down).foldl (Move.walked count) position =
      max (position - times) away := by
  induction times generalizing position with
  | zero =>
      rw [List.replicate_zero, List.foldl_nil]
      omega
  | succ fewer inductionHypothesis =>
      rw [List.replicate_succ, List.foldl_cons, Move.walked,
        inductionHypothesis (Int.le_max_right _ _)]
      omega

theorem drafted_ups {count : Nat} {position : Int} (filled : 0 < count) (looking : 0 ≤ position)
    (fields : List String) : Move.drafted count position (fields.map .up) = [] := by
  induction fields generalizing position with
  | nil => rfl
  | cons field rest inductionHypothesis =>
      have now : position ≠ away := by
        unfold away
        omega
      rw [List.map_cons, Move.drafted, if_neg now, List.nil_append, Move.walked]
      exact inductionHypothesis (by omega)

theorem drafted_downs (count : Nat) (position : Int) (times : Nat) :
    Move.drafted count position (List.replicate times .down) = [] := by
  induction times generalizing position with
  | zero => rfl
  | succ fewer inductionHypothesis =>
      rw [List.replicate_succ, Move.drafted, inductionHypothesis, List.append_nil]
      exact ite_self _

/-- A walk that begins with going up begins with the draft that it is given. -/
theorem browse_up_draft (start : history.cursor = none) (field : String) (moves : List Move) :
    (history.browse (.up field :: moves)).draft =
      (Move.drafted history.entries.length (Move.walked history.entries.length away (.up field))
        moves).getLast?.getD field := by
  rw [(inBounds_of_cursor_none start).browse_draft, position_eq_away_iff.mpr start, Move.drafted,
    if_pos rfl, Move.text?, Option.toList_some, List.singleton_append, List.getLast?_cons,
    Option.getD_some]

/-- While no entry is looked at, going down shows the draft. -/
theorem down_field (start : history.cursor = none) : history.down.field = history.draft := by
  rw [field, down, start]
  rfl

/-- Without entries, going up only keeps the text. -/
theorem up_of_no_entries (start : history.cursor = none) (empty : history.entries = [])
    (text : String) : history.up text = { history with draft := text } := by
  rw [up, typed, start]
  dsimp only
  rw [empty]
  rfl

/-- Going up some times and down some times. -/
theorem browse_ups_downs (start : history.cursor = none) (filled : 1 ≤ history.entries.length)
    (field : String) (fields : List String) (times : Nat) :
    let after := history.browse (.up field :: (fields.map .up ++ List.replicate times .down))
    after.position =
        max (min ((fields.length : Int) + 1) history.entries.length - 1 - times) away ∧
      after.draft = field := by
  intro after
  have first : Move.walked history.entries.length away (.up field) = 0 := by
    change min (away + 1) (history.entries.length - 1 : Int) = 0
    unfold away
    omega
  refine ⟨?_, ?_⟩
  · rw [(inBounds_of_cursor_none start).browse_position, position_eq_away_iff.mpr start,
      List.foldl_cons, first, List.foldl_append, foldl_walked_ups (by omega),
      foldl_walked_downs (by unfold away; omega)]
    omega
  · rw [browse_up_draft start, first, drafted_append, drafted_ups filled (Int.le_refl 0),
      drafted_downs]
    rfl

/-- Browsing is a walk that stops at both ends and keeps the draft.

It begins where no entry is looked at, with a key up and some text in the field,
and goes on with any keys.  Then the position is that of the walk, and within its
bounds; an entry that is looked at is shown, and otherwise the draft.  The draft
is the text that was last brought to the place away from the entries: the text
from the beginning, as long as the walk has not come back before, so that this is
what is shown when it does come back.

With entries, the number of the one that is shown after going up and down is the
difference, where going up counts at most to the oldest.  Without entries, going
up shows the text that it is given and makes it the draft, which going down shows.
The entries are never changed. -/
theorem browsing_walk (history : History) (start : history.cursor = none) (field : String)
    (moves : List Move) :
    let count := history.entries.length
    let after := history.browse (.up field :: moves)
    (after.position = (Move.up field :: moves).foldl (Move.walked count) away ∧
      away ≤ after.position ∧ after.position ≤ count - 1) ∧
    (forall index : Nat, after.position = index ->
      history.entries[index]? = some after.field) ∧
    (after.position = away -> after.field = after.draft) ∧
    (Move.drafted count away (.up field :: moves)).getLast? = some after.draft ∧
    ((forall front rest, moves = front ++ rest -> rest ≠ [] ->
        (history.browse (.up field :: front)).position ≠ away) ->
      after.draft = field ∧ (after.position = away -> after.field = field)) ∧
    (1 ≤ count -> forall (fields : List String) (times : Nat),
      let height := min (fields.length + 1) count
      let shown := (history.browse
        (.up field :: (fields.map .up ++ List.replicate times .down))).field
      (times < height -> history.entries[height - 1 - times]? = some shown) ∧
      (height ≤ times -> shown = field)) ∧
    (count = 0 -> after.field = after.draft ∧ after.down.field = after.draft ∧
      forall text, (after.up text).field = text ∧ (after.up text).draft = text ∧
        (after.up text).down.field = text) ∧
    after.entries = history.entries := by
  intro count after
  have inBounds : history.InBounds := inBounds_of_cursor_none start
  have begins : history.position = away := position_eq_away_iff.mpr start
  have entries : forall others, (history.browse others).entries = history.entries :=
    history.browse_entries
  have bounded : forall others, (history.browse others).InBounds := inBounds.browse
  have positions : forall others, (history.browse others).position =
      others.foldl (Move.walked count) away := by
    intro others
    rw [inBounds.browse_position, begins]
  have atEntry : forall others (index : Nat), (history.browse others).position = index ->
      history.entries[index]? = some (history.browse others).field := by
    intro others index there
    rw [← entries others]
    exact getElem?_of_cursor (bounded others) (cursor_of_position there)
  have ends : forall others, (history.browse others).position = away ->
      (history.browse others).field = (history.browse others).draft := fun others there =>
    field_of_cursor_none (position_eq_away_iff.mp there)
  have within : away ≤ after.position ∧ after.position ≤ count - 1 := by
    have bounds := (bounded (.up field :: moves)).position_bounds
    rwa [entries] at bounds
  refine ⟨⟨positions _, within⟩, atEntry _, ends _, ?_, ?_, ?_, ?_, entries _⟩
  · rw [browse_up_draft start, Move.drafted, if_pos rfl, Move.text?, Option.toList_some,
      List.singleton_append, List.getLast?_cons]
  · intro looking
    have kept : after.draft = field := by
      rw [browse_up_draft start, drafted_of_looking]
      · rfl
      · intro front rest split behind
        have there := looking front rest split behind
        rwa [positions, List.foldl_cons] at there
    exact ⟨kept, fun there => (ends _ there).trans kept⟩
  · intro filled fields times height shown
    rcases browse_ups_downs start filled field fields times with ⟨there, kept⟩
    refine ⟨fun above => atEntry _ _ ?_, fun beyond => (ends _ ?_).trans kept⟩
    · rw [there]
      unfold away
      omega
    · rw [there]
      unfold away
      omega
  · intro empty
    have nowhere : after.position = away := by
      unfold away at within ⊢
      omega
    have still : after.cursor = none := position_eq_away_iff.mp nowhere
    refine ⟨ends _ nowhere, down_field still, fun text => ?_⟩
    rw [up_of_no_entries still ((entries _).trans (List.length_eq_zero_iff.mp empty)) text]
    exact ⟨field_of_cursor_none still, rfl, down_field still⟩

/-- Three entries, typing between the keys, and one key up too many. -/
theorem browsed_three_entries :
    let history : History := { entries := ["end", "draw", "help"], draft := "old" }
    let moves : List Move := [.key "x", .up "y", .up "z", .up "w", .down]
    history.cursor = none ∧ (history.browse (.up "half" :: moves)).position = 1 ∧
      (history.browse (.up "half" :: moves)).field = "draw" ∧
      (history.browse (.up "half" :: moves)).draft = "half" := by
  intro history moves
  have walk := browsing_walk history rfl "half" moves
  have shown := walk.2.1 1 walk.1.1
  have kept := walk.2.2.2.1
  exact ⟨rfl, walk.1.1, (Option.some.inj shown).symm, (Option.some.inj kept).symm⟩

end
end History
end CardTable
