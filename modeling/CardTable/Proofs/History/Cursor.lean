import CardTable.History

namespace CardTable

/-!
# The cursor of the history

The cursor never points past the oldest entry.  Going up, going down and typing
leave the entries, and what the field shows is the entry at the cursor, or the
draft when the cursor is away.
-/

namespace History

/-- The cursor is away, or it points at an entry. -/
def InBounds (history : History) : Prop :=
  forall index, history.cursor = some index -> index < history.entries.length

theorem typed_entries (history : History) (field : String) :
    (history.typed field).entries = history.entries := by
  unfold typed
  split <;> rfl

theorem typed_cursor (history : History) (field : String) :
    (history.typed field).cursor = history.cursor := by
  unfold typed
  split <;> rfl

theorem up_entries (history : History) (field : String) :
    (history.up field).entries = history.entries :=
  history.typed_entries field

variable {history : History}

theorem inBounds_of_cursor_none (away : history.cursor = none) : history.InBounds := by
  intro index points
  rw [away] at points
  cases points

theorem InBounds.typed (inBounds : history.InBounds) (field : String) :
    (history.typed field).InBounds := by
  intro index points
  rw [typed_cursor] at points
  rw [typed_entries]
  exact inBounds index points

theorem InBounds.up (inBounds : history.InBounds) (field : String) :
    (history.up field).InBounds := by
  intro index points
  rw [up_entries]
  have moved : older history.entries.length history.cursor = some index := by
    rw [← history.typed_entries field, ← history.typed_cursor field]
    exact points
  cases cursor : history.cursor with
  | none =>
      rw [cursor, older] at moved
      split at moved
      · cases moved
      · next some =>
        cases moved
        exact Nat.pos_of_ne_zero some
  | some former =>
      have below := inBounds former cursor
      have some : history.entries.length ≠ 0 := Nat.ne_zero_of_lt below
      rw [cursor, older, if_neg some] at moved
      cases moved
      exact Nat.lt_of_le_of_lt (Nat.min_le_right _ _) (Nat.sub_one_lt some)

theorem InBounds.down (inBounds : history.InBounds) : history.down.InBounds := by
  intro index points
  have moved : newer history.cursor = some index := points
  cases cursor : history.cursor with
  | none =>
      rw [cursor] at moved
      cases moved
  | some former =>
      rw [cursor] at moved
      cases former with
      | zero => cases moved
      | succ smaller =>
          cases moved
          exact Nat.lt_of_succ_lt (inBounds _ cursor)

theorem field_of_cursor_none (away : history.cursor = none) : history.field = history.draft := by
  rw [field, away]

/-- A cursor in bounds shows the entry that it points at. -/
theorem getElem?_of_cursor (inBounds : history.InBounds) {index : Nat}
    (points : history.cursor = some index) : history.entries[index]? = some history.field := by
  have below := inBounds index points
  rw [field, points]
  dsimp only
  rw [List.getD_eq_getElem?_getD, List.getElem?_eq_getElem below]
  rfl

end History
end CardTable
