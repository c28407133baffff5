namespace CardTable

/-!
# Submitted lines and recall

The history keeps submitted lines and a cursor for going through them.  While
the cursor is away, the text in the input field is the draft; going up from
there keeps the draft, and going down past the newest line brings it back.
-/

structure History where
  /-- Submitted lines, newest first. -/
  entries : List String := []
  /-- The entry that is being looked at. -/
  cursor : Option Nat := none
  /-- What was in the input field when no entry was looked at. -/
  draft : String := ""
  deriving DecidableEq, Repr

namespace History

def field (history : History) : String :=
  match history.cursor with
  | none => history.draft
  | some index => history.entries.getD index history.draft

def submit (history : History) (line : String) : History :=
  { entries := line :: history.entries }

/-- A key changed the text of the input field. -/
def typed (history : History) (field : String) : History :=
  match history.cursor with
  | none => { history with draft := field }
  | some _ => history

/-- The cursor one entry older, stopping at the oldest. -/
def older (count : Nat) : Option Nat -> Option Nat
  | none => if count = 0 then none else some 0
  | some index => if count = 0 then some index else some (min (index + 1) (count - 1))

/-- The cursor one entry newer; from the newest it goes away. -/
def newer : Option Nat -> Option Nat
  | none => none
  | some 0 => none
  | some (index + 1) => some index

/-- Look at the next older entry.  Going up for the first time keeps the text
of the field as the draft. -/
def up (history : History) (field : String) : History :=
  let kept := history.typed field
  { kept with cursor := older kept.entries.length kept.cursor }

/-- Look at the next newer entry, and at last at the draft. -/
def down (history : History) : History :=
  { history with cursor := newer history.cursor }

/-- Stop looking at entries and drop the draft. -/
def escape (history : History) : History :=
  { history with cursor := none, draft := "" }

end History
end CardTable
