import CardTable.Proofs.Yaml.Cells

namespace CardTable
namespace Yaml
namespace Scan

/-!
# One more token

A scan over written lines is in one of a few states: between tokens, behind a word
that may still be a key, or behind the end.  For each of them it is told which token
comes next, what becomes of the state, and what a round of the scan gives.
-/

section

variable {scan : Scan} {cell : Cell} {rest : List Cell}

/-! ## Which token comes next -/

theorem readToken?_word (word : IsWord cell.char) (cells : scan.cells = cell :: rest) :
    scan.readToken? = scan.readPlain? := by
  have different : forall sign, isIndicator sign = true -> cell.char ≠ sign :=
    word.ne_of_isIndicator
  have starts : startsPlain scan.inFlow scan.cells = true := by
    rw [startsPlain, cells]
    simp [peek, word.notSpace, word.noIndicator]
  unfold readToken?
  rw [starts, cells]
  simp only [peek, List.getElem?_cons_zero, word.notEnd,
    startsMarker_of_char (different '-' rfl), startsMarker_of_char word.noPoint,
    different '%' rfl, different '[' rfl, different '\x7b' rfl,
    different ']' rfl, different '\x7d' rfl, different ',' rfl, different '-' rfl,
    different '?' rfl, different ':' rfl, different '*' rfl, different '&' rfl, different '!' rfl,
    different '|' rfl, different '>' rfl, different '\x27' rfl, different '\x22' rfl,
    decide_false, Bool.false_and, Bool.false_eq_true, if_false, if_true]

theorem readToken?_colon (colon : cell.char = ':') (space : isSpace (peek rest 0) = true)
    (cells : scan.cells = cell :: rest) : scan.readToken? = scan.readValue? := by
  have noMarker : forall mark, ':' ≠ mark -> startsMarker mark (cell :: rest) = false :=
    fun mark other => startsMarker_of_char (colon ▸ other) rest
  have behind : peek (cell :: rest) 1 = peek rest 0 := rfl
  unfold readToken?
  rw [cells, behind, space]
  simp [peek, colon, noMarker, endMark]

theorem readToken?_quote (quote : cell.char = '\x22') (cells : scan.cells = cell :: rest) :
    scan.readToken? = scan.readQuoted? false := by
  have noMarker : forall mark, '\x22' ≠ mark -> startsMarker mark (cell :: rest) = false :=
    fun mark other => startsMarker_of_char (quote ▸ other) rest
  unfold readToken?
  rw [cells]
  simp [peek, quote, noMarker, endMark]

theorem readToken?_end (ends : cell.char = endMark) (cells : scan.cells = cell :: rest) :
    scan.readToken? = scan.readEnd? := by
  unfold readToken?
  rw [cells]
  simp [peek, ends]

end

/-! ## Scans of blocks -/

/-- A scan outside flow collections, where no candidate for a key is left. -/
def reading (queue : List Token) (released : Nat) (indent : Int) (outer : List Int)
    (keyAllowed : Bool) (cells : List Cell) : Scan :=
  { cells := cells
    queue := queue
    released := released
    indent := indent
    outer := outer
    keyAllowed := keyAllowed
    started := true }

/-- The same with one candidate. -/
def holding (candidate : Candidate) (queue : List Token) (released : Nat) (indent : Int)
    (outer : List Int) (keyAllowed : Bool) (cells : List Cell) : Scan :=
  { reading queue released indent outer keyAllowed cells with candidates := [candidate] }

section

variable {queue : List Token} {released : Nat} {indent : Int} {outer : List Int}
  {keyAllowed : Bool} {cells : List Cell}

theorem advance?_of_skips {scan kept : Scan} {allowed : Bool} {rest : List Cell}
    (started : scan.started = true)
    (skips : skipSpace scan.inFlow scan.keyAllowed false scan.cells = (allowed, rest))
    (fresh : { scan with cells := rest, keyAllowed := allowed }.dropStale? = some kept) :
    scan.advance? = (kept.unroll kept.column).readToken? := by
  rw [advance?, if_pos started, skips]
  change (dropStale? _ >>= _) = _
  rw [fresh]
  rfl

theorem advance?_reading {allowed : Bool} {cell : Cell} {rest : List Cell}
    (skips : skipSpace false keyAllowed false cells = (allowed, cell :: rest)) :
    (reading queue released indent outer keyAllowed cells).advance? =
      ((reading queue released indent outer allowed (cell :: rest)).unroll
        cell.column).readToken? := by
  have fresh : (reading queue released indent outer allowed (cell :: rest)).dropStale? =
      some (reading queue released indent outer allowed (cell :: rest)) :=
    rfl
  exact advance?_of_skips rfl skips fresh

/-- Nothing ends where the text is not further out. -/
theorem unrollTo_of_le (scan : Scan) {column : Int} (inside : scan.indent ≤ column)
    (outer : List Int) : scan.unrollTo column outer = scan := by
  cases outer with
  | nil => rfl
  | cons next around => rw [unrollTo, if_neg (by omega)]

theorem unroll_of_le {scan : Scan} {column : Int} (inside : scan.indent ≤ column) :
    scan.unroll column = scan := by
  rw [unroll, unrollTo_of_le scan inside, ite_self]

theorem queue_reading : (reading queue released indent outer keyAllowed cells).queue = queue :=
  rfl

theorem finished_reading :
    (reading queue released indent outer keyAllowed cells).finished = false :=
  rfl

theorem rounds_release (token : Token) (fuel : Nat) :
    (reading (token :: queue) released indent outer keyAllowed cells).rounds (fuel + 1) =
      token :: (reading queue (released + 1) indent outer keyAllowed cells).rounds fuel :=
  rfl

theorem rounds_find {next : Scan}
    (found : (reading [] released indent outer keyAllowed cells).advance? = some next)
    (fuel : Nat) :
    (reading [] released indent outer keyAllowed cells).rounds (fuel + 1) = next.rounds fuel := by
  simp only [rounds, queue_reading, finished_reading, found, Bool.false_eq_true, if_false]

theorem rounds_stuck (stuck : (reading [] released indent outer keyAllowed cells).advance? = none)
    (fuel : Nat) : (reading [] released indent outer keyAllowed cells).rounds fuel = [] := by
  cases fuel with
  | zero => rfl
  | succ fewer => simp only [rounds, queue_reading, stuck, ite_self]

end

/-! ## Candidates -/

theorem readPlain?_of_saved {scan next : Scan} (saved : scan.saveCandidate? = some next)
    {text : List Char} {broken : Bool} {rest : List Cell}
    (read : Plain.readFrom? next.inFlow (next.indent + 1) .empty [] next.cells =
      some (text, broken, rest)) :
    scan.readPlain? =
      some { next.push (.scalar text .plain) with cells := rest, keyAllowed := broken } := by
  rw [readPlain?, saved]
  change (Plain.readFrom? next.inFlow (next.indent + 1) .empty [] next.cells >>= _) = _
  rw [read]
  rfl

section

variable {token : Token} {queue : List Token} {released : Nat} {indent : Int} {outer : List Int}
  {keyAllowed : Bool} {candidate : Candidate} {line column : Nat}

theorem queue_holding {cells : List Cell} :
    (holding candidate queue released indent outer keyAllowed cells).queue = queue :=
  rfl

theorem dropStale?_holding {cells : List Cell} :
    (holding candidate queue released indent outer keyAllowed cells).dropStale? =
      if (reading queue released indent outer keyAllowed cells).isStale candidate then
        if candidate.required then none
        else some (reading queue released indent outer keyAllowed cells)
      else some (holding candidate queue released indent outer keyAllowed cells) := by
  have same : (holding candidate queue released indent outer keyAllowed cells).isStale =
      (reading queue released indent outer keyAllowed cells).isStale :=
    rfl
  have alone : (holding candidate queue released indent outer keyAllowed cells).candidates =
      [candidate] :=
    rfl
  rw [dropStale?, same, alone, List.partition_eq_filter_filter]
  generalize (reading queue released indent outer keyAllowed cells).isStale = stale
  cases verdict : stale candidate with
  | false => simp [verdict, holding]
  | true =>
      have dropped : [candidate].filter (not ∘ stale) = [] := by simp [verdict]
      rw [dropped]
      simp [verdict, holding, reading]

theorem isStale_eq_false {cell : Cell} {rest : List Cell} (sameLine : cell.line = candidate.line)
    (near : cell.column ≤ candidate.column + 1024) :
    (reading queue released indent outer keyAllowed (cell :: rest)).isStale candidate = false := by
  simp only [isStale, Bool.or_eq_false_iff, decide_eq_false_iff_not, Nat.not_lt]
  exact ⟨Nat.le_of_eq sameLine, near⟩

theorem isStale_eq_true {cell : Cell} {rest : List Cell}
    (far : candidate.column + 1024 < cell.column) :
    (reading queue released indent outer keyAllowed (cell :: rest)).isStale candidate = true := by
  simp only [isStale, Bool.or_eq_true, decide_eq_true_eq]
  exact Or.inr far

theorem advance?_holding {cell : Cell} {rest : List Cell} (first : IsFirst cell.char)
    (fresh : (reading queue released indent outer keyAllowed (cell :: rest)).isStale candidate =
      false) :
    (holding candidate queue released indent outer keyAllowed (cell :: rest)).advance? =
      ((holding candidate queue released indent outer keyAllowed (cell :: rest)).unroll
        cell.column).readToken? := by
  have kept : (holding candidate queue released indent outer keyAllowed
        (cell :: rest)).dropStale? =
      some (holding candidate queue released indent outer keyAllowed (cell :: rest)) := by
    rw [dropStale?_holding, fresh]
    rfl
  exact advance?_of_skips rfl (skipSpace_of_isFirst first keyAllowed rest) kept

/-- A token before the candidate leaves the queue. -/
theorem rounds_before {cells : List Cell}
    (fresh : (reading (token :: queue) released indent outer keyAllowed cells).isStale candidate =
      false) (later : candidate.number ≠ released) (fuel : Nat) :
    (holding candidate (token :: queue) released indent outer keyAllowed cells).rounds (fuel + 1) =
      token :: (holding candidate queue (released + 1) indent outer keyAllowed cells).rounds
        fuel := by
  have closed : (holding candidate (token :: queue) released indent outer keyAllowed
      cells).firstIsOpen = false := by
    simp [firstIsOpen, holding, reading, later]
  simp only [rounds, queue_holding, dropStale?_holding, fresh, closed, Bool.false_eq_true, if_false]
  rfl

/-- A candidate at the front of the queue is looked at more closely. -/
theorem rounds_at {cells : List Cell} {next : Scan}
    (fresh : (reading (token :: queue) released indent outer keyAllowed cells).isStale candidate =
      false) (first : candidate.number = released)
    (found : (holding candidate (token :: queue) released indent outer keyAllowed
      cells).advance? = some next) (fuel : Nat) :
    (holding candidate (token :: queue) released indent outer keyAllowed cells).rounds (fuel + 1) =
      next.rounds fuel := by
  have opened : (holding candidate (token :: queue) released indent outer keyAllowed
      cells).firstIsOpen = true := by
    simp [firstIsOpen, holding, reading, first]
  simp only [rounds, queue_holding, dropStale?_holding, fresh, opened, found, Bool.false_eq_true,
    if_false, if_true]

/-- Tokens behind which no key is possible any more leave the queue, or the text
makes no sense. -/
theorem rounds_stale {cells : List Cell}
    (stale : (reading (token :: queue) released indent outer keyAllowed cells).isStale candidate =
      true) (fuel : Nat) :
    (holding candidate (token :: queue) released indent outer keyAllowed cells).rounds fuel =
      if candidate.required then []
      else (reading (token :: queue) released indent outer keyAllowed cells).rounds fuel := by
  cases fuel with
  | zero => exact (ite_self []).symm
  | succ fewer =>
      simp only [rounds, queue_holding, dropStale?_holding, stale, if_true]
      cases candidate.required <;> rfl

/-- Where a key may start, a word is taken for a candidate.  The blocks that end
before it have their tokens first. -/
theorem advance?_key {word : List Char} (words : forall c, c ∈ word -> IsWord c)
    (filled : word ≠ []) {next : Char} (between : next = '\n' ∨ next = ' ') {rest : List Char}
    {cells : List Cell}
    (skips : skipSpace false keyAllowed false cells =
      (true, cellsFrom line column (word ++ ':' :: next :: rest)))
    {closers : List Token} {near : Int} {around : List Int}
    (unrolled : (reading [] released indent outer true
        (cellsFrom line column (word ++ ':' :: next :: rest))).unroll column =
      reading closers released near around true
        (cellsFrom line column (word ++ ':' :: next :: rest))) :
    (reading [] released indent outer keyAllowed cells).advance? =
      some (holding ⟨released + closers.length, line, column, 0, decide (near = column)⟩
        (closers ++ [.scalar word .plain]) released near around false
        (cellsFrom line (column + word.length) (':' :: next :: rest))) := by
  cases word with
  | nil => exact absurd rfl filled
  | cons first more =>
      have start := words first List.mem_cons_self
      have split : cellsFrom line column (first :: more ++ ':' :: next :: rest) =
          ⟨first, line, column⟩ :: cellsFrom line (column + 1) (more ++ ':' :: next :: rest) :=
        cellsFrom_cons start.inLine
      have read := Plain.readFrom?_key words between (near + 1) line column rest
      rw [split] at skips unrolled read
      have saved : (reading closers released near around true (⟨first, line, column⟩ ::
            cellsFrom line (column + 1) (more ++ ':' :: next :: rest))).saveCandidate? =
          some (holding ⟨released + closers.length, line, column, 0, decide (near = column)⟩
            closers released near around true (⟨first, line, column⟩ ::
              cellsFrom line (column + 1) (more ++ ':' :: next :: rest))) :=
        rfl
      rw [advance?_reading skips, unrolled, readToken?_word start rfl,
        readPlain?_of_saved saved read]
      rfl

/-- At the colon, a candidate that is not stale was a key. -/
theorem advance?_value {word : List Char} {next : Char} (between : next = '\n' ∨ next = ' ')
    {rest : List Char} {behind : Nat} (inside : indent ≤ column) (further : column ≤ behind)
    (near : behind ≤ column + 1024) {opening : List Token} {around : List Int}
    (rolled : (opening = [] ∧ indent = column ∧ around = outer) ∨
      (opening = [.blockMappingStart] ∧ indent < column ∧ around = indent :: outer))
    (required : Bool) :
    (holding ⟨released, line, column, 0, required⟩ [.scalar word .plain] released indent outer
        false (cellsFrom line behind (':' :: next :: rest))).advance? =
      some (reading (opening ++ [.key, .scalar word .plain, .value]) released column around false
        (cellsFrom line (behind + 1) (next :: rest))) := by
  have space := isSpace_peek_of_between between line (behind + 1) rest
  rw [cellsFrom_colon, advance?_holding isFirst_colon (isStale_eq_false rfl near),
    unroll_of_le (show indent ≤ behind by omega), readToken?_colon rfl space rfl]
  rcases rolled with ⟨rfl, same, rfl⟩ | ⟨rfl, deeper, rfl⟩
  · subst same
    simp [readValue?, splitCandidates, holding, reading, insert, roll, inFlow, drop, push]
  · simp [readValue?, splitCandidates, holding, reading, insert, roll, inFlow, drop, push, deeper]

/-! ## Values -/

theorem advance?_quoted {text : List Char} (quotable : forall c, c ∈ text -> IsQuotable c)
    (inside : indent ≤ column) (rest : List Char) :
    (reading [] released indent outer false
        (cellsFrom line column (' ' :: '\x22' :: (text ++ '\x22' :: rest)))).advance? =
      some (reading [.scalar text .quoted] released indent outer false
        (cellsFrom line (column + 1 + 1 + text.length + 1) rest)) := by
  have quote : cellsFrom line (column + 1) ('\x22' :: (text ++ '\x22' :: rest)) =
      ⟨'\x22', line, column + 1⟩ :: cellsFrom line (column + 1 + 1) (text ++ '\x22' :: rest) :=
    cellsFrom_cons rfl
  have first : IsFirst '\x22' := ⟨rfl, rfl, by decide, by decide⟩
  have skips := skipSpace_blank false line column ('\x22' :: (text ++ '\x22' :: rest))
  rw [quote, skipSpace_of_isFirst first] at skips
  have read := Quoted.readFrom?_quoted quotable line (Nat.succ_pos (column + 1)) rest []
  rw [advance?_reading skips, unroll_of_le (show indent ≤ (column + 1 : Nat) by omega),
    readToken?_quote rfl rfl, readQuoted?]
  change (Quoted.readFrom? false (.text .empty) []
    (cellsFrom line (column + 1 + 1) (text ++ '\x22' :: rest)) >>= _) = _
  rw [read]
  rfl

theorem advance?_numeral {digits : List Char} (words : forall c, c ∈ digits -> IsWord c)
    (filled : digits ≠ []) (inside : indent ≤ column) {count : Nat} (out : count ≤ indent)
    {text : List Char} (opens : Opens text) :
    (reading [] released indent outer false
        (cellsFrom line column (' ' :: (digits ++ '\n' :: (List.replicate count ' ' ++
          text))))).advance? =
      some (reading [.scalar digits .plain] released indent outer true
        (cellsFrom (line + 1) count text)) := by
  cases digits with
  | nil => exact absurd rfl filled
  | cons first more =>
      have start := words first List.mem_cons_self
      have opened : Opens (first :: more ++ '\n' :: (List.replicate count ' ' ++ text)) :=
        Or.inr ⟨first, _, rfl, start⟩
      have skips := (skipSpace_blank false line column _).trans
        (skipSpace_of_opens opened false line (column + 1))
      have read := Plain.readFrom?_numeral words (Int.lt_add_one_of_le out) opens line (column + 1)
      have split : cellsFrom line (column + 1)
            (first :: more ++ '\n' :: (List.replicate count ' ' ++ text)) =
          ⟨first, line, column + 1⟩ :: cellsFrom line (column + 1 + 1)
            (more ++ '\n' :: (List.replicate count ' ' ++ text)) :=
        cellsFrom_cons start.inLine
      rw [split] at skips read
      have saved : (reading [] released indent outer false (⟨first, line, column + 1⟩ ::
            cellsFrom line (column + 1 + 1)
              (more ++ '\n' :: (List.replicate count ' ' ++ text)))).saveCandidate? =
          some (reading [] released indent outer false (⟨first, line, column + 1⟩ ::
            cellsFrom line (column + 1 + 1)
              (more ++ '\n' :: (List.replicate count ' ' ++ text)))) :=
        rfl
      rw [advance?_reading skips, unroll_of_le (show indent ≤ (column + 1 : Nat) by omega),
        readToken?_word start rfl, readPlain?_of_saved saved read]
      rfl

/-! ## The two ends of a text -/

theorem rounds_start (cells : List Cell) (fuel : Nat) :
    rounds { cells := cells } (fuel + 2) =
      .streamStart :: (reading [] 1 (-1) [] true cells).rounds fuel :=
  rfl

/-- The scan behind the end of the text. -/
def ended (queue : List Token) (released : Nat) (cells : List Cell) : Scan :=
  { reading queue released (-1) [] false cells with finished := true }

/-- Once the end was found, the tokens that wait leave one after the other. -/
theorem rounds_ended (queue : List Token) (released : Nat) (cells : List Cell) {fuel : Nat}
    (enough : queue.length ≤ fuel) : (ended queue released cells).rounds fuel = queue := by
  induction fuel generalizing queue released with
  | zero => exact (List.length_eq_zero_iff.mp (Nat.le_zero.mp enough)).symm
  | succ fewer inductionHypothesis =>
      cases queue with
      | nil => rfl
      | cons token others =>
          have later := inductionHypothesis others (released + 1) (Nat.le_of_succ_le_succ enough)
          exact congrArg (List.cons token) later

/-- At the end of the text all blocks end. -/
theorem rounds_end {cells : List Cell}
    (skips : skipSpace false keyAllowed false cells = (true, [⟨endMark, line, 0⟩]))
    {before closers : List Token} {near : Int} {around : List Int}
    (unrolled : (reading [] released indent outer true [⟨endMark, line, 0⟩]).unroll 0 =
      reading before released near around true [⟨endMark, line, 0⟩])
    (emptied : (reading before released near around true [⟨endMark, line, 0⟩]).unroll (-1) =
      reading closers released (-1) [] true [⟨endMark, line, 0⟩])
    {fuel : Nat} (enough : closers.length + 2 ≤ fuel) :
    (reading [] released indent outer keyAllowed cells).rounds fuel = closers ++ [.streamEnd] := by
  have found : (reading [] released indent outer keyAllowed cells).advance? =
      some (ended (closers ++ [.streamEnd]) released [⟨endMark, line, 0⟩]) := by
    rw [advance?_reading skips]
    change ((reading [] released indent outer true [⟨endMark, line, 0⟩]).unroll 0).readToken? = _
    rw [unrolled, readToken?_end rfl rfl, readEnd?, emptied]
    rfl
  cases fuel with
  | zero => omega
  | succ fewer =>
      rw [rounds_find found, rounds_ended]
      rw [List.length_append]
      exact Nat.le_of_succ_le_succ enough

end
end Scan
end Yaml
end CardTable
