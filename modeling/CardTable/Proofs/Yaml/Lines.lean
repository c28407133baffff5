import CardTable.Proofs.Text.Numeral
import CardTable.Proofs.Yaml.Advance

namespace CardTable
namespace Yaml

/-!
# Tokens of written lines

A line is a key, a colon and perhaps a value.  What its tokens are depends on the
columns around it only: a line that stands further in than the last one starts a
block, and one that comes back out ends one.

A key that is too long is not known as a key at its colon, and the text makes no
sense there.  The end of the stream is then never reached.
-/

/-- A key as it is written: a word without quotes. -/
structure Key where
  name : String
  filled : name.toList ≠ []
  written : forall c, c ∈ name.toList -> IsWord c

theorem isWord_of_mem_decimal {amount : Nat} {c : Char} (member : c ∈ Text.decimal amount) :
    IsWord c := by
  have letter : c.isAlphanum = true := by
    rw [Char.isAlphanum, Text.isDigit_of_mem_decimal member, Bool.or_true]
  exact (isWord_and_isQuotable_of_isAlphanum letter).1

/-- A value as it is written: a text between double quotes, or a number. -/
inductive Value where
  | text (content : String) (written : forall c, c ∈ content.toList -> IsQuotable c)
  | number (amount : Nat)

namespace Value

def chars : Value -> List Char
  | .text content _ => '\x22' :: (content.toList ++ ['\x22'])
  | .number amount => Text.decimal amount

def token : Value -> Token
  | .text content _ => .scalar content.toList .quoted
  | .number amount => .scalar (Text.decimal amount) .plain

theorem token_ne_streamEnd (value : Value) : value.token ≠ .streamEnd := by
  cases value with
  | text content written => exact Token.noConfusion
  | number amount => exact Token.noConfusion

end Value

structure Line where
  column : Nat
  key : Key
  value : Option Value

namespace Line

/-- What stands behind the colon. -/
def behind (line : Line) : List Char :=
  match line.value with
  | some value => ' ' :: (value.chars ++ ['\n'])
  | none => ['\n']

/-- The line without the blanks before the key. -/
def body (line : Line) : List Char :=
  line.key.name.toList ++ ':' :: line.behind

def chars (line : Line) : List Char :=
  List.replicate line.column ' ' ++ line.body

def tokens (line : Line) : List Token :=
  .key :: .scalar line.key.name.toList .plain :: .value ::
    (match line.value with
      | some value => [value.token]
      | none => [])

/-- The key is so long that it is not known as one. -/
def IsLong (line : Line) : Prop :=
  1024 < line.key.name.toList.length

/-- The column where lines go on: that of the first one, or the first column at
the end of the text. -/
def margin : List Line -> Nat
  | [] => 0
  | line :: _ => line.column

/-- Lines without the blanks before the first one. -/
def bodies : List Line -> List Char
  | [] => []
  | line :: rest => line.body ++ rest.flatMap chars

theorem flatMap_chars (lines : List Line) :
    lines.flatMap chars = List.replicate (margin lines) ' ' ++ bodies lines := by
  cases lines with
  | nil => rfl
  | cons line rest => rw [List.flatMap_cons, chars, margin, bodies, List.append_assoc]

theorem opens_bodies (lines : List Line) : Opens (bodies lines) := by
  cases lines with
  | nil => exact Or.inl rfl
  | cons line rest =>
      cases name : line.key.name.toList with
      | nil => exact absurd name line.key.filled
      | cons first more =>
          refine Or.inr ⟨first, more ++ ':' :: line.behind ++ rest.flatMap chars, ?_, ?_⟩
          · rw [bodies, body, name]
            rfl
          · exact line.key.written first (name ▸ List.mem_cons_self)

end Line

/-! ## Columns -/

/-- How a line at a column goes on from the innermost block and the blocks around
it: it stays in the block, goes further in, or comes back out of one.  The tokens
are those of a block that starts or ends; the list at the end has the blocks that
are then around the line. -/
inductive Turns (column : Nat) : Int -> List Int -> List Token -> List Int -> Prop where
  | stay (outer : List Int) : Turns column column outer [] outer
  | inward {indent : Int} (outer : List Int) (further : indent < column) :
      Turns column indent outer [.blockMappingStart] (indent :: outer)
  | outward {indent : Int} (outer : List Int) (back : column < indent) :
      Turns column indent ((column : Int) :: outer) [.blockEnd] outer

/-- A line ends blocks before its key is read, and starts one when the key is known
as such. -/
theorem Turns.parts {column : Nat} {indent : Int} {outer around : List Int}
    {opening : List Token} (turns : Turns column indent outer opening around) (released : Nat)
    (cells : List Cell) :
    Exists fun closers => Exists fun starters => Exists fun near => Exists fun between =>
      opening = closers ++ starters ∧ closers.length + starters.length ≤ 1 ∧
        .streamEnd ∉ opening ∧
        (Scan.reading [] released indent outer true cells).unroll column =
          Scan.reading closers released near between true cells ∧
        (near : Int) ≤ column ∧
        ((starters = [] ∧ near = column ∧ around = between) ∨
          (starters = [.blockMappingStart] ∧ near < column ∧ around = near :: between)) := by
  cases turns with
  | stay =>
      exact ⟨[], [], column, outer, rfl, Nat.zero_le 1, List.not_mem_nil,
        Scan.unroll_of_le (Int.le_refl column), Int.le_refl column, Or.inl ⟨rfl, rfl, rfl⟩⟩
  | inward _ further =>
      have inside := Int.le_of_lt further
      exact ⟨[], [.blockMappingStart], indent, outer, rfl, Nat.le_refl 1, by simp,
        Scan.unroll_of_le inside, inside, Or.inr ⟨rfl, further, rfl⟩⟩
  | outward _ back =>
      refine ⟨[.blockEnd], [], column, around, rfl, Nat.le_refl 1, by simp, ?_,
        Int.le_refl column, Or.inl ⟨rfl, rfl, rfl⟩⟩
      change Scan.unrollTo _ column (column :: around) = _
      rw [Scan.unrollTo]
      exact (if_pos back).trans (Scan.unrollTo_of_le _ (Int.le_refl column) around)

/-! ## Runs of the scan -/

/-- The scan is between two tokens, and goes on with these lines. -/
def Waits (scan : Scan) (indent : Int) (outer : List Int) (lines : List Line) : Prop :=
  Exists fun released => Exists fun keyAllowed => Exists fun cells => Exists fun row =>
    scan = Scan.reading [] released indent outer keyAllowed cells ∧
      Scan.skipSpace false keyAllowed false cells =
        (true, cellsFrom row (Line.margin lines) (Line.bodies lines))

/-- With at least so many rounds the scan gives these tokens, unless the text is
broken; then the end of the stream is not among the tokens. -/
def Leads (broken : Prop) (scan : Scan) (limit : Nat) (tokens : List Token) : Prop :=
  forall fuel, limit ≤ fuel ->
    scan.rounds fuel = tokens ∨ (broken ∧ .streamEnd ∉ scan.rounds fuel)

namespace Leads

open Scan

section

variable {broken : Prop} {scan next : Scan} {limit : Nat} {tokens : List Token}

theorem mono {more : Nat} (leads : Leads broken scan limit tokens) (greater : limit ≤ more) :
    Leads broken scan more tokens :=
  fun fuel enough => leads fuel (Nat.le_trans greater enough)

/-- A round that gives no token. -/
theorem silent (step : forall fuel, scan.rounds (fuel + 1) = next.rounds fuel)
    (onward : Leads broken next limit tokens) : Leads broken scan (limit + 1) tokens := by
  intro fuel enough
  cases fuel with
  | zero => omega
  | succ fewer =>
      rw [step]
      exact onward fewer (Nat.le_of_succ_le_succ enough)

/-- A round that gives a token. -/
theorem give {token : Token}
    (step : forall fuel, scan.rounds (fuel + 1) = token :: next.rounds fuel)
    (goesOn : token ≠ .streamEnd) (onward : Leads broken next limit tokens) :
    Leads broken scan (limit + 1) (token :: tokens) := by
  intro fuel enough
  cases fuel with
  | zero => omega
  | succ fewer =>
      rw [step]
      rcases onward fewer (Nat.le_of_succ_le_succ enough) with same | ⟨breaks, endless⟩
      · exact Or.inl (congrArg (List.cons token) same)
      · refine Or.inr ⟨breaks, ?_⟩
        rw [List.mem_cons, not_or]
        exact ⟨goesOn.symm, endless⟩

variable {queue : List Token} {released : Nat} {indent : Int} {outer : List Int}
  {keyAllowed : Bool} {cells : List Cell}

/-- Without a candidate, the tokens that wait leave the queue. -/
theorem drain (goesOn : .streamEnd ∉ queue)
    (onward : forall released,
      Leads broken (reading [] released indent outer keyAllowed cells) limit tokens) :
    Leads broken (reading queue released indent outer keyAllowed cells) (limit + queue.length)
      (queue ++ tokens) := by
  induction queue generalizing released with
  | nil => exact onward released
  | cons token others inductionHypothesis =>
      rw [List.mem_cons, not_or] at goesOn
      exact give (rounds_release token) (Ne.symm goesOn.1) (inductionHypothesis goesOn.2)

/-- The tokens before a candidate leave the queue. -/
theorem drainBefore {candidate : Candidate} {token : Token} {before : List Token}
    {cell : Cell} {rest : List Cell} (sameLine : cell.line = candidate.line)
    (near : cell.column ≤ candidate.column + 1024)
    (goesOn : .streamEnd ∉ before) (place : candidate.number = released + before.length)
    (onward : forall released, candidate.number = released ->
      Leads broken (holding candidate [token] released indent outer keyAllowed (cell :: rest))
        limit tokens) :
    Leads broken (holding candidate (before ++ [token]) released indent outer keyAllowed
      (cell :: rest)) (limit + before.length) (before ++ tokens) := by
  induction before generalizing released with
  | nil => exact onward released place
  | cons first others inductionHypothesis =>
      rw [List.mem_cons, not_or] at goesOn
      rw [List.length_cons] at place
      exact give (rounds_before (isStale_eq_false sameLine near) (by omega)) (Ne.symm goesOn.1)
        (inductionHypothesis goesOn.2 (by omega))

end

/-! ## Keys that are too long -/

/-- A queue before a place that makes no sense has no end behind it. -/
theorem endless_of_stuck {queue : List Token} {indent : Int} {outer : List Int}
    {keyAllowed : Bool} {cells : List Cell} (goesOn : .streamEnd ∉ queue)
    (stuck : forall released,
      (reading [] released indent outer keyAllowed cells).advance? = none)
    (released fuel : Nat) :
    .streamEnd ∉ (reading queue released indent outer keyAllowed cells).rounds fuel := by
  induction queue generalizing released fuel with
  | nil =>
      rw [rounds_stuck (stuck released)]
      exact List.not_mem_nil
  | cons token others inductionHypothesis =>
      cases fuel with
      | zero => exact List.not_mem_nil
      | succ fewer =>
          rw [List.mem_cons, not_or] at goesOn
          rw [rounds_release, List.mem_cons, not_or]
          exact ⟨goesOn.1, inductionHypothesis goesOn.2 (released + 1) fewer⟩

/-- Behind a key that is too long the end of the stream is not reached. -/
theorem endless_of_long {word : List Char} {next : Char} {rest : List Char}
    {line column released : Nat} (long : 1024 < word.length) (required : Bool) {number : Nat}
    {closers : List Token} (goesOn : .streamEnd ∉ closers) {indent : Int} {outer : List Int}
    (inside : indent ≤ column) (between : next = '\n' ∨ next = ' ') (fuel : Nat) :
    .streamEnd ∉ (holding ⟨number, line, column, 0, required⟩ (closers ++ [.scalar word .plain])
      released indent outer false
      (cellsFrom line (column + word.length) (':' :: next :: rest))).rounds fuel := by
  have space := isSpace_peek_of_between between line (column + word.length + 1) rest
  have goesOnAll : .streamEnd ∉ closers ++ [.scalar word .plain] := by simp [goesOn]
  rw [cellsFrom_colon]
  cases queue : closers ++ [.scalar word .plain] with
  | nil => exact absurd queue (List.append_ne_nil_of_right_ne_nil closers (List.cons_ne_nil _ _))
  | cons token others =>
      rw [queue] at goesOnAll
      rw [rounds_stale (isStale_eq_true (by change column + 1024 < column + word.length; omega))]
      cases required with
      | true => exact List.not_mem_nil
      | false =>
          refine endless_of_stuck goesOnAll (fun released => ?_) released fuel
          rw [advance?_reading (skipSpace_of_isFirst isFirst_colon _ _),
            unroll_of_le (show indent ≤ (column + word.length : Nat) by omega),
            readToken?_colon rfl space rfl]
          rfl

/-! ## A line -/

/-- A candidate at the front of the queue is a key, with the token of the block
that starts with it. -/
theorem held {broken : Prop} {limit : Nat} {tokens starters : List Token} {word : List Char}
    {next : Char} (between : next = '\n' ∨ next = ' ') {rest : List Char} {line column : Nat}
    {indent : Int} {outer around : List Int}
    (rolled : (starters = [] ∧ indent = column ∧ around = outer) ∨
      (starters = [.blockMappingStart] ∧ indent < column ∧ around = indent :: outer))
    (inside : indent ≤ column) (short : word.length ≤ 1024) (goesOn : .streamEnd ∉ starters)
    (onward : forall released, Leads broken (reading [] released column around false
      (cellsFrom line (column + word.length + 1) (next :: rest))) limit tokens)
    {number released : Nat} (place : number = released) (required : Bool) :
    Leads broken
      (holding ⟨number, line, column, 0, required⟩ [.scalar word .plain] released indent outer
        false (cellsFrom line (column + word.length) (':' :: next :: rest)))
      (limit + starters.length + 4)
      (starters ++ .key :: .scalar word .plain :: .value :: tokens) := by
  subst place
  have near : column + word.length ≤ column + 1024 := by omega
  have further : column ≤ column + word.length := Nat.le_add_right column word.length
  have waiting : .streamEnd ∉ starters ++ [.key, .scalar word .plain, .value] := by
    simp [goesOn]
  have found (fuel : Nat) :
      (holding ⟨number, line, column, 0, required⟩ [.scalar word .plain] number indent outer
          false (cellsFrom line (column + word.length) (':' :: next :: rest))).rounds (fuel + 1) =
        (reading (starters ++ [.key, .scalar word .plain, .value]) number column around false
          (cellsFrom line (column + word.length + 1) (next :: rest))).rounds fuel := by
    have value : (holding ⟨number, line, column, 0, required⟩ [.scalar word .plain] number indent
          outer false (cellsFrom line (column + word.length) (':' :: next :: rest))).advance? =
        some (reading (starters ++ [.key, .scalar word .plain, .value]) number column around false
          (cellsFrom line (column + word.length + 1) (next :: rest))) :=
      advance?_value between inside further near rolled required
    rw [cellsFrom_colon] at value ⊢
    exact rounds_at (isStale_eq_false rfl near) rfl value fuel
  have leads := silent found (drain waiting onward)
  rw [List.append_assoc, List.length_append, ← Nat.add_assoc] at leads
  exact leads

/-- The tokens of a key, with those of the blocks that start or end before it. -/
theorem key {broken : Prop} {limit : Nat} {tokens opening : List Token} {word : List Char}
    (words : forall c, c ∈ word -> IsWord c) (filled : word ≠ []) {next : Char}
    (between : next = '\n' ∨ next = ' ') {rest : List Char} {line column : Nat} {indent : Int}
    {outer around : List Int} (turns : Turns column indent outer opening around)
    (bounded : 1024 < word.length -> broken) {released : Nat} {keyAllowed : Bool}
    {cells : List Cell}
    (skips : skipSpace false keyAllowed false cells =
      (true, cellsFrom line column (word ++ ':' :: next :: rest)))
    (onward : forall released, Leads broken (reading [] released column around false
      (cellsFrom line (column + word.length + 1) (next :: rest))) limit tokens) :
    Leads broken (reading [] released indent outer keyAllowed cells) (limit + 6)
      (opening ++ .key :: .scalar word .plain :: .value :: tokens) := by
  rcases turns.parts released (cellsFrom line column (word ++ ':' :: next :: rest)) with
    ⟨closers, starters, near, inner, rfl, few, goesOn, unrolled, inside, rolled⟩
  rw [List.mem_append, not_or] at goesOn
  have found := rounds_find (advance?_key words filled between skips unrolled)
  by_cases long : 1024 < word.length
  · intro fuel enough
    cases fuel with
    | zero => omega
    | succ fewer =>
        rw [found]
        exact Or.inr ⟨bounded long, endless_of_long long _ goesOn.1 inside between fewer⟩
  · have short : word.length ≤ 1024 := Nat.le_of_not_lt long
    have leads : Leads broken
        (holding ⟨released + closers.length, line, column, 0, decide (near = column)⟩
          (closers ++ [.scalar word .plain]) released near inner false
          (cellsFrom line (column + word.length) (':' :: next :: rest)))
        (limit + starters.length + 4 + closers.length)
        (closers ++ (starters ++ .key :: .scalar word .plain :: .value :: tokens)) := by
      rw [cellsFrom_colon]
      refine drainBefore rfl (Nat.add_le_add_left short column) goesOn.1 rfl
        fun released place => ?_
      rw [← cellsFrom_colon]
      exact held between rolled inside short goesOn.2 onward place _
    rw [List.append_assoc]
    exact (silent found leads).mono (by omega)

/-- The tokens of a line.  A value ends with the line if the next line does not
stand further in. -/
theorem line {broken : Prop} {scan : Scan} {limit : Nat} {tokens opening : List Token}
    {first : Line} {rest : List Line} {indent : Int} {outer around : List Int}
    (turns : Turns first.column indent outer opening around) (bounded : first.IsLong -> broken)
    (back : first.value ≠ none -> Line.margin rest ≤ first.column)
    (waits : Waits scan indent outer (first :: rest))
    (onward : forall next, Waits next first.column around rest ->
      Leads broken next limit tokens) :
    Leads broken scan (limit + 8) (opening ++ (first.tokens ++ tokens)) := by
  rcases waits with ⟨released, keyAllowed, cells, row, rfl, skips⟩
  have opens := Line.opens_bodies rest
  have words := first.key.written
  have filled := first.key.filled
  rw [Line.margin, Line.bodies, Line.body, List.append_assoc, List.cons_append] at skips
  rw [Line.tokens]
  cases value : first.value with
  | none =>
      have behind : first.behind ++ rest.flatMap Line.chars =
          '\n' :: (List.replicate (Line.margin rest) ' ' ++ Line.bodies rest) := by
        rw [Line.behind, value, Line.flatMap_chars]
        rfl
      rw [behind] at skips
      refine (key words filled (Or.inl rfl) turns bounded skips fun released => ?_).mono
        (Nat.add_le_add_left (by decide) limit)
      exact onward _ ⟨released, false, _, row + 1, rfl, skipSpace_newline false row _ _ opens⟩
  | some written =>
      have returns : Line.margin rest ≤ first.column := back (by simp [value])
      cases written with
      | text content quotable =>
          have behind : first.behind ++ rest.flatMap Line.chars =
              ' ' :: '\x22' :: (content.toList ++ '\x22' ::
                ('\n' :: (List.replicate (Line.margin rest) ' ' ++ Line.bodies rest))) := by
            rw [Line.behind, value, Line.flatMap_chars]
            simp [Value.chars]
          rw [behind] at skips
          refine key words filled (Or.inr rfl) turns bounded skips fun released => ?_
          refine silent (rounds_find (advance?_quoted quotable (by omega) _))
            (give (rounds_release _) (Value.token_ne_streamEnd _) (onward _ ?_))
          exact ⟨released + 1, false, _, row + 1, rfl, skipSpace_newline false row _ _ opens⟩
      | number amount =>
          have behind : first.behind ++ rest.flatMap Line.chars =
              ' ' :: (Text.decimal amount ++ '\n' ::
                (List.replicate (Line.margin rest) ' ' ++ Line.bodies rest)) := by
            rw [Line.behind, value, Line.flatMap_chars]
            simp [Value.chars]
          rw [behind] at skips
          have digits : forall c, c ∈ Text.decimal amount -> IsWord c := fun _ =>
            isWord_of_mem_decimal
          refine key words filled (Or.inr rfl) turns bounded skips fun released => ?_
          refine silent (rounds_find (advance?_numeral digits (Text.decimal_ne_nil amount)
              (by omega) (Int.ofNat_le.mpr returns) opens))
            (give (rounds_release _) (Value.token_ne_streamEnd _) (onward _ ?_))
          exact ⟨released + 1, true, _, row + 1, rfl, skipSpace_of_opens opens true _ _⟩

end Leads
end Yaml
end CardTable
