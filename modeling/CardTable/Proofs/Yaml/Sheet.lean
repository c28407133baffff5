import CardTable.Proofs.Yaml.Lines

namespace CardTable
namespace Yaml

/-!
# Sheets

A sheet is a YAML text of two levels.  Each of its entries is a key with a value,
or a key with a section of fields below it, which stand further in.  Keys may be
any words, and may come twice.
-/

structure Field where
  key : Key
  value : Value

inductive Content where
  | value (value : Value)
  /-- Fields that stand so far in. -/
  | nested (depth : Nat) (inside : 0 < depth) (first : Field) (others : List Field)

structure Entry where
  key : Key
  content : Content

abbrev Sheet := List Entry

namespace Field

def line (depth : Nat) (field : Field) : Line :=
  ⟨depth, field.key, some field.value⟩

def tokens (field : Field) : List Token :=
  [.key, .scalar field.key.name.toList .plain, .value, field.value.token]

theorem tokens_line (depth : Nat) (field : Field) : (field.line depth).tokens = field.tokens :=
  rfl

end Field

def Content.tokens : Content -> List Token
  | .value single => [single.token]
  | .nested _ _ first others =>
      .blockMappingStart :: ((first :: others).flatMap Field.tokens ++ [.blockEnd])

namespace Entry

def lines (entry : Entry) : List Line :=
  match entry.content with
  | .value value => [⟨0, entry.key, some value⟩]
  | .nested depth _ first others =>
      ⟨0, entry.key, none⟩ :: (first :: others).map (Field.line depth)

def tokens (entry : Entry) : List Token :=
  .key :: .scalar entry.key.name.toList .plain :: .value :: entry.content.tokens

end Entry

namespace Sheet

def lines (sheet : Sheet) : List Line :=
  sheet.flatMap Entry.lines

def text (sheet : Sheet) : String :=
  String.ofList (sheet.lines.flatMap Line.chars)

def tokens (sheet : Sheet) : List Token :=
  match sheet with
  | [] => [.streamStart, .streamEnd]
  | _ :: _ =>
      .streamStart :: .blockMappingStart ::
        (sheet.flatMap Entry.tokens ++ [.blockEnd, .streamEnd])

/-- Some key is so long that it is not known as one. -/
def HasLongKey (sheet : Sheet) : Prop :=
  Exists fun line => line ∈ sheet.lines ∧ line.IsLong

theorem margin_lines (sheet : Sheet) : Line.margin sheet.lines = 0 := by
  cases sheet with
  | nil => rfl
  | cons entry rest =>
      rw [lines, List.flatMap_cons, Entry.lines]
      split
      · rfl
      · rfl

end Sheet

/-! ## Columns of a sheet -/

/-- Between two entries of a sheet the scan is in the block of the entries, or
still in that of a section, which ends before anything else. -/
inductive Level : Int -> List Int -> List Token -> Prop where
  | top : Level 0 [-1] []
  | nested {depth : Nat} (inside : 0 < depth) : Level depth [0, -1] [.blockEnd]

theorem Level.turns {indent : Int} {outer : List Int} {closers : List Token}
    (level : Level indent outer closers) : Turns 0 indent outer closers [-1] := by
  cases level with
  | top => exact .stay [-1]
  | nested inside => exact .outward [-1] (Int.natCast_pos.mpr inside)

theorem Level.unroll {indent : Int} {outer : List Int} {closers : List Token}
    (level : Level indent outer closers) (released : Nat) (cells : List Cell) :
    (Scan.reading [] released indent outer true cells).unroll 0 =
      Scan.reading closers released 0 [-1] true cells := by
  cases level with
  | top => exact Scan.unroll_of_le (Int.le_refl 0)
  | nested inside =>
      change Scan.unrollTo _ 0 [0, -1] = _
      rw [Scan.unrollTo]
      exact (if_pos (Int.natCast_pos.mpr inside)).trans
        (Scan.unrollTo_of_le _ (Int.le_refl 0) [-1])

namespace Leads

variable {broken : Prop} {scan : Scan} {limit : Nat} {tokens : List Token}

theorem fields {depth : Nat} {outer : List Int} {rest : List Line}
    (back : Line.margin rest ≤ depth) (fields : List Field)
    (bounded : forall line, line ∈ fields.map (Field.line depth) -> line.IsLong -> broken)
    (waits : Waits scan depth outer (fields.map (Field.line depth) ++ rest))
    (onward : forall next, Waits next depth outer rest -> Leads broken next limit tokens) :
    Leads broken scan (limit + 8 * fields.length) (fields.flatMap Field.tokens ++ tokens) := by
  induction fields generalizing scan with
  | nil => exact onward scan waits
  | cons field others inductionHypothesis =>
      rw [List.map_cons, List.forall_mem_cons] at bounded
      have returns : Line.margin (others.map (Field.line depth) ++ rest) ≤ depth := by
        cases others with
        | nil => exact back
        | cons next more => exact Nat.le_refl depth
      have leads := line (.stay outer) bounded.1 (fun _ => returns) waits
        fun next waits => inductionHypothesis bounded.2 waits
      rw [List.flatMap_cons, List.append_assoc]
      exact leads

theorem entry {entry : Entry} {rest : List Line} {indent : Int} {outer : List Int}
    {opening : List Token} (turns : Turns 0 indent outer opening [-1])
    (bounded : forall line, line ∈ entry.lines -> line.IsLong -> broken)
    (waits : Waits scan indent outer (entry.lines ++ rest)) (back : Line.margin rest = 0)
    (onward : forall next indent outer closers, Level indent outer closers ->
      Waits next indent outer rest -> Leads broken next limit (closers ++ tokens)) :
    Leads broken scan (limit + 8 * entry.lines.length) (opening ++ (entry.tokens ++ tokens)) := by
  rw [Entry.tokens]
  cases content : entry.content with
  | value value =>
      have lines : entry.lines = [⟨0, entry.key, some value⟩] := by rw [Entry.lines, content]
      rw [lines] at bounded waits ⊢
      have leads := line turns (bounded _ List.mem_cons_self) (fun _ => Nat.le_of_eq back) waits
        fun next waits => onward next 0 [-1] [] .top waits
      rw [Line.tokens, List.nil_append] at leads
      exact leads
  | nested depth inside first others =>
      have lines : entry.lines =
          ⟨0, entry.key, none⟩ :: (first :: others).map (Field.line depth) := by
        rw [Entry.lines, content]
      rw [lines, List.map_cons] at bounded waits
      rw [List.forall_mem_cons, List.forall_mem_cons] at bounded
      rw [lines, List.length_cons, List.length_map]
      have lower : Line.margin rest ≤ depth := by omega
      have returns : Line.margin (others.map (Field.line depth) ++ rest) ≤ depth := by
        cases others with
        | nil => exact lower
        | cons next more => exact Nat.le_refl depth
      have leads := line turns bounded.1 (fun filled => absurd rfl filled) waits
        fun next waits => line (.inward [-1] (Int.natCast_pos.mpr inside)) bounded.2.1
          (fun _ => returns) waits fun next waits => fields lower others bounded.2.2 waits
            fun next waits => onward next depth [0, -1] [.blockEnd] (.nested inside) waits
      rw [Line.tokens, Field.tokens_line] at leads
      rw [Content.tokens]
      simp only [List.cons_append, List.nil_append, List.append_assoc, List.flatMap_cons] at leads ⊢
      exact leads.mono (by rw [List.length_cons]; omega)

/-- The tokens of the entries that are left, and of the end. -/
theorem entries (sheet : Sheet) {indent : Int} {outer : List Int} {closers : List Token}
    (level : Level indent outer closers)
    (bounded : forall line, line ∈ sheet.lines -> line.IsLong -> broken)
    (waits : Waits scan indent outer sheet.lines) :
    Leads broken scan (4 + 8 * sheet.lines.length)
      (closers ++ (sheet.flatMap Entry.tokens ++ [.blockEnd, .streamEnd])) := by
  induction sheet generalizing scan indent outer closers with
  | nil =>
      rcases waits with ⟨released, keyAllowed, cells, row, rfl, skips⟩
      intro fuel enough
      have single : closers.length ≤ 1 := by
        cases level with
        | top => exact Nat.zero_le 1
        | nested inside => exact Nat.le_refl 1
      have emptied : (Scan.reading closers released 0 [-1] true [⟨endMark, row, 0⟩]).unroll (-1) =
          Scan.reading (closers ++ [.blockEnd]) released (-1) [] true [⟨endMark, row, 0⟩] :=
        rfl
      have many : (closers ++ [Token.blockEnd]).length + 2 ≤ fuel := by
        rw [List.length_append]
        exact Nat.le_trans (Nat.add_le_add_right (Nat.add_le_add_right single 1) 2) enough
      rw [Scan.rounds_end skips (level.unroll released _) emptied many, List.append_assoc]
      exact Or.inl rfl
  | cons first rest inductionHypothesis =>
      rw [Sheet.lines, List.flatMap_cons, ← Sheet.lines] at bounded waits ⊢
      rw [List.forall_mem_append] at bounded
      have leads := entry level.turns bounded.1 waits (Sheet.margin_lines rest)
        fun next indent outer closers level waits => inductionHypothesis level bounded.2 waits
      rw [List.flatMap_cons, List.append_assoc]
      exact leads.mono (by rw [List.length_append]; omega)

end Leads

/-! ## The tokens of a sheet -/

/-- A character of a sheet. -/
def IsLaidOut (c : Char) : Prop :=
  IsVisible c ∨ c = ' ' ∨ c = '\n'

theorem IsLaidOut.allowed {c : Char} (laidOut : IsLaidOut c) : isAllowed c = true ∧ c ≠ '\r' := by
  rcases laidOut with visible | rfl | rfl
  · refine ⟨visible.allowed, ?_⟩
    rintro rfl
    cases visible.inLine
  · exact ⟨rfl, by decide⟩
  · exact ⟨rfl, by decide⟩

theorem Value.isVisible_of_mem (value : Value) (c : Char) (member : c ∈ value.chars) :
    IsVisible c := by
  cases value with
  | text content written =>
      rw [chars, List.mem_cons, List.mem_append, List.mem_singleton] at member
      rcases member with rfl | inside | rfl
      · decide
      · exact (written c inside).toIsVisible
      · decide
  | number amount => exact (isWord_of_mem_decimal member).toIsVisible

theorem Line.isLaidOut_of_mem (line : Line) (c : Char) (member : c ∈ line.chars) :
    IsLaidOut c := by
  have ended : forall c, c ∈ line.behind -> IsLaidOut c := by
    intro c member
    unfold behind at member
    split at member
    · next value _ =>
      rw [List.mem_cons, List.mem_append, List.mem_singleton] at member
      rcases member with rfl | inside | rfl
      · exact Or.inr (Or.inl rfl)
      · exact Or.inl (value.isVisible_of_mem c inside)
      · exact Or.inr (Or.inr rfl)
    · exact Or.inr (Or.inr (List.mem_singleton.mp member))
  rw [chars, body, List.mem_append, List.mem_append, List.mem_cons] at member
  rcases member with blank | inKey | rfl | inBehind
  · exact Or.inr (Or.inl (List.eq_of_mem_replicate blank))
  · exact Or.inl (line.key.written c inKey).toIsVisible
  · exact Or.inl (by decide)
  · exact ended c inBehind

namespace Sheet

/-- Every line has a character. -/
theorem length_lines_le (lines : List Line) : lines.length ≤ (lines.flatMap Line.chars).length := by
  induction lines with
  | nil => exact Nat.le_refl 0
  | cons line rest inductionHypothesis =>
      have colon : 0 < line.chars.length :=
        List.length_pos_of_mem
          (List.mem_append_right _ (List.mem_append_right _ List.mem_cons_self))
      rw [List.flatMap_cons, List.length_append, List.length_cons]
      omega

theorem tokens_text_eq_rounds (sheet : Sheet) :
    Yaml.tokens sheet.text =
      .streamStart :: (Scan.reading [] 1 (-1) [] true
        (cellsFrom 0 0 (sheet.lines.flatMap Line.chars))).rounds
          (8 * (sheet.lines.flatMap Line.chars).length + 14) := by
  have laidOut : forall c, c ∈ sheet.lines.flatMap Line.chars -> isAllowed c = true ∧ c ≠ '\r' := by
    intro c member
    rcases List.mem_flatMap.mp member with ⟨line, _, inLine⟩
    exact (line.isLaidOut_of_mem c inLine).allowed
  have allowed : (sheet.lines.flatMap Line.chars).all isAllowed = true :=
    List.all_eq_true.mpr fun c member => (laidOut c member).1
  have single : '\r' ∉ sheet.lines.flatMap Line.chars :=
    fun member => (laidOut '\r' member).2 rfl
  rw [Yaml.tokens, cells?, text, String.toList_ofList, if_pos allowed]
  dsimp only
  rw [length_cellsFrom single]
  exact Scan.rounds_start _ _

/-- The tokens of a sheet show its two levels, unless one of its keys is too long. -/
theorem tokens_text (sheet : Sheet) :
    Yaml.tokens sheet.text = sheet.tokens ∨
      (sheet.HasLongKey ∧ .streamEnd ∉ Yaml.tokens sheet.text) := by
  have bounded : forall line, line ∈ sheet.lines -> line.IsLong -> sheet.HasLongKey :=
    fun line member long => ⟨line, member, long⟩
  have enough := length_lines_le sheet.lines
  have waits : Waits
      (Scan.reading [] 1 (-1) [] true (cellsFrom 0 0 (sheet.lines.flatMap Line.chars)))
      (-1) [] sheet.lines := by
    refine ⟨1, true, _, 0, rfl, ?_⟩
    have skips := skipSpace_of_opens (Line.opens_bodies sheet.lines) true 0 0
    rw [Line.flatMap_chars, margin_lines]
    exact skips
  rw [tokens_text_eq_rounds]
  cases sheet with
  | nil => exact Or.inl rfl
  | cons first rest =>
      rw [lines, List.flatMap_cons, ← lines] at bounded waits enough ⊢
      rw [List.forall_mem_append] at bounded
      rw [List.length_append] at enough
      have leads := Leads.entry (.inward [] (by decide)) bounded.1 waits (margin_lines rest)
        fun next indent outer closers level waits => Leads.entries rest level bounded.2 waits
      rcases leads (8 * ((first.lines ++ lines rest).flatMap Line.chars).length + 14) (by omega)
        with same | ⟨long, endless⟩
      · refine Or.inl ?_
        rw [same, tokens]
        simp
      · refine Or.inr ⟨long, ?_⟩
        rw [List.mem_cons, not_or]
        exact ⟨Token.noConfusion, endless⟩

end Sheet
end Yaml
end CardTable
