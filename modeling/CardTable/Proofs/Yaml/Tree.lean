import CardTable.Proofs.Yaml.Leftover
import CardTable.Proofs.Yaml.Sheet

namespace CardTable
namespace Yaml

/-!
# Trees of sheets

The tokens of a sheet make up a mapping with one entry for each line of the first
level, in the order of the lines.  Tokens without the end of the stream never make
up a document that is complete.
-/

/-- The entries of a mapping whose keys are words without quotes. -/
def Entries.ofNamed : List (String × Node) -> Entries
  | [] => .done
  | (name, value) :: rest =>
      .entry (.scalar { text := name.toList, style := .plain }) value (ofNamed rest)

def Value.scalar : Value -> Scalar
  | .text content _ => { text := content.toList, style := .quoted }
  | .number amount => { text := Text.decimal amount, style := .plain }

def Field.named (field : Field) : String × Node :=
  (field.key.name, .scalar field.value.scalar)

def Content.node : Content -> Node
  | .value single => .scalar single.scalar
  | .nested _ _ first others => .mapping (.ofNamed ((first :: others).map Field.named))

def Entry.named (entry : Entry) : String × Node :=
  (entry.key.name, entry.content.node)

def Sheet.document (sheet : Sheet) : Document where
  root :=
    match sheet with
    | [] => .scalar .nothing
    | _ :: _ => .mapping (.ofNamed (sheet.map Entry.named))
  anchored := []
  complete := true

namespace Builder

section

variable (builder : Builder) (rest : List Token) (fuel : Nat)

theorem readNode_scalar (inBlock inMapping : Bool) (text : List Char) (style : Style) :
    readNode inBlock inMapping { builder with tokens := .scalar text style :: rest } (fuel + 2) =
      (.scalar { text := text, style := style }, { builder with tokens := rest }) := by
  simp [readNode, readContent, readProperties, readTag, readAnchor, scalarNode, note, skip]

theorem readNode_mapping (inMapping : Bool) :
    readNode true inMapping { builder with tokens := .blockMappingStart :: rest } (fuel + 2) =
      (.mapping (readBlockEntries { builder with tokens := rest } fuel).1,
        (readBlockEntries { builder with tokens := rest } fuel).2) := by
  simp [readNode, readContent, readProperties, readTag, readAnchor, note, skip]

theorem readBlockPart_scalar (text : List Char) (style : Style) :
    readBlockPart { builder with tokens := .scalar text style :: rest } (fuel + 3) =
      (.scalar { text := text, style := style }, { builder with tokens := rest }) :=
  readNode_scalar builder rest fuel true true text style

theorem readBlockPart_value (value : Value) :
    readBlockPart { builder with tokens := value.token :: rest } (fuel + 3) =
      (.scalar value.scalar, { builder with tokens := rest }) := by
  cases value with
  | text content written => exact readBlockPart_scalar builder rest fuel content.toList .quoted
  | number amount => exact readBlockPart_scalar builder rest fuel (Text.decimal amount) .plain

variable {builder rest fuel}

/-- An entry whose key is a word, with the node that its value makes up. -/
theorem readBlockEntries_entry (name : List Char) {node : Node} {behind : List Token}
    (part : readBlockPart { builder with tokens := behind } (fuel + 3) =
      (node, { builder with tokens := rest })) :
    readBlockEntries { builder with tokens := .key :: .scalar name .plain :: .value :: behind }
        (fuel + 4) =
      (.entry (.scalar { text := name, style := .plain }) node
          (readBlockEntries { builder with tokens := rest } (fuel + 3)).1,
        (readBlockEntries { builder with tokens := rest } (fuel + 3)).2) := by
  have key : readBlockPart { builder with tokens := .scalar name .plain :: .value :: behind }
        (fuel + 3) =
      (.scalar { text := name, style := .plain },
        { builder with tokens := .value :: behind }) :=
    readBlockPart_scalar builder (.value :: behind) fuel name .plain
  rw [readBlockEntries]
  simp only [skip, List.drop_succ_cons, List.drop_zero, key, part]

/-- The fields of a section. -/
theorem readBlockEntries_fields (fields : List Field) (enough : fields.length + 4 ≤ fuel) :
    readBlockEntries
        { builder with tokens := fields.flatMap Field.tokens ++ .blockEnd :: rest } fuel =
      (.ofNamed (fields.map Field.named), { builder with tokens := rest }) := by
  induction fields generalizing fuel with
  | nil =>
      rcases Nat.exists_eq_add_of_le' enough with ⟨fewer, rfl⟩
      rfl
  | cons field others inductionHypothesis =>
      rw [List.length_cons] at enough
      rcases Nat.exists_eq_add_of_le' (Nat.le_of_add_left_le enough) with ⟨fewer, rfl⟩
      have later := inductionHypothesis (show others.length + 4 ≤ fewer + 3 by omega)
      have entry := readBlockEntries_entry field.key.name.toList
        (readBlockPart_value builder (others.flatMap Field.tokens ++ .blockEnd :: rest) fewer
          field.value)
      rw [later] at entry
      exact entry

theorem length_flatMap_tokens (fields : List Field) :
    (fields.flatMap Field.tokens).length = 4 * fields.length := by
  induction fields with
  | nil => rfl
  | cons field others inductionHypothesis =>
      rw [List.flatMap_cons, List.length_append, inductionHypothesis, List.length_cons,
        Field.tokens]
      simp only [List.length_cons, List.length_nil]
      omega

theorem readBlockPart_content (content : Content) (enough : content.tokens.length + 4 ≤ fuel) :
    readBlockPart { builder with tokens := content.tokens ++ rest } fuel =
      (content.node, { builder with tokens := rest }) := by
  rcases Nat.exists_eq_add_of_le' (Nat.le_of_add_left_le enough) with ⟨fewer, rfl⟩
  cases content with
  | value value => exact readBlockPart_value builder rest (fewer + 1) value
  | nested depth inside first others =>
      have room : (first :: others).length + 4 ≤ fewer + 1 := by
        rw [Content.tokens, List.length_cons, List.length_append, length_flatMap_tokens] at enough
        rw [List.length_cons] at enough ⊢
        simp only [List.length_singleton] at enough
        omega
      have nested : readBlockEntries { builder with
            tokens := (first :: others).flatMap Field.tokens ++ [.blockEnd] ++ rest } (fewer + 1) =
          (.ofNamed ((first :: others).map Field.named), { builder with tokens := rest }) := by
        rw [List.append_assoc]
        exact readBlockEntries_fields (first :: others) room
      have node := readNode_mapping builder
        ((first :: others).flatMap Field.tokens ++ [.blockEnd] ++ rest) (fewer + 1) true
      rw [nested] at node
      exact node

/-- The entries of a sheet. -/
theorem readBlockEntries_sheet (sheet : Sheet)
    (enough : (sheet.flatMap Entry.tokens).length + 4 ≤ fuel) :
    readBlockEntries
        { builder with tokens := sheet.flatMap Entry.tokens ++ .blockEnd :: rest } fuel =
      (.ofNamed (sheet.map Entry.named), { builder with tokens := rest }) := by
  induction sheet generalizing fuel with
  | nil =>
      rcases Nat.exists_eq_add_of_le' enough with ⟨fewer, rfl⟩
      rfl
  | cons first others inductionHypothesis =>
      rw [List.flatMap_cons, List.length_append, Entry.tokens] at enough
      simp only [List.length_cons] at enough
      rcases Nat.exists_eq_add_of_le' (Nat.le_of_add_left_le enough) with ⟨fewer, rfl⟩
      have later := inductionHypothesis
        (show (others.flatMap Entry.tokens).length + 4 ≤ fewer + 3 by omega)
      have part : readBlockPart { builder with
          tokens := first.content.tokens ++ (others.flatMap Entry.tokens ++ .blockEnd :: rest) }
            (fewer + 3) = _ :=
        readBlockPart_content first.content (by omega)
      have entry := readBlockEntries_entry first.key.name.toList part
      rw [later, ← List.append_assoc] at entry
      exact entry

variable (builder)

theorem readNode_sheet (sheet : Sheet) (inMapping : Bool)
    (enough : (sheet.flatMap Entry.tokens).length + 6 ≤ fuel) :
    readNode true inMapping
        { builder with
          tokens := .blockMappingStart :: (sheet.flatMap Entry.tokens ++ .blockEnd :: rest) }
        fuel =
      (.mapping (.ofNamed (sheet.map Entry.named)), { builder with tokens := rest }) := by
  rcases Nat.exists_eq_add_of_le' (Nat.le_of_add_left_le enough) with ⟨fewer, rfl⟩
  have room : (sheet.flatMap Entry.tokens).length + 4 ≤ fewer + 4 := by omega
  have node := readNode_mapping builder (sheet.flatMap Entry.tokens ++ .blockEnd :: rest)
    (fewer + 4) inMapping
  rw [readBlockEntries_sheet sheet room] at node
  exact node

/-- The document of the tokens of a sheet. -/
theorem readDocument_tokens (sheet : Sheet) :
    readDocument (sheet.tokens.drop 1) = sheet.document := by
  cases sheet with
  | nil => rfl
  | cons first rest =>
      have tokens : (Sheet.tokens (first :: rest)).drop 1 = .blockMappingStart ::
          ((first :: rest).flatMap Entry.tokens ++ .blockEnd :: [.streamEnd]) :=
        rfl
      have start : readDocument (.blockMappingStart ::
            ((first :: rest).flatMap Entry.tokens ++ .blockEnd :: [.streamEnd])) =
          readRoot
            { tokens := .blockMappingStart ::
                ((first :: rest).flatMap Entry.tokens ++ .blockEnd :: [.streamEnd])
              handles := standardHandles } :=
        rfl
      have node : readNode true false
            { tokens := .blockMappingStart ::
                ((first :: rest).flatMap Entry.tokens ++ .blockEnd :: [.streamEnd])
              handles := standardHandles }
            (8 * (.blockMappingStart ::
              ((first :: rest).flatMap Entry.tokens ++ .blockEnd :: [.streamEnd])).length + 8) =
          (.mapping (.ofNamed ((first :: rest).map Entry.named)),
            { tokens := [.streamEnd], handles := standardHandles }) :=
        readNode_sheet { tokens := [], handles := standardHandles } (first :: rest) false
          (by rw [List.length_cons, List.length_append]; omega)
      rw [tokens, start]
      simp only [readRoot, node]
      rfl

end
end Builder

/-- A sheet is read as the mapping that it shows.  Where a key is too long, what is
read is not complete. -/
theorem Sheet.read_text (sheet : Sheet) :
    Document.read sheet.text = sheet.document ∨
      (sheet.HasLongKey ∧ (Document.read sheet.text).complete = false) := by
  rw [Document.read]
  rcases sheet.tokens_text with tokens | ⟨long, endless⟩
  · rw [tokens]
    exact Or.inl (Builder.readDocument_tokens sheet)
  · refine Or.inr ⟨long, ?_⟩
    rw [← Bool.not_eq_true]
    intro complete
    exact endless (List.mem_of_mem_drop (Builder.mem_of_complete complete))

end Yaml
end CardTable
