import Mathlib.Data.List.Infix
import CardTable.Yaml.Node

namespace CardTable
namespace Yaml
namespace Builder

/-!
# What reading leaves

Building a tree never makes up tokens: whatever it reads, the tokens that are left
are the last ones of those it was given.  So a document is complete only if the
end of the stream was among its tokens.
-/

/-! ## Single steps -/

section

variable (builder : Builder)

theorem skip_suffix : builder.skip.tokens <:+ builder.tokens :=
  List.drop_suffix 1 builder.tokens

theorem stop_suffix (tokens : List Token) : builder.stop.tokens <:+ tokens :=
  List.nil_suffix

theorem tokens_note (number : Option Nat) (before : Nat) (node : Node) :
    (builder.note number before node).tokens = builder.tokens := by
  cases number with
  | none => rfl
  | some number => rfl

theorem readAnchor_suffix (properties : Properties) :
    (builder.readAnchor properties).2.tokens <:+ builder.tokens := by
  unfold readAnchor
  split
  · exact skip_suffix { builder with names := _ }
  · exact List.suffix_rfl

theorem readTag_suffix (properties : Properties) :
    (builder.readTag properties).2.tokens <:+ builder.tokens := by
  unfold readTag
  split
  · split
    · exact builder.skip_suffix
    · exact builder.stop_suffix _
  · exact List.suffix_rfl

theorem readProperties_suffix : builder.readProperties.2.tokens <:+ builder.tokens := by
  unfold readProperties
  split
  · exact (readTag_suffix _ _).trans (builder.readAnchor_suffix {})
  · exact (readAnchor_suffix _ _).trans (builder.readTag_suffix {})

end

/-! ## Nodes -/

/-- With so much fuel, each reader leaves a suffix of its tokens. -/
structure Shrinks (fuel : Nat) : Prop where
  node (inBlock inMapping : Bool) (builder : Builder) :
    (readNode inBlock inMapping builder fuel).2.tokens <:+ builder.tokens
  content (inBlock inMapping : Bool) (properties : Properties) (builder : Builder) :
    (readContent inBlock inMapping properties builder fuel).2.tokens <:+ builder.tokens
  blockPart (builder : Builder) : (readBlockPart builder fuel).2.tokens <:+ builder.tokens
  blockEntries (builder : Builder) : (readBlockEntries builder fuel).2.tokens <:+ builder.tokens
  flowKey (builder : Builder) : (readFlowKey builder fuel).2.2.tokens <:+ builder.tokens
  flowValue (builder : Builder) : (readFlowValue builder fuel).2.tokens <:+ builder.tokens
  flowEntries (first : Bool) (builder : Builder) :
    (readFlowEntries first builder fuel).2.tokens <:+ builder.tokens
  flowEntry (builder : Builder) : (readFlowEntry builder fuel).2.tokens <:+ builder.tokens

namespace Shrinks

variable {fuel : Nat}

theorem succ_node (shrinks : Shrinks fuel) (inBlock inMapping : Bool) (builder : Builder) :
    (readNode inBlock inMapping builder (fuel + 1)).2.tokens <:+ builder.tokens := by
  rw [readNode]
  split
  · split
    · exact builder.skip_suffix
    · exact builder.stop_suffix _
  · simp only [tokens_note]
    exact (shrinks.content inBlock inMapping _ _).trans builder.readProperties_suffix

theorem succ_content (shrinks : Shrinks fuel) (inBlock inMapping : Bool)
    (properties : Properties) (builder : Builder) :
    (readContent inBlock inMapping properties builder (fuel + 1)).2.tokens <:+
      builder.tokens := by
  rw [readContent]
  split
  · exact builder.stop_suffix _
  · exact builder.skip_suffix
  · exact builder.stop_suffix _
  · exact (shrinks.flowEntries true builder.skip).trans builder.skip_suffix
  · split_ifs
    · exact builder.stop_suffix _
    · exact builder.stop_suffix _
    · exact (shrinks.blockEntries builder.skip).trans builder.skip_suffix
    · exact builder.stop_suffix _
    · exact List.suffix_rfl

theorem succ_blockPart (shrinks : Shrinks fuel) (builder : Builder) :
    (readBlockPart builder (fuel + 1)).2.tokens <:+ builder.tokens := by
  rw [readBlockPart]
  split
  · exact builder.stop_suffix _
  · exact List.suffix_rfl
  · exact List.suffix_rfl
  · exact List.suffix_rfl
  · exact shrinks.node true true builder

theorem succ_blockEntries (shrinks : Shrinks fuel) (builder : Builder) :
    (readBlockEntries builder (fuel + 1)).2.tokens <:+ builder.tokens := by
  have key := (shrinks.blockPart builder.skip).trans builder.skip_suffix
  rw [readBlockEntries]
  split
  · exact builder.skip_suffix
  · refine (shrinks.blockEntries _).trans (List.IsSuffix.trans ?_ key)
    split
    · exact stop_suffix _ _
    · exact (shrinks.blockPart _).trans (skip_suffix _)
    · exact List.suffix_rfl
  · exact builder.stop_suffix _

theorem succ_flowKey (shrinks : Shrinks fuel) (builder : Builder) :
    (readFlowKey builder (fuel + 1)).2.2.tokens <:+ builder.tokens := by
  rw [readFlowKey]
  split
  · refine List.IsSuffix.trans ?_ builder.skip_suffix
    dsimp only
    split
    · exact stop_suffix _ _
    · exact List.suffix_rfl
    · exact List.suffix_rfl
    · exact List.suffix_rfl
    · exact shrinks.node false false builder.skip
  · exact shrinks.node false false builder

theorem succ_flowValue (shrinks : Shrinks fuel) (builder : Builder) :
    (readFlowValue builder (fuel + 1)).2.tokens <:+ builder.tokens := by
  rw [readFlowValue]
  split
  · exact builder.stop_suffix _
  · refine List.IsSuffix.trans ?_ builder.skip_suffix
    dsimp only
    split
    · exact stop_suffix _ _
    · exact List.suffix_rfl
    · exact List.suffix_rfl
    · exact shrinks.node false false builder.skip
  · exact List.suffix_rfl

theorem succ_flowEntries (shrinks : Shrinks fuel) (first : Bool) (builder : Builder) :
    (readFlowEntries first builder (fuel + 1)).2.tokens <:+ builder.tokens := by
  unfold readFlowEntries
  split
  · exact builder.stop_suffix _
  · exact builder.skip_suffix
  · exact (skip_suffix _).trans builder.skip_suffix
  · exact (shrinks.flowEntry builder.skip).trans builder.skip_suffix
  · exact shrinks.flowEntry builder
  · exact builder.stop_suffix _

theorem succ_flowEntry (shrinks : Shrinks fuel) (builder : Builder) :
    (readFlowEntry builder (fuel + 1)).2.tokens <:+ builder.tokens := by
  rw [readFlowEntry]
  split
  · exact builder.stop_suffix _
  · refine (shrinks.flowEntries false _).trans
      (List.IsSuffix.trans ?_ (shrinks.flowKey builder))
    split_ifs
    · exact shrinks.flowValue _
    · exact List.suffix_rfl
    · exact List.suffix_rfl

end Shrinks

theorem shrinks (fuel : Nat) : Shrinks fuel := by
  induction fuel with
  | zero =>
      exact ⟨fun _ _ _ => List.nil_suffix, fun _ _ _ _ => List.nil_suffix,
        fun _ => List.nil_suffix, fun _ => List.nil_suffix, fun _ => List.nil_suffix,
        fun _ => List.nil_suffix, fun _ _ => List.nil_suffix, fun _ => List.nil_suffix⟩
  | succ fuel inductionHypothesis =>
      exact ⟨inductionHypothesis.succ_node, inductionHypothesis.succ_content,
        inductionHypothesis.succ_blockPart, inductionHypothesis.succ_blockEntries,
        inductionHypothesis.succ_flowKey, inductionHypothesis.succ_flowValue,
        inductionHypothesis.succ_flowEntries, inductionHypothesis.succ_flowEntry⟩

/-! ## Documents -/

theorem mem_of_isOver {tokens : List Token} (ended : isOver tokens = true) :
    .streamEnd ∈ tokens := by
  fun_induction isOver tokens with
  | case1 => exact List.mem_singleton_self _
  | case2 rest inductionHypothesis => exact List.mem_cons_of_mem _ (inductionHypothesis ended)
  | case3 => cases ended

theorem mem_of_complete_readRoot {builder : Builder}
    (complete : builder.readRoot.complete = true) : .streamEnd ∈ builder.tokens := by
  have left := (shrinks (8 * builder.tokens.length + 8)).node true false builder
  exact left.subset (mem_of_isOver complete)

theorem readDirectives_suffix {versioned : Bool} {handles known : List (List Char × List Char)}
    {tokens rest : List Token}
    (read : readDirectives versioned handles tokens = some (known, rest)) :
    rest <:+ tokens := by
  fun_induction readDirectives versioned handles tokens with
  | case1 => cases read
  | case2 _ _ _ _ _ _ inductionHypothesis =>
      exact (inductionHypothesis read).trans (List.suffix_cons _ _)
  | case3 => cases read
  | case4 _ _ _ _ _ _ inductionHypothesis =>
      exact (inductionHypothesis read).trans (List.suffix_cons _ _)
  | case5 =>
      cases read
      exact List.suffix_cons _ _
  | case6 => cases read

theorem mem_of_complete_readExplicit {handles : List (List Char × List Char)}
    {tokens : List Token} (complete : (readExplicit handles tokens).complete = true) :
    .streamEnd ∈ tokens := by
  unfold readExplicit at complete
  split at complete
  · exact mem_of_isOver complete
  · exact mem_of_isOver complete
  · exact mem_of_isOver complete
  · exact mem_of_isOver complete
  · exact mem_of_isOver complete
  · exact mem_of_complete_readRoot complete

/-- A document is complete only if the end of the stream was reached. -/
theorem mem_of_complete {tokens : List Token} (complete : (readDocument tokens).complete = true) :
    .streamEnd ∈ tokens := by
  unfold readDocument at complete
  dsimp only at complete
  split at complete
  case h_1 => cases complete
  case h_2 => exact mem_of_isOver complete
  case h_3 | h_4 | h_5 =>
    split at complete
    · next read => exact (readDirectives_suffix read).subset (mem_of_complete_readExplicit complete)
    · cases complete
  case h_6 => exact mem_of_complete_readRoot complete

end Builder
end Yaml
end CardTable
