import CardTable.Proofs.Frame.LastMember
import CardTable.Proofs.Json.Canonical

namespace CardTable
namespace Frame

/-!
# Options that are written and read

A list of options that is written down as a frame is read as that list, whatever
characters the options have.
-/

/-- The compact text of a frame that offers the options. -/
def choicesText (options : List String) : String :=
  String.ofList ('\x7b' :: Json.writeMembers
    [("type", .string "choices"), ("choices", .array (options.map .string))])

theorem spells_writeOptions (options : List String) :
    Json.Spells (Json.depthLimit - 1) (.array (options.map .string))
      (Json.write (.array (options.map .string))) := by
  rw [Json.write]
  refine .array (Json.spellsItems_write ?_)
  intro item member
  rcases List.mem_map.mp member with ⟨option, _, rfl⟩
  rw [Json.write]
  exact Json.spells_writeString _ option

theorem read_choicesText (options : List String) :
    read (choicesText options) = .ok (.choices options) := by
  have spelled : Json.SpellsObject
      [("type", .string "choices"), ("choices", .array (options.map .string))]
      (choicesText options) := by
    refine Json.spellsObject_write ?_
    intro key value member
    simp only [List.mem_cons, List.not_mem_nil, or_false, Prod.mk.injEq] at member
    rcases member with ⟨_, rfl⟩ | ⟨_, rfl⟩
    · rw [Json.write]
      exact Json.spells_writeString _ "choices"
    · exact spells_writeOptions options
  rw [read_of_spellsObject spelled, ofMembers_ok_iff, get?_eq_lastValue?]
  exact ⟨rfl, rfl⟩

end Frame
end CardTable
