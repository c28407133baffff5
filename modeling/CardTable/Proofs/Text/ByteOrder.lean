import Mathlib.Data.String.Basic

namespace CardTable
namespace Text

/-!
# The order of bytes

Texts are compared character by character, and a text that is stored or sent is
compared byte by byte.  The two orders agree, for UTF-8 gives a smaller character
smaller bytes, and no character's bytes are the beginning of another's.
-/

/-- The bytes of a text in UTF-8. -/
def bytes (text : String) : List UInt8 :=
  text.toUTF8.data.toList

theorem bytes_eq (text : String) : bytes text = text.toList.flatMap String.utf8EncodeChar := by
  have encoded := String.toByteArray_ofList (l := text.toList)
  rw [String.ofList_toList] at encoded
  rw [bytes, String.toUTF8_eq_toByteArray, encoded]
  exact List.toList_data_toByteArray

/-- What follows a character has no part in the comparison, as long as the
characters differ. -/
theorem encode_lt {c d : Char} (less : c < d) (after other : List UInt8) :
    String.utf8EncodeChar c ++ after < String.utf8EncodeChar d ++ other := by
  have below : c.val.toNat < d.val.toNat := less
  have limit : d.val.toNat < 0x110000 := by
    have valid := d.valid
    simp only [UInt32.isValidChar, Nat.isValidChar] at valid
    omega
  simp only [String.utf8EncodeChar]
  split_ifs
  all_goals
    simp only [List.cons_append, List.cons_lt_cons_iff, UInt8.lt_iff_toNat_lt, ← UInt8.toNat_inj,
      UInt8.toNat_ofNat']
    simp (disch := omega) only [Nat.mod_eq_of_lt]
    omega

theorem encodeAll_lt {first second : List Char} (less : first < second) :
    first.flatMap String.utf8EncodeChar < second.flatMap String.utf8EncodeChar := by
  induction first generalizing second with
  | nil =>
      cases second with
      | nil => exact absurd less (List.lt_irrefl [])
      | cons d others =>
          rcases List.exists_cons_of_ne_nil (String.utf8EncodeChar_ne_nil (c := d)) with
            ⟨byte, more, encoded⟩
          rw [List.flatMap_cons, encoded]
          exact List.nil_lt_cons _ _
  | cons c rest inductionHypothesis =>
      cases second with
      | nil => exact absurd less (List.not_lt_nil _)
      | cons d others =>
          rw [List.flatMap_cons, List.flatMap_cons]
          rcases List.cons_lt_cons_iff.mp less with smaller | ⟨rfl, later⟩
          · exact encode_lt smaller _ _
          · exact List.append_left_lt (inductionHypothesis later)

/-- The order of texts is the order of their bytes. -/
theorem bytes_lt_iff {first second : String} : bytes first < bytes second ↔ first < second := by
  have forward {first second : String} (less : first < second) : bytes first < bytes second := by
    rw [bytes_eq, bytes_eq]
    exact encodeAll_lt (String.lt_iff.mp less)
  refine ⟨fun less => ?_, forward⟩
  rcases lt_trichotomy first second with smaller | rfl | greater
  · exact smaller
  · exact absurd less (List.lt_irrefl _)
  · exact absurd less (List.lt_asymm (forward greater))

end Text
end CardTable
