import CardTable.Address
import CardTable.Proofs.Text.Numeral

namespace CardTable
namespace Address

/-!
# Parts without marks

A question mark begins the query of an address and a number sign begins the
fragment.  A part that has neither cannot be taken for the beginning of either.

The parts in front of the query are of this kind for different reasons.
Credentials and paths are percent-encoded, and both marks are among what is
encoded there.  Hosts are written from numbers, or refused when they have a mark
in them; labels beyond ASCII are carried by letters and digits.
-/

/-- A text with no question mark and no number sign. -/
def IsPlain (text : List Char) : Prop :=
  forall c, c ∈ text -> c ≠ '?' ∧ c ≠ '#'

instance (text : List Char) : Decidable (IsPlain text) :=
  List.decidableBAll (fun c => c ≠ '?' ∧ c ≠ '#') text

namespace IsPlain

@[simp] theorem nil : IsPlain [] :=
  List.forall_mem_nil _

@[simp] theorem cons_iff {c : Char} {rest : List Char} :
    IsPlain (c :: rest) ↔ (c ≠ '?' ∧ c ≠ '#') ∧ IsPlain rest :=
  List.forall_mem_cons

@[simp] theorem append_iff {first second : List Char} :
    IsPlain (first ++ second) ↔ IsPlain first ∧ IsPlain second :=
  List.forall_mem_append

@[simp] theorem reverse_iff {text : List Char} : IsPlain text.reverse ↔ IsPlain text := by
  simp only [IsPlain, List.mem_reverse]

theorem subset {text part : List Char} (plain : IsPlain text) (within : part ⊆ text) :
    IsPlain part :=
  fun c member => plain c (within member)

theorem intercalate {separator : List Char} (plain : IsPlain separator)
    {pieces : List (List Char)} (each : forall piece, piece ∈ pieces -> IsPlain piece) :
    IsPlain (List.intercalate separator pieces) := by
  induction pieces with
  | nil => exact nil
  | cons first rest inductionHypothesis =>
      have others := inductionHypothesis fun piece member =>
        each piece (List.mem_cons_of_mem first member)
      cases rest with
      | nil => simpa using each
      | cons second more =>
          rw [List.intercalate_cons_cons, append_iff, append_iff]
          exact ⟨⟨each first List.mem_cons_self, plain⟩, others⟩

theorem of_mem_splitOnP {splits : Char -> Bool} {text : List Char} (plain : IsPlain text)
    {piece : List Char} (member : piece ∈ text.splitOnP splits) : IsPlain piece := by
  induction text generalizing piece with
  | nil =>
      rw [List.splitOnP_nil, List.mem_singleton] at member
      exact member ▸ nil
  | cons c rest inductionHypothesis =>
      have parts := cons_iff.mp plain
      rw [List.splitOnP_cons_eq_if_modifyHead] at member
      split at member
      · rcases List.mem_cons.mp member with rfl | later
        · exact nil
        · exact inductionHypothesis parts.2 later
      · cases pieces : rest.splitOnP splits with
        | nil => exact absurd pieces (List.splitOnP_ne_nil _ _)
        | cons first more =>
            rw [pieces, List.modifyHead_cons] at member
            rcases List.mem_cons.mp member with rfl | later
            · exact cons_iff.mpr ⟨parts.1,
                inductionHypothesis parts.2 (pieces ▸ List.mem_cons_self)⟩
            · exact inductionHypothesis parts.2 (pieces ▸ List.mem_cons_of_mem first later)

end IsPlain

/-- Neither mark is left by a test that both marks pass. -/
theorem ne_marks_of_eq_false {marked : Char -> Bool} (question : marked '?' = true)
    (sign : marked '#' = true) {c : Char} (unmarked : marked c = false) : c ≠ '?' ∧ c ≠ '#' := by
  constructor
  · rintro rfl
    exact Bool.noConfusion (question.symm.trans unmarked)
  · rintro rfl
    exact Bool.noConfusion (sign.symm.trans unmarked)

theorem isPlain_decimal (n : Nat) : IsPlain (Text.decimal n) := by
  intro c member
  have digit := Text.isDigit_of_mem_decimal member
  constructor
  · rintro rfl
    cases digit
  · rintro rfl
    cases digit

/-! ## Percent encoding -/

namespace Percent

theorem isPlain_encodeByte (byte : UInt8) : IsPlain (encodeByte byte) := by
  have digits : forall value, value < 16 ->
      (Nat.digitChar value).toUpper ≠ '?' ∧ (Nat.digitChar value).toUpper ≠ '#' := by
    decide
  have below := byte.toNat_lt
  simp only [encodeByte, IsPlain.cons_iff]
  refine ⟨by decide, digits _ ?_, digits _ ?_, IsPlain.nil⟩
  · omega
  · omega

/-- Only what is left as it stands can be a mark. -/
theorem isPlain_encode {encoded : Char -> Bool} {text : List Char}
    (left : forall c, c ∈ text -> encoded c = false -> c ≠ '?' ∧ c ≠ '#') :
    IsPlain (encode encoded text) := by
  intro c member
  rcases List.mem_flatMap.mp member with ⟨source, inside, written⟩
  split at written
  · rcases List.mem_flatMap.mp written with ⟨byte, _, digit⟩
    exact isPlain_encodeByte byte c digit
  · next kept =>
    rw [List.mem_singleton.mp written]
    exact left source inside (Bool.eq_false_iff.mpr kept)

theorem isPlain_encode_path (text : List Char) : IsPlain (encode path text) :=
  isPlain_encode fun _ _ => ne_marks_of_eq_false rfl rfl

theorem isPlain_encode_userinfo (text : List Char) : IsPlain (encode userinfo text) :=
  isPlain_encode fun _ _ => ne_marks_of_eq_false rfl rfl

theorem isPlain_encodeForm (text : List Char) : IsPlain (encodeForm text) := by
  have plain : IsPlain (encode form text) :=
    isPlain_encode fun _ _ => ne_marks_of_eq_false rfl rfl
  intro c member
  rcases List.mem_map.mp member with ⟨source, inside, rfl⟩
  split
  · decide
  · exact plain source inside

theorem encode_eq_self {encoded : Char -> Bool} {text : List Char}
    (kept : forall c, c ∈ text -> encoded c = false) : encode encoded text = text := by
  induction text with
  | nil => rfl
  | cons c rest inductionHypothesis =>
      have parts := List.forall_mem_cons.mp kept
      rw [encode, List.flatMap_cons, if_neg (Bool.eq_false_iff.mp parts.1)]
      exact congrArg (c :: ·) (inductionHypothesis parts.2)

theorem encodeForm_eq_self {text : List Char}
    (kept : forall c, c ∈ text -> form c = false ∧ c ≠ ' ') : encodeForm text = text := by
  rw [encodeForm, encode_eq_self fun c member => (kept c member).1]
  have each : forall c, c ∈ text -> (if c = ' ' then '+' else c) = id c :=
    fun c member => if_neg (kept c member).2
  rw [List.map_congr_left each, List.map_id]

end Percent

/-! ## Hosts -/

theorem FourBytes.isPlain_text (value : Nat) : IsPlain (FourBytes.text value) := by
  simp [FourBytes.text, isPlain_decimal]

namespace EightGroups

theorem isPlain_toDigits (group : Nat) : IsPlain (Nat.toDigits 16 group) := by
  have digits : forall value, value < 16 -> IsPlain [Nat.digitChar value] := by decide
  induction group using Nat.strongRecOn with
  | _ group inductionHypothesis =>
      rw [Nat.toDigits_eq_if (by decide)]
      split
      · next single => exact digits group single
      · exact IsPlain.append_iff.mpr
          ⟨inductionHypothesis _ (by omega), digits _ (Nat.mod_lt _ (by decide))⟩

theorem isPlain_join (groups : List Nat) : IsPlain (join groups) := by
  apply IsPlain.intercalate (by decide)
  intro piece member
  rcases List.mem_map.mp member with ⟨group, _, rfl⟩
  exact isPlain_toDigits group

theorem isPlain_text (groups : List Nat) : IsPlain (text groups) := by
  unfold text
  dsimp only
  split
  · exact isPlain_join groups
  · simp [isPlain_join]

end EightGroups

namespace Punycode

theorem isPlain_digit {value : Nat} (small : value < 36) : IsPlain [digit value] := by
  have digits : forall value, value < 36 -> IsPlain [digit value] := by decide
  exact digits value small

theorem threshold_le (bias place : Nat) : threshold bias place ≤ 26 :=
  Nat.min_le_left 26 _

theorem isPlain_encodeStep (bias place value : Nat) : IsPlain (encodeStep bias place value) := by
  fun_induction encodeStep with
  | case1 place value last =>
      have most := threshold_le bias place
      exact isPlain_digit (by omega)
  | case2 place value more inductionHypothesis =>
      have most := threshold_le bias place
      have below := Nat.mod_lt (value - threshold bias place)
        (show 0 < 36 - threshold bias place by omega)
      have head : IsPlain [digit (threshold bias place +
          (value - threshold bias place) % (36 - threshold bias place))] :=
        isPlain_digit (by omega)
      exact IsPlain.append_iff.mpr ⟨head, inductionHypothesis⟩

theorem isPlain_encodeFrom (point place bias length : Nat) (first : Bool)
    (steps : List (Nat × Nat)) : IsPlain (encodeFrom point place bias length first steps) := by
  induction steps generalizing point place bias length first with
  | nil => exact IsPlain.nil
  | cons step rest inductionHypothesis =>
      exact IsPlain.append_iff.mpr ⟨isPlain_encodeStep _ _ _, inductionHypothesis _ _ _ _ _⟩

theorem isPlain_encode {label : List Char} (plain : IsPlain label) : IsPlain (encode label) := by
  have head : IsPlain (label.filter (·.toNat < 128)) := plain.subset List.filter_sublist.subset
  unfold encode
  dsimp only
  split
  · exact isPlain_encodeFrom _ _ _ _ _ _
  · simp [isPlain_encodeFrom, head]

end Punycode

namespace Host

theorem isPlain_carried? {label written : List Char} (plain : IsPlain label)
    (carried : carried? label = some written) : IsPlain written := by
  unfold carried? at carried
  split at carried
  · cases carried
  · split at carried
    · cases carried
      exact IsPlain.append_iff.mpr ⟨by decide, Punycode.isPlain_encode plain⟩
    · cases carried

/-- A label is carried, or it stays as it is. -/
theorem isPlain_label? {label written : List Char} (plain : IsPlain label)
    (accepted : label? label = some written) : IsPlain written := by
  unfold label? at accepted
  split at accepted
  · exact isPlain_carried? plain accepted
  · split at accepted
    · cases accepted
      exact plain
    · split at accepted
      · split at accepted
        · cases accepted
          exact plain
        · cases accepted
      · cases accepted

theorem isPlain_labels {labels written : List (List Char)}
    (plain : forall label, label ∈ labels -> IsPlain label)
    (accepted : labels.mapM label? = some written) :
    forall label, label ∈ written -> IsPlain label := by
  induction labels generalizing written with
  | nil =>
      cases accepted
      exact List.forall_mem_nil _
  | cons first rest inductionHypothesis =>
      have parts := List.forall_mem_cons.mp plain
      rw [List.mapM_cons] at accepted
      rcases Option.bind_eq_some_iff.mp accepted with ⟨head, headAccepted, accepted⟩
      rcases Option.bind_eq_some_iff.mp accepted with ⟨tail, tailAccepted, whole⟩
      cases whole
      exact List.forall_mem_cons.mpr
        ⟨isPlain_label? parts.1 headAccepted, inductionHypothesis parts.2 tailAccepted⟩

theorem isPlain_of_any_eq_false {forbidden : Char -> Bool} (question : forbidden '?' = true)
    (sign : forbidden '#' = true) {text : List Char} (allowed : text.any forbidden = false) :
    IsPlain text :=
  fun c member => ne_marks_of_eq_false question sign
    (Bool.eq_false_iff.mpr (List.any_eq_false.mp allowed c member))

theorem isPlain_domain? {text domain : List Char} (accepted : domain? text = some domain) :
    IsPlain domain := by
  rcases Option.bind_eq_some_iff.mp accepted with ⟨decoded, _, accepted⟩
  dsimp only at accepted
  split at accepted
  · cases accepted
  · next allowed =>
    have plain := isPlain_of_any_eq_false rfl rfl (Bool.eq_false_iff.mpr allowed)
    rcases Option.bind_eq_some_iff.mp accepted with ⟨labels, each, whole⟩
    cases whole
    exact IsPlain.intercalate (by decide)
      (isPlain_labels (fun label member => plain.of_mem_splitOnP member) each)

theorem isPlain_text_eightGroups (groups : List Nat) : IsPlain (eightGroups groups).text := by
  simp [text, EightGroups.isPlain_text]

theorem isPlain_bracketed {written : List Char} {host : Host}
    (accepted : bracketed written = .ok host) : IsPlain host.text := by
  unfold bracketed at accepted
  split at accepted
  · split at accepted
    · cases accepted
      exact isPlain_text_eightGroups _
    · cases accepted
  · cases accepted

theorem isPlain_readDomain {written : List Char} {host : Host}
    (accepted : readDomain written = .ok host) : IsPlain host.text := by
  unfold readDomain at accepted
  split at accepted
  · exact isPlain_bracketed accepted
  · split at accepted
    · cases accepted
    · cases accepted
    · next domain _ named =>
      split at accepted
      · split at accepted
        · cases accepted
          exact FourBytes.isPlain_text _
        · cases accepted
      · cases accepted
        exact isPlain_domain? named

theorem isPlain_readFree {written : List Char} {host : Host}
    (accepted : readFree written = .ok host) : IsPlain host.text := by
  unfold readFree at accepted
  split at accepted
  · exact isPlain_bracketed accepted
  · split at accepted
    · cases accepted
    · next allowed =>
      cases accepted
      have plain := isPlain_of_any_eq_false rfl rfl (Bool.eq_false_iff.mpr allowed)
      exact Percent.isPlain_encode fun c member _ => plain c member

end Host

/-! ## Paths -/

namespace Path

theorem isPlain_parent {reversed : List Char} (plain : IsPlain reversed) :
    IsPlain (parent reversed) := by
  unfold parent
  split
  · next rest =>
    dsimp only
    split
    · exact plain
    · exact (IsPlain.cons_iff.mp plain).2.subset (List.dropWhile_subset _)
  · exact plain

theorem isPlain_splitDrive {path : List Char} (plain : IsPlain path) :
    IsPlain (splitDrive path) := by
  unfold splitDrive
  split
  · split
    · simp only [IsPlain.cons_iff] at plain ⊢
      simp [plain]
    · exact plain
  · exact plain

theorem isPlain_addFirst {trail : Trail} {segment : List Char} (plain : IsPlain trail.reversed)
    (added : IsPlain segment) : IsPlain (addFirst trail segment).reversed := by
  unfold addFirst
  split
  · have letter := added.subset (List.take_subset 1 segment)
    simp [letter]
  · exact IsPlain.reverse_iff.mpr (isPlain_splitDrive (IsPlain.append_iff.mpr ⟨plain, added⟩))

theorem isPlain_addPlain (family : Family) {trail : Trail} {segment : List Char}
    (plain : IsPlain trail.reversed) (added : IsPlain segment) :
    IsPlain (addPlain family trail segment).reversed := by
  unfold addPlain
  split
  · exact isPlain_addFirst plain added
  · exact IsPlain.append_iff.mpr ⟨IsPlain.reverse_iff.mpr added, plain⟩

theorem isPlain_add (family : Family) {trail : Trail} {segment : List Char}
    (plain : IsPlain trail.reversed) (added : IsPlain segment) :
    IsPlain (add family trail segment).1.reversed := by
  unfold add
  split
  · exact plain
  · exact isPlain_parent plain
  · exact isPlain_addPlain family plain added

/-- Segments and the slashes between them bring no mark into a path. -/
theorem isPlain_addAll (family : Family) {trail : Trail} {segments : List (List Char)}
    (plain : IsPlain trail.reversed)
    (added : forall segment, segment ∈ segments -> IsPlain segment) :
    IsPlain (addAll family trail segments).reversed := by
  fun_induction addAll with
  | case1 trail => exact plain
  | case2 trail last => exact isPlain_add family plain (added last List.mem_cons_self)
  | case3 trail segment rest more next named step inductionHypothesis =>
      have parts := List.forall_mem_cons.mp added
      have stepped := isPlain_add family plain parts.1
      rw [step] at stepped
      apply inductionHypothesis _ parts.2
      split
      · exact IsPlain.cons_iff.mpr ⟨by decide, stepped⟩
      · exact stepped

theorem isPlain_settle (family : Family) {path : List Char} (plain : IsPlain path) :
    IsPlain (settle family path) := by
  unfold settle
  split
  · exact IsPlain.cons_iff.mpr ⟨by decide, plain.subset (List.dropWhile_subset _)⟩
  · exact plain

theorem isPlain_encoded_segments {texts segments : List (List Char)}
    (encoded : segments = texts.map (Percent.encode Percent.path)) :
    forall segment, segment ∈ segments -> IsPlain segment := by
  intro segment member
  rw [encoded] at member
  rcases List.mem_map.mp member with ⟨text, _, rfl⟩
  exact Percent.isPlain_encode_path text

theorem isPlain_read (family : Family) (text : List Char) :
    IsPlain (read family text).reversed := by
  unfold read
  split
  · exact IsPlain.nil
  · exact isPlain_addAll family (by decide) (isPlain_encoded_segments rfl)

end Path
end Address
end CardTable
