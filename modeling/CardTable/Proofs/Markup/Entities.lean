import CardTable.Proofs.Markup.Tags

namespace CardTable
namespace Markup

/-!
# Decoding entities

Entities are decoded one after another, each in the whole text.  `Decoded` reads
the text once instead, from left to right, and never looks again at what it has
written.

The two agree because of what entities look like and of the order in which they
come (`Orderly`).  An entity begins with an ampersand and has none behind it, so
two entities never overlap.  A decoded character stands in no entity behind its
ampersand, so it completes none.  Only the last entity stands for an ampersand,
so none is begun by one that was decoded.
-/

/-- The entities that stand for a character. -/
inductive Entity : List Char -> Char -> Prop where
  | less : Entity "&lt;".toList '<'
  | greater : Entity "&gt;".toList '>'
  | quote : Entity "&quot;".toList '\x22'
  | apostrophe : Entity "&#39;".toList '\x27'
  | apostropheInHex : Entity "&#x27;".toList '\x27'
  | slash : Entity "&#x2F;".toList '/'
  | ampersand : Entity "&amp;".toList '&'

/-- What a text shows when it is read once from left to right. -/
inductive Decoded : List Char -> List Char -> Prop where
  | done : Decoded [] []
  | entity {spelling rest shown : List Char} {character : Char} :
      Entity spelling character -> Decoded rest shown ->
      Decoded (spelling ++ rest) (character :: shown)
  | kept {c : Char} {rest shown : List Char} :
      (forall spelling character, Entity spelling character -> ¬ spelling <+: c :: rest) ->
      Decoded rest shown -> Decoded (c :: rest) (c :: shown)

theorem entity_iff {spelling : List Char} {character : Char} :
    Entity spelling character ↔ (spelling, character) ∈ entities := by
  simp only [entities, List.mem_cons, Prod.mk.injEq, List.not_mem_nil, or_false]
  constructor
  · rintro ⟨⟩ <;> simp
  · rintro (⟨rfl, rfl⟩ | ⟨rfl, rfl⟩ | ⟨rfl, rfl⟩ | ⟨rfl, rfl⟩ | ⟨rfl, rfl⟩ | ⟨rfl, rfl⟩ |
      ⟨rfl, rfl⟩)
    exacts [.less, .greater, .quote, .apostrophe, .apostropheInHex, .slash, .ampersand]

/-! ## One entity in the whole text -/

section Replace

variable {entity : List Char} {character c : Char} {text rest : List Char}

theorem replace_cons (other : ¬ entity <+: c :: rest) :
    replace entity character (c :: rest) = c :: replace entity character rest := by
  rw [replace, if_neg (by rwa [List.isPrefixOf_iff_prefix])]

theorem replace_append (filled : entity ≠ []) (rest : List Char) :
    replace entity character (entity ++ rest) = character :: replace entity character rest := by
  cases entity with
  | nil => exact absurd rfl filled
  | cons first name =>
      have found : (first :: name).isPrefixOf (first :: (name ++ rest)) = true :=
        List.isPrefixOf_iff_prefix.mpr (List.prefix_append (first :: name) rest)
      rw [List.cons_append, replace, if_pos found, List.length_cons, Nat.add_sub_cancel,
        List.drop_left]

/-- Text without an ampersand is passed over. -/
theorem replace_append_of_not_mem {name : List Char} (bare : '&' ∉ text) (rest : List Char) :
    replace ('&' :: name) character (text ++ rest) =
      text ++ replace ('&' :: name) character rest := by
  induction text with
  | nil => rfl
  | cons c others inductionHypothesis =>
      have apart := not_or.mp (mt List.mem_cons.mpr bare)
      rw [List.cons_append, replace_cons, inductionHypothesis apart.2, List.cons_append]
      exact fun begins => apart.1 (List.cons_prefix_cons.mp begins).1

/-- A replacement does not begin anything that the new character has no part in. -/
theorem begins_of_begins_replace {start : List Char} (fresh : character ∉ start)
    (begins : start <+: replace entity character text) : start <+: text := by
  induction start generalizing text with
  | nil => exact List.nil_prefix
  | cons first others inductionHypothesis =>
      have apart := not_or.mp (mt List.mem_cons.mpr fresh)
      cases text with
      | nil =>
          rw [replace] at begins
          exact begins
      | cons c rest =>
          by_cases found : entity.isPrefixOf (c :: rest)
          · rw [replace, if_pos found] at begins
            exact absurd (List.cons_prefix_cons.mp begins).1.symm apart.1
          · rw [replace, if_neg found] at begins
            have parts := List.cons_prefix_cons.mp begins
            exact List.cons_prefix_cons.mpr ⟨parts.1, inductionHypothesis apart.2 parts.2⟩

end Replace

/-! ## One entity after another -/

/-- What an order of replacements has to keep to.

Entities begin with their only ampersand, and behind it they have none of the
characters that entities stand for.  An entity that stands for an ampersand comes
last, and none is the beginning of another. -/
structure Orderly (table : List (List Char × Char)) : Prop where
  begins : forall entry, entry ∈ table -> entry.1 = '&' :: entry.1.tail ∧ '&' ∉ entry.1.tail
  fresh : forall entry, entry ∈ table -> forall other, other ∈ table -> entry.2 ∉ other.1.tail
  apart : table.Pairwise fun earlier later =>
    earlier.2 ≠ '&' ∧ ¬ earlier.1 <+: later.1 ∧ ¬ later.1 <+: earlier.1

def replaceAll (table : List (List Char × Char)) (text : List Char) : List Char :=
  table.foldl (fun text entry => replace entry.1 entry.2 text) text

theorem orderly_entities : Orderly entities := by
  constructor <;> decide

section Table

variable {table : List (List Char × Char)} {first : List Char × Char} {c : Char} {rest : List Char}

theorem Orderly.tail (orderly : Orderly (first :: table)) : Orderly table where
  begins entry member := orderly.begins entry (List.mem_cons_of_mem _ member)
  fresh entry member other others :=
    orderly.fresh entry (List.mem_cons_of_mem _ member) other (List.mem_cons_of_mem _ others)
  apart := (List.pairwise_cons.mp orderly.apart).2

/-- Where no entity begins, none is made to begin. -/
theorem replaceAll_cons (orderly : Orderly table)
    (none : forall entry, entry ∈ table -> ¬ entry.1 <+: c :: rest) :
    replaceAll table (c :: rest) = c :: replaceAll table rest := by
  induction table generalizing rest with
  | nil => rfl
  | cons first table inductionHypothesis =>
      have passed : replace first.1 first.2 (c :: rest) = c :: replace first.1 first.2 rest :=
        replace_cons (none first List.mem_cons_self)
      rw [replaceAll, List.foldl_cons, passed]
      apply inductionHypothesis orderly.tail
      intro entry member begins
      have begun := (orderly.begins entry (List.mem_cons_of_mem _ member)).1
      rw [begun] at begins
      have parts := List.cons_prefix_cons.mp begins
      have fresh := orderly.fresh first List.mem_cons_self entry (List.mem_cons_of_mem _ member)
      apply none entry (List.mem_cons_of_mem _ member)
      rw [begun]
      exact List.cons_prefix_cons.mpr ⟨parts.1, begins_of_begins_replace fresh parts.2⟩

theorem replaceAll_cons_of_ne (orderly : Orderly table) (other : c ≠ '&') :
    replaceAll table (c :: rest) = c :: replaceAll table rest := by
  apply replaceAll_cons orderly
  intro entry member begins
  rw [(orderly.begins entry member).1] at begins
  exact other (List.cons_prefix_cons.mp begins).1.symm

/-- An entity becomes its character, which stays. -/
theorem replaceAll_append (orderly : Orderly table) {entry : List Char × Char}
    (member : entry ∈ table) (rest : List Char) :
    replaceAll table (entry.1 ++ rest) = entry.2 :: replaceAll table rest := by
  induction table generalizing rest with
  | nil => cases member
  | cons first table inductionHypothesis =>
      have begins := orderly.begins entry member
      have apart := List.pairwise_cons.mp orderly.apart
      rcases List.mem_cons.mp member with rfl | later
      · have filled : entry.1 ≠ [] := by
          rw [begins.1]
          exact List.cons_ne_nil _ _
        rw [replaceAll, List.foldl_cons, replace_append filled]
        change replaceAll table _ = _
        cases table with
        | nil => rfl
        | cons next others =>
            exact replaceAll_cons_of_ne orderly.tail (apart.1 next List.mem_cons_self).1
      · have different := apart.1 entry later
        have passed : replace first.1 first.2 (entry.1 ++ rest) =
            entry.1 ++ replace first.1 first.2 rest := by
          rw [begins.1, List.cons_append, replace_cons, (orderly.begins first List.mem_cons_self).1,
            replace_append_of_not_mem begins.2]
          · rfl
          · intro meets
            rw [← List.cons_append, ← begins.1] at meets
            rcases List.prefix_or_prefix_of_prefix meets (List.prefix_append entry.1 rest) with
              within | around
            · exact different.2.1 within
            · exact different.2.2 around
        rw [replaceAll, List.foldl_cons, passed]
        exact inductionHypothesis orderly.tail later _

end Table

/-! ## Decoding -/

section

variable {spelling rest text shown : List Char} {character c : Char}

theorem decode_nil : decode [] = [] := by
  decide +kernel

theorem decode_entity (entity : Entity spelling character) (rest : List Char) :
    decode (spelling ++ rest) = character :: decode rest :=
  replaceAll_append orderly_entities (entity_iff.mp entity) rest

theorem decode_kept
    (none : forall spelling character, Entity spelling character -> ¬ spelling <+: c :: rest) :
    decode (c :: rest) = c :: decode rest :=
  replaceAll_cons orderly_entities fun entry member =>
    none entry.1 entry.2 (entity_iff.mpr member)

theorem decode_cons_of_ne (other : c ≠ '&') : decode (c :: rest) = c :: decode rest :=
  replaceAll_cons_of_ne orderly_entities other

theorem Entity.two_le_length (entity : Entity spelling character) : 2 ≤ spelling.length := by
  cases entity <;> decide

theorem Decoded.eq_decode (decoded : Decoded text shown) : shown = decode text := by
  induction decoded with
  | done => exact decode_nil.symm
  | entity entity _ inductionHypothesis => rw [decode_entity entity, inductionHypothesis]
  | kept none _ inductionHypothesis => rw [decode_kept none, inductionHypothesis]

theorem decoded_decode (text : List Char) : Decoded text (decode text) := by
  by_cases begins : Exists fun spelling => Exists fun character =>
      Entity spelling character ∧ spelling <+: text
  · obtain ⟨spelling, character, entity, rest, whole⟩ := begins
    have shorter : rest.length < text.length := by
      have long := entity.two_le_length
      rw [← whole, List.length_append]
      omega
    have read := decode_entity entity rest
    rw [whole] at read
    rw [read, ← whole]
    exact .entity entity (decoded_decode rest)
  · match text with
    | [] =>
        rw [decode_nil]
        exact .done
    | c :: rest =>
        have none spelling character (entity : Entity spelling character) :
            ¬ spelling <+: c :: rest :=
          fun within => begins ⟨spelling, character, entity, within⟩
        rw [decode_kept none]
        exact .kept none (decoded_decode rest)
termination_by text.length

theorem decoded_iff : Decoded text shown ↔ shown = decode text := by
  constructor
  · exact Decoded.eq_decode
  · rintro rfl
    exact decoded_decode text

theorem decode_append_of_not_mem (bare : '&' ∉ text) (rest : List Char) :
    decode (text ++ rest) = text ++ decode rest := by
  induction text with
  | nil => rfl
  | cons c others inductionHypothesis =>
      have apart := not_or.mp (mt List.mem_cons.mpr bare)
      rw [List.cons_append, decode_cons_of_ne (Ne.symm apart.1), inductionHypothesis apart.2]
      rfl

/-- No entity reaches over a character that stands in none. -/
theorem decode_append_cons
    (apart : forall spelling character, Entity spelling character -> c ∉ spelling)
    (text rest : List Char) : decode (text ++ c :: rest) = decode text ++ decode (c :: rest) := by
  have read := decoded_decode text
  generalize decode text = shown at read
  induction read with
  | done => rfl
  | entity entity _ inductionHypothesis =>
      rw [List.append_assoc, decode_entity entity, inductionHypothesis]
      rfl
  | @kept d others shown none _ inductionHypothesis =>
      rw [List.cons_append, decode_kept, inductionHypothesis]
      · rfl
      · intro spelling character entity begins
        have front : d :: others <+: d :: (others ++ c :: rest) := List.prefix_append (d :: others) _
        rcases List.prefix_or_prefix_of_prefix begins front with within | ⟨extra, reaches⟩
        · exact none spelling character entity within
        · cases extra with
          | nil =>
              rw [List.append_nil] at reaches
              exact none spelling character entity (reaches ▸ List.prefix_rfl)
          | cons e extra =>
              rw [← reaches, ← List.cons_append] at begins
              have same := List.cons_prefix_cons.mp ((List.prefix_append_right_inj _).mp begins)
              apply apart spelling character entity
              rw [← reaches, ← same.1]
              exact List.mem_append_right _ List.mem_cons_self

theorem Entity.no_break (entity : Entity spelling character) :
    '\n' ∉ spelling ∧ character ≠ '\n' := by
  cases entity <;> decide

/-- Decoding keeps the line breaks. -/
theorem count_decode (text : List Char) : (decode text).count '\n' = text.count '\n' := by
  have read := decoded_decode text
  generalize decode text = shown at read
  induction read with
  | done => rfl
  | entity entity _ inductionHypothesis =>
      rw [List.count_cons_of_ne entity.no_break.2, inductionHypothesis, List.count_append,
        List.count_eq_zero.mpr entity.no_break.1, Nat.zero_add]
  | kept _ _ inductionHypothesis => rw [List.count_cons, List.count_cons, inductionHypothesis]

/-! ## Texts that are shown as they are -/

/-- Nothing in the text is a tag or an entity. -/
def Unmarked (text : List Char) : Prop :=
  Tagless text ∧ forall spelling character, Entity spelling character -> ¬ spelling <:+: text

theorem Decoded.length_le (decoded : Decoded text shown) : shown.length ≤ text.length := by
  induction decoded with
  | done => exact Nat.le_refl _
  | entity entity _ inductionHypothesis =>
      have long := entity.two_le_length
      rw [List.length_cons, List.length_append]
      omega
  | kept _ _ inductionHypothesis => exact Nat.succ_le_succ inductionHypothesis

/-- An entity is longer than its character, so a text with one becomes shorter. -/
theorem Decoded.not_infix_of_length (decoded : Decoded text shown)
    (same : shown.length = text.length) (entity : Entity spelling character) :
    ¬ spelling <:+: text := by
  intro within
  induction decoded with
  | done =>
      have long := entity.two_le_length
      have short := within.length_le
      exact absurd (Nat.le_trans long short) (by decide)
  | entity other decoded _ =>
      have long := other.two_le_length
      have short := decoded.length_le
      rw [List.length_cons, List.length_append] at same
      omega
  | kept none _ inductionHypothesis =>
      rcases List.infix_cons_iff.mp within with begins | later
      · exact none _ _ entity begins
      · exact inductionHypothesis (Nat.succ.inj same) later

theorem decode_eq_self_iff :
    decode text = text ↔
      forall spelling character, Entity spelling character -> ¬ spelling <:+: text := by
  constructor
  · intro same spelling character entity
    exact (decoded_decode text).not_infix_of_length (congrArg List.length same) entity
  · intro none
    induction text with
    | nil => exact decode_nil
    | cons c rest inductionHypothesis =>
        rw [decode_kept, inductionHypothesis]
        · intro spelling character entity within
          exact none spelling character entity (List.infix_cons within)
        · intro spelling character entity begins
          exact none spelling character entity begins.isInfix

/-- Cleaning keeps exactly the texts in which there is nothing to clean. -/
theorem plain_eq_self_iff {text : String} : plain text = text ↔ Unmarked text.toList := by
  rw [plain, ← String.toList_inj, String.toList_ofList]
  constructor
  · intro same
    have whole : strip text.toList = text.toList := by
      apply (strip_sublist _).eq_of_length_le
      have short := (decoded_decode (strip text.toList)).length_le
      rwa [same] at short
    rw [whole] at same
    exact ⟨strip_eq_self_iff.mp whole, decode_eq_self_iff.mp same⟩
  · rintro ⟨tagless, none⟩
    rw [strip_eq_self_iff.mpr tagless, decode_eq_self_iff.mpr none]

end

/-- A text is cleaned by one reading that drops tags and one that decodes
entities, both from left to right.

For every text, the first reading leaves one thing, and the second one makes of
it one thing, which is the cleaned text.  No bracket that is left opens a tag, so
the first reading would drop nothing more. -/
theorem plain_iff_read_once (text : String) :
    (forall kept, Untagged text.toList kept ↔ kept = strip text.toList) ∧
    (forall shown : String, Decoded (strip text.toList) shown.toList ↔ shown = plain text) ∧
    Tagless (strip text.toList) ∧ strip (strip text.toList) = strip text.toList := by
  refine ⟨fun _ => untagged_iff, ?_, tagless_strip _, strip_eq_self_iff.mpr (tagless_strip _)⟩
  intro shown
  rw [decoded_iff, plain, ← String.toList_inj, String.toList_ofList]

/-- Taking out a tag makes an entity, and decoding that one makes what looks like
another. -/
example : plain "&am<b>p;lt; <i" = "&lt; <i" := by
  decide +kernel

end Markup
end CardTable
