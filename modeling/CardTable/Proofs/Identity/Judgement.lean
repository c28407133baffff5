import CardTable.Proofs.Identity.Names
import CardTable.Proofs.Text.Lowered
import Mathlib.Computability.Language

namespace CardTable
namespace Identity

/-!
# How names are judged

The pattern for a room name reads: a word of letters and digits, and then any
number of times a dash and a word.  Whether a text is of this form can be told
without looking for the words.  It is not empty, it has no other characters, it
neither starts nor ends with a dash, and no two dashes are next to each other.

The pattern, this condition and the scan that judges a room name from left to
right accept the same texts.  An identity is then made exactly from a room name
of this kind and a player name whose lower case is made of small letters, and
making it again changes nothing.
-/

/-- One letter or digit of ASCII, or more. -/
def word : Language Char :=
  {text | text ≠ [] ∧ forall c, c ∈ text -> c.isAlphanum = true}

/-- The pattern for room names: a word, and then dashes with a word behind each. -/
def roomPattern : Language Char :=
  word * KStar.kstar ({['-']} * word)

/-- Letters, digits and dashes.  No dash comes last and no two are next to each
other. -/
structure IsSpaced (text : List Char) : Prop where
  allowed : forall c, c ∈ text -> c.isAlphanum = true ∨ c = '-'
  last : text.getLast? ≠ some '-'
  single : ¬['-', '-'] <:+: text

/-- A room name told by its characters and their neighbours. -/
def IsRoom (room : String) : Prop :=
  room ≠ "" ∧
    (forall c, c ∈ room.toList -> c.isAlphanum = true ∨ c = '-') ∧
    room.toList.head? ≠ some '-' ∧ room.toList.getLast? ≠ some '-' ∧
    ¬['-', '-'] <:+: room.toList

/-! ## The condition on neighbours -/

theorem ne_dash_of_isAlphanum {c : Char} (letter : c.isAlphanum = true) : c ≠ '-' := by
  rintro rfl
  cases letter

theorem isSpaced_nil : IsSpaced [] where
  allowed := List.forall_mem_nil _
  last := by decide
  single := by decide

/-- A letter in front changes nothing. -/
theorem isSpaced_cons_of_isAlphanum {c : Char} (letter : c.isAlphanum = true)
    {rest : List Char} : IsSpaced (c :: rest) ↔ IsSpaced rest := by
  have notDash := ne_dash_of_isAlphanum letter
  have single : ['-', '-'] <:+: c :: rest ↔ ['-', '-'] <:+: rest := by
    rw [List.infix_cons_iff, List.cons_prefix_cons]
    simp [notDash.symm]
  have last : (c :: rest).getLast? = some '-' ↔ rest.getLast? = some '-' := by
    cases rest with
    | nil => simp [notDash]
    | cons d more => rw [List.getLast?_cons_cons]
  constructor
  · intro spaced
    exact ⟨fun d member => spaced.allowed d (List.mem_cons_of_mem c member),
      fun ends => spaced.last (last.mpr ends), fun pair => spaced.single (single.mpr pair)⟩
  · intro spaced
    exact ⟨List.forall_mem_cons.mpr ⟨Or.inl letter, spaced.allowed⟩,
      fun ends => spaced.last (last.mp ends), fun pair => spaced.single (single.mp pair)⟩

/-- Behind a dash something has to come, and no second dash. -/
theorem isSpaced_cons_dash {rest : List Char} :
    IsSpaced ('-' :: rest) ↔ IsSpaced rest ∧ rest ≠ [] ∧ rest.head? ≠ some '-' := by
  cases rest with
  | nil => exact iff_of_false (fun spaced => spaced.last rfl) fun parts => parts.2.1 rfl
  | cons d more =>
      have single : ['-', '-'] <:+: '-' :: d :: more ↔ d = '-' ∨ ['-', '-'] <:+: d :: more := by
        rw [List.infix_cons_iff, List.cons_prefix_cons, List.cons_prefix_cons]
        simp [eq_comm]
      constructor
      · intro spaced
        refine ⟨⟨fun c member => spaced.allowed c (List.mem_cons_of_mem _ member), ?_, ?_⟩,
          List.cons_ne_nil d more, ?_⟩
        · intro ends
          exact spaced.last (List.getLast?_cons_cons.trans ends)
        · intro pair
          exact spaced.single (single.mpr (Or.inr pair))
        · intro starts
          exact spaced.single (single.mpr (Or.inl (Option.some.inj starts)))
      · rintro ⟨spaced, _, starts⟩
        refine ⟨List.forall_mem_cons.mpr ⟨Or.inr rfl, spaced.allowed⟩, ?_, ?_⟩
        · intro ends
          exact spaced.last (List.getLast?_cons_cons.symm.trans ends)
        · intro pair
          rcases single.mp pair with rfl | within
          · exact starts rfl
          · exact spaced.single within

/-- The scan keeps one thing in mind: whether a word has to start.  At such a
place the rest may neither be empty nor start with a dash. -/
theorem isRoomRest_iff (startOfWord : Bool) (text : List Char) :
    isRoomRest startOfWord text = true ↔
      IsSpaced text ∧ (startOfWord = true -> text ≠ [] ∧ text.head? ≠ some '-') := by
  induction text generalizing startOfWord with
  | nil =>
      cases startOfWord with
      | false => exact iff_of_true rfl ⟨isSpaced_nil, Bool.noConfusion⟩
      | true => exact iff_of_false Bool.false_ne_true fun parts => (parts.2 rfl).1 rfl
  | cons c rest inductionHypothesis =>
      rw [isRoomRest]
      split
      · next letter =>
        have notDash := ne_dash_of_isAlphanum letter
        rw [inductionHypothesis false, isSpaced_cons_of_isAlphanum letter]
        simp [notDash]
      · next other =>
        by_cases dash : c = '-'
        · subst dash
          rw [isSpaced_cons_dash]
          cases startOfWord with
          | false => simp [inductionHypothesis true]
          | true => simp
        · have outside : ¬IsSpaced (c :: rest) := fun spaced =>
            (spaced.allowed c List.mem_cons_self).elim other dash
          simp [dash, outside]

theorem isRoomName_iff {room : String} : isRoomName room.toList = true ↔ IsRoom room := by
  have isFilled : room.toList ≠ [] ↔ room ≠ "" := String.toList_eq_nil_iff.not
  rw [isRoomName, isRoomRest_iff, IsRoom]
  constructor
  · rintro ⟨spaced, starts⟩
    exact ⟨isFilled.mp (starts rfl).1, spaced.allowed, (starts rfl).2, spaced.last, spaced.single⟩
  · rintro ⟨filled, allowed, first, last, single⟩
    exact ⟨⟨allowed, last, single⟩, fun _ => ⟨isFilled.mpr filled, first⟩⟩

/-! ## The pattern -/

theorem isRoomRest_word {text : List Char} (letters : forall c, c ∈ text -> c.isAlphanum = true)
    (rest : List Char) : isRoomRest false (text ++ rest) = isRoomRest false rest := by
  induction text with
  | nil => rfl
  | cons c more inductionHypothesis =>
      have parts := List.forall_mem_cons.mp letters
      rw [List.cons_append, isRoomRest, if_pos parts.1, inductionHypothesis parts.2]

theorem isRoomRest_of_mem_word {text : List Char} (member : text ∈ word) (startOfWord : Bool)
    (rest : List Char) : isRoomRest startOfWord (text ++ rest) = isRoomRest false rest := by
  cases text with
  | nil => exact absurd rfl member.1
  | cons c more =>
      have parts := List.forall_mem_cons.mp member.2
      rw [List.cons_append, isRoomRest, if_pos parts.1, isRoomRest_word parts.2]

theorem isRoomRest_of_dashed {pieces : List (List Char)}
    (dashed : forall piece, piece ∈ pieces -> piece ∈ ({['-']} * word : Language Char)) :
    isRoomRest false pieces.flatten = true := by
  induction pieces with
  | nil => rfl
  | cons piece others inductionHypothesis =>
      have parts := List.forall_mem_cons.mp dashed
      rcases Language.mem_mul.mp parts.1 with ⟨dash, rfl, text, member, rfl⟩
      rw [List.flatten_cons, List.append_assoc]
      change isRoomRest true (text ++ others.flatten) = true
      rw [isRoomRest_of_mem_word member, inductionHypothesis parts.2]

/-- What the scan accepts falls into pieces: the rest of a word, and then words
behind dashes.  Where a word has to start, the first piece is a word. -/
theorem pieces_of_isRoomRest {startOfWord : Bool} {text : List Char}
    (accepted : isRoomRest startOfWord text = true) :
    Exists fun front : List Char => Exists fun pieces : List (List Char) =>
      text = front ++ pieces.flatten ∧ (startOfWord = true -> front ≠ []) ∧
        (forall c, c ∈ front -> c.isAlphanum = true) ∧
        forall piece, piece ∈ pieces -> piece ∈ ({['-']} * word : Language Char) := by
  induction text generalizing startOfWord with
  | nil =>
      cases startOfWord with
      | false =>
          exact ⟨[], [], rfl, Bool.noConfusion, List.forall_mem_nil _, List.forall_mem_nil _⟩
      | true => cases accepted
  | cons c rest inductionHypothesis =>
      rw [isRoomRest] at accepted
      split at accepted
      · next letter =>
        rcases inductionHypothesis accepted with ⟨front, pieces, rfl, _, letters, dashed⟩
        exact ⟨c :: front, pieces, rfl, fun _ => List.cons_ne_nil c front,
          List.forall_mem_cons.mpr ⟨letter, letters⟩, dashed⟩
      · simp only [Bool.and_eq_true, decide_eq_true_eq, Bool.not_eq_true'] at accepted
        rcases accepted with ⟨⟨rfl, inside⟩, accepted⟩
        rcases inductionHypothesis accepted with ⟨front, pieces, rfl, filled, letters, dashed⟩
        have piece : '-' :: front ∈ ({['-']} * word : Language Char) :=
          Language.mem_mul.mpr ⟨['-'], rfl, front, ⟨filled rfl, letters⟩, rfl⟩
        refine ⟨[], ('-' :: front) :: pieces, rfl, ?_, List.forall_mem_nil _,
          List.forall_mem_cons.mpr ⟨piece, dashed⟩⟩
        rw [inside]
        exact Bool.noConfusion

theorem isRoomName_iff_mem_roomPattern {room : List Char} :
    isRoomName room = true ↔ room ∈ roomPattern := by
  constructor
  · intro accepted
    rcases pieces_of_isRoomRest accepted with ⟨front, pieces, rfl, filled, letters, dashed⟩
    exact Language.mem_mul.mpr ⟨front, ⟨filled rfl, letters⟩, pieces.flatten,
      Language.mem_kstar.mpr ⟨pieces, rfl, dashed⟩, rfl⟩
  · intro member
    rcases Language.mem_mul.mp member with ⟨front, starts, rest, others, rfl⟩
    rcases Language.mem_kstar.mp others with ⟨pieces, rfl, dashed⟩
    rw [isRoomName, isRoomRest_of_mem_word starts, isRoomRest_of_dashed dashed]

/-! ## Identities -/

theorem isPlayerName_iff {name : String} : isPlayerName name.toList = true ↔ IsName name := by
  refine ⟨isName_of_isPlayerName, ?_⟩
  rintro ⟨filled, letters⟩
  rw [isPlayerName, Bool.and_eq_true, Bool.not_eq_true', List.isEmpty_eq_false_iff,
    List.all_eq_true]
  refine ⟨fun empty => filled (String.toList_eq_nil_iff.mp empty), fun c member => ?_⟩
  change (decide ('a' ≤ c) && decide (c ≤ 'z')) = true
  rw [Bool.and_eq_true, decide_eq_true_eq, decide_eq_true_eq]
  exact letters c member

theorem lower_of_isName {name : String} (named : IsName name) : Text.lower name = name :=
  Text.lower_of_isSmall fun c member => Text.isSmall_of_between (named.2 c member)

/-- Names are judged exactly and once and for all.

An identity is made if and only if the player name in lower case is one letter
from a to z or more and the room name is as its pattern has it: not empty, only
ASCII letters, digits and dashes, no dash at either end and no two in a row.  It
holds the lower-case name and the room name as it is, and its two names make it
again.  In every other case the configuration is invalid.  The player name is
judged first, and named as it is in lower case; the room name is blamed only when
the player name is in order. -/
theorem create_exact (player room : String) :
    let name := Text.lower player
    (forall identity, create player room = .ok identity ↔
      IsName name ∧ IsRoom room ∧ identity = ⟨name, room⟩) ∧
    (IsRoom room ↔ room.toList ∈ roomPattern) ∧
    (forall identity, create player room = .ok identity ->
      create identity.player identity.room = .ok identity) ∧
    (¬IsName name ->
      create player room = .error (.invalidConfig
        ("player name " ++ Text.quoted name ++ " is invalid: use lowercase letters only"))) ∧
    (IsName name -> ¬IsRoom room ->
      create player room = .error (.invalidConfig
        ("room name " ++ Text.quoted room ++
          " is invalid: use letters, digits and single dashes"))) ∧
    (forall cause, create player room = .error cause -> cause.code = .invalidConfig) := by
  intro name
  have made : forall identity, create player room = .ok identity ↔
      IsName name ∧ IsRoom room ∧ identity = ⟨name, room⟩ := by
    intro identity
    rw [create_ok_iff, isPlayerName_iff, isRoomName_iff]
  refine ⟨made, ?_, ?_, ?_, ?_, fun cause => create_error⟩
  · rw [← isRoomName_iff, isRoomName_iff_mem_roomPattern]
  · intro identity accepted
    rcases (made identity).mp accepted with ⟨named, roomed, rfl⟩
    have kept : Text.lower name = name := lower_of_isName named
    rw [create_ok_iff, isPlayerName_iff, isRoomName_iff, kept]
    exact ⟨named, roomed, rfl⟩
  · intro unnamed
    have judged : isPlayerName (Text.lower player).toList = false :=
      Bool.eq_false_iff.mpr fun accepted => unnamed (isPlayerName_iff.mp accepted)
    rw [create, judged]
    rfl
  · intro named unroomed
    have playerJudged : isPlayerName (Text.lower player).toList = true :=
      isPlayerName_iff.mpr named
    have roomJudged : isRoomName room.toList = false :=
      Bool.eq_false_iff.mpr fun accepted => unroomed (isRoomName_iff.mp accepted)
    rw [create, playerJudged, roomJudged]
    rfl

/-- A line break behind the room name is not overlooked. -/
example : create "Pat" "lobby\n" = .error (.invalidConfig
    "room name \"lobby\\n\" is invalid: use letters, digits and single dashes") := by
  decide +kernel

end Identity
end CardTable
