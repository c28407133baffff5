import CardTable.Proofs.Client.Verbatim
import CardTable.Proofs.Markup.Listing
import CardTable.Proofs.Session.ChoiceGrammar

namespace CardTable

/-!
# The labels of the options

Options are numbered in one place and the answer is read in another.  The two
have to agree: what is typed is a label that was shown, and the option behind it
is the one that is picked.

As long as no option breaks a line, the list can be read back from its lines.
The first is the header, each of the others begins with its own label, and what
stands behind the label is the option, even if it looks like a labelled line
itself.  So a text shows one list of options and no other.
-/

namespace Choosing

/-- The line of an option, behind its label. -/
def labelled (label : Nat) (option : String) : String :=
  " [" ++ toString label ++ "] " ++ option

/-- The lines of a text. -/
def linesOf (text : String) : List String :=
  (text.toList.splitOn '\n').map String.ofList

/-- No option breaks a line. -/
def OneLined (options : List String) : Prop :=
  forall option, option ∈ options -> '\n' ∉ option.toList

/-- The text has a line with this label. -/
def Shows (text : String) (label : Nat) : Prop :=
  Exists fun option => labelled label option ∈ linesOf text

section

variable {label number : Nat} {front option : String} {options : List String}

/-! ## The lines of a list -/

theorem toList_labelled (label : Nat) (option : String) :
    (labelled label option).toList =
      [' ', '['] ++ (Text.decimal label ++ ([']', ' '] ++ option.toList)) := by
  rw [labelled, Nat.toString_eq_ofList_toDigits, String.toList_append, String.toList_append,
    String.toList_append, String.toList_ofList (l := Nat.toDigits 10 label), List.append_assoc,
    List.append_assoc]
  rfl

theorem optionLine_eq (label : Nat) (option : String) :
    optionLine label option = "\n" ++ labelled label option := by
  have opening : "\n [" = "\n" ++ " [" := rfl
  rw [optionLine, labelled, Nat.toString_eq_ofList_toDigits, opening, Text.decimal]
  simp only [String.append_assoc]

theorem break_not_mem_labelled (oneLine : '\n' ∉ option.toList) (label : Nat) :
    '\n' ∉ (labelled label option).toList := by
  rw [toList_labelled, List.mem_append, List.mem_append, List.mem_append]
  rintro (opening | digit | closing | inside)
  · revert opening
    decide
  · cases Text.isDigit_of_mem_decimal digit
  · revert closing
    decide
  · exact oneLine inside

/-- Behind a first line the options stand in their order, each on a line of its
own. -/
theorem linesOf_append_optionLines (oneLine : '\n' ∉ front.toList) (oneLined : OneLined options)
    (number : Nat) :
    linesOf (front ++ optionLines number options) =
      front :: options.mapIdx fun index option => labelled (index + number) option := by
  induction options generalizing front number with
  | nil =>
      rw [optionLines, String.append_empty, linesOf, List.splitOn_eq_singleton oneLine,
        List.map_singleton, String.ofList_toList, List.mapIdx_nil]
  | cons option options inductionHypothesis =>
      have parts := List.forall_mem_cons.mp oneLined
      have unbroken := break_not_mem_labelled parts.1 number
      have others := inductionHypothesis unbroken parts.2 (number + 1)
      have text : (front ++ optionLines number (option :: options)).toList =
          front.toList ++ '\n' ::
            (labelled number option ++ optionLines (number + 1) options).toList := by
        rw [optionLines, optionLine_eq, String.append_assoc, String.toList_append,
          String.toList_append]
        rfl
      rw [linesOf, text, List.splitOn_append_cons_self_of_not_mem oneLine, List.map_cons,
        String.ofList_toList, ← linesOf, others, List.mapIdx_cons, Nat.zero_add]
      simp only [Nat.add_right_comm _ 1, ← Nat.add_assoc]

/-- The lines of a list are its header and a line for each option. -/
theorem linesOf_listing (oneLined : OneLined options) :
    linesOf (listing options) =
      "Options:" :: options.mapIdx fun index option => labelled (index + 1) option :=
  linesOf_append_optionLines (by decide) oneLined 1

/-! ## Reading a line back -/

/-- A label ends where its digits end. -/
theorem takeWhile_decimal (label : Nat) (rest : List Char) :
    (Text.decimal label ++ ([']', ' '] ++ rest)).takeWhile Char.isDigit = Text.decimal label := by
  rw [List.takeWhile_append_of_pos fun c => Text.isDigit_of_mem_decimal]
  exact List.append_nil _

/-- A line has one label, and one option behind it: the label ends at the first
bracket, whatever digits and brackets the option has. -/
theorem labelled_inj {other : Nat} {text : String} :
    labelled label option = labelled other text ↔ label = other ∧ option = text := by
  constructor
  · intro same
    have characters := congrArg String.toList same
    rw [toList_labelled, toList_labelled, List.append_cancel_left_eq] at characters
    have digits := congrArg (List.takeWhile Char.isDigit) characters
    rw [takeWhile_decimal, takeWhile_decimal] at digits
    have value := congrArg (fun digits => Nat.ofDigitChars 10 digits 0) digits
    simp only [Text.ofDigitChars_decimal] at value
    subst value
    exact ⟨rfl, (String.append_right_inj _).mp same⟩
  · rintro ⟨rfl, rfl⟩
    rfl

/-- The header is no line of an option. -/
theorem labelled_ne_header (label : Nat) (option : String) :
    labelled label option ≠ "Options:" := by
  intro same
  have characters := congrArg String.toList same
  rw [toList_labelled] at characters
  cases (List.cons.inj characters).1

/-- A line with a label is the line of the option that has this place in the
list. -/
theorem labelled_mem_listing_iff (oneLined : OneLined options) :
    labelled label option ∈ linesOf (listing options) ↔
      Exists fun index => label = index + 1 ∧ options[index]? = some option := by
  rw [linesOf_listing oneLined, List.mem_cons, or_iff_right (labelled_ne_header label option),
    List.mem_iff_getElem?]
  refine exists_congr fun index => ?_
  rw [List.getElem?_mapIdx, Option.map_eq_some_iff]
  constructor
  · rintro ⟨text, place, same⟩
    obtain ⟨rfl, rfl⟩ := labelled_inj.mp same
    exact ⟨rfl, place⟩
  · rintro ⟨rfl, place⟩
    exact ⟨option, place, rfl⟩

/-- The labels that are shown are the numbers of the options. -/
theorem shows_iff (oneLined : OneLined options) :
    Shows (listing options) label ↔ 1 ≤ label ∧ label ≤ options.length := by
  simp only [Shows, labelled_mem_listing_iff oneLined]
  constructor
  · rintro ⟨option, index, rfl, place⟩
    obtain ⟨bound, _⟩ := List.getElem?_eq_some_iff.mp place
    omega
  · rintro ⟨first, last⟩
    have bound : label - 1 < options.length := by omega
    exact ⟨_, label - 1, by omega, List.getElem?_eq_getElem bound⟩

/-- Lists that are shown by the same text are the same list. -/
theorem listing_injective {first second : List String} (firstLined : OneLined first)
    (secondLined : OneLined second) (same : listing first = listing second) : first = second := by
  apply List.ext_getElem?
  intro index
  have places (option : String) :
      first[index]? = some option ↔ second[index]? = some option := by
    have lines : labelled (index + 1) option ∈ linesOf (listing first) ↔
        labelled (index + 1) option ∈ linesOf (listing second) := by
      rw [same]
    simpa [labelled_mem_listing_iff firstLined, labelled_mem_listing_iff secondLined] using lines
  exact Option.ext places

end
end Choosing

namespace Session

/-- The label, typed in decimal digits, picks the option of this number. -/
def Accepts (session : Session) (roster : Roster) (label : Nat) : Prop :=
  Exists fun which : UInt64 => which.toNat = label ∧
    (session.interpret roster (toString label)).1 = .send (.choose session.identity.player which)

section

variable {session : Session} {roster : Roster} {options : Options} {label : Nat}

theorem choices_of_mode (mode : session.mode = .choosing options) :
    session.choices = options.toList := by
  rw [choices, mode]

theorem tokenize_label (label : Nat) : Line.tokenize (toString label) = .ok [toString label] := by
  rw [Nat.toString_eq_ofList_toDigits]
  exact Line.tokensOf_spaced (.last (Client.typed_decimal label))

theorem denotes_label (label : Nat) : Text.Denotes (toString label).toList label := by
  rw [Nat.toString_eq_ofList_toDigits, String.toList_ofList]
  exact .count (.plain (Text.digits_decimal label))

theorem interpret_label (mode : session.mode = .choosing options) (roster : Roster) (label : Nat) :
    session.interpret roster (toString label) =
      Choosing.answer session (toString label) [] := by
  rw [interpret, tokenize_label, mode]

theorem accepts_of_bounds (mode : session.mode = .choosing options)
    (bounded : options.toList.length < 2 ^ 64) (first : 1 ≤ label)
    (last : label ≤ options.toList.length) : session.Accepts roster label := by
  have wide : (UInt64.ofNat label).toNat = label :=
    UInt64.toNat_ofNat_of_lt' (Nat.lt_of_le_of_lt last bounded)
  have answered : Choosing.answer session (toString label) [] =
      (.send (.choose session.identity.player (UInt64.ofNat label)), session.clear) :=
    Choosing.answer_of_label (wide.symm ▸ denotes_label label) (wide.symm ▸ first)
      (by rwa [wide, choices_of_mode mode])
  exact ⟨UInt64.ofNat label, wide, by rw [interpret_label mode, answered]⟩

/-- A number that labels no option sends nothing. -/
theorem request?_of_outside (mode : session.mode = .choosing options) (roster : Roster)
    (outside : ¬ (1 ≤ label ∧ label ≤ options.toList.length)) :
    (session.interpret roster (toString label)).1.request? = none := by
  have none : ¬ ((1 : Int) ≤ label ∧ (label : Int) ≤ session.choices.length) := by
    rw [choices_of_mode mode]
    omega
  rw [interpret_label mode, Choosing.answer_of_no_label (denotes_label label) none]
  rfl

theorem accepts_iff (mode : session.mode = .choosing options)
    (bounded : options.toList.length < 2 ^ 64) :
    session.Accepts roster label ↔ 1 ≤ label ∧ label ≤ options.toList.length := by
  constructor
  · rintro ⟨which, _, sent⟩
    by_contra outside
    have nothing := request?_of_outside mode roster outside
    rw [sent] at nothing
    cases nothing
  · rintro ⟨first, last⟩
    exact accepts_of_bounds mode bounded first last

end

/-- The labels that are shown are the ones that are accepted.

Lists of options that break no line are shown by different texts, for the lines
of such a text are the header and a line for each option.  While such a list is
pending, a number that is typed picks the option of that number if and only if a
line of the list has it as its label, which are the numbers from one to the
number of options; any other number sends nothing.  Labels that differ send
requests that differ.  A list has fewer than `2 ^ 64` options, for they are
counted in words of 64 bits. -/
theorem shown_labels_accepted :
    (forall first second, Choosing.OneLined first -> Choosing.OneLined second ->
      Choosing.listing first = Choosing.listing second -> first = second) ∧
    (forall options, Choosing.OneLined options ->
      Choosing.linesOf (Choosing.listing options) =
        "Options:" :: options.mapIdx fun index option => Choosing.labelled (index + 1) option) ∧
    (forall (session : Session) (roster : Roster) (options : Options),
      session.mode = .choosing options -> options.toList.length < 2 ^ 64 ->
        Choosing.OneLined options.toList ->
      (forall label : Nat,
        (session.Accepts roster label ↔
          Choosing.Shows (Choosing.listing options.toList) label) ∧
        (session.Accepts roster label ↔ 1 ≤ label ∧ label ≤ options.toList.length) ∧
        (¬ session.Accepts roster label ->
          (session.interpret roster (toString label)).1.request? = none)) ∧
      (forall label other : Nat,
        Choosing.Shows (Choosing.listing options.toList) label ->
        Choosing.Shows (Choosing.listing options.toList) other -> label ≠ other ->
          Exists fun request => Exists fun another =>
            (session.interpret roster (toString label)).1 = .send request ∧
              (session.interpret roster (toString other)).1 = .send another ∧
                request ≠ another)) := by
  refine ⟨fun _ _ => Choosing.listing_injective, fun _ => Choosing.linesOf_listing, ?_⟩
  intro session roster options mode bounded oneLined
  have shown (label : Nat) : session.Accepts roster label ↔
      Choosing.Shows (Choosing.listing options.toList) label := by
    rw [accepts_iff mode bounded, Choosing.shows_iff oneLined]
  constructor
  · intro label
    refine ⟨shown label, accepts_iff mode bounded, fun refused => ?_⟩
    rw [accepts_iff mode bounded] at refused
    exact request?_of_outside mode roster refused
  · intro label other showsLabel showsOther different
    obtain ⟨which, value, sent⟩ := (shown label).mpr showsLabel
    obtain ⟨another, otherValue, sentOther⟩ := (shown other).mpr showsOther
    refine ⟨_, _, sent, sentOther, ?_⟩
    intro same
    have words := (Request.choose.inj same).2
    exact different (by rw [← value, ← otherValue, words])

/-- The second option looks like the line of a third one, which there is not. -/
theorem labels_of_two_options :
    let options : Options := ⟨"Attack", [" [3] Run"]⟩
    let session : Session := ⟨⟨"ada", "den"⟩, .choosing options⟩
    options.toList.length < 2 ^ 64 ∧ Choosing.OneLined options.toList ∧
      Choosing.linesOf (Choosing.listing options.toList) =
        ["Options:", " [1] Attack", " [2]  [3] Run"] ∧
      session.Accepts {} 2 ∧ Choosing.Shows (Choosing.listing options.toList) 2 ∧
      ¬ session.Accepts {} 3 ∧ ¬ Choosing.Shows (Choosing.listing options.toList) 3 := by
  intro options session
  have bounded : options.toList.length < 2 ^ 64 := by decide
  have oneLined : Choosing.OneLined options.toList := by
    unfold Choosing.OneLined
    decide
  have lines := shown_labels_accepted.2.1 options.toList oneLined
  have labels := (shown_labels_accepted.2.2 session {} options rfl bounded oneLined).1
  have second : session.Accepts {} 2 := (labels 2).2.1.mpr (by decide)
  have third : ¬ session.Accepts {} 3 := fun accepted =>
    absurd ((labels 3).2.1.mp accepted) (by decide)
  exact ⟨bounded, oneLined, lines.trans (by decide +kernel), second, (labels 2).1.mp second, third,
    fun shown => third ((labels 3).1.mpr shown)⟩

/-- An option that breaks the line may pass for two. -/
example : Choosing.listing ["Attack\n [2] Run"] = Choosing.listing ["Attack", "Run"] := by
  decide +kernel

end Session
end CardTable
