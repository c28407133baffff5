import CardTable.Proofs.Address.PlainParts
import CardTable.Proofs.Text.Lowered
import Mathlib.Data.List.Infix
import Mathlib.Data.List.TakeWhile

namespace CardTable
namespace Address

/-!
# Addresses of small letters and digits

Much of what an address can hold has to be looked at twice: percent signs, points,
numbers that are meant as hosts, characters beyond ASCII.  A host of small letters
and a path whose segments are made of small letters and digits have none of it.
Such a host is read as the name that it is, and such a path is written as it was
read.
-/

/-- One letter from a to z or more. -/
def IsLetters (text : List Char) : Prop :=
  text ≠ [] ∧ forall c, c ∈ text -> 'a' ≤ c ∧ c ≤ 'z'

/-- One letter from a to z or digit, or more. -/
def IsSegment (text : List Char) : Prop :=
  text ≠ [] ∧ forall c, c ∈ text -> 'a' ≤ c ∧ c ≤ 'z' ∨ c.isDigit = true

instance (text : List Char) : Decidable (IsLetters text) :=
  @instDecidableAnd _ _ _ (List.decidableBAll (fun c => 'a' ≤ c ∧ c ≤ 'z') text)

instance (text : List Char) : Decidable (IsSegment text) :=
  @instDecidableAnd _ _ _
    (List.decidableBAll (fun c => 'a' ≤ c ∧ c ≤ 'z' ∨ c.isDigit = true) text)

/-- Segments with a slash in front of each. -/
def slashed (segments : List (List Char)) : List Char :=
  segments.flatMap fun segment => '/' :: segment

/-! ## Characters -/

section

variable {c : Char} (letterOrDigit : 'a' ≤ c ∧ c ≤ 'z' ∨ c.isDigit = true)

include letterOrDigit

theorem bounds_of_letterOrDigit :
    97 ≤ c.toNat ∧ c.toNat ≤ 122 ∨ 48 ≤ c.toNat ∧ c.toNat ≤ 57 :=
  letterOrDigit.imp Text.bounds_of_between Text.bounds_of_isDigit

theorem printed_of_letterOrDigit : 0x20 < c.toNat ∧ c.toNat < 0x7f := by
  have bounds := bounds_of_letterOrDigit letterOrDigit
  omega

/-- What small letters and digits have in common for an address: none of them is
a sign. -/
theorem ne_sign (sign : Char)
    (listed : sign ∈ [' ', '\x22', '#', '%', '.', '/', ':', '<', '>', '?', '@', '[', '\\', ']',
      '^', '\x60', '|', '\x7b', '\x7d']) : c ≠ sign := by
  rintro rfl
  have apart : [' ', '\x22', '#', '%', '.', '/', ':', '<', '>', '?', '@', '[', '\\', ']', '^',
      '\x60', '|', '\x7b', '\x7d'].all (fun d =>
        ¬(97 ≤ d.toNat ∧ d.toNat ≤ 122 ∨ 48 ≤ d.toNat ∧ d.toNat ≤ 57)) = true := by
    decide
  exact of_decide_eq_true (List.all_eq_true.mp apart c listed)
    (bounds_of_letterOrDigit letterOrDigit)

end

theorem filter_isIgnored_eq_self {text : List Char}
    (printed : forall c, c ∈ text -> 0x20 < c.toNat) : text.filter (!isIgnored ·) = text := by
  rw [List.filter_eq_self]
  intro c member
  have above := printed c member
  simp only [isIgnored, Bool.not_eq_true', Bool.or_eq_false_iff, decide_eq_false_iff_not]
  refine ⟨⟨?_, ?_⟩, ?_⟩
  all_goals
    rintro rfl
    exact absurd above (by decide)

theorem cleaned_eq_self {text : List Char} (printed : forall c, c ∈ text -> 0x20 < c.toNat) :
    cleaned text = text := by
  have kept : forall part : List Char, (forall c, c ∈ part -> 0x20 < c.toNat) ->
      part.dropWhile (fun c => decide (c.toNat ≤ 0x20)) = part := by
    intro part printed
    cases part with
    | nil => rfl
    | cons c rest =>
        have first := printed c List.mem_cons_self
        exact List.dropWhile_cons_of_neg (by simpa using first)
  have reversed : forall c, c ∈ text.reverse -> 0x20 < c.toNat := fun c member =>
    printed c (List.mem_reverse.mp member)
  unfold cleaned
  dsimp only
  rw [kept text printed, kept text.reverse reversed, List.reverse_reverse,
    filter_isIgnored_eq_self printed]

/-! ## The host -/

namespace Percent

theorem decode_eq_flatMap {text : List Char} (unmarked : forall c, c ∈ text -> c ≠ '%') :
    decode text = text.flatMap String.utf8EncodeChar := by
  induction text with
  | nil => rfl
  | cons c rest inductionHypothesis =>
      have parts := List.forall_mem_cons.mp unmarked
      rw [decode, inductionHypothesis parts.2, List.flatMap_cons]
      intro high low more percent
      exact absurd percent parts.1

theorem decode?_eq_self {text : List Char} (unmarked : forall c, c ∈ text -> c ≠ '%') :
    decode? text = some text := by
  have bytes : (⟨(decode text).toArray⟩ : ByteArray) = (String.ofList text).toByteArray := by
    rw [decode_eq_flatMap unmarked, String.toByteArray_ofList]
    apply ByteArray.ext
    exact (List.data_toByteArray).symm
  have decoded : String.fromUTF8? (String.ofList text).toByteArray = some (String.ofList text) := by
    unfold String.fromUTF8?
    exact dif_pos (String.ofList text).isValidUTF8
  rw [decode?, bytes, decoded, Option.map_some, String.toList_ofList]

end Percent

namespace Host

variable {host : List Char}

theorem not_isForbiddenInDomain {c : Char} (between : 'a' ≤ c ∧ c ≤ 'z') :
    isForbiddenInDomain c = false := by
  have small : c.toNat < 123 := Nat.lt_succ_of_le (Text.bounds_of_between between).2
  have each : forall code, code < 123 -> 97 ≤ code ->
      isForbiddenInDomain (Char.ofNat code) = false := by
    decide
  have judged := each c.toNat small (Text.bounds_of_between between).1
  rwa [Char.ofNat_toNat] at judged

theorem label?_of_isLetters (letters : IsLetters host) : label? host = some host := by
  have ascii : host.any (0x80 ≤ ·.toNat) = false := by
    rw [List.any_eq_false]
    intro c member
    have high := (Text.bounds_of_between (letters.2 c member)).2
    rw [decide_eq_true_eq]
    omega
  have uncarried : carrier.isPrefixOf? host = none := by
    rw [Option.eq_none_iff_forall_ne_some]
    intro rest found
    have dash : '-' ∈ host := by
      rw [← List.isPrefixOf?_eq_some_iff_append_eq.mp found]
      exact List.mem_append_left rest (by decide)
    exact absurd (letters.2 '-' dash) (by decide)
  rw [label?, ascii, if_neg Bool.false_ne_true, uncarried]

theorem domain?_of_isLetters (letters : IsLetters host) : domain? host = some host := by
  have sign := fun c member => ne_sign (Or.inl (letters.2 c member))
  have undecoded : Percent.decode? host = some host :=
    Percent.decode?_eq_self fun c member => sign c member '%' (by decide)
  have lowered : Text.lower (String.ofList host) = String.ofList host := by
    apply Text.lower_of_isSmall
    intro c member
    rw [String.toList_ofList] at member
    exact Text.isSmall_of_between (letters.2 c member)
  have allowed : host.any isForbiddenInDomain = false := by
    rw [List.any_eq_false]
    exact fun c member => Bool.eq_false_iff.mp (not_isForbiddenInDomain (letters.2 c member))
  have whole : host.splitOnP (· = '.') = [host] :=
    List.splitOnP_eq_singleton fun c member => decide_eq_false (sign c member '.' (by decide))
  rw [domain?, undecoded, Option.bind_eq_bind, Option.bind_some]
  dsimp only
  rw [lowered, String.toList_ofList, allowed, if_neg Bool.false_ne_true, whole, List.mapM_cons,
    label?_of_isLetters letters]
  simp

theorem natural?_of_isLetters (letters : IsLetters host) : Text.natural? 10 host = none := by
  cases host with
  | nil => rfl
  | cons c rest =>
      have bounds := Text.bounds_of_between (letters.2 c List.mem_cons_self)
      have digitless : Text.digitIn? 10 c = none := by
        have each : forall code, code < 123 -> 97 ≤ code ->
            Text.digitIn? 10 (Char.ofNat code) = none := by
          decide
        have judged := each c.toNat (by omega) bounds.1
        rwa [Char.ofNat_toNat] at judged
      rw [Text.natural?, List.isEmpty_cons, if_neg Bool.false_ne_true, Text.digitsFrom?, digitless]

theorem not_isMeant_of_isLetters (letters : IsLetters host) : FourBytes.isMeant host = false := by
  have whole : host.splitOnP (· = '.') = [host] :=
    List.splitOnP_eq_singleton fun c member =>
      decide_eq_false (ne_sign (Or.inl (letters.2 c member)) '.' (by decide))
  have filled : [host].getLast? ≠ some [] := fun empty => letters.1 (Option.some.inj empty)
  have alone : FourBytes.parts host = [host] := by
    rw [FourBytes.parts, whole, if_neg filled]
  have unnumbered : FourBytes.part? host = none := by
    have zeroless : '0' ∉ host := fun member => absurd (letters.2 '0' member) (by decide)
    unfold FourBytes.part?
    split
    · exact absurd List.mem_cons_self zeroless
    · exact absurd List.mem_cons_self zeroless
    · exact natural?_of_isLetters letters
  have digitless : host.all Char.isDigit = false := by
    rw [List.all_eq_false]
    rcases List.exists_mem_of_ne_nil host letters.1 with ⟨c, member⟩
    refine ⟨c, member, fun digit => ?_⟩
    have letter := Text.bounds_of_between (letters.2 c member)
    have low := Text.bounds_of_isDigit digit
    omega
  rw [FourBytes.isMeant, alone, List.getLast?_singleton]
  dsimp only
  rw [digitless, unnumbered, Bool.and_false]
  rfl

theorem readDomain_of_isLetters (letters : IsLetters host) :
    readDomain host = .ok (.name host) := by
  have unbracketed : host.head? ≠ some '[' := by
    intro starts
    have member : '[' ∈ host := List.mem_of_mem_head? starts
    exact absurd (letters.2 '[' member) (by decide)
  rw [readDomain, if_neg unbracketed, domain?_of_isLetters letters]
  cases host with
  | nil => exact absurd rfl letters.1
  | cons c rest =>
      dsimp only
      rw [not_isMeant_of_isLetters letters, if_neg Bool.false_ne_true]

end Host

/-! ## The server -/

variable {host : List Char}

/-- The rest of an address behind its host: nothing, or a path. -/
theorem slashed_cases (segments : List (List Char)) :
    slashed segments = [] ∨ Exists fun rest => slashed segments = '/' :: rest := by
  cases segments with
  | nil => exact Or.inl rfl
  | cons first others => exact Or.inr ⟨_, rfl⟩

theorem slashed_eq_nil_iff {segments : List (List Char)} :
    slashed segments = [] ↔ segments = [] := by
  cases segments with
  | nil => exact iff_of_true rfl rfl
  | cons first others => exact iff_of_false (List.cons_ne_nil _ _) (List.cons_ne_nil first others)

theorem splitHost_of_isLetters (letters : IsLetters host) (port : Nat)
    (segments : List (List Char)) :
    splitHost (.server port) false (host ++ slashed segments) = (host, slashed segments) := by
  have inside : forall c, c ∈ host -> 'a' ≤ c ∧ c ≤ 'z' := letters.2
  clear letters
  induction host with
  | nil =>
      rcases slashed_cases segments with nothing | ⟨rest, path⟩
      · rw [nothing]
        rfl
      · rw [path]
        rfl
  | cons c rest inductionHypothesis =>
      have parts := List.forall_mem_cons.mp inside
      have sign := ne_sign (Or.inl parts.1)
      have goesOn : (endsServer (.server port) c || (c = ':' && !false)) = false := by
        simp [endsServer, Family.isSlash, sign]
      have outside : (decide (c = '[') || (false && decide (c ≠ ']'))) = false := by
        simp [sign]
      rw [List.cons_append, splitHost, goesOn, if_neg Bool.false_ne_true, outside,
        inductionHypothesis parts.2]

theorem readServer_of_isLetters (letters : IsLetters host) (port : Nat)
    (segments : List (List Char)) :
    readServer (.server port) [] (host ++ slashed segments) =
      .ok (.server [] (.name host) none, slashed segments) := by
  have filled : host.isEmpty = false := List.isEmpty_eq_false_iff.mpr letters.1
  have named : Host.name host ≠ .name [] := fun empty => letters.1 (Host.name.inj empty)
  rw [readServer, splitHost_of_isLetters letters]
  dsimp only
  rw [filled, Host.readDomain_of_isLetters letters]
  simp only [Family.isKnown, Bool.and_false, Bool.false_eq_true, if_false, ne_eq, reduceCtorEq,
    not_false_eq_true, decide_true, if_true, bind, Except.bind, pure, Except.pure, named,
    decide_false, Bool.false_and]
  rcases slashed_cases segments with nothing | ⟨rest, path⟩
  · rw [nothing]
  · rw [path]
    rfl

theorem mem_slashed {segments : List (List Char)}
    (plain : forall segment, segment ∈ segments -> IsSegment segment) {c : Char}
    (member : c ∈ slashed segments) : c = '/' ∨ 'a' ≤ c ∧ c ≤ 'z' ∨ c.isDigit = true := by
  rcases List.mem_flatMap.mp member with ⟨segment, among, inside⟩
  rcases List.mem_cons.mp inside with slash | within
  · exact Or.inl slash
  · exact Or.inr ((plain segment among).2 c within)

/-- Behind the scheme there are only slashes, letters and digits. -/
theorem mem_host_slashed {segments : List (List Char)} (letters : IsLetters host)
    (plain : forall segment, segment ∈ segments -> IsSegment segment) {c : Char}
    (member : c ∈ host ++ slashed segments) :
    c = '/' ∨ 'a' ≤ c ∧ c ≤ 'z' ∨ c.isDigit = true := by
  rcases List.mem_append.mp member with named | behind
  · exact Or.inr (Or.inl (letters.2 c named))
  · exact mem_slashed plain behind

theorem not_mem_host_slashed {segments : List (List Char)} (letters : IsLetters host)
    (plain : forall segment, segment ∈ segments -> IsSegment segment) {sign : Char}
    (listed : sign ∈ ['#', '@']) : sign ∉ host ++ slashed segments := by
  intro member
  rcases mem_host_slashed letters plain member with rfl | letterOrDigit
  · revert listed
    decide
  · have signs := ne_sign letterOrDigit sign
    rcases List.mem_cons.mp listed with rfl | last
    · exact signs (by decide) rfl
    · rw [List.mem_singleton.mp last] at signs
      exact signs (by decide) rfl

theorem readAuthority_of_isLetters (letters : IsLetters host) (port : Nat)
    {segments : List (List Char)}
    (plain : forall segment, segment ∈ segments -> IsSegment segment) :
    readAuthority (.server port) (host ++ slashed segments) =
      .ok (.server [] (.name host) none, slashed segments) := by
  have absent : ((host ++ slashed segments).takeWhile
      (!endsServer (.server port) ·)).contains '@' = false := by
    rw [Bool.eq_false_iff, Ne, List.contains_iff_mem]
    exact fun member => not_mem_host_slashed letters plain (by decide)
      (List.takeWhile_subset _ member)
  have split : splitCredentials (.server port) (host ++ slashed segments) =
      (none, host ++ slashed segments) := by
    rw [splitCredentials]
    dsimp only
    rw [absent, if_neg Bool.false_ne_true]
  rw [readAuthority, split]
  exact readServer_of_isLetters letters port segments

/-- The two schemes that are used for joining. -/
theorem splitScheme?_of_secure {scheme : String} (secure : scheme = "ws" ∨ scheme = "wss") :
    (Exists fun port => Family.ofScheme scheme = .server port) ∧
      (forall c, c ∈ scheme.toList -> 0x20 < c.toNat) ∧
      forall rest, splitScheme? (scheme.toList ++ ':' :: rest) = some (scheme, rest) := by
  rcases secure with rfl | rfl
  · exact ⟨⟨80, rfl⟩, by simp, fun _ => rfl⟩
  · exact ⟨⟨443, rfl⟩, by simp, fun _ => rfl⟩

/-- An address of a server with nothing but a host and a path. -/
theorem read_of_isLetters {scheme : String} (secure : scheme = "ws" ∨ scheme = "wss")
    (letters : IsLetters host) {segments : List (List Char)}
    (plain : forall segment, segment ∈ segments -> IsSegment segment) :
    read (scheme ++ "://" ++ String.ofList (host ++ slashed segments)) =
      .ok ⟨scheme, .server [] (.name host) none, none⟩ := by
  rcases splitScheme?_of_secure secure with ⟨⟨port, family⟩, schemePrinted, splits⟩
  have written : (scheme ++ "://" ++ String.ofList (host ++ slashed segments)).toList =
      scheme.toList ++ ':' :: '/' :: '/' :: (host ++ slashed segments) := by
    simp
  have printed : forall c, c ∈ scheme.toList ++ ':' :: '/' :: '/' :: (host ++ slashed segments) ->
      0x20 < c.toNat := by
    have behind : forall c, c ∈ host ++ slashed segments -> 0x20 < c.toNat := by
      intro c member
      rcases mem_host_slashed letters plain member with rfl | letterOrDigit
      · decide
      · exact (printed_of_letterOrDigit letterOrDigit).1
    simp only [List.forall_mem_append, List.forall_mem_cons]
    exact ⟨schemePrinted, by decide, by decide, by decide, List.forall_mem_append.mp behind⟩
  have reached : ('/' :: '/' :: (host ++ slashed segments)).dropWhile
      (Family.server port).isSlash = host ++ slashed segments := by
    have skipped : (Family.server port).isSlash '/' = true := rfl
    rw [List.dropWhile_cons_of_pos skipped, List.dropWhile_cons_of_pos skipped]
    rcases List.exists_cons_of_ne_nil letters.1 with ⟨c, rest, rfl⟩
    have sign := ne_sign (Or.inl (letters.2 c List.mem_cons_self))
    exact List.dropWhile_cons_of_neg (by simp [Family.isSlash, sign])
  have whole : fragmentOf (slashed segments) = none := by
    have signless : forall c, c ∈ slashed segments -> (decide (c ≠ '#')) = true := by
      rintro c member
      apply decide_eq_true
      rintro rfl
      exact not_mem_host_slashed letters plain (by decide) (List.mem_append_right host member)
    have gone : (slashed segments).dropWhile (· ≠ '#') = [] :=
      List.dropWhile_eq_nil_iff.mpr signless
    rw [fragmentOf, gone]
  rw [read, written, cleaned_eq_self printed, splits]
  dsimp only
  rw [family]
  dsimp only
  rw [reached, readAuthority_of_isLetters letters port plain]
  change Except.ok (Address.mk scheme _ (fragmentOf (slashed segments))) = _
  rw [whole]

/-! ## The path -/

theorem points?_of_isSegment {segment : List Char} (plain : IsSegment segment) :
    Path.points? segment = none := by
  rcases List.exists_cons_of_ne_nil plain.1 with ⟨c, rest, rfl⟩
  have sign := ne_sign (plain.2 c List.mem_cons_self)
  have point := sign '.' (by decide)
  have percent := sign '%' (by decide)
  unfold Path.points?
  split
  · next empty => cases empty
  · next same => exact absurd (List.cons.inj same).1 point
  · next same => exact absurd (List.cons.inj same).1 percent
  · rfl

theorem encode_of_isSegment {segment : List Char} (plain : IsSegment segment) :
    Percent.encode Percent.path segment = segment := by
  apply Percent.encode_eq_self
  intro c member
  have bounds := printed_of_letterOrDigit (plain.2 c member)
  have printed : Percent.controls c = false := by
    simp only [Percent.controls, Bool.or_eq_false_iff, decide_eq_false_iff_not]
    omega
  simp [Percent.path, Percent.fragment, printed, ne_sign (plain.2 c member)]

theorem splitOnP_slashed (port : Nat) {first : List Char} {others : List (List Char)}
    (plain : forall segment, segment ∈ first :: others -> IsSegment segment) :
    (first ++ slashed others).splitOnP (Family.server port).isSlash = first :: others := by
  have unslashed : forall segment, segment ∈ first :: others ->
      forall c, c ∈ segment -> (Family.server port).isSlash c = false := by
    intro segment member c inside
    have sign := ne_sign ((plain segment member).2 c inside)
    simp [Family.isSlash, sign]
  clear plain
  induction others generalizing first with
  | nil =>
      rw [slashed, List.flatMap_nil, List.append_nil]
      exact List.splitOnP_eq_singleton (unslashed first List.mem_cons_self)
  | cons second more inductionHypothesis =>
      have parts := List.forall_mem_cons.mp unslashed
      rw [slashed, List.flatMap_cons, List.cons_append,
        List.splitOnP_append_cons_of_forall_mem parts.1 '/' rfl]
      exact congrArg (first :: ·) (inductionHypothesis parts.2)

/-- A segment that stands for itself is added as it is. -/
theorem add_of_isSegment (port : Nat) (trail : Path.Trail) {segment : List Char}
    (plain : IsSegment segment) :
    Path.add (.server port) trail segment =
      ({ trail with reversed := segment.reverse ++ trail.reversed }, true) := by
  rw [Path.add, points?_of_isSegment plain]
  rfl

/-- Segments that stand for themselves are added with a slash between them. -/
theorem addAll_of_isSegment (port : Nat) (trail : Path.Trail) {first : List Char}
    {others : List (List Char)}
    (plain : forall segment, segment ∈ first :: others -> IsSegment segment) :
    (Path.addAll (.server port) trail (first :: others)).reversed.reverse =
      trail.reversed.reverse ++ first ++ slashed others := by
  induction others generalizing first trail with
  | nil =>
      rw [Path.addAll, add_of_isSegment port trail (plain first List.mem_cons_self)]
      simp [slashed]
  | cons second more inductionHypothesis =>
      have parts := List.forall_mem_cons.mp plain
      rw [Path.addAll, add_of_isSegment port trail parts.1]
      · dsimp only
        rw [if_pos rfl, inductionHypothesis _ parts.2]
        simp [slashed]
      · exact List.cons_ne_nil second more

/-- A path of small letters and digits is written as it is. -/
theorem pathText_of_isSegment (address : Address) {port : Nat}
    (family : Family.ofScheme address.scheme = .server port) (led : address.site ≠ .flat)
    {segments : List (List Char)} (filled : segments ≠ [])
    (plain : forall segment, segment ∈ segments -> IsSegment segment) :
    address.pathText (slashed segments) = slashed segments := by
  rcases List.exists_cons_of_ne_nil filled with ⟨first, others, rfl⟩
  have kept : (slashed (first :: others)).filter (!isIgnored ·) = slashed (first :: others) := by
    apply filter_isIgnored_eq_self
    intro c member
    rcases mem_slashed plain member with rfl | letterOrDigit
    · decide
    · exact (printed_of_letterOrDigit letterOrDigit).1
  have encoded : (first :: others).map (Percent.encode Percent.path) = first :: others := by
    rw [List.map_congr_left fun segment member => encode_of_isSegment (plain segment member),
      List.map_id']
  have read : (Path.read (.server port) (slashed (first :: others))).reversed.reverse =
      slashed (first :: others) := by
    have split : (Path.dropSlash (.server port) (slashed (first :: others))).splitOnP
        (Family.server port).isSlash = first :: others :=
      splitOnP_slashed port plain
    rw [Path.read, if_neg (by simp [Family.isKnown]), split, encoded,
      addAll_of_isSegment port _ plain]
    rfl
  unfold pathText
  rw [family, kept]
  dsimp only
  split
  · next flat => exact absurd flat led
  · simp only [reduceCtorEq, decide_false, Bool.false_and, Bool.false_eq_true, if_false]
    rw [Path.settle, if_neg (by simp), read]

end Address
end CardTable
