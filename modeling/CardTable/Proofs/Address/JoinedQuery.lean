import CardTable.Proofs.Address.PlainParts
import CardTable.Proofs.Steps
import Mathlib.Data.List.TakeWhile

namespace CardTable

/-!
# Joined addresses

An address that is joined with a path and a query has the query that it was
joined with.  Nothing that was read or configured can change that: the query of
the address is not kept, and no other part can bring in the mark with which a
query or a fragment begins.

The parts of a written address are taken from it by its marks alone, in the way
in which whoever receives it tells them apart.
-/

namespace Address

/-- The scheme of a written address: what stands before the first colon. -/
def schemeOf (url : String) : String :=
  String.ofList (url.toList.takeWhile (· ≠ ':'))

/-- The query of a written address: what stands behind the first question mark
before the fragment. -/
def queryOf? (url : String) : Option String :=
  match (url.toList.takeWhile (· ≠ '#')).dropWhile (· ≠ '?') with
  | [] => none
  | _ :: query => some (String.ofList query)

/-! ## The place that an address leads to -/

theorem isPlain_credentials (text : List Char) : IsPlain (credentials text) := by
  unfold credentials
  dsimp only
  apply IsPlain.append_iff.mpr
  constructor
  · split
    · exact Percent.isPlain_encode_userinfo _
    · simp [Percent.isPlain_encode_userinfo]
  · split
    · exact IsPlain.nil
    · decide

namespace Site

/-- A server that is written without marks. -/
def IsPlainServer (site : Site) : Prop :=
  Exists fun sign => Exists fun host : Host => Exists fun port =>
    site = server sign host port ∧ IsPlain sign ∧ IsPlain host.text

theorem isPlainServer {sign : List Char} {host : Host} (port : Option Nat)
    (signPlain : IsPlain sign) (hostPlain : IsPlain host.text) :
    (server sign host port).IsPlainServer :=
  ⟨sign, host, port, rfl, signPlain, hostPlain⟩

theorem IsPlainServer.isPlain_text {site : Site} (plain : site.IsPlainServer) :
    IsPlain site.text := by
  rcases plain with ⟨sign, host, port, rfl, signPlain, hostPlain⟩
  cases port with
  | none => simp [text, signPlain, hostPlain]
  | some port => simp [text, signPlain, hostPlain, isPlain_decimal]

/-- The name that stands for no host. -/
theorem isPlainServer_local : (server [] (.name []) none).IsPlainServer :=
  isPlainServer none IsPlain.nil IsPlain.nil

end Site

theorem readServer_isPlainServer {family : Family} {sign text rest : List Char} {site : Site}
    (plain : IsPlain sign) (accepted : readServer family sign text = .ok (site, rest)) :
    site.IsPlainServer := by
  unfold readServer at accepted
  simp only [bind, Except.bind, pure, Except.pure] at accepted
  split at accepted
  · cases accepted
  · split at accepted
    all_goals
      split at accepted
      · cases accepted
      · next host read =>
        have hostPlain : IsPlain host.text := by
          first
          | exact Host.isPlain_readDomain read
          | exact Host.isPlain_readFree read
        split at accepted
        · cases accepted
        · split at accepted
          · split at accepted
            · cases accepted
            · cases accepted
              exact Site.isPlainServer _ plain hostPlain
          · cases accepted
            exact Site.isPlainServer none plain hostPlain

theorem readAuthority_isPlainServer {family : Family} {text rest : List Char} {site : Site}
    (accepted : readAuthority family text = .ok (site, rest)) : site.IsPlainServer := by
  unfold readAuthority at accepted
  split at accepted
  · exact readServer_isPlainServer IsPlain.nil accepted
  · split at accepted
    · cases accepted
    · exact readServer_isPlainServer (isPlain_credentials _) accepted

theorem readFileHost_isPlainServer {text : List Char} {site : Site}
    (accepted : readFileHost text = .ok site) : site.IsPlainServer := by
  unfold readFileHost at accepted
  dsimp only at accepted
  split at accepted
  · cases accepted
    exact Site.isPlainServer_local
  · rcases bind_ok_iff.mp accepted with ⟨host, read, accepted⟩
    split at accepted
    · cases accepted
      exact Site.isPlainServer_local
    · cases accepted
      exact Site.isPlainServer none IsPlain.nil (Host.isPlain_readDomain read)

theorem readFile_isPlainServer {text : List Char} {site : Site}
    (accepted : readFile text = .ok site) : site.IsPlainServer := by
  unfold readFile at accepted
  split at accepted
  · split at accepted
    · exact readFileHost_isPlainServer accepted
    · cases accepted
      exact Site.isPlainServer_local
  · cases accepted
    exact Site.isPlainServer_local

/-! ## Addresses that were read -/

/-- Lower case makes no mark of a scheme, for only capital letters change. -/
theorem ne_marks_of_isSchemeCharacter {c : Char} (accepted : isSchemeCharacter c = true) :
    c.toLower ≠ ':' ∧ c.toLower ≠ '?' ∧ c.toLower ≠ '#' := by
  by_cases capital : c.val ≥ 'A'.val ∧ c.val ≤ 'Z'.val
  · have each : forall code, code < 91 -> isSchemeCharacter (Char.ofNat code) = true ->
        (Char.ofNat code).toLower ≠ ':' ∧ (Char.ofNat code).toLower ≠ '?' ∧
          (Char.ofNat code).toLower ≠ '#' := by
      decide
    have below : c.toNat < 91 := Nat.lt_succ_of_le (UInt32.le_iff_toNat_le.mp capital.2)
    have result := each c.toNat below
    rw [Char.ofNat_toNat] at result
    exact result accepted
  · have same : c.toLower = c := by
      unfold Char.toLower
      exact dif_neg capital
    rw [same]
    refine ⟨?_, ?_, ?_⟩
    all_goals
      rintro rfl
      cases accepted

theorem scheme_of_splitScheme? {text rest : List Char} {scheme : String}
    (split : splitScheme? text = some (scheme, rest)) :
    forall c, c ∈ scheme.toList -> c ≠ ':' ∧ c ≠ '?' ∧ c ≠ '#' := by
  unfold splitScheme? at split
  split at split
  · split at split
    · cases split
      intro c member
      rw [String.toList_ofList] at member
      rcases List.mem_map.mp member with ⟨source, inside, rfl⟩
      exact ne_marks_of_isSchemeCharacter (List.mem_takeWhile_imp inside)
    · cases split
  · cases split

/-- A known scheme leads to a server.  Any other may lead to a path or a text. -/
theorem read_cases {text : String} {address : Address} (accepted : read text = .ok address) :
    (forall c, c ∈ address.scheme.toList -> c ≠ ':' ∧ c ≠ '?' ∧ c ≠ '#') ∧
    (address.site.IsPlainServer ∨
      Family.ofScheme address.scheme = .other ∧
        ((Exists fun shielded => address.site = .rooted shielded) ∨ address.site = .flat)) := by
  unfold read at accepted
  split at accepted
  · cases accepted
  · next scheme rest split =>
    have unmarked := scheme_of_splitScheme? split
    split at accepted
    · rcases bind_ok_iff.mp accepted with ⟨⟨site, after⟩, reached, accepted⟩
      cases accepted
      exact ⟨unmarked, Or.inl (readAuthority_isPlainServer reached)⟩
    · rcases bind_ok_iff.mp accepted with ⟨site, reached, accepted⟩
      cases accepted
      exact ⟨unmarked, Or.inl (readFile_isPlainServer reached)⟩
    · next other =>
      split at accepted
      · rcases bind_ok_iff.mp accepted with ⟨⟨site, after⟩, reached, accepted⟩
        cases accepted
        exact ⟨unmarked, Or.inl (readAuthority_isPlainServer reached)⟩
      · cases accepted
        refine ⟨unmarked, Or.inr ⟨other, ?_⟩⟩
        change (Exists fun shielded => serverless rest = .rooted shielded) ∨ serverless rest = .flat
        unfold serverless
        split
        · exact Or.inl ⟨_, rfl⟩
        · exact Or.inr rfl

theorem isPlain_site {text : String} {address : Address} (accepted : read text = .ok address) :
    IsPlain address.site.text := by
  rcases (read_cases accepted).2 with server | ⟨_, ⟨shielded, rooted⟩ | flat⟩
  · exact server.isPlain_text
  · rw [rooted]
    cases shielded <;> decide
  · rw [flat]
    exact IsPlain.nil

/-- A known scheme leads to a server. -/
theorem site_ne_flat {text : String} {address : Address} (accepted : read text = .ok address)
    (known : Family.ofScheme address.scheme ≠ .other) : address.site ≠ .flat := by
  rcases (read_cases accepted).2 with ⟨sign, host, port, server, _⟩ | ⟨other, _⟩
  · rw [server]
    exact Site.noConfusion
  · exact absurd other known

/-! ## Joining -/

theorem isPlain_formQuery (pairs : List (String × String)) : IsPlain (formQuery pairs).toList := by
  rw [formQuery, String.toList_intercalate]
  apply IsPlain.intercalate (by decide)
  intro piece member
  rw [List.map_map] at member
  rcases List.mem_map.mp member with ⟨⟨name, value⟩, _, rfl⟩
  simp [Percent.isPlain_encodeForm]

theorem isPlain_pathText {address : Address} (led : address.site ≠ .flat) (path : List Char) :
    IsPlain (address.pathText path) := by
  unfold pathText
  dsimp only
  split
  · next flat => exact absurd flat led
  · split
    · exact IsPlain.nil
    · split
      · exact Path.isPlain_settle _ (IsPlain.reverse_iff.mpr
          (Path.isPlain_addAll _ IsPlain.nil (Path.isPlain_encoded_segments rfl)))
      · exact Path.isPlain_settle _ (IsPlain.reverse_iff.mpr (Path.isPlain_read _ _))

/-- A joined address keeps its scheme. -/
theorem schemeOf_join {text : String} {address : Address} (accepted : read text = .ok address)
    (path query : String) : schemeOf (address.join path query) = address.scheme := by
  have inside : forall c, c ∈ address.scheme.toList -> decide (c ≠ ':') = true :=
    fun c member => decide_eq_true ((read_cases accepted).1 c member).1
  rw [schemeOf, join, String.toList_ofList]
  simp only [List.append_assoc, List.cons_append]
  rw [List.takeWhile_append_of_pos inside, List.takeWhile_cons_of_neg (by decide),
    List.append_nil, String.ofList_toList]

/-- A joined address has the query that it was joined with, and no other. -/
theorem queryOf?_join {text : String} {address : Address} (accepted : read text = .ok address)
    (led : address.site ≠ .flat) (path : String) {query : String} (unmarked : '#' ∉ query.toList) :
    queryOf? (address.join path query) = some query := by
  have scheme : IsPlain address.scheme.toList :=
    fun c member => ((read_cases accepted).1 c member).2
  let front := address.scheme.toList ++ ':' :: address.site.text ++ address.pathText path.toList
  have plain : IsPlain front := by
    simp [front, scheme, isPlain_site accepted, isPlain_pathText led]
  have inside : forall c, c ∈ front ++ '?' :: query.toList -> decide (c ≠ '#') = true := by
    intro c member
    apply decide_eq_true
    rcases List.mem_append.mp member with before | behind
    · exact (plain c before).2
    · rintro rfl
      rcases List.mem_cons.mp behind with mark | among
      · cases mark
      · exact unmarked among
  have before : forall c, c ∈ front -> decide (c ≠ '?') = true :=
    fun c member => decide_eq_true (plain c member).1
  have kept : (address.join path query).toList.takeWhile (· ≠ '#') =
      front ++ '?' :: query.toList := by
    rw [join, String.toList_ofList]
    change (front ++ '?' :: query.toList ++ _).takeWhile _ = _
    rw [List.takeWhile_append_of_pos inside]
    cases address.fragment <;> simp
  rw [queryOf?, kept, List.dropWhile_append_of_pos before, List.dropWhile_cons_of_neg (by decide)]
  exact congrArg some (String.ofList_toList)

end Address
end CardTable
