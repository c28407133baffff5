import CardTable.Config.Read
import CardTable.Proofs.Address.JoinedQuery
import CardTable.Proofs.Identity.Names

namespace CardTable

/-!
# Configurations that are accepted

A configuration is judged once, when it is read.  What the client starts with is
computed from the same fields again later: the identity from the two names, and
the address to join from the text of the address, which is read a second time.
Each of these succeeds for a configuration that was accepted.
-/

namespace ServerSettings

theorem address_error {settings : ServerSettings} {cause : Error}
    (refused : settings.address = .error cause) : cause.code = .invalidConfig := by
  unfold address at refused
  split at refused
  · cases refused
  · cases refused
    rfl

theorem read_of_address {settings : ServerSettings} {address : Address}
    (accepted : settings.address = .ok address) : Address.read settings.url = .ok address := by
  unfold ServerSettings.address at accepted
  split at accepted
  · next read =>
    cases accepted
    exact read
  · cases accepted

theorem validate_ok_iff {settings : ServerSettings} :
    settings.validate = .ok () ↔
      Exists fun address =>
        settings.address = .ok address ∧ (address.scheme = "ws" ∨ address.scheme = "wss") ∧
          settings.joinPath.toList.head? = some '/' ∧
          1 ≤ settings.outboundQueue ∧ settings.outboundQueue ≤ 4096 := by
  rw [validate, bind_ok_iff]
  apply exists_congr
  intro address
  apply and_congr_right
  intro _
  split
  · next foreign =>
    have insecure : ¬(address.scheme = "ws" ∨ address.scheme = "wss") := by simpa using foreign
    simp [insecure]
  · next familiar =>
    have secure : address.scheme = "ws" ∨ address.scheme = "wss" := by
      simpa [or_iff_not_imp_left] using familiar
    split
    · next unrooted => simp [unrooted]
    · next rooted =>
      rw [not_not] at rooted
      split
      · next outside =>
        have unbounded : ¬(1 ≤ settings.outboundQueue ∧ settings.outboundQueue ≤ 4096) := by
          simp only [Bool.or_eq_true, decide_eq_true_eq] at outside
          omega
        simp [unbounded]
      · next inside =>
        have bounded : 1 ≤ settings.outboundQueue ∧ settings.outboundQueue ≤ 4096 := by
          simp only [Bool.or_eq_true, decide_eq_true_eq] at inside
          omega
        exact iff_of_true rfl ⟨secure, rooted, bounded⟩

theorem validate_error {settings : ServerSettings} {cause : Error}
    (refused : settings.validate = .error cause) : cause.code = .invalidConfig := by
  rcases bind_error_iff.mp refused with unread | ⟨address, _, judged⟩
  · exact address_error unread
  · split at judged
    · cases judged
      rfl
    · split at judged
      · cases judged
        rfl
      · split at judged
        · cases judged
          rfl
        · cases judged

/-! ## The address that joins a room -/

/-- The names of an identity that was accepted need no encoding in a query. -/
theorem joinQuery_of_create {player room : String} {identity : Identity}
    (accepted : Identity.create player room = .ok identity) :
    joinQuery identity =
      "player_name=" ++ identity.player ++ "&room_name=" ++ identity.room := by
  rcases Identity.create_ok_iff.mp accepted with ⟨playerAccepted, roomAccepted, rfl⟩
  have written : forall c : Char, c.isAlphanum = true ∨ c = '-' ->
      Address.Percent.form c = false ∧ c ≠ ' ' := by
    rintro c (letter | rfl)
    · refine ⟨by simp [Address.Percent.form, letter], ?_⟩
      rintro rfl
      cases letter
    · decide
  have playerKept : Address.Percent.encodeForm (Text.lower player).toList =
      (Text.lower player).toList :=
    Address.Percent.encodeForm_eq_self fun c member =>
      written c (Or.inl (Identity.isAlphanum_of_mem playerAccepted c member))
  have roomKept : Address.Percent.encodeForm room.toList = room.toList :=
    Address.Percent.encodeForm_eq_self fun c member =>
      written c (Identity.isAlphanum_or_dash roomAccepted c member)
  have namesKept : Address.Percent.encodeForm "player_name".toList = "player_name".toList ∧
      Address.Percent.encodeForm "room_name".toList = "room_name".toList := by
    decide +kernel
  apply String.toList_inj.mp
  simp only [joinQuery, Address.formQuery, List.map_cons, List.map_nil, String.toList_intercalate,
    String.toList_ofList, playerKept, roomKept, namesKept.1, namesKept.2]
  simp [String.toList_append]

/-- Joining a room cannot fail for settings that were accepted, and nothing in
them gets into the query. -/
theorem joinUrl_of_validate {settings : ServerSettings} (valid : settings.validate = .ok ())
    {player room : String} {identity : Identity}
    (accepted : Identity.create player room = .ok identity) :
    Exists fun url =>
      settings.joinUrl identity = .ok url ∧
        (Address.schemeOf url = "ws" ∨ Address.schemeOf url = "wss") ∧
        Address.queryOf? url =
          some ("player_name=" ++ identity.player ++ "&room_name=" ++ identity.room) := by
  rcases validate_ok_iff.mp valid with ⟨address, accessible, secure, _⟩
  have read := read_of_address accessible
  have known : Address.Family.ofScheme address.scheme ≠ .other := by
    rcases secure with plain | encrypted
    · rw [plain]
      decide
    · rw [encrypted]
      decide
  have unmarked : '#' ∉ (joinQuery identity).toList :=
    fun member => (Address.isPlain_formQuery _ '#' member).2 rfl
  refine ⟨address.join settings.joinPath (joinQuery identity), ?_, ?_, ?_⟩
  · rw [joinUrl, accessible]
    rfl
  · rw [Address.schemeOf_join read]
    exact secure
  · rw [Address.queryOf?_join read (Address.site_ne_flat read known) _ unmarked,
      joinQuery_of_create accepted]

end ServerSettings

namespace Config

theorem validate_ok_iff {config : Config} :
    config.validate = .ok () ↔
      config.version = 1 ∧ config.server.validate = .ok () ∧
        Exists fun identity => config.identity = .ok identity := by
  unfold validate
  split
  · next other => simp [other, bind, Except.bind]
  · next version =>
    rw [not_not] at version
    constructor
    · intro valid
      rcases bind_ok_iff.mp valid with ⟨_, server, later⟩
      rcases bind_ok_iff.mp later with ⟨identity, names, _⟩
      exact ⟨version, server, identity, names⟩
    · rintro ⟨_, server, identity, names⟩
      exact bind_ok_iff.mpr ⟨(), server, bind_ok_iff.mpr ⟨identity, names, rfl⟩⟩

/-- The two ways to refuse a configuration: it is invalid, or for another
version. -/
def IsRefusal (cause : Error) : Prop :=
  cause.code = .invalidConfig ∨ cause.code = .unsupportedVersion

theorem validate_error {config : Config} {cause : Error}
    (refused : config.validate = .error cause) : IsRefusal cause := by
  unfold validate at refused
  split at refused
  · cases refused
    exact Or.inr rfl
  · rcases bind_error_iff.mp refused with server | ⟨_, _, later⟩
    · exact Or.inl (ServerSettings.validate_error server)
    · rcases bind_error_iff.mp later with names | ⟨_, _, never⟩
      · exact Or.inl (Identity.create_error names)
      · cases never

theorem read_ok_iff {text : String} {config : Config} :
    read text = .ok config ↔
      ofDocument (Yaml.Document.read text) = .ok config ∧ config.validate = .ok () := by
  simp only [read, bind_ok_iff, mapError_ok_iff]
  constructor
  · rintro ⟨judged, document, ⟨_, valid, same⟩⟩
    cases same
    exact ⟨document, valid⟩
  · rintro ⟨document, valid⟩
    exact ⟨config, document, (), valid, rfl⟩

theorem read_error {text : String} {cause : Error} (refused : read text = .error cause) :
    IsRefusal cause := by
  rcases bind_error_iff.mp refused with unread | ⟨config, _, judged⟩
  · rcases mapError_error_iff.mp unread with ⟨fault, _, rfl⟩
    exact Or.inl rfl
  · rcases bind_error_iff.mp judged with invalid | ⟨_, _, never⟩
    · exact validate_error invalid
    · cases never

theorem ofSource_error {path : String} {source : Source} {cause : Error}
    (refused : ofSource path source = .error cause) : IsRefusal cause := by
  unfold ofSource at refused
  split at refused
  · cases refused
    exact Or.inl rfl
  · split at refused
    · exact read_error refused
    · cases refused
      exact Or.inl rfl

/-- A file loads when it is the UTF-8 of a text that loads. -/
theorem ofSource_ok_iff {path : String} {source : Source} {config : Config} :
    ofSource path source = .ok config ↔
      Exists fun text => source = .bytes text.toUTF8 ∧ read text = .ok config := by
  constructor
  · intro loads
    unfold ofSource at loads
    split at loads
    · cases loads
    · split at loads
      · next bytes _ text decoded =>
        refine ⟨text, ?_, loads⟩
        unfold String.fromUTF8? at decoded
        split at decoded
        · cases decoded
          rfl
        · cases decoded
      · cases loads
  · rintro ⟨text, rfl, loads⟩
    have decoded : String.fromUTF8? text.toUTF8 = some text := by
      unfold String.fromUTF8?
      exact dif_pos text.isValidUTF8
    rw [ofSource, decoded]
    exact loads

/-- What the client starts with is there, and fit for its use. -/
structure Starts (config : Config) (identity : Identity) (url : String) : Prop where
  version : config.version = 1
  queue : 1 ≤ config.server.outboundQueue ∧ config.server.outboundQueue ≤ 4096
  named : config.identity = .ok identity
  joins : config.server.joinUrl identity = .ok url
  scheme : Address.schemeOf url = "ws" ∨ Address.schemeOf url = "wss"
  query : Address.queryOf? url =
    some ("player_name=" ++ identity.player ++ "&room_name=" ++ identity.room)

theorem starts_of_read {text : String} {config : Config} (loads : read text = .ok config) :
    Exists fun identity => Exists fun url => config.Starts identity url := by
  rcases validate_ok_iff.mp (read_ok_iff.mp loads).2 with ⟨version, server, identity, accepted⟩
  rcases ServerSettings.joinUrl_of_validate server accepted with ⟨url, joins, scheme, query⟩
  rcases ServerSettings.validate_ok_iff.mp server with ⟨_, _, _, _, queue⟩
  exact ⟨identity, url, version, queue, accepted, joins, scheme, query⟩

end Config
end CardTable
