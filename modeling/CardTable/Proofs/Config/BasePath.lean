import CardTable.Proofs.Address.LetterHost
import CardTable.Proofs.Config.Accepted

namespace CardTable

/-!
# The path of a server address when a room is joined

An address of a server may have a path of its own, and the join path is meant to
follow it.  Joining sets the path, though, and what was there is gone.  The address
that joins a room is therefore the configured one, the join path and the query if
and only if the configured one has no path.
-/

namespace ServerSettings

/-- A server that is addressed by a host of small letters and a path, with a join
path that is not empty.  The segments of both are small letters and digits. -/
structure LetterServer where
  scheme : String
  host : List Char
  base : List (List Char)
  path : List (List Char)
  queue : Nat
  secure : scheme = "ws" ∨ scheme = "wss"
  host_letters : Address.IsLetters host
  base_segments : forall segment, segment ∈ base -> Address.IsSegment segment
  path_filled : path ≠ []
  path_segments : forall segment, segment ∈ path -> Address.IsSegment segment

namespace LetterServer

/-- The address of the server without its path. -/
def root (server : LetterServer) : String :=
  server.scheme ++ "://" ++ String.ofList server.host

/-- The settings in which the server is configured. -/
def settings (server : LetterServer) : ServerSettings where
  url := server.root ++ String.ofList (Address.slashed server.base)
  joinPath := String.ofList (Address.slashed server.path)
  outboundQueue := server.queue

theorem address_settings (server : LetterServer) :
    server.settings.address = .ok ⟨server.scheme, .server [] (.name server.host) none, none⟩ := by
  have written : server.settings.url = server.scheme ++ "://" ++
      String.ofList (server.host ++ Address.slashed server.base) := by
    simp only [settings, root, String.ofList_append, String.append_assoc]
  rw [address, written,
    Address.read_of_isLetters server.secure server.host_letters server.base_segments]

theorem validate_settings_iff (server : LetterServer) :
    server.settings.validate = .ok () ↔ 1 ≤ server.queue ∧ server.queue ≤ 4096 := by
  have rooted : server.settings.joinPath.toList.head? = some '/' := by
    rcases List.exists_cons_of_ne_nil server.path_filled with ⟨first, others, path⟩
    rw [settings, String.toList_ofList, path]
    rfl
  rw [validate_ok_iff]
  constructor
  · rintro ⟨_, _, _, _, bounded⟩
    exact bounded
  · intro bounded
    exact ⟨_, server.address_settings, server.secure, rooted, bounded⟩

/-- The path of the server has no part in the address that joins a room. -/
theorem joinUrl_settings (server : LetterServer) {player room : String} {identity : Identity}
    (accepted : Identity.create player room = .ok identity) :
    server.settings.joinUrl identity =
      .ok (server.root ++ server.settings.joinPath ++ "?player_name=" ++ identity.player ++
        "&room_name=" ++ identity.room) := by
  rcases (Address.splitScheme?_of_secure server.secure).1 with ⟨port, family⟩
  have path : server.settings.joinPath.toList = Address.slashed server.path :=
    String.toList_ofList
  have kept := Address.pathText_of_isSegment
    ⟨server.scheme, .server [] (.name server.host) none, none⟩ family
    Address.Site.noConfusion server.path_filled server.path_segments
  rw [joinUrl, server.address_settings, joinQuery_of_create accepted]
  apply congrArg Except.ok
  rw [Address.join, path, kept]
  apply String.toList_inj.mp
  simp [root, path, Address.Site.text, Address.Host.text]

end LetterServer

/-- Joining drops the path of the server address.

For every server whose host is made of small letters and whose paths are made of
small letters and digits: the settings are valid whenever the queue is.  For every
identity, the address that joins its room is the configured one without its path,
the join path, and the two names as the query.  It is the configured address
followed by these exactly when the configured address has no path. -/
theorem joins_behind_url_iff (server : LetterServer) :
    (server.settings.validate = .ok () ↔ 1 ≤ server.queue ∧ server.queue ≤ 4096) ∧
    forall player room identity, Identity.create player room = .ok identity ->
      let query := "?player_name=" ++ identity.player ++ "&room_name=" ++ identity.room
      server.settings.joinUrl identity = .ok (server.root ++ server.settings.joinPath ++ query) ∧
      (server.settings.joinUrl identity =
          .ok (server.settings.url ++ server.settings.joinPath ++ query) ↔
        server.base = []) := by
  refine ⟨server.validate_settings_iff, fun player room identity accepted => ?_⟩
  intro query
  have joins : server.settings.joinUrl identity =
      .ok (server.root ++ server.settings.joinPath ++ query) := by
    rw [server.joinUrl_settings accepted]
    simp only [query, String.append_assoc]
  refine ⟨joins, ?_⟩
  rw [joins, Except.ok.injEq]
  constructor
  · intro same
    have lengths := congrArg (fun url => url.toList.length) same
    simp only [LetterServer.settings, String.toList_append, List.length_append,
      String.toList_ofList] at lengths
    have empty : Address.slashed server.base = [] := by
      rw [← List.length_eq_zero_iff]
      omega
    exact Address.slashed_eq_nil_iff.mp empty
  · intro rootless
    have unchanged : server.settings.url = server.root := by
      rw [LetterServer.settings, rootless]
      exact String.append_empty
    rw [unchanged]

/-- A server whose games are below its root. -/
def gamesServer : LetterServer where
  scheme := "ws"
  host := "table".toList
  base := ["games".toList]
  path := ["join".toList]
  queue := 64
  secure := Or.inl rfl
  host_letters := by decide +kernel
  base_segments := by decide +kernel
  path_filled := List.cons_ne_nil _ _
  path_segments := by decide +kernel

/-- The games have a queue of a valid length, and joining the lobby there leads to
an address without their path. -/
theorem joins_below_games :
    gamesServer.settings.validate = .ok () ∧
    Identity.create "pat" "lobby" = .ok ⟨"pat", "lobby"⟩ ∧
    gamesServer.settings.joinUrl ⟨"pat", "lobby"⟩ =
      .ok "ws://table/join?player_name=pat&room_name=lobby" ∧
    gamesServer.settings.joinUrl ⟨"pat", "lobby"⟩ ≠
      .ok "ws://table/games/join?player_name=pat&room_name=lobby" := by
  have accepted : Identity.create "pat" "lobby" = .ok ⟨"pat", "lobby"⟩ := by decide +kernel
  have valid := (joins_behind_url_iff gamesServer).1.mpr (by decide)
  have joins := (joins_behind_url_iff gamesServer).2 "pat" "lobby" _ accepted
  have below : gamesServer.base ≠ [] := List.cons_ne_nil _ _
  refine ⟨valid, accepted, joins.1.trans ?_, fun same => below (joins.2.mp (same.trans ?_))⟩
  · decide +kernel
  · decide +kernel

/-- The address that joins a room is not always the configured one, the join path
and the query. -/
theorem not_joins_behind_url :
    ¬ forall (server : LetterServer) (player room : String) (identity : Identity),
      Identity.create player room = .ok identity ->
        server.settings.joinUrl identity =
          .ok (server.settings.url ++ server.settings.joinPath ++ "?player_name=" ++
            identity.player ++ "&room_name=" ++ identity.room) := by
  intro each
  have accepted : Identity.create "pat" "lobby" = .ok ⟨"pat", "lobby"⟩ := by decide +kernel
  have appended := each gamesServer "pat" "lobby" _ accepted
  rw [gamesServer.joinUrl_settings accepted] at appended
  revert appended
  decide +kernel

end ServerSettings
end CardTable
