import CardTable.Address
import CardTable.Identity

namespace CardTable

/-!
# The configuration

A configuration says which server to join, with which queue, and who plays
where.  It is judged as a whole before anything is done with it: version first,
then the server, then the names.
-/

structure ServerSettings where
  url : String := "ws://127.0.0.1:8081"
  joinPath : String := "/join"
  outboundQueue : Nat := 64
  deriving DecidableEq, Repr

/-- Who plays where, as the configuration has it. -/
structure PlayerSettings where
  name : String
  room : String
  deriving DecidableEq, Repr

structure Config where
  version : Nat
  server : ServerSettings := {}
  player : PlayerSettings
  deriving DecidableEq, Repr

namespace ServerSettings

def address (settings : ServerSettings) : Except Error Address :=
  match Address.read settings.url with
  | .ok address => .ok address
  | .error fault => .error (.invalidConfig s!"server.url: {fault.message}")

/-- Judge the settings: scheme, path and queue, in this order. -/
def validate (settings : ServerSettings) : Except Error Unit := do
  let address ← settings.address
  if address.scheme ≠ "ws" && address.scheme ≠ "wss" then
    .error (.invalidConfig "server.url must use ws:// or wss://")
  else if settings.joinPath.toList.head? ≠ some '/' then
    .error (.invalidConfig "server.join_path must start with '/'")
  else if settings.outboundQueue < 1 || 4096 < settings.outboundQueue then
    .error (.invalidConfig "server.outbound_queue must be between 1 and 4096")
  else .ok ()

/-- The query that joins a room. -/
def joinQuery (identity : Identity) : String :=
  Address.formQuery [("player_name", identity.player), ("room_name", identity.room)]

/-- The address that joins the room of an identity. -/
def joinUrl (settings : ServerSettings) (identity : Identity) : Except Error String := do
  let address ← settings.address
  return address.join settings.joinPath (joinQuery identity)

end ServerSettings

namespace Config

def identity (config : Config) : Except Error Identity :=
  Identity.create config.player.name config.player.room

def validate (config : Config) : Except Error Unit := do
  if config.version ≠ 1 then .error .unsupportedVersion
  config.server.validate
  let _ ← config.identity
  return ()

end Config
end CardTable
