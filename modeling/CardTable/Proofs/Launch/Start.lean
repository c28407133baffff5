import CardTable.Launch
import CardTable.Proofs.Config.Accepted

namespace CardTable
namespace Launch

/-!
# How the program starts

The program can only fail before it is connected.  A configuration that cannot
be used ends it in silence; with any other one it says what it joins, and then
it is the connection that fails.
-/

/-- The path of the configuration, for the arguments and the variable. -/
inductive Chooses : List String -> Option String -> String -> Prop where
  | argument (path : String) (more : List String) (configured : Option String) :
      Chooses (path :: more) configured path
  | configured (path : String) : Chooses [] (some path) path
  | standard : Chooses [] none "cardterm.yaml"

theorem configPath_eq_iff {arguments : List String} {configured : Option String} {path : String} :
    configPath arguments configured = path ↔ Chooses arguments configured path := by
  constructor
  · rintro rfl
    cases arguments with
    | cons first more => exact .argument first more configured
    | nil =>
        cases configured with
        | some value => exact .configured value
        | none => exact .standard
  · intro chooses
    cases chooses with
    | argument more configured => rfl
    | configured => rfl
    | standard => rfl

theorem planOf_of_starts {config : Config} {identity : Identity} {url : String}
    (starts : config.Starts identity url) :
    planOf config = .ok ⟨identity, url, config.server.outboundQueue⟩ :=
  bind_ok_iff.mpr ⟨identity, starts.named, bind_ok_iff.mpr ⟨url, starts.joins, rfl⟩⟩

theorem text_announcement (plan : Plan) :
    Terminal.text [plan.announcement] =
      "### Trying to join room " ++ plan.identity.room ++ " as player " ++ plan.identity.player ++
        "\n" := by
  apply String.toList_inj.mp
  simp [Terminal.text, Terminal.lines, Plan.announcement, Shown.status, String.join, toString]

section

variable {files : String -> Config.Source} {arguments : List String} {configured : Option String}
  {path : String} (detail : Plan -> String)

/-- What starting comes to for a configuration that is refused. -/
theorem unconnected_of_refused (chooses : Chooses arguments configured path) {cause : Error}
    (refused : Config.ofSource path (files path) = .error cause) :
    unconnected files detail arguments configured = { failure := some cause } := by
  have planned : plan path (files path) = .error cause := bind_error_iff.mpr (Or.inl refused)
  rw [unconnected, configPath_eq_iff.mpr chooses, planned]
  rfl

/-- What starting comes to for a configuration that loads. -/
theorem unconnected_of_loads (chooses : Chooses arguments configured path) {config : Config}
    (loads : Config.ofSource path (files path) = .ok config) {identity : Identity} {url : String}
    (starts : config.Starts identity url) :
    let plan : Plan := ⟨identity, url, config.server.outboundQueue⟩
    unconnected files detail arguments configured =
      { shown := [plan.announcement], failure := some (plan.unreachable (detail plan)) } := by
  intro ready
  have planned : plan path (files path) = .ok ready :=
    bind_ok_iff.mpr ⟨config, loads, planOf_of_starts starts⟩
  rw [unconnected, configPath_eq_iff.mpr chooses, planned]
  rfl

end

/-- A configuration that loads has everything that a start needs.  Among any
files, and for any arguments and any value of the variable, a start without a
connection fails: behind the one line that says what is joined if the chosen
file loads, and before any line if it does not. -/
theorem starts_when_loaded :
    (forall (text : String) (config : Config), Config.read text = .ok config ->
      Exists fun identity => Exists fun url => config.Starts identity url) ∧
    (forall (files : String -> Config.Source) (detail : Plan -> String) (arguments : List String)
      (configured : Option String) (path : String), Chooses arguments configured path ->
      let report := unconnected files detail arguments configured
      report.exitCode = 1 ∧
      (forall config, Config.ofSource path (files path) = .ok config ->
        Exists fun identity =>
          config.identity = .ok identity ∧
          Terminal.text report.shown =
            "### Trying to join room " ++ identity.room ++ " as player " ++ identity.player ++
              "\n" ∧
          Exists fun cause => report.failure = some cause ∧ cause.code.label = "INTERNAL") ∧
      ((forall config, Config.ofSource path (files path) ≠ .ok config) ->
        Terminal.text report.shown = "" ∧
        Exists fun cause =>
          report.failure = some cause ∧
            (cause.code.label = "INVALID_CONFIG" ∨ cause.code.label = "UNSUPPORTED_VERSION"))) := by
  refine ⟨fun text config => Config.starts_of_read, ?_⟩
  intro files detail arguments configured path chooses
  cases loaded : Config.ofSource path (files path) with
  | error cause =>
      rw [unconnected_of_refused detail chooses loaded]
      dsimp only
      refine ⟨rfl, ?_, fun _ => ⟨rfl, cause, rfl, ?_⟩⟩
      · intro config impossible
        cases impossible
      · rcases Config.ofSource_error loaded with invalid | unsupported
        · rw [invalid]
          exact Or.inl rfl
        · rw [unsupported]
          exact Or.inr rfl
  | ok config =>
      rcases Config.ofSource_ok_iff.mp loaded with ⟨text, _, read⟩
      rcases Config.starts_of_read read with ⟨identity, url, starts⟩
      rw [unconnected_of_loads detail chooses loaded starts]
      dsimp only
      refine ⟨rfl, ?_, fun never => absurd rfl (never config)⟩
      intro other same
      cases same
      exact ⟨identity, starts.named, text_announcement _, _, rfl, rfl⟩

/-! An address with a query and a fragment of its own, and a path that is full of
marks. -/

def crowdedText : String :=
  "version: 1\nserver:\n url: wss://T.io/a?room_name=b#c\n join_path: /?x=1&y#z%26\n" ++
    "player:\n name: Ada\n room: B-2\n"

def crowded : Config where
  version := 1
  server := { url := "wss://T.io/a?room_name=b#c", joinPath := "/?x=1&y#z%26" }
  player := ⟨"Ada", "B-2"⟩

theorem starts_from_crowded :
    Config.read crowdedText = .ok crowded ∧
    (Exists fun identity => Exists fun url => crowded.Starts identity url) ∧
    crowded.server.joinUrl ⟨"ada", "B-2"⟩ =
      .ok "wss://t.io/%3Fx=1&y%23z%26?player_name=ada&room_name=B-2#c" ∧
    Terminal.text (unconnected (fun _ => .bytes crowdedText.toUTF8) (fun _ => "refused")
      ["own.yaml"] (some "other.yaml")).shown =
      "### Trying to join room B-2 as player ada\n" := by
  have loads : Config.read crowdedText = .ok crowded := by decide +kernel
  have named : crowded.identity = .ok ⟨"ada", "B-2"⟩ := by decide +kernel
  have file : Config.ofSource "own.yaml" (.bytes crowdedText.toUTF8) = .ok crowded :=
    Config.ofSource_ok_iff.mpr ⟨crowdedText, rfl, loads⟩
  refine ⟨loads, starts_when_loaded.1 crowdedText crowded loads, by decide +kernel, ?_⟩
  rcases (starts_when_loaded.2 (fun _ => .bytes crowdedText.toUTF8) (fun _ => "refused")
    ["own.yaml"] (some "other.yaml") "own.yaml" (.argument _ _ _)).2.1 crowded file with
    ⟨identity, same, shown, _⟩
  cases named.symm.trans same
  exact shown

end Launch
end CardTable
