import SocialMigration.Config
import SocialMigration.FileTree.Basic
import SocialMigration.Failure
import SocialMigration.Settings.Literal

/-!
# Loading a configuration

A configuration is read from the environment, after the assignments of a settings file, if there is
one, have been added to it. How the text of such a file is read, and what of it counts, is left to a
library, which may refuse it. The first setting that cannot be used ends the loading; the network is
looked at first and the numbers in a fixed order.
-/

namespace SocialMigration

namespace Settings

/-- Variables and their values; the first occurrence of a name counts. -/
abbrev Environment := List (Text × Text)

/-- What a library makes of the text of a settings file: the environment with its assignments, or
why that cannot be had. -/
abbrev Merge := Environment → Text → Except Fault Environment

/-- The known networks and the addresses of their nodes. -/
def networks : List (Text × Text) :=
  [("mainnet", "https://rpc.mainnet.near.org"), ("testnet", "https://rpc.testnet.near.org")]

/-- The value of a setting, or its standard. -/
def valueOr (environment : Environment) (setting standard : Text) : Text :=
  (environment.lookup setting).getD standard

/-- The value of a setting without the blanks around it; nothing if it is not set. -/
def trimmedValue (environment : Environment) (setting : Text) : Text :=
  (valueOr environment setting []).trim

/-- The integer that a setting holds. -/
def integerOr (environment : Environment) (setting : String) (standard : Int) :
    Except Fault Int :=
  let raw := (valueOr environment (Text.ofString setting) (Text.ofInt standard)).trim
  match integer? raw with
  | some value => .ok value
  | none => .error (.notAnInteger (Text.ofString setting) raw)

/-- The truth value that a setting holds. -/
def truthOr (environment : Environment) (setting : String) (standard : Bool) : Bool :=
  match environment.lookup (Text.ofString setting) with
  | some value => isTrue value
  | none => standard

/-- The network that is set, and the address of its node. -/
def network (environment : Environment) : Except Fault (Text × Text) :=
  let name := (valueOr environment "NEAR_NETWORK" "mainnet").trim.toLowerCase
  match networks.lookup name with
  | some url => .ok (name, url)
  | none => .error (.unknownNetwork (networks.map (·.1)) name)

/-- A text unless it is empty, and then another one. -/
def orElse (text other : Text) : Text :=
  if text.isEmpty then other else text

/-- The configuration that an environment holds. Only the contract's own account may call the
methods that write, so it signs unless another signer is set. -/
def ofEnvironment (environment : Environment) : Except Fault Config := do
  let (network, presetUrl) ← network environment
  let pageSize ← integerOr environment "FETCH_PAGE_SIZE" 50
  let chunkSize ← integerOr environment "COMMIT_CHUNK_SIZE" 20
  let gas ← integerOr environment "GAS_BUDGET" Gas.standard
  let concurrency ← integerOr environment "MAX_CONCURRENT_FETCHES" 8
  let timeout ← integerOr environment "REQUEST_TIMEOUT" 30
  let nodesStart ← integerOr environment "NODES_START_INDEX" 0
  let accountsStart ← integerOr environment "ACCOUNTS_START_INDEX" 0
  let retentionDays ← integerOr environment "OUTPUT_RETENTION_DAYS" 30
  let destination := trimmedValue environment "DESTINATION_ACCOUNT_ID"
  return {
    network
    rpcUrl := orElse (valueOr environment "NEAR_RPC_URL" []) presetUrl
    source := trimmedValue environment "SOURCE_ACCOUNT_ID"
    destination
    signer := orElse (trimmedValue environment "SIGNER_ACCOUNT_ID") destination
    program := valueOr environment "NEAR_CLI_BIN" "near"
    pageSize, chunkSize, gas, concurrency, timeout, nodesStart, accountsStart
    dryRun := truthOr environment "DRY_RUN" false
    debug := truthOr environment "DEBUG" false
    outputFolder := valueOr environment "OUTPUT_DIR" "./output"
    retentionDays
    saveResults := truthOr environment "SAVE_RESULTS" true }

/-- Whether a settings file is there, which a path that is too long leaves open. -/
def isThere (tree : FileTree) (path : Text) : Except FileTree.Fault Bool :=
  match tree.locate .target path with
  | .ok (.taken ..) => .ok true
  | .error .nameTooLong => .error ⟨.nameTooLong, path⟩
  | _ => .ok false

/-- A path without the parts that lead nowhere. -/
def tidied (path : Text) : Text :=
  let names := Text.join "/" (FileTree.pathNames path)
  if FileTree.isAbsolute path then [0x2F] ++ names else if names.isEmpty then [0x2E] else names

/-- The environment with the assignments of a settings file, and the line that tells whether there
was one. A directory in its place counts as a file without assignments. -/
def environmentWith (merge : Merge) (tree : FileTree) (environment : Environment) (path : Text) :
    Except Failure (Environment × Text) :=
  match isThere tree (tidied path) with
  | .error fault => .error (.file fault)
  | .ok false =>
    .ok (environment, "Warning: " ++ path ++ " not found, using defaults/environment")
  | .ok true =>
    match merge environment ((tree.content? (tidied path)).getD []) with
    | .error fault => .error (.setting fault)
    | .ok environment => .ok (environment, "Loaded configuration from: " ++ path)

/-- Loads a configuration, from a settings file too unless its path is empty. The lines that are
printed meanwhile come with the outcome. -/
def load (merge : Merge) (tree : FileTree) (environment : Environment) (path : Text) :
    List Text × Except Failure Config :=
  if path.isEmpty then ([], (ofEnvironment environment).mapError .setting)
  else
    match environmentWith merge tree environment path with
    | .error failure => ([], .error failure)
    | .ok (environment, line) => ([line], (ofEnvironment environment).mapError .setting)

end Settings

end SocialMigration
