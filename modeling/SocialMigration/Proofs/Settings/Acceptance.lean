import SocialMigration.Proofs.Migration.Hint
import SocialMigration.Proofs.Settings.Environment
import SocialMigration.Proofs.Settings.Grammar

/-!
# Which settings are accepted

An environment holds a configuration exactly if its network is known and every setting that ought to
be an integer is written as one, or is not set. Otherwise the first setting that is not so is the
fault. A configuration carries the integers that its settings denote, so the decimal text of an
integer, such as a hint for resuming prints it, is loaded as that integer again.
-/

namespace SocialMigration

namespace Settings

open Migration (hintSettings hintSettings_setting hintSettings_settings hint_cases
  plain_nodesStart plain_accountsStart resume)

/-- A setting that holds an integer: its name, the integer unless it is set, which is short enough
to be written in a setting, and the parameter that it becomes. -/
structure IntegerSetting where
  name : String
  standard : Int
  field : Config → Int
  few : (Numeral.digits 10 standard.natAbs).length ≤ digitLimit := by decide

/-- The settings that hold integers, in the order in which they are looked at. -/
def integerSettings : List IntegerSetting :=
  [ { name := "FETCH_PAGE_SIZE", standard := 50, field := Config.pageSize },
    { name := "COMMIT_CHUNK_SIZE", standard := 20, field := Config.chunkSize },
    { name := "GAS_BUDGET", standard := Gas.standard, field := Config.gas },
    { name := "MAX_CONCURRENT_FETCHES", standard := 8, field := Config.concurrency },
    { name := "REQUEST_TIMEOUT", standard := 30, field := Config.timeout },
    { name := "NODES_START_INDEX", standard := 0, field := Config.nodesStart },
    { name := "ACCOUNTS_START_INDEX", standard := 0, field := Config.accountsStart },
    { name := "OUTPUT_RETENTION_DAYS", standard := 30, field := Config.retentionDays } ]

/-- Which integer an environment holds in a setting: the one that its value denotes, blanks around
it left out, and the standard if it has none. -/
inductive IntegerSetting.Holds (setting : IntegerSetting) (environment : Environment) :
    Int → Prop where
  | unset (absent : environment.lookup (Text.ofString setting.name) = none) :
      Holds setting environment setting.standard
  | set {text : Text} {value : Int}
      (found : environment.lookup (Text.ofString setting.name) = some text)
      (denotes : Denotes text.trim value) : Holds setting environment value

/-- The name of the network that an environment sets, in lower case and without blanks around it. -/
def networkName (environment : Environment) : Text :=
  (valueOr environment "NEAR_NETWORK" "mainnet").trim.toLowerCase

/-- The names of the known networks. -/
def networkNames : List Text :=
  networks.map Prod.fst

/-- Whether every setting of an environment can be read. -/
structure Readable (environment : Environment) : Prop where
  known : networkName environment ∈ networkNames
  integers : ∀ setting ∈ integerSettings, ∃ value, setting.Holds environment value

/-- The first thing that is wrong with an environment: its network, or a setting that is no integer
behind others that are. -/
inductive FirstFault (environment : Environment) : Fault → Prop where
  | network (unknown : networkName environment ∉ networkNames) :
      FirstFault environment (.unknownNetwork networkNames (networkName environment))
  | integer {front back : List IntegerSetting} {setting : IntegerSetting} {text : Text}
      (known : networkName environment ∈ networkNames)
      (order : integerSettings = front ++ setting :: back)
      (passed : ∀ other ∈ front, ∃ value, other.Holds environment value)
      (found : environment.lookup (Text.ofString setting.name) = some text)
      (strange : ∀ value, ¬Denotes text.trim value) :
      FirstFault environment (.notAnInteger (Text.ofString setting.name) text.trim)

variable {merge : Merge} {tree : FileTree} {environment environment' : Environment} {path : Text}
  {config : Config}
  {fault : Fault} {setting : IntegerSetting} {value other : Int}

/-! ## Integers -/

namespace IntegerSetting

/-- What is read of a setting. -/
def read (setting : IntegerSetting) (environment : Environment) : Except Fault Int :=
  integerOr environment setting.name setting.standard

theorem holds_iff_of_unset (absent : environment.lookup (Text.ofString setting.name) = none) :
    setting.Holds environment value ↔ value = setting.standard := by
  constructor
  · rintro (- | ⟨found, -⟩)
    · rfl
    · exact nomatch absent.symm.trans found
  · rintro rfl
    exact .unset absent

theorem holds_iff_of_set {text : Text}
    (found : environment.lookup (Text.ofString setting.name) = some text) :
    setting.Holds environment value ↔ Denotes text.trim value := by
  constructor
  · rintro (absent | ⟨found', denotes⟩)
    · exact nomatch found.symm.trans absent
    · cases found.symm.trans found'
      exact denotes
  · exact .set found

theorem read_of_unset (absent : environment.lookup (Text.ofString setting.name) = none) :
    setting.read environment = .ok setting.standard := by
  have denotes := denotes_ofInt setting.few
  have solid : (Text.ofInt setting.standard).trim = Text.ofInt setting.standard := by
    simpa using denotes.trim (List.forall_mem_nil _) (List.forall_mem_nil _)
  rw [read, integerOr, valueOr, absent, Option.getD_none, solid, integer?_eq_some_iff.mpr denotes]

theorem read_of_set {text : Text}
    (found : environment.lookup (Text.ofString setting.name) = some text) :
    setting.read environment =
      (integer? text.trim).elim (.error (.notAnInteger (Text.ofString setting.name) text.trim))
        .ok := by
  rw [read, integerOr, valueOr, found, Option.getD_some]
  cases integer? text.trim with
  | none => rfl
  | some value => rfl

theorem read_eq_ok_iff :
    setting.read environment = .ok value ↔ setting.Holds environment value := by
  cases found : environment.lookup (Text.ofString setting.name) with
  | none =>
      rw [read_of_unset found, holds_iff_of_unset found, Except.ok.injEq]
      exact eq_comm
  | some text =>
      rw [read_of_set found, holds_iff_of_set found, ← integer?_eq_some_iff]
      cases integer? text.trim <;> simp

theorem read_eq_error_iff :
    setting.read environment = .error fault ↔ ∃ text,
      environment.lookup (Text.ofString setting.name) = some text ∧
      (∀ value, ¬Denotes text.trim value) ∧
      fault = .notAnInteger (Text.ofString setting.name) text.trim := by
  cases found : environment.lookup (Text.ofString setting.name) with
  | none => simp [read_of_unset found]
  | some text =>
      simp only [read_of_set found, ← integer?_eq_some_iff, Option.some.injEq, exists_eq_left']
      cases integer? text.trim <;> simp [eq_comm]

theorem Holds.unique (holds : setting.Holds environment value)
    (holds' : setting.Holds environment other) : value = other :=
  Except.ok.inj ((read_eq_ok_iff.mpr holds).symm.trans (read_eq_ok_iff.mpr holds'))

/-- A setting holds the integer of which it has the decimal text, with any blanks around it. -/
theorem holds_decimal {before after : Text}
    (few : (Numeral.digits 10 value.natAbs).length ≤ digitLimit)
    (blank : ∀ c ∈ before, c.isBlank = true) (blank' : ∀ c ∈ after, c.isBlank = true)
    (found : environment.lookup (Text.ofString setting.name) =
      some (before ++ Text.ofInt value ++ after)) : setting.Holds environment value := by
  have denotes := denotes_ofInt few
  rwa [holds_iff_of_set found, denotes.trim blank blank']

end IntegerSetting

/-! ## Configurations -/

theorem network_eq (environment : Environment) :
    network environment = match networks.lookup (networkName environment) with
      | some url => .ok (networkName environment, url)
      | none => .error (.unknownNetwork networkNames (networkName environment)) := rfl

theorem network_of_known (known : networkName environment ∈ networkNames) :
    ∃ url, network environment = .ok (networkName environment, url) := by
  rw [network_eq]
  cases found : networks.lookup (networkName environment) with
  | none =>
      rcases List.mem_map.mp known with ⟨pair, listed, named⟩
      exact absurd (List.lookup_eq_none_iff.mp found pair listed) (by simp [named])
  | some url => exact ⟨url, rfl⟩

theorem network_of_unknown (unknown : networkName environment ∉ networkNames) :
    network environment = .error (.unknownNetwork networkNames (networkName environment)) := by
  rw [network_eq]
  cases found : networks.lookup (networkName environment) with
  | none => rfl
  | some url =>
      rcases List.lookup_eq_some_iff.mp found with ⟨front, back, split, -⟩
      exact absurd (List.mem_map.mpr ⟨_, split ▸ List.mem_append_right _ List.mem_cons_self, rfl⟩)
        unknown

/-- The integers that an environment holds, if its network is known. -/
def readings (environment : Environment) : Except Fault (List Int) :=
  network environment >>= fun _ => integerSettings.mapM (·.read environment)

theorem readings_eq_ok_iff {values : List Int} :
    readings environment = .ok values ↔ networkName environment ∈ networkNames ∧
      List.Forall₂ (fun setting value => setting.Holds environment value)
        integerSettings values := by
  by_cases known : networkName environment ∈ networkNames
  · rcases network_of_known known with ⟨url, found⟩
    simp only [readings, found, bind, Except.bind, mapM_eq_ok_iff, IntegerSetting.read_eq_ok_iff,
      known, true_and]
  · simp [readings, network_of_unknown known, known, bind, Except.bind]

theorem readings_eq_error_iff :
    readings environment = .error fault ↔ FirstFault environment fault := by
  by_cases known : networkName environment ∈ networkNames
  · rcases network_of_known known with ⟨url, found⟩
    simp only [readings, found, bind, Except.bind, mapM_eq_error_iff,
      IntegerSetting.read_eq_ok_iff, IntegerSetting.read_eq_error_iff]
    constructor
    · rintro ⟨front, setting, back, order, passed, text, found, strange, rfl⟩
      exact .integer known order passed found strange
    · rintro (unknown | ⟨-, order, passed, found, strange⟩)
      · exact absurd known unknown
      · exact ⟨_, _, _, order, passed, _, found, strange, rfl⟩
  · rw [readings, network_of_unknown known]
    constructor
    · rintro ⟨⟩
      exact .network known
    · rintro (- | ⟨known', -⟩)
      · rfl
      · exact absurd known' known

/-- The integers of a configuration are read behind its network, one after the other. -/
theorem map_ofEnvironment (environment : Environment) :
    (fun config : Config => integerSettings.map (·.field config)) <$> ofEnvironment environment =
      readings environment := by
  simp [ofEnvironment, readings, integerSettings, IntegerSetting.read]

theorem ofEnvironment_eq_error_iff :
    ofEnvironment environment = .error fault ↔ FirstFault environment fault := by
  rw [← readings_eq_error_iff, ← map_ofEnvironment]
  cases ofEnvironment environment <;> simp [Functor.map, Except.map]

/-- A configuration carries the integers that its environment holds. -/
theorem holds_of_ofEnvironment (held : ofEnvironment environment = .ok config) :
    networkName environment ∈ networkNames ∧
      ∀ setting ∈ integerSettings, setting.Holds environment (setting.field config) := by
  have read : readings environment = .ok (integerSettings.map (·.field config)) := by
    rw [← map_ofEnvironment, held]
    rfl
  rcases readings_eq_ok_iff.mp read with ⟨known, holds⟩
  rw [List.forall₂_map_right_iff, List.forall₂_same] at holds
  exact ⟨known, holds⟩

theorem FirstFault.not_readable (first : FirstFault environment fault) : ¬Readable environment := by
  rintro ⟨known, integers⟩
  rcases first with unknown | ⟨-, order, -, found, strange⟩
  · exact unknown known
  · rcases integers _ (order ▸ List.mem_append_right _ List.mem_cons_self) with ⟨value, holds⟩
    exact strange value ((IntegerSetting.holds_iff_of_set found).mp holds)

theorem exists_ofEnvironment_iff :
    (∃ config, ofEnvironment environment = .ok config) ↔ Readable environment := by
  constructor
  · rintro ⟨config, held⟩
    rcases holds_of_ofEnvironment held with ⟨known, holds⟩
    exact ⟨known, fun setting listed => ⟨_, holds setting listed⟩⟩
  · intro readable
    cases found : ofEnvironment environment with
    | ok config => exact ⟨config, rfl⟩
    | error fault =>
        exact absurd readable (ofEnvironment_eq_error_iff.mp found).not_readable

/-- The first fault of an environment is reported as one of its configuration. -/
theorem FirstFault.reportName (first : FirstFault environment fault) :
    (Failure.setting fault).reportName = "ConfigError" := by
  cases first <;> rfl

/-! ## Hints -/

/-- Whatever a hint sets is a setting that holds an integer, and its text is decimal. -/
theorem decimal_of_hint {failure : Failure} {session : Session} {hint name text : Text}
    (hinted : (resume failure session).2 = some hint) (sets : (name, text) ∈ hintSettings hint) :
    ∃ setting ∈ integerSettings, name = Text.ofString setting.name ∧
      ∃ n : Nat, text = Text.ofInt n := by
  have decimal : ∀ name ∈ ["NODES_START_INDEX", "ACCOUNTS_START_INDEX"], ∀ first : Nat,
      ∃ setting ∈ integerSettings, Text.ofString name = Text.ofString setting.name ∧
        ∃ n : Nat, Text.ofNat first = Text.ofInt n := by
    intro name either first
    have listed : ∃ setting ∈ integerSettings, setting.name = name := by
      rcases List.mem_pair.mp either with rfl | rfl <;> simp [integerSettings]
    rcases listed with ⟨setting, listed, rfl⟩
    exact ⟨setting, listed, rfl, first, rfl⟩
  have nodes := decimal "NODES_START_INDEX" (by simp)
  have accounts := decimal "ACCOUNTS_START_INDEX" (by simp)
  rcases hint_cases hinted with ⟨first, rfl⟩ | ⟨first, rfl⟩ | ⟨committed, first, rfl⟩
  · rw [hintSettings_setting plain_nodesStart, List.mem_singleton] at sets
    cases sets
    exact nodes first
  · rw [hintSettings_setting plain_accountsStart, List.mem_singleton] at sets
    cases sets
    exact accounts first
  · rw [hintSettings_settings plain_nodesStart plain_accountsStart, List.mem_pair] at sets
    rcases sets with sets | sets <;> cases sets
    · exact nodes committed
    · exact accounts first

/-! ## Loading -/

/-- What is loaded from the environment in effect, once the settings file has been added. There is a
configuration exactly if every setting can be read, and it carries the integers that are set. All
that can fail is the first setting that cannot be read, and it fails as a fault of the
configuration. A setting with the decimal text of an integer is loaded as this integer, whatever
blanks stand around it, and such are the texts that a hint for resuming prints. -/
theorem load_accepts_exactly (inEffect : effective merge tree environment path = .ok environment') :
    ((∃ config, (load merge tree environment path).2 = .ok config) ↔ Readable environment') ∧
    (∀ config, (load merge tree environment path).2 = .ok config →
      ∀ setting ∈ integerSettings, setting.Holds environment' (setting.field config)) ∧
    (∀ failure, (load merge tree environment path).2 = .error failure ↔
      ∃ fault, FirstFault environment' fault ∧ failure = .setting fault) ∧
    (∀ failure, (load merge tree environment path).2 = .error failure →
      failure.reportName = "ConfigError") ∧
    (∀ setting ∈ integerSettings, ∀ value before after,
      (Numeral.digits 10 value.natAbs).length ≤ digitLimit →
      (∀ c ∈ before, c.isBlank = true) → (∀ c ∈ after, c.isBlank = true) →
      environment'.lookup (Text.ofString setting.name) =
        some (before ++ Text.ofInt value ++ after) →
      setting.Holds environment' value ∧
        ∀ config, (load merge tree environment path).2 = .ok config →
          setting.field config = value) ∧
    (∀ failure session hint, (resume failure session).2 = some hint →
      ∀ name text, (name, text) ∈ hintSettings hint →
        ∃ setting ∈ integerSettings, name = Text.ofString setting.name ∧
          ∃ n : Nat, text = Text.ofInt n) := by
  have loads : (load merge tree environment path).2 =
      (ofEnvironment environment').mapError .setting := by
    rw [load_eq, inEffect]
    rfl
  have holds config (loaded : (load merge tree environment path).2 = .ok config) :
      ∀ setting ∈ integerSettings, setting.Holds environment' (setting.field config) :=
    (holds_of_ofEnvironment (mapError_eq_ok_iff.mp (loads ▸ loaded))).2
  have fails failure : (load merge tree environment path).2 = .error failure ↔
      ∃ fault, FirstFault environment' fault ∧ failure = .setting fault := by
    rw [loads, mapError_eq_error_iff]
    simp only [ofEnvironment_eq_error_iff, @eq_comm _ failure]
  refine ⟨?_, holds, fails, ?_, ?_, fun _ _ _ hinted _ _ sets => decimal_of_hint hinted sets⟩
  · simp only [loads, mapError_eq_ok_iff, exists_ofEnvironment_iff]
  · intro failure failed
    rcases (fails failure).mp failed with ⟨fault, first, rfl⟩
    exact first.reportName
  · intro setting listed value before after few blank blank' found
    have held := setting.holds_decimal few blank blank' found
    exact ⟨held, fun config loaded => (holds config loaded setting listed).unique held⟩

/-- An index from a hint is loaded as it is with blanks around it, and digits of other scripts and
underscores are read; of two settings that are not integers the one that is looked at first is the
fault. -/
theorem load_accepts_exactly_resumed :
    let resumed : Environment := [("NEAR_NETWORK", " TestNet"), ("NODES_START_INDEX", "\t40 "),
      ("GAS_BUDGET", "+1_٢")]
    let refused : Environment := [("MAX_CONCURRENT_FETCHES", "1__2"),
      ("COMMIT_CHUNK_SIZE", " twenty")]
    (∃ config, (load withAssignments ⟨[], []⟩ resumed []).2 = .ok config ∧
      config.nodesStart = 40 ∧ config.gas = 12) ∧
    (load withAssignments ⟨[], []⟩ refused []).2 =
      .error (.setting (.notAnInteger "COMMIT_CHUNK_SIZE" "twenty")) := by
  intro resumed refused
  constructor
  · have inEffect : effective withAssignments ⟨[], []⟩ resumed [] = .ok resumed := rfl
    rcases load_accepts_exactly inEffect with ⟨-, holds, -, -, decimal, -⟩
    have loaded : ∃ config, (load withAssignments ⟨[], []⟩ resumed []).2 = .ok config := ⟨_, rfl⟩
    rcases loaded with ⟨config, loaded⟩
    refine ⟨config, loaded, ?_, ?_⟩
    · exact (decimal integerSettings[5] (List.getElem_mem _) 40 "\t" " " (by decide)
        (List.forall_mem_singleton.mpr (by decide)) (List.forall_mem_singleton.mpr (by decide))
        rfl).2 config loaded
    · exact (holds config loaded integerSettings[2] (List.getElem_mem _)).unique
        (.set rfl (integer?_eq_some_iff.mp (by decide)))
  · have inEffect : effective withAssignments ⟨[], []⟩ refused [] = .ok refused := rfl
    have order : integerSettings =
      integerSettings.take 1 ++ integerSettings[1] :: integerSettings.drop 2 := rfl
    rcases load_accepts_exactly inEffect with ⟨-, -, fails, -⟩
    refine (fails _).mpr ⟨_, .integer (by decide) order ?_ rfl ?_, rfl⟩
    · intro other first
      cases List.mem_singleton.mp first
      exact ⟨_, .unset rfl⟩
    · intro value denotes
      exact nomatch integer?_eq_some_iff.mpr denotes

end Settings

end SocialMigration
