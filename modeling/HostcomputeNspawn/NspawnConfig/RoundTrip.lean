import HostcomputeNspawn.NspawnConfig

/-!
# Reading the dump of a configuration

`spawn_and_wait` prints the dump of its configuration before it does anything else.  The dump is
always a configuration again: its paths have no slashes left to replace and are not empty.  It is
the same configuration if and only if it has no storage limits, because the dump has no fields for
them.
-/

namespace HostcomputeNspawn

namespace NspawnConfig

/-- The strings in which slashes are replaced; these are also the required ones. -/
def paths (config : NspawnConfig) : List String :=
  [config.processDirectory, config.processExecutable, config.mappedDirectory,
    config.stdoutFilename, config.parentLayerDirectory]

/-- What the constructor makes sure of. -/
structure Accepted (config : NspawnConfig) : Prop where
  replaced : ∀ path ∈ config.paths, replaceSlashes path = path
  nonEmpty : ∀ path ∈ config.paths, path ≠ ""

/-- What is left of a configuration in its dump. -/
def dumped (config : NspawnConfig) : NspawnConfig :=
  { config with maxStorageIops := 0, maxStorageBandwidthBytesPerSec := 0 }

theorem replaceSlashes_idem (str : String) :
    replaceSlashes (replaceSlashes str) = replaceSlashes str := by
  have hchar (c : Char) : (if (if c = '/' then '\\' else c) = '/' then '\\'
      else if c = '/' then '\\' else c) = if c = '/' then '\\' else c := by
    by_cases hc : c = '/' <;> simp [hc]
  simp only [replaceSlashes, String.toList_ofList, List.map_map, Function.comp_def, hchar]

theorem accepted_of_ofJson {lib : Externals} {json : Json} {config : NspawnConfig}
    (hconfig : ofJson lib json = .ok config) : Accepted config := by
  obtain ⟨fields, rfl, -, hcomplete, rfl⟩ := (ofJson_eq_ok lib json config).mp hconfig
  simp only [Complete, ← lastString_ne_empty, requiredFields, List.forall_mem_cons] at hcomplete
  constructor
  · simp [paths, meaning, replaceSlashes_idem]
  · simpa [paths, meaning, replaceSlashes_eq_empty] using hcomplete

/-- The dump is well formed whatever the configuration, and complete if the paths are not empty. -/
theorem ofJson_toJson (lib : Externals) {config : NspawnConfig} (hconfig : Accepted config) :
    ofJson lib config.toJson = .ok config.dumped := by
  have hram := config.maxRamMb.toNat_lt
  have hcpus := config.cpusCount.toNat_lt
  have haffinity := config.cpuAffinityHex.toNat_lt
  have hpercent := config.maxCpuPercent.toNat_lt
  have hreplaced := hconfig.replaced
  have hnonEmpty := hconfig.nonEmpty
  simp only [paths, List.forall_mem_cons] at hreplaced hnonEmpty
  obtain ⟨hdirectory, hexecutable, hmapped, hstdout, hparent, -⟩ := hreplaced
  refine (ofJson_eq_ok lib _ _).mpr ⟨_, rfl, ?_, ?_, ?_⟩
  · simp [WellFormed, knownFields, FieldKind.Allows]
    omega
  · simpa [Complete, requiredFields, lastOccurrence] using hnonEmpty
  · have hzero : UInt32.ofInt 0 = 0 := rfl
    simp only [dumped, meaning, lastString, lastInteger, lastOccurrence, allArguments]
    simp [hzero, stringOf, integerOf, stringsOf_strings, uint32_ofInt_toNat, uint16_ofInt_toNat,
      hdirectory, hexecutable, hmapped, hstdout, hparent]

/-- A configuration is read back from its dump if and only if it has no storage limits. -/
theorem read_back_iff_no_storage_limits (lib : Externals) (json : Json)
    (config : NspawnConfig) (hconfig : ofJson lib json = .ok config) :
    ofJson lib config.toJson = .ok config ↔
      config.maxStorageIops = 0 ∧ config.maxStorageBandwidthBytesPerSec = 0 := by
  rw [ofJson_toJson lib (accepted_of_ofJson hconfig), Except.ok.injEq]
  constructor
  · intro hdumped
    exact ⟨congrArg maxStorageIops hdumped.symm,
      congrArg maxStorageBandwidthBytesPerSec hdumped.symm⟩
  · rintro ⟨hiops, hbandwidth⟩
    cases config
    cases hiops
    cases hbandwidth
    rfl

/-- A configuration with a storage limit, as JSON. -/
def limitedJson : Json := .object [("process_directory", .string "C:/app"),
  ("process_executable", .string "app.exe"), ("max_storage_iops", .integer 100),
  ("mapped_directory", .string "C:/host"), ("stdout_filename", .string "out.txt"),
  ("parent_layer_directory", .string "C:/layers/base")]

/-- A configuration without storage limits, as JSON. -/
def unlimitedJson : Json := .object [("process_directory", .string "C:/app"),
  ("process_executable", .string "app.exe"), ("process_arguments", .array [.string "-version"]),
  ("mapped_directory", .string "C:/host"), ("stdout_filename", .string "out.txt"),
  ("parent_layer_directory", .string "C:/layers/base")]

theorem read_back_unlimited : ∃ config, ofJson .ascii unlimitedJson = .ok config ∧
    ofJson .ascii config.toJson = .ok config :=
  ⟨_, rfl, (read_back_iff_no_storage_limits .ascii unlimitedJson _ rfl).mpr ⟨rfl, rfl⟩⟩

theorem not_read_back_limited : ∃ config config', ofJson .ascii limitedJson = .ok config ∧
    ofJson .ascii config.toJson = .ok config' ∧
    config.maxStorageIops = 100 ∧ config'.maxStorageIops = 0 ∧ config ≠ config' :=
  ⟨_, _, rfl, rfl, rfl, rfl, by decide⟩

end NspawnConfig

end HostcomputeNspawn
