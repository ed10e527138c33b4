import HostcomputeNspawn.CommandLine
import HostcomputeNspawn.Layers

/-!
# The settings that reach the container service

The settings of a configuration go to the container service in two JSON values, the configuration
of the container and that of the process.  Two configurations that are written as the same two
values have the same settings.  What is written one field at a time is compared field by field; the
parent directory is the path of the first layer, and the affinity mask is cut out of the command
line, in which no hexadecimal digit is a space.
-/

namespace HostcomputeNspawn

open Interaction Layers

namespace Settings

/-- The settings of two configurations agree.  The command lines are compared from the executable
on. -/
structure Agree (config config' : NspawnConfig) : Prop where
  processDirectory : config.processDirectory = config'.processDirectory
  mappedDirectory : config.mappedDirectory = config'.mappedDirectory
  parentLayerDirectory : config.parentLayerDirectory = config'.parentLayerDirectory
  maxRamMb : config.maxRamMb = config'.maxRamMb
  cpusCount : config.cpusCount = config'.cpusCount
  cpuAffinityHex : config.cpuAffinityHex = config'.cpuAffinityHex
  maxCpuPercent : config.maxCpuPercent = config'.maxCpuPercent
  maxStorageIops : config.maxStorageIops = config'.maxStorageIops
  maxStorageBandwidthBytesPerSec :
    config.maxStorageBandwidthBytesPerSec = config'.maxStorageBandwidthBytesPerSec
  invocation : CommandLine.invocation config = CommandLine.invocation config'

variable {lib : Externals} {oracle : (op : Op) → op.Reply} {config config' : NspawnConfig}

/-! ## The configuration of the process -/

theorem cpuAffinityHexStr_inj (heq : config.cpuAffinityHexStr = config'.cpuAffinityHexStr) :
    config.cpuAffinityHex = config'.cpuAffinityHex := by
  have hdigits := Hexadecimal.toDigits_injective (String.ofList_injective heq)
  exact UInt16.toNat_inj.mp hdigits

/-- The affinity mask ends at the first space behind the launcher. -/
theorem commandLine_inj
    (heq : ProcessConfig.commandLine ⟨config⟩ = ProcessConfig.commandLine ⟨config'⟩) :
    config.cpuAffinityHex = config'.cpuAffinityHex ∧
      config.mappedDirectory.toList ++ '\\' :: CommandLine.invocation config =
        config'.mappedDirectory.toList ++ '\\' :: CommandLine.invocation config' := by
  have hrest := congrArg CommandLine.afterAffinity heq
  rw [CommandLine.afterAffinity_commandLine, CommandLine.afterAffinity_commandLine] at hrest
  have hlists := congrArg String.toList heq
  rw [CommandLine.toList_commandLine, CommandLine.toList_commandLine, hrest,
    List.append_cancel_right_eq, List.append_cancel_left_eq] at hlists
  exact ⟨cpuAffinityHexStr_inj (String.toList_injective hlists), hrest⟩

theorem processConfig_toJson_inj
    (heq : ProcessConfig.toJson ⟨config⟩ = ProcessConfig.toJson ⟨config'⟩) :
    config.mappedDirectory = config'.mappedDirectory ∧
      config.cpuAffinityHex = config'.cpuAffinityHex ∧
      CommandLine.invocation config = CommandLine.invocation config' := by
  simp only [ProcessConfig.toJson, Json.object.injEq, List.cons.injEq, Prod.mk.injEq,
    Json.string.injEq, true_and, and_true] at heq
  obtain ⟨hline, hmapped⟩ := heq
  obtain ⟨haffinity, hrest⟩ := commandLine_inj hline
  rw [hmapped, List.append_cancel_left_eq] at hrest
  exact ⟨hmapped, haffinity, (List.cons.inj hrest).2⟩

/-! ## The configuration of the container -/

/-- The layers of a container start with the parent layer. -/
theorem collectAcsendantLayers_eq_ok {basePath parentLayerName : String}
    {layers : List (ContainerLayer lib)}
    (hlayers : (collectAcsendantLayers lib basePath parentLayerName).run.eval oracle = .ok layers) :
    ∃ ascendants, layers = .make lib basePath parentLayerName :: ascendants := by
  simp only [collectAcsendantLayers, Fallible.eval_run_bind_eq_ok] at hlayers
  obtain ⟨json, -, text, -, ascendants, -, hlayers⟩ := hlayers
  exact ⟨ascendants, (Except.ok.inj hlayers).symm⟩

/-- The first of the layers is written with its own path. -/
theorem entries_of_cons {parent : ContainerLayer lib} {ascendants : List (ContainerLayer lib)}
    {entries : List Json} (hentries :
      ((parent :: ascendants).mapM ContainerLayer.toJson).run.eval oracle = .ok entries) :
    ∃ text rest, entries = parent.jsonWithId text :: rest := by
  simp only [List.mapM_cons, Fallible.eval_run_bind_eq_ok, ContainerLayer.toJson] at hentries
  obtain ⟨entry, ⟨text, -, hentry⟩, rest, -, hentries⟩ := hentries
  exact ⟨text, rest, by rw [← Except.ok.inj hentries, ← Except.ok.inj hentry]⟩

/-- In some environment the layers of the parent directory are collected, and in some environment
the configuration of the container with these layers is written as a JSON value. -/
def Written (config : NspawnConfig) (name volumePath : String) (ownLayer : ContainerLayer lib)
    (hostname : String) (json : Json) : Prop :=
  ∃ (collect write : (op : Op) → op.Reply) (layers : List (ContainerLayer lib)),
    (collectAcsendantLayers lib (lib.stripFilename config.parentLayerDirectory)
      (lib.stripParentDir config.parentLayerDirectory)).run.eval collect = .ok layers ∧
    (ContainerConfig.make config name volumePath ownLayer layers hostname).toJson.run.eval write =
      .ok json

/-- What is written are the settings and the entries of the layers, the first of which has the
parent directory as its path. -/
theorem Written.json_eq {name volumePath hostname : String} {ownLayer : ContainerLayer lib}
    {json : Json} (hsplits : Splits lib config.parentLayerDirectory)
    (hjson : Written config name volumePath ownLayer hostname json) :
    ∃ text rest, json = (ContainerConfig.make config name volumePath ownLayer []
      hostname).jsonWithLayers (.object [("ID", .string text),
        ("Path", .string config.parentLayerDirectory)] :: rest) := by
  obtain ⟨collect, write, layers, hlayers, hjson⟩ := hjson
  obtain ⟨ascendants, rfl⟩ := collectAcsendantLayers_eq_ok hlayers
  simp only [ContainerConfig.toJson, ContainerConfig.parentLayers_make,
    Fallible.eval_run_bind_eq_ok] at hjson
  obtain ⟨entries, hentries, hjson⟩ := hjson
  obtain ⟨text, rest, rfl⟩ := entries_of_cons hentries
  have hpath : (ofPath lib config.parentLayerDirectory).getPath = config.parentLayerDirectory :=
    getPath_ofPath hsplits
  refine ⟨text, rest, ?_⟩
  rw [← hpath]
  exact (Except.ok.inj hjson).symm

/-- Two configurations that reach the container service as the same two values have the same
settings. -/
theorem settings_agree (config config' : NspawnConfig)
    (hsplits : Splits lib config.parentLayerDirectory)
    (hsplits' : Splits lib config'.parentLayerDirectory) (name name' volumePath : String)
    (ownLayer : ContainerLayer lib) (hostname : String) {json : Json}
    (hjson : Written config name volumePath ownLayer hostname json)
    (hjson' : Written config' name' volumePath ownLayer hostname json)
    (hprocess : ProcessConfig.toJson ⟨config⟩ = ProcessConfig.toJson ⟨config'⟩) :
    Agree config config' := by
  obtain ⟨text, rest, rfl⟩ := hjson.json_eq hsplits
  obtain ⟨text', rest', heq⟩ := hjson'.json_eq hsplits'
  obtain ⟨hmapped, haffinity, hinvocation⟩ := processConfig_toJson_inj hprocess
  simp only [ContainerConfig.jsonWithLayers, ContainerConfig.mappedDirectory, ContainerConfig.make,
    Json.object.injEq, Json.array.injEq, Json.string.injEq, Json.integer.injEq, List.cons.injEq,
    Prod.mk.injEq, true_and, and_true] at heq
  obtain ⟨-, ⟨⟨-, hparent⟩, -⟩, hram, hcpus, hpercent, hiops, hbandwidth, hdirectory, -⟩ := heq
  constructor
  · exact hdirectory
  · exact hmapped
  · exact hparent
  · exact UInt32.toNat_inj.mp (Int.ofNat_inj.mp hram)
  · exact UInt16.toNat_inj.mp (Int.ofNat_inj.mp hcpus)
  · exact haffinity
  · exact UInt16.toNat_inj.mp (by omega)
  · exact UInt32.toNat_inj.mp (Int.ofNat_inj.mp hiops)
  · exact UInt32.toNat_inj.mp (Int.ofNat_inj.mp hbandwidth)
  · exact hinvocation

theorem settings_agree_arguments :
    Agree { World.someConfig with processArguments := ["a b"] }
      { World.someConfig with processArguments := ["a", "b"] } := by
  let oracle := World.answers World.successCode
  exact settings_agree _ _ (by decide) (by decide) "" "" "" (.make Externals.ascii "" "") ""
    ⟨oracle, oracle, _, rfl, rfl⟩ ⟨oracle, oracle, _, rfl, rfl⟩ rfl

end Settings

end HostcomputeNspawn
