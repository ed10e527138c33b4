import HostcomputeNspawn.ContainerLayer
import HostcomputeNspawn.NspawnConfig

/-!
# The configurations given to the container service

`container_config` describes the container and `process_config` the one process in it.  Both are
written out as JSON for the container service.
-/

namespace HostcomputeNspawn

structure ContainerConfig (lib : Externals) where
  nconf : NspawnConfig
  name : String
  volumePath : String
  ownLayer : ContainerLayer lib
  parentLayers : List (ContainerLayer lib)
  hostname : String

namespace ContainerConfig

variable {lib : Externals}

/-- The constructor, which clones every parent layer. -/
def make (nconf : NspawnConfig) (name volumePath : String) (ownLayer : ContainerLayer lib)
    (parentLayers : List (ContainerLayer lib)) (hostname : String) : ContainerConfig lib where
  nconf := nconf
  name := name
  volumePath := volumePath
  ownLayer := ownLayer
  parentLayers := parentLayers.map ContainerLayer.clone
  hostname := hostname

@[simp]
theorem parentLayers_make (nconf : NspawnConfig) (name volumePath : String)
    (ownLayer : ContainerLayer lib) (parentLayers : List (ContainerLayer lib)) (hostname : String) :
    (make nconf name volumePath ownLayer parentLayers hostname).parentLayers = parentLayers :=
  List.map_id'' ContainerLayer.clone_eq parentLayers

/-- The one directory that is mapped into the container. -/
def mappedDirectory (nconf : NspawnConfig) : Json :=
  .object [
    ("HostPath", .string nconf.processDirectory),
    ("ContainerPath", .string nconf.mappedDirectory),
    ("ReadOnly", .boolean false),
    ("IOPSMaximum", .integer nconf.maxStorageIops.toNat),
    ("BandwidthMaximum", .integer nconf.maxStorageBandwidthBytesPerSec.toNat)]

/-- The JSON value of a container whose layers have been written. -/
def jsonWithLayers (config : ContainerConfig lib) (layers : List Json) : Json :=
  .object [
    ("SystemType", .string "Container"),
    ("Name", .string config.name),
    ("Owner", .string "hostcompute_nspawn"),
    ("IsDummy", .boolean false),
    ("VolumePath", .string config.volumePath),
    ("IgnoreFlushesDuringBoot", .boolean true),
    ("LayerFolderPath", .string config.ownLayer.getPath),
    ("Layers", .array layers),
    ("MemoryMaximumInMB", .integer config.nconf.maxRamMb.toNat),
    ("ProcessorCount", .integer config.nconf.cpusCount.toNat),
    ("ProcessorMaximum", .integer (config.nconf.maxCpuPercent.toNat * 100)),
    ("StorageIOPSMaximum", .integer config.nconf.maxStorageIops.toNat),
    ("StorageBandwidthMaximum", .integer config.nconf.maxStorageBandwidthBytesPerSec.toNat),
    ("HostName", .string config.hostname),
    ("MappedDirectories", .array [mappedDirectory config.nconf]),
    ("HvPartition", .boolean false),
    ("EndpointList", .array []),
    ("Servicing", .boolean false),
    ("AllowUnqualifiedDNSQuery", .boolean true)]

def toJson (config : ContainerConfig lib) : Nspawn Json := do
  let layers ← config.parentLayers.mapM ContainerLayer.toJson
  return config.jsonWithLayers layers

end ContainerConfig

/-- `cpu_affinity_hex_str`, the number in lower-case hexadecimal without padding. -/
def NspawnConfig.cpuAffinityHexStr (config : NspawnConfig) : String :=
  .ofList (Nat.toDigits 16 config.cpuAffinityHex.toNat)

structure ProcessConfig where
  nconf : NspawnConfig

namespace ProcessConfig

def commandLine (config : ProcessConfig) : String :=
  let start := "C:\\Windows\\System32\\cmd.exe /c " ++
    "start /b /wait /affinity 0x" ++ config.nconf.cpuAffinityHexStr ++ " " ++
    config.nconf.mappedDirectory ++ "\\" ++ config.nconf.processExecutable
  let cline := config.nconf.processArguments.foldl (fun cline ar ↦ cline ++ " " ++ ar) start
  cline ++ " >> " ++ config.nconf.stdoutFilename ++ " 2>&1"

def toJson (config : ProcessConfig) : Json :=
  .object [
    ("ApplicationName", .string ""),
    ("CommandLine", .string config.commandLine),
    ("User", .string ""),
    ("WorkingDirectory", .string config.nconf.mappedDirectory),
    ("Environment", .object []),
    ("EmulateConsole", .boolean false),
    ("CreateStdInPipe", .boolean false),
    ("CreateStdOutPipe", .boolean false),
    ("CreateStdErrPipe", .boolean false),
    ("ConsoleSize", .array [])]

end ProcessConfig

end HostcomputeNspawn
