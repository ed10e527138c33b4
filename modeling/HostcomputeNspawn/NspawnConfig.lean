import HostcomputeNspawn.Externals
import HostcomputeNspawn.Semantics.Exceptions
import Mathlib.Data.Int.Notation
import Mathlib.Data.List.Forall2
import Mathlib.Data.List.Induction
import Mathlib.Tactic.Common

/-!
# The configuration file

`nspawn_config` reads the fields of a JSON object in order, stores each into the member of its
name, throws on an unknown name, and at the end requires five strings to be non-empty.  The
specification says the same without the loop: which fields are well formed, and what the last
occurrence of every name means.
-/

namespace HostcomputeNspawn

open Exceptions

structure NspawnConfig where
  processDirectory : String := ""
  processExecutable : String := ""
  processArguments : List String := []
  maxRamMb : UInt32 := 0
  cpusCount : UInt16 := 0
  cpuAffinityHex : UInt16 := 0
  maxCpuPercent : UInt16 := 0
  maxStorageIops : UInt32 := 0
  maxStorageBandwidthBytesPerSec : UInt32 := 0
  mappedDirectory : String := ""
  stdoutFilename : String := ""
  parentLayerDirectory : String := ""
deriving DecidableEq, Repr

namespace NspawnConfig

/-- `std::replace(str.begin(), str.end(), '/', '\\')`. -/
def replaceSlashes (str : String) : String :=
  .ofList (str.toList.map fun c ↦ if c = '/' then '\\' else c)

/-- One turn of the loop over the fields. -/
def setField (lib : Externals) (config : NspawnConfig) (field : Field) :
    Except StdException NspawnConfig := do
  let (name, value) := field
  if name = "process_directory" then
    let str ← lib.json.asStringOrThrow value name
    return { config with processDirectory := replaceSlashes str }
  else if name = "process_executable" then
    let str ← lib.json.asStringOrThrow value name
    return { config with processExecutable := replaceSlashes str }
  else if name = "process_arguments" then
    let elements ← lib.json.asArrayOrThrow value name
    let arguments ← elements.mapM fun ar ↦ lib.json.asStringOrThrow ar name
    return { config with processArguments := config.processArguments ++ arguments }
  else if name = "max_ram_mb" then
    let number ← lib.json.asUint32OrThrow value name
    return { config with maxRamMb := number }
  else if name = "cpus_count" then
    let number ← lib.json.asUint16OrThrow value name
    return { config with cpusCount := number }
  else if name = "cpu_affinity_hex" then
    let number ← lib.json.asUint16OrThrow value name
    return { config with cpuAffinityHex := number }
  else if name = "max_cpu_percent" then
    let number ← lib.json.asUint16OrThrow value name
    return { config with maxCpuPercent := number }
  else if name = "max_storage_iops" then
    let number ← lib.json.asUint32OrThrow value name
    return { config with maxStorageIops := number }
  else if name = "max_storage_bandwidth_bytes_per_sec" then
    let number ← lib.json.asUint32OrThrow value name
    return { config with maxStorageBandwidthBytesPerSec := number }
  else if name = "mapped_directory" then
    let str ← lib.json.asStringOrThrow value name
    return { config with mappedDirectory := replaceSlashes str }
  else if name = "stdout_filename" then
    let str ← lib.json.asStringOrThrow value name
    return { config with stdoutFilename := replaceSlashes str }
  else if name = "parent_layer_directory" then
    let str ← lib.json.asStringOrThrow value name
    return { config with parentLayerDirectory := replaceSlashes str }
  else
    throw ⟨lib.traceMsg .unknownField ("Unknown configuration field: [" ++ name ++ "]")⟩

/-- What is thrown for a required string that is empty. -/
def emptyField (lib : Externals) (name : String) : StdException :=
  ⟨lib.traceMsg (.requiredField name)
    ("Invalid 'config.json' specified, '" ++ name ++ "' must be non-empty")⟩

/-- The check of one required string. -/
def requireNonEmpty (lib : Externals) (name value : String) : Except StdException Unit :=
  if value = "" then throw (emptyField lib name) else pure ()

def validate (lib : Externals) (config : NspawnConfig) : Except StdException Unit := do
  requireNonEmpty lib "process_directory" config.processDirectory
  requireNonEmpty lib "process_executable" config.processExecutable
  requireNonEmpty lib "mapped_directory" config.mappedDirectory
  requireNonEmpty lib "stdout_filename" config.stdoutFilename
  requireNonEmpty lib "parent_layer_directory" config.parentLayerDirectory

/-- `nspawn_config(const sl::json::value&)`. -/
def ofJson (lib : Externals) (json : Json) : Except StdException NspawnConfig := do
  let fields ← lib.json.asObject json
  let config ← fields.foldlM (setField lib) {}
  validate lib config
  return config

/-- The dump of a configuration; it leaves the two storage limits out. -/
def toJson (config : NspawnConfig) : Json :=
  .object [
    ("process_directory", .string config.processDirectory),
    ("process_executable", .string config.processExecutable),
    ("process_arguments", .array (config.processArguments.map .string)),
    ("max_ram_mb", .integer config.maxRamMb.toNat),
    ("cpus_count", .integer config.cpusCount.toNat),
    ("cpu_affinity_hex", .integer config.cpuAffinityHex.toNat),
    ("max_cpu_percent", .integer config.maxCpuPercent.toNat),
    ("mapped_directory", .string config.mappedDirectory),
    ("stdout_filename", .string config.stdoutFilename),
    ("parent_layer_directory", .string config.parentLayerDirectory)]

/-! ## The format and its meaning -/

/-- The types of the known fields. -/
inductive FieldKind
  | string
  | arguments
  | uint32
  | uint16
deriving DecidableEq, Repr

/-- The twelve known fields. -/
def knownFields : List (String × FieldKind) :=
  [("process_directory", .string), ("process_executable", .string),
    ("process_arguments", .arguments), ("max_ram_mb", .uint32), ("cpus_count", .uint16),
    ("cpu_affinity_hex", .uint16), ("max_cpu_percent", .uint16), ("max_storage_iops", .uint32),
    ("max_storage_bandwidth_bytes_per_sec", .uint32), ("mapped_directory", .string),
    ("stdout_filename", .string), ("parent_layer_directory", .string)]

/-- The strings that must be given. -/
def requiredFields : List String :=
  ["process_directory", "process_executable", "mapped_directory", "stdout_filename",
    "parent_layer_directory"]

/-- The values that a field of a kind may have. -/
def FieldKind.Allows : FieldKind → Json → Prop
  | .string, json => ∃ str, json = .string str
  | .arguments, json => ∃ arguments : List String, json = .array (arguments.map .string)
  | .uint32, json => ∃ number : ℤ, json = .integer number ∧ 0 ≤ number ∧ number < 2 ^ 32
  | .uint16, json => ∃ number : ℤ, json = .integer number ∧ 0 ≤ number ∧ number < 2 ^ 16

/-- A field has a known name and a value of its type and range. -/
def WellFormed (field : Field) : Prop :=
  ∃ kind, (field.1, kind) ∈ knownFields ∧ kind.Allows field.2

/-- The value of the last field of a name. -/
def lastOccurrence (name : String) (fields : List Field) : Option Json :=
  ((fields.filter fun field ↦ field.1 = name).getLast?).map Prod.snd

/-- The text of a string. -/
def stringOf : Json → String
  | .string str => str
  | _ => ""

/-- The number of an integer. -/
def integerOf : Json → ℤ
  | .integer number => number
  | _ => 0

/-- The strings of an array. -/
def stringsOf : Json → List String
  | .array elements => elements.map stringOf
  | _ => []

/-- The last string of a name, empty if there is none. -/
def lastString (name : String) (fields : List Field) : String :=
  (lastOccurrence name fields).elim "" stringOf

/-- The last integer of a name, zero if there is none. -/
def lastInteger (name : String) (fields : List Field) : ℤ :=
  (lastOccurrence name fields).elim 0 integerOf

/-- The arguments of all fields of that name, in order. -/
def allArguments (fields : List Field) : List String :=
  (fields.filter fun field ↦ field.1 = "process_arguments").flatMap fun field ↦ stringsOf field.2

/-- The configuration that a list of well-formed fields means. -/
def meaning (fields : List Field) : NspawnConfig where
  processDirectory := replaceSlashes (lastString "process_directory" fields)
  processExecutable := replaceSlashes (lastString "process_executable" fields)
  processArguments := allArguments fields
  maxRamMb := .ofInt (lastInteger "max_ram_mb" fields)
  cpusCount := .ofInt (lastInteger "cpus_count" fields)
  cpuAffinityHex := .ofInt (lastInteger "cpu_affinity_hex" fields)
  maxCpuPercent := .ofInt (lastInteger "max_cpu_percent" fields)
  maxStorageIops := .ofInt (lastInteger "max_storage_iops" fields)
  maxStorageBandwidthBytesPerSec :=
    .ofInt (lastInteger "max_storage_bandwidth_bytes_per_sec" fields)
  mappedDirectory := replaceSlashes (lastString "mapped_directory" fields)
  stdoutFilename := replaceSlashes (lastString "stdout_filename" fields)
  parentLayerDirectory := replaceSlashes (lastString "parent_layer_directory" fields)

/-- The required strings are there, and not empty. -/
def Complete (fields : List Field) : Prop :=
  ∀ name ∈ requiredFields, ∃ str, lastOccurrence name fields = some (.string str) ∧ str ≠ ""

theorem lastOccurrence_append (name : String) (fields : List Field) (field : Field) :
    lastOccurrence name (fields ++ [field]) =
      if field.1 = name then some field.2 else lastOccurrence name fields := by
  unfold lastOccurrence
  by_cases h : field.1 = name <;> simp [List.filter_append, h]

@[simp]
theorem lastString_append (name : String) (fields : List Field) (field : Field) :
    lastString name (fields ++ [field]) =
      if field.1 = name then stringOf field.2 else lastString name fields := by
  unfold lastString
  rw [lastOccurrence_append]
  split <;> rfl

@[simp]
theorem lastInteger_append (name : String) (fields : List Field) (field : Field) :
    lastInteger name (fields ++ [field]) =
      if field.1 = name then integerOf field.2 else lastInteger name fields := by
  unfold lastInteger
  rw [lastOccurrence_append]
  split <;> rfl

@[simp]
theorem allArguments_append (fields : List Field) (field : Field) :
    allArguments (fields ++ [field]) =
      if field.1 = "process_arguments" then allArguments fields ++ stringsOf field.2
      else allArguments fields := by
  unfold allArguments
  by_cases h : field.1 = "process_arguments" <;> simp [List.filter_append, h]

/-! ## The constructor accepts exactly the format -/

theorem mapM_asString (lib : Externals) (context : String) (elements : List Json)
    (arguments : List String) :
    elements.mapM (fun ar ↦ lib.json.asStringOrThrow ar context) = .ok arguments ↔
      elements = arguments.map .string := by
  induction elements generalizing arguments with
  | nil => cases arguments <;> simp [pure_eq_ok]
  | cons element elements ih =>
    simp only [List.mapM_cons, bind_eq_ok, pure_eq_ok, ih, lib.json.asStringOrThrow_eq_ok]
    constructor
    · rintro ⟨str, rfl, rest, rfl, rfl⟩
      rfl
    · cases arguments with
      | nil => simp
      | cons str rest =>
        intro h
        obtain ⟨rfl, rfl⟩ := List.cons.inj h
        exact ⟨str, rfl, rest, rfl, rfl⟩

theorem exists_string_iff {value : Json} {store : String → NspawnConfig} {config : NspawnConfig} :
    (∃ str, value = .string str ∧ store str = config) ↔
      (∃ str, value = .string str) ∧ config = store (stringOf value) := by
  constructor
  · rintro ⟨str, rfl, rfl⟩
    exact ⟨⟨str, rfl⟩, rfl⟩
  · rintro ⟨⟨str, rfl⟩, rfl⟩
    exact ⟨str, rfl, rfl⟩

theorem stringsOf_strings (arguments : List String) :
    stringsOf (.array (arguments.map .string)) = arguments := by
  simp [stringsOf, stringOf, Function.comp_def]

theorem exists_arguments_iff {value : Json} {store : List String → NspawnConfig}
    {config : NspawnConfig} :
    (∃ elements, value = .array elements ∧
      ∃ arguments : List String, elements = arguments.map .string ∧ store arguments = config) ↔
      (∃ arguments : List String, value = .array (arguments.map .string)) ∧
        config = store (stringsOf value) := by
  constructor
  · rintro ⟨elements, rfl, arguments, rfl, rfl⟩
    exact ⟨⟨arguments, rfl⟩, by rw [stringsOf_strings]⟩
  · rintro ⟨⟨arguments, rfl⟩, rfl⟩
    exact ⟨_, rfl, arguments, rfl, by rw [stringsOf_strings]⟩

theorem uint32_ofInt_toNat (number : UInt32) : UInt32.ofInt (number.toNat : ℤ) = number := by
  rw [UInt32.ofInt]
  norm_cast
  simp

theorem uint32_toNat_ofInt {number : ℤ} (hnonneg : 0 ≤ number) (hlt : number < 2 ^ 32) :
    ((UInt32.ofInt number).toNat : ℤ) = number := by
  obtain ⟨k, rfl⟩ := Int.eq_ofNat_of_zero_le hnonneg
  rw [UInt32.ofInt]
  simp
  omega

theorem uint16_ofInt_toNat (number : UInt16) : UInt16.ofInt (number.toNat : ℤ) = number := by
  rw [UInt16.ofInt]
  norm_cast
  simp

theorem uint16_toNat_ofInt {number : ℤ} (hnonneg : 0 ≤ number) (hlt : number < 2 ^ 16) :
    ((UInt16.ofInt number).toNat : ℤ) = number := by
  obtain ⟨k, rfl⟩ := Int.eq_ofNat_of_zero_le hnonneg
  rw [UInt16.ofInt]
  simp
  omega

theorem exists_uint32_iff {value : Json} {store : UInt32 → NspawnConfig}
    {config : NspawnConfig} :
    (∃ number : UInt32, value = .integer number.toNat ∧ store number = config) ↔
      (∃ number : ℤ, value = .integer number ∧ 0 ≤ number ∧ number < 2 ^ 32) ∧
        config = store (.ofInt (integerOf value)) := by
  constructor
  · rintro ⟨number, rfl, rfl⟩
    have hlt := number.toNat_lt
    exact ⟨⟨_, rfl, by omega, by omega⟩, by rw [integerOf, uint32_ofInt_toNat]⟩
  · rintro ⟨⟨number, rfl, hnonneg, hlt⟩, rfl⟩
    exact ⟨.ofInt number, by rw [uint32_toNat_ofInt hnonneg hlt], rfl⟩

theorem exists_uint16_iff {value : Json} {store : UInt16 → NspawnConfig}
    {config : NspawnConfig} :
    (∃ number : UInt16, value = .integer number.toNat ∧ store number = config) ↔
      (∃ number : ℤ, value = .integer number ∧ 0 ≤ number ∧ number < 2 ^ 16) ∧
        config = store (.ofInt (integerOf value)) := by
  constructor
  · rintro ⟨number, rfl, rfl⟩
    have hlt := number.toNat_lt
    exact ⟨⟨_, rfl, by omega, by omega⟩, by rw [integerOf, uint16_ofInt_toNat]⟩
  · rintro ⟨⟨number, rfl, hnonneg, hlt⟩, rfl⟩
    exact ⟨.ofInt number, by rw [uint16_toNat_ofInt hnonneg hlt], rfl⟩

/-- One turn of the loop accepts exactly a well-formed field, and then stores what it means. -/
theorem setField_eq_ok (lib : Externals) (fields : List Field) (field : Field)
    (config : NspawnConfig) :
    setField lib (meaning fields) field = .ok config ↔
      WellFormed field ∧ config = meaning (fields ++ [field]) := by
  obtain ⟨name, value⟩ := field
  by_cases hname : name ∈ knownFields.map Prod.fst
  · simp only [knownFields, List.map_cons, List.map_nil, List.mem_cons, List.not_mem_nil,
      or_false] at hname
    rcases hname with rfl | rfl | rfl | rfl | rfl | rfl | rfl | rfl | rfl | rfl | rfl | rfl
    all_goals
      simp only [setField, String.reduceEq, if_false, reduceIte, bind_eq_ok, pure_eq_ok,
        lib.json.asStringOrThrow_eq_ok, lib.json.asUint32OrThrow_eq_ok,
        lib.json.asUint16OrThrow_eq_ok, lib.json.asArrayOrThrow_eq_ok, mapM_asString]
      simp only [WellFormed, knownFields, FieldKind.Allows, meaning, lastString_append,
        lastInteger_append, allArguments_append, String.reduceEq, if_false, reduceIte,
        List.mem_cons, Prod.mk.injEq, false_and, true_and, List.not_mem_nil, or_false, false_or,
        exists_eq_left]
      first
      | exact exists_string_iff
      | exact exists_arguments_iff
      | exact exists_uint32_iff
      | exact exists_uint16_iff
  · have hunknown : ¬ WellFormed (name, value) := fun ⟨kind, hkind, _⟩ ↦
      hname (List.mem_map_of_mem hkind)
    simp only [knownFields, List.map_cons, List.map_nil, List.mem_cons, List.not_mem_nil, or_false,
      not_or] at hname
    obtain ⟨h1, h2, h3, h4, h5, h6, h7, h8, h9, h10, h11, h12⟩ := hname
    simp only [setField, h1, h2, h3, h4, h5, h6, h7, h8, h9, h10, h11, h12, if_false, hunknown,
      false_and, iff_false]
    exact fun h ↦ nomatch h

theorem replaceSlashes_eq_empty {str : String} : replaceSlashes str = "" ↔ str = "" := by
  rw [← String.toList_inj, ← String.toList_inj]
  simp [replaceSlashes]

theorem meaning_nil : meaning [] = {} := by
  simp [meaning, lastString, lastInteger, lastOccurrence, allArguments,
    replaceSlashes_eq_empty.mpr]
  decide

theorem foldlM_setField (lib : Externals) (fields : List Field) (config : NspawnConfig) :
    fields.foldlM (setField lib) {} = .ok config ↔
      (∀ field ∈ fields, WellFormed field) ∧ config = meaning fields := by
  induction fields using List.reverseRecOn generalizing config with
  | nil =>
    simp only [List.foldlM_nil, pure_eq_ok, meaning_nil, List.not_mem_nil, false_imp_iff,
      implies_true, true_and]
    exact eq_comm
  | append_singleton fields field ih =>
    simp only [List.foldlM_append, bind_eq_ok, ih, List.foldlM_cons, List.foldlM_nil, pure_eq_ok]
    constructor
    · rintro ⟨config, ⟨hfields, rfl⟩, config', hset, rfl⟩
      obtain ⟨hfield, hmeaning⟩ := (setField_eq_ok lib fields field config').mp hset
      refine ⟨fun other hother ↦ ?_, hmeaning⟩
      rcases List.mem_append.mp hother with hother | hother
      · exact hfields other hother
      · rwa [List.mem_singleton.mp hother]
    · rintro ⟨hfields, rfl⟩
      refine ⟨_, ⟨fun other hother ↦ hfields other (List.mem_append_left _ hother), rfl⟩, _,
        (setField_eq_ok lib fields field _).mpr ⟨hfields field ?_, rfl⟩, rfl⟩
      exact List.mem_append_right _ (List.mem_singleton.mpr rfl)

theorem requireNonEmpty_eq_ok {lib : Externals} {name value : String} {u : Unit} :
    requireNonEmpty lib name value = .ok u ↔ value ≠ "" := by
  unfold requireNonEmpty
  split
  · exact ⟨fun h ↦ (nomatch h), fun h ↦ absurd (by assumption) h⟩
  · exact ⟨fun _ ↦ by assumption, fun _ ↦ rfl⟩

theorem lastString_ne_empty {name : String} {fields : List Field} :
    lastString name fields ≠ "" ↔
      ∃ str, lastOccurrence name fields = some (.string str) ∧ str ≠ "" := by
  unfold lastString
  cases lastOccurrence name fields with
  | none => simp
  | some json => cases json <;> simp [stringOf]

theorem validate_meaning (lib : Externals) (fields : List Field) :
    validate lib (meaning fields) = .ok () ↔ Complete fields := by
  simp only [validate, bind_eq_ok, requireNonEmpty_eq_ok, meaning, ne_eq, replaceSlashes_eq_empty,
    Complete, requiredFields, ← lastString_ne_empty, List.forall_mem_cons, List.not_mem_nil]
  simp

/-- The constructor returns exactly on complete objects of well-formed fields, and then it returns
their meaning. -/
theorem ofJson_eq_ok (lib : Externals) (json : Json) (config : NspawnConfig) :
    ofJson lib json = .ok config ↔ ∃ fields, json = .object fields ∧
      (∀ field ∈ fields, WellFormed field) ∧ Complete fields ∧ config = meaning fields := by
  have hloop (fields : List Field) :
      (∃ config', fields.foldlM (setField lib) {} = .ok config' ∧
        ∃ u, validate lib config' = .ok u ∧ config' = config) ↔
      (∀ field ∈ fields, WellFormed field) ∧ Complete fields ∧ config = meaning fields := by
    simp only [foldlM_setField, and_assoc]
    constructor
    · rintro ⟨config', hfields, rfl, u, hvalidate, rfl⟩
      exact ⟨hfields, (validate_meaning lib fields).mp hvalidate, rfl⟩
    · rintro ⟨hfields, hcomplete, rfl⟩
      exact ⟨_, hfields, rfl, (), (validate_meaning lib fields).mpr hcomplete, rfl⟩
  simp only [ofJson, bind_eq_ok, pure_eq_ok]
  by_cases hobject : ∃ fields, json = .object fields
  · obtain ⟨fields, rfl⟩ := hobject
    simp only [lib.json.asObject_object, Except.ok.injEq, exists_eq_left', hloop,
      Json.object.injEq]
  · -- without fields nothing is given, so the five required strings are missing
    have hne (fields : List Field) : json ≠ .object fields := fun h ↦ hobject ⟨fields, h⟩
    have hempty : ¬ Complete [] := fun h ↦ by
      obtain ⟨str, hstr, -⟩ := h "process_directory" (by simp [requiredFields])
      simp [lastOccurrence] at hstr
    rcases lib.json.asObject_other json hne with hnone | ⟨e, he⟩
    · simp only [hnone, Except.ok.injEq, exists_eq_left', hloop, hempty, hne, false_and, and_false,
        exists_false]
    · simp only [he, reduceCtorEq, hne, false_and, exists_false]

/-- The characters of a text, with a backslash for every slash and nothing else changed. -/
def Backslashed (str result : String) : Prop :=
  List.Forall₂ (fun c c' ↦ c = '/' ∧ c' = '\\' ∨ c ≠ '/' ∧ c' = c) str.toList result.toList

theorem backslashed_replaceSlashes (str : String) : Backslashed str (replaceSlashes str) := by
  rw [Backslashed, replaceSlashes, String.toList_ofList, List.forall₂_map_right_iff,
    List.forall₂_same]
  intro c _
  by_cases hc : c = '/' <;> simp [hc]

/-- What the members of a configuration mean in terms of the fields they were read from. -/
structure Means (fields : List Field) (config : NspawnConfig) : Prop where
  processDirectory : Backslashed (lastString "process_directory" fields) config.processDirectory
  processExecutable : Backslashed (lastString "process_executable" fields) config.processExecutable
  processArguments : config.processArguments = allArguments fields
  maxRamMb : (config.maxRamMb.toNat : ℤ) = lastInteger "max_ram_mb" fields
  cpusCount : (config.cpusCount.toNat : ℤ) = lastInteger "cpus_count" fields
  cpuAffinityHex : (config.cpuAffinityHex.toNat : ℤ) = lastInteger "cpu_affinity_hex" fields
  maxCpuPercent : (config.maxCpuPercent.toNat : ℤ) = lastInteger "max_cpu_percent" fields
  maxStorageIops : (config.maxStorageIops.toNat : ℤ) = lastInteger "max_storage_iops" fields
  maxStorageBandwidthBytesPerSec : (config.maxStorageBandwidthBytesPerSec.toNat : ℤ) =
    lastInteger "max_storage_bandwidth_bytes_per_sec" fields
  mappedDirectory : Backslashed (lastString "mapped_directory" fields) config.mappedDirectory
  stdoutFilename : Backslashed (lastString "stdout_filename" fields) config.stdoutFilename
  parentLayerDirectory :
    Backslashed (lastString "parent_layer_directory" fields) config.parentLayerDirectory

theorem mem_of_lastOccurrence {name : String} {fields : List Field} {json : Json}
    (hlast : lastOccurrence name fields = some json) : (name, json) ∈ fields := by
  simp only [lastOccurrence, Option.map_eq_some_iff] at hlast
  obtain ⟨⟨name', json'⟩, hmem, rfl⟩ := hlast
  have hfilter := List.mem_of_getLast? hmem
  simp only [List.mem_filter, decide_eq_true_eq] at hfilter
  obtain ⟨hfield, rfl⟩ := hfilter
  exact hfield

theorem lastInteger_range {name : String} {fields : List Field} {bound : ℤ}
    (hfields : ∀ field ∈ fields, WellFormed field) (hbound : 0 < bound)
    (hkind : ∀ json, WellFormed (name, json) →
      ∃ number, json = .integer number ∧ 0 ≤ number ∧ number < bound) :
    0 ≤ lastInteger name fields ∧ lastInteger name fields < bound := by
  unfold lastInteger
  cases hlast : lastOccurrence name fields with
  | none => exact ⟨Int.le_refl 0, hbound⟩
  | some json =>
    obtain ⟨number, rfl, hrange⟩ := hkind json (hfields _ (mem_of_lastOccurrence hlast))
    exact hrange

theorem means_meaning {fields : List Field} (hfields : ∀ field ∈ fields, WellFormed field) :
    Means fields (meaning fields) := by
  have h32 (name : String)
      (hkind : ∀ json, WellFormed (name, json) → FieldKind.uint32.Allows json) :
      ((UInt32.ofInt (lastInteger name fields)).toNat : ℤ) = lastInteger name fields :=
    have h := lastInteger_range hfields (by decide) hkind
    uint32_toNat_ofInt h.1 h.2
  have h16 (name : String)
      (hkind : ∀ json, WellFormed (name, json) → FieldKind.uint16.Allows json) :
      ((UInt16.ofInt (lastInteger name fields)).toNat : ℤ) = lastInteger name fields :=
    have h := lastInteger_range hfields (by decide) hkind
    uint16_toNat_ofInt h.1 h.2
  constructor
  case maxRamMb | maxStorageIops | maxStorageBandwidthBytesPerSec =>
    exact h32 _ fun json ↦ by simp [WellFormed, knownFields]
  case cpusCount | cpuAffinityHex | maxCpuPercent =>
    exact h16 _ fun json ↦ by simp [WellFormed, knownFields]
  case processArguments => rfl
  all_goals exact backslashed_replaceSlashes _

/-- The constructor accepts exactly its format, and what it returns means what was given: for
every member the last occurrence of its field, and for the arguments all occurrences in order. -/
theorem constructor_accepts_exactly (lib : Externals) (json : Json) :
    ((∃ config, ofJson lib json = .ok config) ↔ ∃ fields, json = .object fields ∧
      (∀ field ∈ fields, WellFormed field) ∧ Complete fields) ∧
    ∀ fields config, json = .object fields → ofJson lib json = .ok config →
      Means fields config := by
  simp only [ofJson_eq_ok]
  constructor
  · constructor
    · rintro ⟨config, fields, rfl, hfields, hcomplete, -⟩
      exact ⟨fields, rfl, hfields, hcomplete⟩
    · rintro ⟨fields, rfl, hfields, hcomplete⟩
      exact ⟨_, fields, rfl, hfields, hcomplete, rfl⟩
  · rintro fields config rfl ⟨fields', hobject, hfields, -, rfl⟩
    obtain rfl := Json.object.inj hobject
    exact means_meaning hfields

end NspawnConfig

end HostcomputeNspawn
