import HostcomputeNspawn.GuidText
import HostcomputeNspawn.World

/-!
# The two layer lists

The storage driver is given descriptors of the ascendant layers, with the wide paths that were
fixed when the layers were constructed; the container service is given a JSON array built from
clones of the same layers, with paths that are joined again from base path and name.  The two
lists describe the same layers in the same order.

A descriptor carries the GUID of its layer and an entry the text of that GUID, which is faithful:
the GUID can be read back, so equal texts are equal GUIDs.
-/

namespace HostcomputeNspawn

open Interaction

namespace Layers

variable {lib : Externals} {oracle : (op : Op) → op.Reply}

/-- The path is split into two parts that concatenate to it, as a path with a separator that is
not its last character is. -/
def Splits (lib : Externals) (path : String) : Prop :=
  lib.stripFilename path ++ lib.stripParentDir path = path

instance (path : String) : Decidable (Splits lib path) := inferInstanceAs (Decidable (_ = _))

/-- The layer of a path. -/
def ofPath (lib : Externals) (path : String) : ContainerLayer lib :=
  .make lib (lib.stripFilename path) (lib.stripParentDir path)

@[simp]
theorem getPath_ofPath {path : String} (hpath : Splits lib path) :
    (ofPath lib path).getPath = path := hpath

theorem ascendantLayers_strings (lib : Externals) (jsonFile : String) (strings : List String) :
    ascendantLayers lib jsonFile (.array (strings.map .string)) =
      .ok (strings.map (ofPath lib)) := by
  have helement (path : String) : lib.json.asStringOrThrow (.string path) jsonFile = .ok path :=
    (lib.json.asStringOrThrow_eq_ok _ _ _).mpr rfl
  rw [ascendantLayers, (lib.json.asArrayOrThrow_eq_ok _ _ _).mpr rfl]
  change (strings.map Json.string).mapM _ = _
  rw [List.mapM_map]
  simp only [Function.comp_def, helement]
  exact List.mapM_pure

/-- The layers of a parent layer whose `layerchain.json` lists some paths. -/
theorem collectAcsendantLayers_paths {directory : String} {strings : List String}
    (hload : oracle (.load (.file (lib.stripFilename directory ++ "\\" ++
      lib.stripParentDir directory ++ "\\layerchain.json"))) = .ok (.array (strings.map .string)))
    {text : String} (hdumps : oracle (.dumps (.array (strings.map .string))) = .ok text) :
    (collectAcsendantLayers lib (lib.stripFilename directory)
      (lib.stripParentDir directory)).run.eval oracle =
        .ok ((directory :: strings).map (ofPath lib)) := by
  rw [collectAcsendantLayers, Fallible.eval_run_bind (eval_load hload),
    Fallible.eval_run_bind (eval_dumps hdumps), ascendantLayers_strings]
  rfl

variable (lib oracle) in
/-- The container service maps the name of an id to a GUID. -/
def MapsTo (id : ContainerId) (guid : Guid) : Prop :=
  oracle (.api (.nameToGuid (lib.widen id.name))) = .ok ⟨0, guid⟩

theorem toGuid_mapsTo {id : ContainerId} {guid : Guid} (hid : MapsTo lib oracle id guid) :
    (id.toGuid lib).run.eval oracle = .ok guid := eval_checked hid

theorem toId_mapsTo (hlib : lib.WritesGuids) {id : ContainerId} {guid : Guid}
    (hid : MapsTo lib oracle id guid) : (id.toId lib).run.eval oracle = .ok (guidId guid) := by
  rw [ContainerId.toId, Fallible.eval_run_bind (toGuid_mapsTo hid), ContainerId.idText_eq hlib]
  rfl

theorem toDescriptor_mapsTo {layer : ContainerLayer lib} {guid : Guid}
    (hlayer : MapsTo lib oracle layer.id guid) :
    layer.toDescriptor.run.eval oracle = .ok (layer.descriptorWithId guid) := by
  rw [ContainerLayer.toDescriptor, Fallible.eval_run_bind (toGuid_mapsTo hlayer)]
  rfl

theorem toJson_mapsTo (hlib : lib.WritesGuids) {layer : ContainerLayer lib} {guid : Guid}
    (hlayer : MapsTo lib oracle layer.id guid) :
    layer.toJson.run.eval oracle = .ok (layer.jsonWithId (guidId guid)) := by
  rw [ContainerLayer.toJson, Fallible.eval_run_bind (toId_mapsTo hlib hlayer)]
  rfl

/-- The container service maps the name of the layer to a GUID. -/
def Named (oracle : (op : Op) → op.Reply) (guid : WString → Guid) (layer : ContainerLayer lib) :
    Prop :=
  oracle (.api (.nameToGuid (lib.widen layer.getName))) = .ok ⟨0, guid (lib.widen layer.getName)⟩

variable {guid : WString → Guid} {layers : List (ContainerLayer lib)}

theorem createAscendantDescriptors_named (hlayers : ∀ layer ∈ layers, Named oracle guid layer) :
    (createAscendantDescriptors layers).run.eval oracle =
      .ok (layers.map fun layer ↦ layer.descriptorWithId (guid (lib.widen layer.getName))) :=
  Fallible.eval_run_mapM fun layer hlayer ↦ toDescriptor_mapsTo (hlayers layer hlayer)

theorem containerConfig_toJson_named (hlib : lib.WritesGuids)
    (hlayers : ∀ layer ∈ layers, Named oracle guid layer) (config : NspawnConfig)
    (name volumePath : String) (ownLayer : ContainerLayer lib) (hostname : String) :
    let containerConfig := ContainerConfig.make config name volumePath ownLayer layers hostname
    containerConfig.toJson.run.eval oracle = .ok (containerConfig.jsonWithLayers
      (layers.map fun layer ↦ layer.jsonWithId (guidId (guid (lib.widen layer.getName))))) := by
  intro containerConfig
  have hwritten := Fallible.eval_run_mapM fun layer hlayer ↦
    toJson_mapsTo hlib (hlayers layer hlayer)
  rw [ContainerConfig.toJson, ContainerConfig.parentLayers_make, Fallible.eval_run_bind hwritten]
  rfl

/-- A descriptor and an entry of the `Layers` array describe the layer at a path. -/
def Describe (lib : Externals) (guid : WString → Guid) (path : String)
    (descriptor : WcLayerDescriptor) (entry : Json) : Prop :=
  entry.field? "Path" = some (.string path) ∧ descriptor.path = lib.widen path ∧
    descriptor.layerId = guid (lib.widen (lib.stripParentDir path)) ∧
    entry.field? "ID" = some (.string (guidId descriptor.layerId))

theorem describe_ofPath {path : String} (hpath : Splits lib path) :
    let layer := ofPath lib path
    Describe lib guid path (layer.descriptorWithId (guid (lib.widen layer.getName)))
      (layer.jsonWithId (guidId (guid (lib.widen layer.getName)))) := by
  refine ⟨?_, ?_, rfl, rfl⟩
  · rw [ContainerLayer.jsonWithId, getPath_ofPath hpath]
    rfl
  · rw [ContainerLayer.descriptorWithId, ContainerLayer.wpath_eq_widen_getPath,
      getPath_ofPath hpath]

variable (oracle) in
/-- The layers are at the parent directory and the paths of its `layerchain.json`, and where every
name has a GUID, the descriptors given to the storage driver and the entries given to the container
service describe them one by one. -/
theorem layer_lists_agree (hlib : lib.WritesGuids) (config : NspawnConfig) (strings : List String)
    (volumePath : String) (ownLayer : ContainerLayer lib) (hostname : String)
    (hsplits : ∀ path ∈ config.parentLayerDirectory :: strings, Splits lib path)
    (hload : oracle (.load (.file (lib.stripFilename config.parentLayerDirectory ++ "\\" ++
      lib.stripParentDir config.parentLayerDirectory ++ "\\layerchain.json"))) =
        .ok (.array (strings.map .string)))
    {text : String} (hdumps : oracle (.dumps (.array (strings.map .string))) = .ok text) :
    let basePath := lib.stripFilename config.parentLayerDirectory
    let parentLayerName := lib.stripParentDir config.parentLayerDirectory
    let paths := config.parentLayerDirectory :: strings
    ∃ layers, (collectAcsendantLayers lib basePath parentLayerName).run.eval oracle = .ok layers ∧
      layers.map ContainerLayer.getPath = paths ∧
      ∀ guid : WString → Guid, (∀ layer ∈ layers, Named oracle guid layer) →
        ∃ descriptors json entries,
          (createAscendantDescriptors layers).run.eval oracle = .ok descriptors ∧
          (ContainerConfig.make config basePath volumePath ownLayer layers
            hostname).toJson.run.eval oracle = .ok json ∧
          json.field? "Layers" = some (.array entries) ∧
          descriptors.length = strings.length + 1 ∧ entries.length = strings.length + 1 ∧
          ∀ (i : ℕ) path descriptor entry, paths[i]? = some path →
            descriptors[i]? = some descriptor → entries[i]? = some entry →
              Describe lib guid path descriptor entry := by
  intro basePath parentLayerName paths
  refine ⟨_, collectAcsendantLayers_paths hload hdumps, ?_, fun guid hnamed ↦ ?_⟩
  · have hpaths : ∀ path ∈ paths, (ofPath lib path).getPath = path :=
      fun path hpath ↦ getPath_ofPath (hsplits path hpath)
    calc (paths.map (ofPath lib)).map ContainerLayer.getPath
      _ = paths.map fun path ↦ (ofPath lib path).getPath := List.map_map
      _ = paths.map id := List.map_congr_left hpaths
      _ = paths := List.map_id paths
  refine ⟨_, _, _, createAscendantDescriptors_named hnamed,
    containerConfig_toJson_named hlib hnamed config basePath volumePath ownLayer hostname, rfl,
    by simp, by simp, fun i path descriptor entry hpath hdescriptor hentry ↦ ?_⟩
  rw [List.map_map, List.getElem?_map, hpath] at hdescriptor hentry
  cases hdescriptor
  cases hentry
  exact describe_ofPath (hsplits path (List.mem_of_getElem? hpath))

/-- An environment in which the parent layer has two ascendants. -/
def twoAscendants : (op : Op) → op.Reply
  | .load _ => .ok (.array [.string "C:\\layers\\mid", .string "D:/old/first"])
  | op => World.answers World.successCode op

theorem layer_lists_agree_two : ∃ layers : List (ContainerLayer Externals.ascii),
    layers.map ContainerLayer.getPath =
      ["C:\\layers\\base", "C:\\layers\\mid", "D:/old/first"] ∧
    ∃ descriptors, (createAscendantDescriptors layers).run.eval twoAscendants = .ok descriptors ∧
      descriptors.length = 3 := by
  obtain ⟨layers, -, hpaths, hlists⟩ := layer_lists_agree twoAscendants
    Externals.ascii_writesGuids World.someConfig ["C:\\layers\\mid", "D:/old/first"] ""
    (.make _ "" "") "host" (by decide) rfl rfl
  obtain ⟨descriptors, -, -, hdescriptors, -, -, hlength, -⟩ :=
    hlists (fun _ ↦ ⟨0, 0, 0, .replicate 8 0⟩) fun _ _ ↦ rfl
  exact ⟨layers, hpaths, descriptors, hdescriptors, hlength⟩

/-! ## The id text of a layer -/

/-- The text is the GUID in lower-case hexadecimal digits, and nothing else. -/
structure Faithful (guid : Guid) (text : String) : Prop where
  length : text.length = 36
  digits : ∀ c ∈ text.toList, c = '-' ∨ c ∈ "0123456789abcdef".toList
  noBrace : '{' ∉ text.toList ∧ '}' ∉ text.toList
  noNul : Char.ofNat 0 ∉ text.toList
  parse : parseGuid text = some guid

theorem faithful_guidId (guid : Guid) : Faithful guid (guidId guid) where
  length := by simp [guidId]
  digits _ := mem_guidId
  noBrace := ⟨fun h ↦ absurd (mem_guidId h) (by decide),
    fun h ↦ absurd (mem_guidId h) (by decide)⟩
  noNul h := absurd (mem_guidId h) (by decide)
  parse := parseGuid_guidId guid

/-- The text of an id is faithful to the GUID that its name is mapped to, so two layers have equal
texts if and only if their descriptors carry equal GUIDs. -/
theorem layer_id_text_faithful (hlib : lib.WritesGuids) :
    (∀ (oracle : (op : Op) → op.Reply) (id : ContainerId) (guid : Guid),
      MapsTo lib oracle id guid →
        ∃ text, (id.toId lib).run.eval oracle = .ok text ∧ Faithful guid text) ∧
    ∀ (oracle oracle' : (op : Op) → op.Reply) (layer layer' : ContainerLayer lib)
      (guid guid' : Guid), MapsTo lib oracle layer.id guid → MapsTo lib oracle' layer'.id guid' →
        ∃ json json' text text' descriptor descriptor',
          layer.toJson.run.eval oracle = .ok json ∧ json.field? "ID" = some (.string text) ∧
          layer'.toJson.run.eval oracle' = .ok json' ∧ json'.field? "ID" = some (.string text') ∧
          layer.toDescriptor.run.eval oracle = .ok descriptor ∧
          layer'.toDescriptor.run.eval oracle' = .ok descriptor' ∧
          (text = text' ↔ descriptor.layerId = descriptor'.layerId) := by
  constructor
  · intro oracle id guid hid
    exact ⟨_, toId_mapsTo hlib hid, faithful_guidId guid⟩
  · intro oracle oracle' layer layer' guid guid' hlayer hlayer'
    exact ⟨_, _, _, _, _, _, toJson_mapsTo hlib hlayer, rfl, toJson_mapsTo hlib hlayer', rfl,
      toDescriptor_mapsTo hlayer, toDescriptor_mapsTo hlayer', guidId_injective.eq_iff⟩

/-- An environment that derives GUIDs from the lengths of names. -/
def guidsByLength : (op : Op) → op.Reply
  | .api (.nameToGuid name) => .ok ⟨0, ⟨.ofNat name.length, 0xABCD, 1, .replicate 8 0xF0⟩⟩
  | op => World.answers World.successCode op

theorem layer_id_text_faithful_two :
    (∃ text, ((ContainerId.mk "base").toId Externals.ascii).run.eval guidsByLength = .ok text ∧
      parseGuid text = some ⟨4, 0xABCD, 1, .replicate 8 0xF0⟩) ∧
    ∃ json json' text text',
      (ContainerLayer.make Externals.ascii "C:\\" "base").toJson.run.eval guidsByLength = .ok json ∧
      (ContainerLayer.make Externals.ascii "C:\\" "other").toJson.run.eval guidsByLength =
        .ok json' ∧
      json.field? "ID" = some (.string text) ∧ json'.field? "ID" = some (.string text') ∧
      text ≠ text' := by
  obtain ⟨hid, hlayers⟩ := layer_id_text_faithful Externals.ascii_writesGuids
  constructor
  · obtain ⟨text, htext, hfaithful⟩ := hid guidsByLength ⟨"base"⟩ _ rfl
    exact ⟨text, htext, hfaithful.parse⟩
  · obtain ⟨json, json', text, text', descriptor, descriptor', hjson, hid, hjson', hid',
      hdescriptor, hdescriptor', htext⟩ := hlayers guidsByLength guidsByLength
        (.make _ "C:\\" "base") (.make _ "C:\\" "other") _ _ rfl rfl
    refine ⟨json, json', text, text', hjson, hjson', hid, hid', fun heq ↦ ?_⟩
    have hguids : descriptor.layerId ≠ descriptor'.layerId := by
      cases hdescriptor
      cases hdescriptor'
      decide
    exact hguids (htext.mp heq)

end Layers

end HostcomputeNspawn
