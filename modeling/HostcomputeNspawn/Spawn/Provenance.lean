import HostcomputeNspawn.Semantics.Growth
import HostcomputeNspawn.World

/-!
# Where the arguments of the calls come from

A run works with one configuration, read from the text that was passed, and with one list of
layers, the parent layer of that configuration and the chain that was read for it.  Every call to
the container service is made with what these and the calls before it have given.  The handles are
those that the service has returned.  The layer is created on the parent layer and the chain, in
their order, and it is activated and prepared with the same descriptors.  The ids in the descriptors
and in the configuration of the container are answers to the names of the layers, and the JSON texts
are what was written out for the configuration.  A call that takes something down is made on what
has been taken up.
-/

namespace HostcomputeNspawn

open Interaction Transition World ComputeSystem
open Fallible (Establishes)

namespace Provenance

variable {lib : Externals}

/-- The JSON value that was read from a source. -/
def read? (source : JsonSource) : MainEvent → Option Json
  | ⟨.load source', .ok json⟩ => if source' = source then some json else none
  | _ => none

/-- The JSON value that was first read from a source. -/
def firstRead (source : JsonSource) (past : List MainEvent) : Option Json :=
  past.findSome? (read? source)

/-- The configuration was read from the text. -/
def Configured (lib : Externals) (text : List UInt8) (config : NspawnConfig)
    (past : List MainEvent) : Prop :=
  ∃ json, firstRead (.text text) past = some json ∧ NspawnConfig.ofJson lib json = .ok config

/-- The value was written out as the text. -/
def Written (past : List MainEvent) (json : Json) (text : String) : Prop :=
  (⟨.dumps json, .ok text⟩ : MainEvent) ∈ past

/-- The file that lists the layers below the parent layer. -/
def layerChain (lib : Externals) (config : NspawnConfig) : String :=
  lib.stripFilename config.parentLayerDirectory ++ "\\" ++
    lib.stripParentDir config.parentLayerDirectory ++ "\\layerchain.json"

/-- The layers are the parent layer and those of the chain that was read for it. -/
def Collected (lib : Externals) (config : NspawnConfig) (layers : List (ContainerLayer lib))
    (past : List MainEvent) : Prop :=
  ∃ json ascendants, firstRead (.file (layerChain lib config)) past = some json ∧
    ascendantLayers lib (layerChain lib config) json = .ok ascendants ∧
    layers = ContainerLayer.make lib (lib.stripFilename config.parentLayerDirectory)
      (lib.stripParentDir config.parentLayerDirectory) :: ascendants

/-- What a run works with is known. -/
structure Known (lib : Externals) (text : List UInt8) (config : NspawnConfig)
    (layers : List (ContainerLayer lib)) (past : List MainEvent) : Prop where
  configured : Configured lib text config past
  collected : Collected lib config layers past

/-- The driver of a configuration. -/
def driver (lib : Externals) (config : NspawnConfig) : DriverInfo :=
  createDriverInfo (lib.widen (lib.stripFilename config.parentLayerDirectory))

/-- The descriptor is that of the layer, with the id that the service has derived from its name. -/
def Described (past : List MainEvent) (layer : ContainerLayer lib)
    (descriptor : WcLayerDescriptor) : Prop :=
  ∃ guid : Guid, descriptor = layer.descriptorWithId guid ∧
    returned (.nameToGuid (lib.widen layer.id.name)) 0 guid ∈ past

/-- The JSON value is that of the layer, with the text of the same id. -/
def Identified (past : List MainEvent) (layer : ContainerLayer lib) (json : Json) : Prop :=
  ∃ (guid : Guid) (text : String), json = layer.jsonWithId text ∧
    layer.id.idText lib guid = .ok text ∧
    returned (.nameToGuid (lib.widen layer.id.name)) 0 guid ∈ past

/-- The layer was created with these descriptors. -/
def LayerCreated (past : List MainEvent) (info : DriverInfo) (id : WString)
    (descriptors : List WcLayerDescriptor) : Prop :=
  ∃ parentId, returned (.createSandboxLayer info id parentId descriptors) 0 () ∈ past

def LayerActivated (past : List MainEvent) (info : DriverInfo) (id : WString) : Prop :=
  returned (.activateLayer info id) 0 () ∈ past

/-- The layer was prepared with the descriptors that it was created with. -/
def LayerPrepared (past : List MainEvent) (info : DriverInfo) (id : WString) : Prop :=
  ∃ descriptors, LayerCreated past info id descriptors ∧
    returned (.prepareLayer info id descriptors) 0 () ∈ past

/-- The text describes a container of the configuration with its layers, on the mounted volume of
its own prepared layer. -/
structure Mounted (lib : Externals) (config : NspawnConfig) (layers : List (ContainerLayer lib))
    (past : List MainEvent) (cont : ContainerConfig lib) (id configuration : WString) :
    Prop where
  nconf : cont.nconf = config
  parentLayers : cont.parentLayers = layers
  written : ∃ jsons text, List.Forall₂ (Identified past) layers jsons ∧
    Written past (cont.jsonWithLayers jsons) text ∧ configuration = lib.widen text
  own : id = lib.widen cont.ownLayer.getName
  prepared : LayerPrepared past (driver lib config) id
  volume : ∃ path, returned (.getLayerMountPath (driver lib config) id) 0 path ∈ past ∧
    cont.volumePath = lib.narrow path
  hostname : (⟨.generate 8, cont.hostname⟩ : MainEvent) ∈ past

/-- What a call is given by the configuration, the layers and the calls before it. -/
def Given (lib : Externals) (config : NspawnConfig) (layers : List (ContainerLayer lib))
    (past : List MainEvent) : ApiCall → Prop
  | .nameToGuid name => ∃ layer ∈ layers, name = lib.widen layer.id.name
  | .createSandboxLayer info _ parentId descriptors => info = driver lib config ∧
    parentId = lib.widen (lib.stripParentDir config.parentLayerDirectory) ∧
      List.Forall₂ (Described past) layers descriptors
  | .activateLayer info id => ∃ descriptors, LayerCreated past info id descriptors
  | .prepareLayer info id descriptors =>
    LayerCreated past info id descriptors ∧ LayerActivated past info id
  | .getLayerMountPath info id => LayerPrepared past info id
  | .hcsCreateComputeSystem id configuration =>
    ∃ cont, Mounted lib config layers past cont id configuration
  | .hcsRegisterComputeSystemCallback computeSystem => Created computeSystem past
  | .hcsStartComputeSystem computeSystem options =>
    Created computeSystem past ∧ Registered computeSystem past ∧ options = lib.widen ""
  | .hcsEnumerateComputeSystems query =>
    (∃ computeSystem, Started computeSystem past) ∧ query = lib.widen "{}"
  | .hcsCreateProcess computeSystem parameters => Started computeSystem past ∧
    ∃ text, Written past (ProcessConfig.toJson ⟨config⟩) text ∧ parameters = lib.widen text
  | .hcsRegisterProcessCallback process => ∃ computeSystem parameters,
    Started computeSystem past ∧
      returned (.hcsCreateProcess computeSystem parameters) 0 process ∈ past
  | .hcsTerminateComputeSystem computeSystem options =>
    Started computeSystem past ∧ options = lib.widen "{}"
  | .unprepareLayer info id => LayerPrepared past info id
  | .deactivateLayer info id => LayerActivated past info id
  | .destroyLayer info id => ∃ descriptors, LayerCreated past info id descriptors

/-- A call is made with what is known and what it is given. -/
structure Provided (lib : Externals) (text : List UInt8) (config : NspawnConfig)
    (layers : List (ContainerLayer lib)) (past : List MainEvent) (call : ApiCall) : Prop where
  known : Known lib text config layers past
  given : Given lib config layers past call

/-- Every call is made with what some configuration of the text gives. -/
def providedPre (lib : Externals) (text : List UInt8) (past : List MainEvent) : Op → Prop
  | .api call => ∃ config layers, Provided lib text config layers past call
  | _ => True

variable {text : List UInt8} {config : NspawnConfig} {layers : List (ContainerLayer lib)}
  {past past' : List MainEvent} {allowed : (op : Op) → op.Reply → Prop}

/-! ## What is known stays known -/

theorem firstRead_append (source : JsonSource) (first second : List MainEvent) :
    firstRead source (first ++ second) = (firstRead source first).or (firstRead source second) :=
  List.findSome?_append

theorem firstRead_mono {source : JsonSource} {json : Json}
    (h : firstRead source past = some json) (hpast : past <+: past') :
    firstRead source past' = some json := by
  obtain ⟨more, rfl⟩ := hpast
  rw [firstRead_append, h, Option.some_or]

theorem Configured.mono (h : Configured lib text config past) (hpast : past <+: past') :
    Configured lib text config past' :=
  h.imp fun _ h ↦ ⟨firstRead_mono h.1 hpast, h.2⟩

theorem Known.mono (h : Known lib text config layers past) (hpast : past <+: past') :
    Known lib text config layers past' where
  configured := h.configured.mono hpast
  collected := by
    obtain ⟨json, ascendants, hread, hlayers⟩ := h.collected
    exact ⟨json, ascendants, firstRead_mono hread hpast, hlayers⟩

/-- One past knows one configuration and one list of layers. -/
theorem Known.unique {config' : NspawnConfig} {layers' : List (ContainerLayer lib)}
    (h : Known lib text config layers past) (h' : Known lib text config' layers' past) :
    config = config' ∧ layers = layers' := by
  obtain ⟨⟨json, hread, hconfig⟩, chain, ascendants, hchain, hascendants, rfl⟩ := h
  obtain ⟨⟨json', hread', hconfig'⟩, chain', ascendants', hchain', hascendants', rfl⟩ := h'
  obtain rfl : json = json' := by simpa [hread] using hread'
  obtain rfl : config = config' := by simpa [hconfig] using hconfig'
  obtain rfl : chain = chain' := by simpa [hchain] using hchain'
  obtain rfl : ascendants = ascendants' := by simpa [hascendants] using hascendants'
  exact ⟨rfl, rfl⟩

theorem lasting_described (layer : ContainerLayer lib) :
    Lasting fun past descriptor ↦ Described past layer descriptor :=
  fun _ _ _ hpast h ↦ h.imp fun _ h ↦ ⟨h.1, hpast.subset h.2⟩

theorem lasting_identified (layer : ContainerLayer lib) :
    Lasting fun past json ↦ Identified past layer json :=
  fun _ _ _ hpast h ↦ h.imp fun _ ↦ Exists.imp fun _ h ↦ ⟨h.1, h.2.1, hpast.subset h.2.2⟩

theorem LayerCreated.mono {info : DriverInfo} {id : WString} {descriptors : List WcLayerDescriptor}
    (h : LayerCreated past info id descriptors) (hpast : past <+: past') :
    LayerCreated past' info id descriptors := h.imp fun _ hmem ↦ hpast.subset hmem

theorem LayerPrepared.mono {info : DriverInfo} {id : WString} (h : LayerPrepared past info id)
    (hpast : past <+: past') : LayerPrepared past' info id :=
  h.imp fun _ h ↦ ⟨h.1.mono hpast, hpast.subset h.2⟩

theorem Started.mono {computeSystem : Handle} (h : Started computeSystem past)
    (hpast : past <+: past') : Started computeSystem past' :=
  h.imp fun _ hmem ↦ hpast.subset hmem

theorem Created.mono {computeSystem : Handle} (h : Created computeSystem past)
    (hpast : past <+: past') : Created computeSystem past' :=
  h.imp fun _ ↦ Exists.imp fun _ hmem ↦ hpast.subset hmem

/-! ## The shapes of the functions -/

theorem establishes_perform {op : Op} (hop : providedPre lib text past op) :
    Establishes allowed (providedPre lib text) past (perform op) fun past' reply ↦
      (⟨op, reply⟩ : MainEvent) ∈ past' :=
  ⟨hop, fun reply _ a ha ↦ by cases ha; simp⟩

theorem establishes_ofExcept {α : Type} (result : Except StdException α) :
    Establishes allowed (providedPre lib text) past (ofExcept result) fun past' a ↦
      past' = past ∧ result = .ok a :=
  fun _ ha ↦ ⟨rfl, ha⟩

/-- What is read from a source for the first time is what is known of it, and of no other. -/
theorem establishes_load {source : JsonSource} (hnew : firstRead source past = none) :
    Establishes allowed (providedPre lib text) past (load source) fun past' json ↦
      firstRead source past' = some json ∧
        ∀ other, other ≠ source → firstRead other past' = firstRead other past := by
  refine wp_load trivial fun reply _ json hreply ↦ ?_
  subst hreply
  refine ⟨?_, fun other hother ↦ ?_⟩
  · rw [firstRead_append, hnew]
    simp [firstRead, read?]
  · rw [firstRead_append]
    simp [firstRead, read?, hother.symm]

/-- Nothing is read by writing. -/
theorem establishes_dumps (json : Json) :
    Establishes allowed (providedPre lib text) past (dumps json) fun past' written ↦
      Written past' json written ∧ ∀ source, firstRead source past' = firstRead source past := by
  refine wp_dumps trivial fun reply _ written hreply ↦ ?_
  subst hreply
  refine ⟨by simp [Written], fun source ↦ ?_⟩
  rw [firstRead_append]
  simp [firstRead, read?]

theorem establishes_checked (hknown : Known lib text config layers past) (call : ApiCall)
    (hcall : Given lib config layers past call) (expected : UInt32) (message : UInt32 → String) :
    Establishes allowed (providedPre lib text) past (checked lib call expected message)
      fun past' out ↦ returned call expected out ∈ past' := by
  refine wp_checked ⟨config, layers, hknown, hcall⟩ (fun _ _ ↦ nofun) (fun _ _ _ _ ↦ nofun)
    fun out _ a ha ↦ ?_
  cases ha
  simp

theorem establishes_latched (hknown : Known lib text config layers past) {call : ApiCall}
    (hcall : ∀ past', past <+: past' → Given lib config layers past' call) (expected : UInt32)
    (message : UInt32 → String) {nt : NotificationType} {x : CallbackLatch.Slot}
    (hslot : CallbackLatch.slot nt = some x) :
    Establishes allowed (providedPre lib text) past (latched lib call expected message nt)
      fun past' out ↦ returned call expected out ∈ past' := by
  have hlocked : past <+: past ++ [finished .lock] := List.prefix_append _ _
  refine wp_latched hslot trivial ⟨config, layers, hknown.mono hlocked, hcall _ hlocked⟩
    (fun _ _ ↦ nofun) (fun _ _ _ _ ↦ ⟨trivial, nofun⟩) fun out _ ↦ ⟨trivial, fun a ha ↦ ?_⟩
  cases ha
  simp

theorem cleanup_provided (hknown : Known lib text config layers past) (call : ApiCall)
    (hcall : Given lib config layers past call) (message : UInt32 → String) :
    (cleanup lib call message).wp allowed (providedPre lib text) past fun _ _ ↦ True :=
  wp_cleanup ⟨config, layers, hknown, hcall⟩ (fun _ _ ↦ ⟨trivial, fun _ _ ↦ trivial⟩)
    (fun _ _ ↦ trivial) fun _ _ _ _ ↦ ⟨trivial, trivial⟩

/-! ## The functions -/

theorem toGuid_provenance (hknown : Known lib text config layers past)
    {layer : ContainerLayer lib} (hlayer : layer ∈ layers) :
    Establishes allowed (providedPre lib text) past (layer.id.toGuid lib) fun past' guid ↦
      returned (.nameToGuid (lib.widen layer.id.name)) 0 guid ∈ past' :=
  establishes_checked hknown (.nameToGuid (lib.widen layer.id.name)) ⟨layer, hlayer, rfl⟩ 0 _

theorem toDescriptor_provenance (hknown : Known lib text config layers past)
    {layer : ContainerLayer lib} (hlayer : layer ∈ layers) :
    Establishes allowed (providedPre lib text) past layer.toDescriptor fun past' descriptor ↦
      Described past' layer descriptor := by
  apply (toGuid_provenance hknown hlayer).bind
  intro past₁ guid _ hguid
  exact Fallible.establishes_pure ⟨guid, rfl, hguid⟩

theorem createAscendantDescriptors_provenance (hknown : Known lib text config layers past) :
    Establishes allowed (providedPre lib text) past (createAscendantDescriptors layers)
      fun past' descriptors ↦ List.Forall₂ (Described past') layers descriptors :=
  Fallible.establishes_mapM lasting_described fun _ _ hlayer hpast ↦
    toDescriptor_provenance (hknown.mono hpast) hlayer

theorem containerLayer_toJson_provenance (hknown : Known lib text config layers past)
    {layer : ContainerLayer lib} (hlayer : layer ∈ layers) :
    Establishes allowed (providedPre lib text) past layer.toJson fun past' json ↦
      Identified past' layer json := by
  have hid : Establishes allowed (providedPre lib text) past (layer.id.toId lib)
      fun past' id ↦ Identified past' layer (layer.jsonWithId id) := by
    apply (toGuid_provenance hknown hlayer).bind
    intro past₁ guid _ hguid
    exact fun id hid ↦ ⟨guid, id, rfl, hid, hguid⟩
  apply hid.bind
  exact fun _ _ _ hid ↦ Fallible.establishes_pure hid

theorem containerConfig_toJson_provenance (hknown : Known lib text config layers past)
    {cont : ContainerConfig lib} (hlayers : cont.parentLayers = layers) :
    Establishes allowed (providedPre lib text) past cont.toJson fun past' json ↦
      ∃ jsons, List.Forall₂ (Identified past') layers jsons ∧ json = cont.jsonWithLayers jsons := by
  subst hlayers
  have hjsons : Establishes allowed (providedPre lib text) past
      (cont.parentLayers.mapM ContainerLayer.toJson) fun past' jsons ↦
        List.Forall₂ (Identified past') cont.parentLayers jsons :=
    Fallible.establishes_mapM lasting_identified fun _ _ hlayer hpast ↦
      containerLayer_toJson_provenance (hknown.mono hpast) hlayer
  apply hjsons.bind
  exact fun _ jsons _ hjsons ↦ Fallible.establishes_pure ⟨jsons, hjsons, rfl⟩

theorem collectAcsendantLayers_provenance (config : NspawnConfig)
    (hnew : firstRead (.file (layerChain lib config)) past = none) :
    Establishes allowed (providedPre lib text) past (collectAcsendantLayers lib
      (lib.stripFilename config.parentLayerDirectory)
      (lib.stripParentDir config.parentLayerDirectory)) fun past' layers ↦
        Collected lib config layers past' := by
  apply (establishes_load hnew).bind
  intro past₁ json _ hread
  apply (establishes_dumps json).bind
  intro past₂ _ hpast₂ _
  apply (establishes_ofExcept _).bind
  intro past₃ ascendants hpast₃ hascendants
  exact Fallible.establishes_pure ⟨json, ascendants,
    firstRead_mono hread.1 (hpast₂.trans hpast₃), hascendants.2, rfl⟩

theorem hcsEnumerateComputeSystems_provenance (hknown : Known lib text config layers past)
    (hstarted : ∃ computeSystem, Started computeSystem past) :
    Establishes allowed (providedPre lib text) past (hcsEnumerateComputeSystems lib)
      fun _ _ ↦ True := by
  apply (establishes_checked hknown (.hcsEnumerateComputeSystems (lib.widen "{}"))
    ⟨hstarted, rfl⟩ 0 _).bind
  exact fun _ _ _ _ ↦ Fallible.establishes_pure trivial

theorem hcsCreateProcess_provenance (hknown : Known lib text config layers past)
    {computeSystem : Handle} (hstarted : Started computeSystem past) :
    Establishes allowed (providedPre lib text) past (hcsCreateProcess lib computeSystem config)
      fun past' process ↦ ∃ parameters,
        returned (.hcsCreateProcess computeSystem parameters) 0 process ∈ past' := by
  apply (establishes_dumps _).bind
  intro past₁ written hpast₁ hwritten
  have hgiven : Given lib config layers past₁
      (.hcsCreateProcess computeSystem (lib.widen written)) :=
    ⟨Started.mono hstarted hpast₁, written, hwritten.1, rfl⟩
  exact (establishes_checked (hknown.mono hpast₁) _ hgiven 0 _).mono fun _ _ hmem ↦ ⟨_, hmem⟩

theorem runProcess_provenance (hknown : Known lib text config layers past)
    (layer : ContainerLayer lib) {computeSystem : Handle} (hstarted : Started computeSystem past) :
    Establishes allowed (providedPre lib text) past (runProcess config layer computeSystem)
      fun _ _ ↦ True := by
  apply (hcsEnumerateComputeSystems_provenance hknown ⟨computeSystem, hstarted⟩).bind
  intro past₁ _ hpast₁ _
  have hstarted₁ := Started.mono hstarted hpast₁
  apply (hcsCreateProcess_provenance (hknown.mono hpast₁) hstarted₁).bind
  intro past₂ process hpast₂ hprocess
  have hregister : ∀ past', past₂ <+: past' →
      Given lib config layers past' (.hcsRegisterProcessCallback process) := by
    intro past' hpast'
    obtain ⟨parameters, hmem⟩ := hprocess
    exact ⟨computeSystem, parameters, Started.mono hstarted₁ (hpast₂.trans hpast'),
      hpast'.subset hmem⟩
  exact (establishes_latched (hknown.mono (hpast₁.trans hpast₂)) hregister 0 _
    (x := .processExit) rfl).mono fun _ _ _ ↦ trivial

theorem hcsTerminateComputeSystem_provenance (hknown : Known lib text config layers past)
    (layer : ContainerLayer lib) {computeSystem : Handle} (hstarted : Started computeSystem past) :
    (hcsTerminateComputeSystem computeSystem layer).wp allowed (providedPre lib text) past
      fun _ _ ↦ True := by
  have hlocked : past <+: past ++ [finished .lock] := List.prefix_append _ _
  exact wp_hcsTerminateComputeSystem trivial
    ⟨config, layers, hknown.mono hlocked, Started.mono hstarted hlocked, rfl⟩
    (fun _ _ ↦ ⟨trivial, fun _ _ ↦ trivial⟩) (fun _ _ _ ↦ ⟨trivial, trivial, trivial⟩)
    fun _ ↦ ⟨trivial, trivial⟩

theorem runContainer_provenance (hknown : Known lib text config layers past)
    (layer : ContainerLayer lib) {computeSystem : Handle} (hcreated : Created computeSystem past) :
    Establishes allowed (providedPre lib text) past (runContainer config layer computeSystem)
      fun _ _ ↦ True := by
  have hconstruct : providedPre lib text past .constructLatch := trivial
  apply (establishes_perform hconstruct).bind
  intro past₁ _ hpast₁ _
  refine Establishes.defer (fun _ _ _ _ _ ↦ trivial) ?_ fun _ _ ↦
    ⟨trivial, fun _ _ ↦ trivial⟩
  have hregister : ∀ past', past₁ <+: past' →
      Given lib config layers past' (.hcsRegisterComputeSystemCallback computeSystem) :=
    fun past' hpast' ↦ Created.mono hcreated (hpast₁.trans hpast')
  apply (establishes_latched (hknown.mono hpast₁) hregister 0 _ (x := .systemCreate) rfl).bind
  intro past₂ _ hpast₂ hregistered
  have hpast : past <+: past₂ := hpast₁.trans hpast₂
  have hstart : ∀ past', past₂ <+: past' → Given lib config layers past'
      (.hcsStartComputeSystem computeSystem (lib.widen "")) := fun past' hpast' ↦
    ⟨Created.mono hcreated (hpast.trans hpast'), hpast'.subset hregistered, rfl⟩
  apply (establishes_latched (hknown.mono hpast) hstart operationPending _
    (x := .systemStart) rfl).bind
  intro past₃ _ hpast₃ hstarted
  have hknown₃ := hknown.mono (hpast.trans hpast₃)
  apply Establishes.defer (fun _ _ _ _ _ ↦ trivial)
  · exact runProcess_provenance hknown₃ layer ⟨_, hstarted⟩
  · exact fun past' hpast' ↦ hcsTerminateComputeSystem_provenance (hknown₃.mono hpast') layer
      ⟨_, hpast'.subset hstarted⟩

theorem hcsGetLayerMountPath_provenance (hknown : Known lib text config layers past)
    {info : DriverInfo} {layer : ContainerLayer lib}
    (hprepared : LayerPrepared past info (lib.widen layer.getName)) :
    Establishes allowed (providedPre lib text) past (hcsGetLayerMountPath info layer)
      fun past' volumePath ↦ ∃ path, volumePath = lib.narrow path ∧
        returned (.getLayerMountPath info (lib.widen layer.getName)) 0 path ∈ past' := by
  apply (establishes_checked hknown
    (.getLayerMountPath info (lib.widen layer.getName)) hprepared 0 _).bind
  exact fun _ path _ hmem ↦ Fallible.establishes_pure ⟨path, rfl, hmem⟩

/-- The configuration that is submitted is that of its own mounted layer. -/
theorem hcsCreateComputeSystem_provenance (hknown : Known lib text config layers past)
    {cont : ContainerConfig lib} {layer : ContainerLayer lib} {path : WString}
    (hnconf : cont.nconf = config) (hlayers : cont.parentLayers = layers)
    (hown : cont.ownLayer.getName = layer.getName)
    (hprepared : LayerPrepared past (driver lib config) (lib.widen layer.getName))
    (hmounted :
      returned (.getLayerMountPath (driver lib config) (lib.widen layer.getName)) 0 path ∈ past)
    (hpath : cont.volumePath = lib.narrow path)
    (hhostname : (⟨.generate 8, cont.hostname⟩ : MainEvent) ∈ past) :
    Establishes allowed (providedPre lib text) past (hcsCreateComputeSystem cont layer)
      fun past' computeSystem ↦ Created computeSystem past' := by
  apply (containerConfig_toJson_provenance hknown hlayers).bind
  intro past₁ json hpast₁ hjson
  obtain ⟨jsons, hjsons, rfl⟩ := hjson
  apply (establishes_dumps _).bind
  intro past₂ written hpast₂ hwritten
  have hpast := hpast₁.trans hpast₂
  have hidentified : List.Forall₂ (Identified past₂) layers jsons :=
    hjsons.imp fun layer _ h ↦ lasting_identified layer hpast₂ h
  have hgiven : Given lib config layers past₂
      (.hcsCreateComputeSystem (lib.widen layer.getName) (lib.widen written)) :=
    ⟨cont, {
      nconf := hnconf
      parentLayers := hlayers
      written := ⟨jsons, written, hidentified, hwritten.1, rfl⟩
      own := by rw [hown]
      prepared := hprepared.mono hpast
      volume := ⟨path, hpast.subset hmounted, hpath⟩
      hostname := hpast.subset hhostname }⟩
  exact (establishes_checked (hknown.mono hpast) _ hgiven operationPending _).mono
    fun _ _ hmem ↦ ⟨_, _, hmem⟩

theorem runPrepared_provenance (hknown : Known lib text config layers past) (basePath : String)
    (layer : ContainerLayer lib)
    (hprepared : LayerPrepared past (driver lib config) (lib.widen layer.getName)) :
    Establishes allowed (providedPre lib text) past
      (runPrepared config basePath (driver lib config) layers layer) fun _ _ ↦ True := by
  apply (hcsGetLayerMountPath_provenance hknown hprepared).bind
  intro past₁ volumePath hpast₁ hvolume
  obtain ⟨path, hpath, hmounted⟩ := hvolume
  have hgenerate : providedPre lib text past₁ (.generate 8) := trivial
  apply (establishes_perform hgenerate).bind
  intro past₂ hostname hpast₂ hhostname
  let contConf := ContainerConfig.make config basePath volumePath layer.clone layers hostname
  have hlayers : contConf.parentLayers = layers := ContainerConfig.parentLayers_make ..
  have hown : contConf.ownLayer.getName = layer.getName := by simp [contConf, ContainerConfig.make]
  apply (containerConfig_toJson_provenance (hknown.mono (hpast₁.trans hpast₂)) hlayers).bind
  intro past₃ contJson hpast₃ _
  apply (establishes_dumps contJson).bind
  intro past₄ _ hpast₄ _
  have hmounting : past₁ <+: past₄ := (hpast₂.trans hpast₃).trans hpast₄
  have hpast : past <+: past₄ := hpast₁.trans hmounting
  apply (hcsCreateComputeSystem_provenance (hknown.mono hpast) rfl hlayers hown
    (hprepared.mono hpast) (hmounting.subset hmounted) hpath
    ((hpast₃.trans hpast₄).subset hhostname)).bind
  intro past₅ computeSystem hpast₅ hcreated
  exact runContainer_provenance (hknown.mono (hpast.trans hpast₅)) layer hcreated

theorem runLayer_provenance (hknown : Known lib text config layers past) (basePath : String)
    (layer : ContainerLayer lib) {descriptors : List WcLayerDescriptor}
    (hdescribed : List.Forall₂ (Described past) layers descriptors) :
    Establishes allowed (providedPre lib text) past
      (runLayer config basePath (lib.stripParentDir config.parentLayerDirectory)
        (driver lib config) layers descriptors layer) fun _ _ ↦ True := by
  let info := driver lib config
  let id := lib.widen layer.getName
  have hcreate : Given lib config layers past (.createSandboxLayer info id
      (lib.widen (lib.stripParentDir config.parentLayerDirectory)) descriptors) :=
    ⟨rfl, rfl, hdescribed⟩
  apply (establishes_checked hknown _ hcreate 0 _).bind
  intro past₁ _ hpast₁ hmem
  have hknown₁ := hknown.mono hpast₁
  have hcreated : LayerCreated past₁ info id descriptors := ⟨_, hmem⟩
  refine Establishes.defer (fun _ _ _ _ _ ↦ trivial) ?_ fun past' hpast' ↦
    cleanup_provided (hknown₁.mono hpast') (.destroyLayer info id)
      ⟨descriptors, hcreated.mono hpast'⟩ _
  apply (establishes_checked hknown₁ (.activateLayer info id) ⟨descriptors, hcreated⟩
    0 _).bind
  intro past₂ _ hpast₂ hactivated
  have hknown₂ := hknown₁.mono hpast₂
  refine Establishes.defer (fun _ _ _ _ _ ↦ trivial) ?_ fun past' hpast' ↦
    cleanup_provided (hknown₂.mono hpast') (.deactivateLayer info id)
      (hpast'.subset hactivated) _
  apply (establishes_checked hknown₂ (.prepareLayer info id descriptors)
    ⟨hcreated.mono hpast₂, hactivated⟩ 0 _).bind
  intro past₃ _ hpast₃ hmem'
  have hknown₃ := hknown₂.mono hpast₃
  have hprepared : LayerPrepared past₃ info id :=
    ⟨descriptors, hcreated.mono (hpast₂.trans hpast₃), hmem'⟩
  refine Establishes.defer (fun _ _ _ _ _ ↦ trivial) ?_ fun past' hpast' ↦
    cleanup_provided (hknown₃.mono hpast') (.unprepareLayer info id)
      (hprepared.mono hpast') _
  exact runPrepared_provenance hknown₃ basePath layer hprepared

theorem spawnAndWait_provenance (hconfigured : Configured lib text config past)
    (hnew : firstRead (.file (layerChain lib config)) past = none) :
    Establishes allowed (providedPre lib text) past (spawnAndWait lib config) fun _ _ ↦ True := by
  apply (establishes_dumps _).bind
  intro past₁ _ hpast₁ hdumped
  apply (collectAcsendantLayers_provenance config ((hdumped.2 _).trans hnew)).bind
  intro past₂ layers hpast₂ hcollected
  have hknown₂ : Known lib text config layers past₂ :=
    ⟨hconfigured.mono (hpast₁.trans hpast₂), hcollected⟩
  apply (createAscendantDescriptors_provenance hknown₂).bind
  intro past₃ descriptors hpast₃ hdescribed
  have hdatetime : providedPre lib text past₃ .currentDatetime := trivial
  apply (establishes_perform hdatetime).bind
  intro past₄ datetime hpast₄ _
  have hgenerate : providedPre lib text past₄ (.generate 26) := trivial
  apply (establishes_perform hgenerate).bind
  intro past₅ suffix hpast₅ _
  have hpast : past₃ <+: past₅ := hpast₄.trans hpast₅
  exact runLayer_provenance (hknown₂.mono (hpast₃.trans hpast)) _ _
    (hdescribed.imp fun layer _ h ↦ lasting_described layer hpast h)

theorem parseAndSpawn_provenance (text : List UInt8) :
    Establishes allowed (providedPre lib text) [] (parseAndSpawn lib text) fun _ _ ↦ True := by
  have hnew : firstRead (.text text) [] = none := rfl
  apply (establishes_load hnew).bind
  intro past₁ json _ hread
  apply (establishes_ofExcept (NspawnConfig.ofJson lib json)).bind
  rintro past₂ config hpast₂ ⟨rfl, hconfig⟩
  exact spawnAndWait_provenance ⟨json, hread.1, hconfig⟩ (hread.2 _ nofun)

/-- The bytes that `hostcompute_nspawn` is told to read. -/
def passedText (configJson : Option (List UInt8)) (configJsonLen : Int32) : List UInt8 :=
  (configJson.getD []).take configJsonLen.toInt.toNat

theorem hostcomputeNspawn_provenance (configJson : Option (List UInt8)) (configJsonLen : Int32) :
    (hostcomputeNspawn lib configJson configJsonLen).wp allowed
      (providedPre lib (passedText configJson configJsonLen)) [] fun _ _ ↦ True := by
  unfold hostcomputeNspawn
  cases configJson with
  | none => trivial
  | some bytes =>
    simp only
    split
    · trivial
    · apply (Program.wp_bind _ _).mpr
      apply Program.wp_mono _ (parseAndSpawn_provenance _)
      intro past' result _
      cases result with
      | ok _ => trivial
      | error _ => trivial

/-- Every run, whatever the service answers and whichever callbacks arrive, has one configuration,
read from the passed text, and one list of layers, read for that configuration, and calls each
export with what these and the calls before it have given. -/
theorem arguments_provided (lib : Externals) (configJson : Option (List UInt8))
    (configJsonLen : Int32) {labels : List World.Label} {w : World (Option String)}
    (hrun : (system _).Run (start (hostcomputeNspawn lib configJson configJsonLen)) labels w) :
    ∃ config layers, ∀ i call reply, labels[i]? = some (.call (.api call) reply) →
      Provided lib (passedText configJson configJsonLen) config layers
        (mainEvents (labels.take i)) call := by
  let text := passedText configJson configJsonLen
  have hwp : (hostcomputeNspawn lib configJson configJsonLen).wp (fun _ _ ↦ True)
      (providedPre lib text) [] fun _ _ ↦ True := hostcomputeNspawn_provenance _ _
  have hprovided {i : ℕ} {call : ApiCall} {reply : ApiReply call}
      (hi : labels[i]? = some (.call (.api call) reply)) : ∃ config layers,
        Provided lib text config layers (mainEvents (labels.take i)) call :=
    pre_of_run hrun (fun _ _ ↦ trivial) hwp hi
  have hpast (i : ℕ) : mainEvents (labels.take i) <+: mainEvents labels := by
    conv_rhs => rw [← List.take_append_drop i labels, mainEvents_append]
    exact List.prefix_append _ _
  by_cases hknown : ∃ config layers, Known lib text config layers (mainEvents labels)
  · obtain ⟨config, layers, hknown⟩ := hknown
    refine ⟨config, layers, fun i call reply hi ↦ ?_⟩
    -- what was known at the call is what is known in the end
    obtain ⟨config', layers', hcall⟩ := hprovided hi
    obtain ⟨rfl, rfl⟩ := hknown.unique (hcall.known.mono (hpast i))
    exact hcall
  · refine ⟨{}, [], fun i call reply hi ↦ ?_⟩
    obtain ⟨config, layers, hcall⟩ := hprovided hi
    exact absurd ⟨config, layers, hcall.known.mono (hpast i)⟩ hknown

set_option maxRecDepth 1000 in
theorem arguments_provided_run : ∃ labels latch config layers cont id configuration,
    (system _).Run (start (hostcomputeNspawn Externals.ascii (some []) 1)) labels
      ⟨.ret none, latch⟩ ∧
    Mounted Externals.ascii config layers (mainEvents (labels.take 16)) cont id configuration := by
  have hrun := run_of_choices (w := start (hostcomputeNspawn Externals.ascii (some []) 1))
    (.loaded :: Choice.untilExit 0 ++ Choice.unwind) rfl
  obtain ⟨config, layers, hprovided⟩ := arguments_provided _ _ _ hrun
  obtain ⟨cont, hmounted⟩ := (hprovided 16 (.hcsCreateComputeSystem _ _) _ rfl).given
  exact ⟨_, _, config, layers, cont, _, _, hrun, hmounted⟩

end Provenance

end HostcomputeNspawn
