import HostcomputeNspawn.ContainerConfig

/-!
# Spawning a container and waiting for it

The functions of `hostcompute_nspawn.cpp`.  `spawn_and_wait` is one scope with a guard behind every
acquired resource: the guards run in reverse order when the rest of the scope returns and when it
throws.  The latch is a local of the same scope, so it is destroyed after the guard that terminates
the compute system and before the guards of the layer.

What is printed to `std::cout` is left out.
-/

namespace HostcomputeNspawn

open Interaction
open Fallible (defer)

def createDriverInfo (wideBasePath : WString) : DriverInfo where
  flavour := .filterDriver
  homeDir := wideBasePath

section

variable (lib : Externals)

/-- The layers of a `layerchain.json`: every element is a path to split. -/
def ascendantLayers (jsonFile : String) (json : Json) :
    Except StdException (List (ContainerLayer lib)) := do
  let elements ← lib.json.asArrayOrThrow json jsonFile
  elements.mapM fun el ↦ do
    let path ← lib.json.asStringOrThrow el jsonFile
    return ContainerLayer.make lib (lib.stripFilename path) (lib.stripParentDir path)

def collectAcsendantLayers (basePath parentLayerName : String) :
    Nspawn (List (ContainerLayer lib)) := do
  let parent := ContainerLayer.make lib basePath parentLayerName
  let jsonFile := basePath ++ "\\" ++ parentLayerName ++ "\\layerchain.json"
  let json ← load (.file jsonFile)
  let _ ← dumps json
  let ascendants ← ofExcept (ascendantLayers lib jsonFile json)
  return parent :: ascendants

variable {lib}

def createAscendantDescriptors (acsendantLayers : List (ContainerLayer lib)) :
    Nspawn (List WcLayerDescriptor) :=
  acsendantLayers.mapM ContainerLayer.toDescriptor

/-! ## The sandbox layer -/

def hcsCreateLayer (driverInfo : DriverInfo) (layer : ContainerLayer lib)
    (parentLayerName : String) (acsendantDescriptors : List WcLayerDescriptor) : Nspawn Unit :=
  checked lib (.createSandboxLayer driverInfo (lib.widen layer.getName)
      (lib.widen parentLayerName) acsendantDescriptors) 0 fun err ↦
    lib.traceMsg .hcsCreateLayer ("'CreateSandboxLayer' failed," ++
      " layer_name: [" ++ layer.getName ++ "]," ++
      " parent_layer_name: [" ++ parentLayerName ++ "]," ++
      " error: [" ++ lib.errcodeToString err ++ "]")

def hcsActivateLayer (driverInfo : DriverInfo) (layer : ContainerLayer lib) : Nspawn Unit :=
  checked lib (.activateLayer driverInfo (lib.widen layer.getName)) 0 fun err ↦
    lib.traceMsg .hcsActivateLayer ("'ActivateLayer' failed," ++
      " layer_name: [" ++ layer.getName ++ "]," ++
      " error: [" ++ lib.errcodeToString err ++ "]")

def hcsPrepareLayer (driverInfo : DriverInfo) (layer : ContainerLayer lib)
    (acsendantDescriptors : List WcLayerDescriptor) : Nspawn Unit :=
  checked lib (.prepareLayer driverInfo (lib.widen layer.getName) acsendantDescriptors) 0 fun err ↦
    lib.traceMsg .hcsPrepareLayer ("'PrepareLayer' failed," ++
      " layer_name: [" ++ layer.getName ++ "]," ++
      " error: [" ++ lib.errcodeToString err ++ "]")

def hcsGetLayerMountPath (driverInfo : DriverInfo) (layer : ContainerLayer lib) :
    Nspawn String := do
  let path ← checked lib (.getLayerMountPath driverInfo (lib.widen layer.getName)) 0 fun err ↦
    lib.traceMsg .hcsGetLayerMountPath ("'GetLayerMountPath' failed," ++
      " layer_name: [" ++ layer.getName ++ "]," ++
      " error: [" ++ lib.errcodeToString err ++ "]")
  return lib.narrow path

def hcsUnprepareLayer (driverInfo : DriverInfo) (layer : ContainerLayer lib) : Prog Unit :=
  cleanup lib (.unprepareLayer driverInfo (lib.widen layer.getName)) fun res ↦
    "ERROR: 'UnprepareLayer' failed, name: [" ++ layer.getName ++ "]" ++
      " error: [" ++ lib.errcodeToString res ++ "]"

def hcsDeactivateLayer (driverInfo : DriverInfo) (layer : ContainerLayer lib) : Prog Unit :=
  cleanup lib (.deactivateLayer driverInfo (lib.widen layer.getName)) fun res ↦
    "ERROR: 'DeactivateLayer' failed, name: [" ++ layer.getName ++ "]" ++
      " error: [" ++ lib.errcodeToString res ++ "]"

def hcsDestroyLayer (driverInfo : DriverInfo) (layer : ContainerLayer lib) : Prog Unit :=
  cleanup lib (.destroyLayer driverInfo (lib.widen layer.getName)) fun res ↦
    "ERROR: 'DestroyLayer' failed, name: [" ++ layer.getName ++ "]" ++
      " error: [" ++ lib.errcodeToString res ++ "]"

/-! ## The compute system -/

def hcsCreateComputeSystem (config : ContainerConfig lib) (layer : ContainerLayer lib) :
    Nspawn Handle := do
  let json ← config.toJson
  let conf ← dumps json
  checked lib (.hcsCreateComputeSystem (lib.widen layer.getName) (lib.widen conf))
    operationPending fun res ↦
      lib.traceMsg .hcsCreateComputeSystem ("'HcsCreateComputeSystem' failed," ++
        " config: [" ++ conf ++ "]," ++
        " error: [" ++ lib.errcodeToString res ++ "]")

def hcsRegisterComputeSystemCallback (computeSystem : Handle) (layer : ContainerLayer lib) :
    Nspawn Unit :=
  latched lib (.hcsRegisterComputeSystemCallback computeSystem) 0 (fun res ↦
    lib.traceMsg .hcsRegisterComputeSystemCallback
      ("'HcsRegisterComputeSystemCallback' failed," ++
        " name: [" ++ layer.getName ++ "]," ++
        " error: [" ++ lib.errcodeToString res ++ "]")) .systemCreateComplete

variable (lib) in
def hcsStartComputeSystem (computeSystem : Handle) : Nspawn Unit :=
  latched lib (.hcsStartComputeSystem computeSystem (lib.widen "")) operationPending (fun res ↦
    lib.traceMsg .hcsStartComputeSystem ("'HcsStartComputeSystem' failed," ++
      " error: [" ++ lib.errcodeToString res ++ "]")) .systemStartComplete

variable (lib) in
def hcsEnumerateComputeSystems : Nspawn Unit := do
  let _ ← checked lib (.hcsEnumerateComputeSystems (lib.widen "{}")) 0 fun res ↦
    lib.traceMsg .hcsEnumerateComputeSystems ("'HcsEnumerateComputeSystems' failed," ++
      " error: [" ++ lib.errcodeToString res ++ "]")

variable (lib) in
def hcsCreateProcess (computeSystem : Handle) (config : NspawnConfig) : Nspawn Handle := do
  let pcfgJson ← dumps (ProcessConfig.toJson ⟨config⟩)
  checked lib (.hcsCreateProcess computeSystem (lib.widen pcfgJson)) 0 fun res ↦
    lib.traceMsg .hcsCreateProcess ("'HcsCreateProcess' failed," ++
      " config: [" ++ pcfgJson ++ "]," ++
      " error: [" ++ lib.errcodeToString res ++ "]")

def hcsRegisterProcessCallback (process : Handle) (layer : ContainerLayer lib) : Nspawn Unit :=
  latched lib (.hcsRegisterProcessCallback process) 0 (fun res ↦
    lib.traceMsg .hcsRegisterProcessCallback ("'HcsRegisterProcessCallback' failed," ++
      " name: [" ++ layer.getName ++ "]," ++
      " error: [" ++ lib.errcodeToString res ++ "]")) .processExit

def hcsTerminateComputeSystem (computeSystem : Handle) (layer : ContainerLayer lib) : Prog Unit :=
  noexcept do
    CallbackLatch.lock
    let result ← vmcompute lib (.hcsTerminateComputeSystem computeSystem (lib.widen "{}"))
    if result.code = operationPending then
      CallbackLatch.await lib .systemExit
    else
      CallbackLatch.cancel
      cerr ("ERROR: 'HcsTerminateComputeSystem' failed, name: [" ++ layer.getName ++ "]" ++
        " error: [" ++ lib.errcodeToString result.code ++ "]")

/-! ## The scope of `spawn_and_wait` -/

/-- A container that is running: list the existing containers, create the process and wait for it
to exit. -/
def runProcess (config : NspawnConfig) (layer : ContainerLayer lib) (computeSystem : Handle) :
    Nspawn Unit := do
  hcsEnumerateComputeSystems lib
  let process ← hcsCreateProcess lib computeSystem config
  hcsRegisterProcessCallback process layer

/-- The scope of the latch: register the callback, wait for the container to start, and run the
process under the guard that terminates the container. -/
def runContainer (config : NspawnConfig) (layer : ContainerLayer lib) (computeSystem : Handle) :
    Nspawn Unit := do
  perform .constructLatch
  defer (Program.perform Op.destroyLatch) do
    hcsRegisterComputeSystemCallback computeSystem layer
    hcsStartComputeSystem lib computeSystem
    defer (hcsTerminateComputeSystem computeSystem layer) do
      runProcess config layer computeSystem

/-- The scope of the prepared layer: create the container on it and run it. -/
def runPrepared (config : NspawnConfig) (basePath : String) (driverInfo : DriverInfo)
    (acsendantLayers : List (ContainerLayer lib)) (layer : ContainerLayer lib) : Nspawn Unit := do
  let volumePath ← hcsGetLayerMountPath driverInfo layer
  let hostname ← perform (.generate 8)
  let contConf := ContainerConfig.make config basePath volumePath layer.clone acsendantLayers
    hostname
  let contJson ← contConf.toJson
  let _ ← dumps contJson
  let computeSystem ← hcsCreateComputeSystem contConf layer
  runContainer config layer computeSystem

/-- The sandbox layer and the guards that take it down again. -/
def runLayer (config : NspawnConfig) (basePath parentLayerName : String) (driverInfo : DriverInfo)
    (acsendantLayers : List (ContainerLayer lib))
    (acsendantDescriptors : List WcLayerDescriptor) (layer : ContainerLayer lib) :
    Nspawn Unit := do
  hcsCreateLayer driverInfo layer parentLayerName acsendantDescriptors
  defer (hcsDestroyLayer driverInfo layer) do
    hcsActivateLayer driverInfo layer
    defer (hcsDeactivateLayer driverInfo layer) do
      hcsPrepareLayer driverInfo layer acsendantDescriptors
      defer (hcsUnprepareLayer driverInfo layer) do
        runPrepared config basePath driverInfo acsendantLayers layer

variable (lib) in
def spawnAndWait (config : NspawnConfig) : Nspawn Unit := do
  let _ ← dumps config.toJson
  let basePath := lib.stripFilename config.parentLayerDirectory
  let wideBasePath := lib.widen basePath
  let parentLayerName := lib.stripParentDir config.parentLayerDirectory
  let driverInfo := createDriverInfo wideBasePath
  let acsendantLayers ← collectAcsendantLayers lib basePath parentLayerName
  let acsendantDescriptors ← createAscendantDescriptors acsendantLayers
  let datetime ← perform .currentDatetime
  let suffix ← perform (.generate 26)
  let layer := ContainerLayer.make lib basePath ("nspawn_" ++ datetime ++ "_" ++ suffix)
  runLayer config basePath parentLayerName driverInfo acsendantLayers acsendantDescriptors layer

variable (lib) in
/-- The part of `hostcompute_nspawn` inside its `try`. -/
def parseAndSpawn (text : List UInt8) : Nspawn Unit := do
  let loaded ← load (.text text)
  let config ← ofExcept (NspawnConfig.ofJson lib loaded)
  spawnAndWait lib config

variable (lib) in
/-- The message of `hostcompute_nspawn` for an exception that it has caught. -/
def raised (e : StdException) : String :=
  lib.traceMsg .exceptionRaised (e.what ++ "\nException raised")

variable (lib) in
/-- `hostcompute_nspawn`; the result is the error message, or nothing on success. -/
def hostcomputeNspawn (configJson : Option (List UInt8)) (configJsonLen : Int32) :
    Prog (Option String) :=
  match configJson with
  | none => pure (some (lib.traceMsg .nullConfigJson "Null 'config_json' parameter specified"))
  | some bytes =>
    if ¬ lib.isUint32Positive configJsonLen then
      pure (some (lib.traceMsg .invalidConfigJsonLen
        ("Invalid 'config_json_len' parameter specified: [" ++ toString configJsonLen.toInt ++
          "]")))
    else do
      match ← (parseAndSpawn lib (bytes.take configJsonLen.toInt.toNat)).run with
      | .ok () => pure none
      | .error e => pure (some (raised lib e))

/-! ## Rules -/

section Rules

variable {allowed : (op : Op) → op.Reply → Prop} {pre : List MainEvent → Op → Prop}
  {past : List MainEvent}

variable (lib) in
/-- The call that terminates a compute system. -/
abbrev terminateCall (computeSystem : Handle) : ApiCall :=
  .hcsTerminateComputeSystem computeSystem (lib.widen "{}")

/-- What `hcs_terminate_compute_system` writes for a code. -/
abbrev terminateError (layer : ContainerLayer lib) (code : UInt32) : String :=
  "ERROR: 'HcsTerminateComputeSystem' failed, name: [" ++ layer.getName ++ "]" ++
    " error: [" ++ lib.errcodeToString code ++ "]"

/-- `hcs_terminate_compute_system` awaits the exit of the system only if it is pending. -/
theorem wp_hcsTerminateComputeSystem {computeSystem : Handle} {layer : ContainerLayer lib}
    {post : List MainEvent → Unit → Prop} (hlock : pre past (.latch .lock))
    (hcall : pre (past ++ [finished .lock]) (.api (terminateCall lib computeSystem)))
    (hthrow : ∀ failure, allowed (.api (terminateCall lib computeSystem)) (.error failure) →
      (Program.perform Op.terminate : Prog Unit).wp allowed pre
        (past ++ [finished .lock, called (terminateCall lib computeSystem) (.error failure)]) post)
    (hfail : ∀ code, allowed (.api (terminateCall lib computeSystem)) (.ok ⟨code, ()⟩) →
      code ≠ operationPending →
      pre (past ++ [finished .lock, returned (terminateCall lib computeSystem) code ()])
          (.latch .cancel) ∧
        pre (past ++ [finished .lock, returned (terminateCall lib computeSystem) code (),
          finished .cancel]) (.cerr (terminateError layer code)) ∧
        post (past ++ [finished .lock, returned (terminateCall lib computeSystem) code (),
          finished .cancel, complained (terminateError layer code)]) ())
    (hok : allowed (.api (terminateCall lib computeSystem)) (.ok ⟨operationPending, ()⟩) →
      pre (past ++ [finished .lock, returned (terminateCall lib computeSystem) operationPending ()])
          (.latch (.await .systemExit)) ∧
        post (past ++ [finished .lock,
          returned (terminateCall lib computeSystem) operationPending (),
          finished (.await .systemExit)]) ()) :
    (hcsTerminateComputeSystem computeSystem layer).wp allowed pre past post := by
  refine (Program.wp_bind _ _).mpr (wp_perform_bind hlock fun _ _ ↦ ?_)
  refine (Fallible.wp_run_bind _ _).mpr (wp_vmcompute hcall ?_ ?_)
  · simpa using hthrow
  · rintro ⟨code, ⟨⟩⟩ hreply
    by_cases hcode : code = operationPending
    · subst hcode
      obtain ⟨hawait, hpost⟩ := hok hreply
      simp only [if_true]
      apply wp_perform (by simpa using hawait)
      intro _ _
      simpa using hpost
    · obtain ⟨hcancel, hcerr, hpost⟩ := hfail code hreply hcode
      simp only [hcode, if_false]
      refine wp_perform_bind (by simpa using hcancel) fun _ _ ↦ ?_
      apply wp_perform (by simpa using hcerr)
      intro _ _
      simpa using hpost

theorem only_hcsTerminateComputeSystem {S : Op → Prop} {computeSystem : Handle}
    {layer : ContainerLayer lib} (hcall : S (.api (terminateCall lib computeSystem)))
    (hmethods : ∀ m, S (.latch m)) (hcerr : ∀ line, S (.cerr line)) (hterminate : S .terminate) :
    (hcsTerminateComputeSystem computeSystem layer).Only S := by
  refine only_noexcept (Fallible.only_run_bind (only_run_perform (hmethods .lock)) fun _ ↦ ?_)
    hterminate
  apply Fallible.only_run_bind (only_vmcompute hcall)
  intro result
  split
  · exact only_await hmethods
  · exact Fallible.only_run_bind (only_run_perform (hmethods .cancel)) fun _ ↦
      only_run_perform (hcerr _)

/-- The operations that only prepare: text, names and paths. -/
def Op.Preparing : Op → Prop
  | .load _ | .dumps _ | .currentDatetime | .generate _ => True
  | .api (.nameToGuid _) | .api (.getLayerMountPath ..) => True
  | _ => False

/-- The operations that read layers and write JSON text. -/
def Op.Describing : Op → Prop
  | .load _ | .dumps _ | .api (.nameToGuid _) => True
  | _ => False

theorem preparing_of_describing (op : Op) (hop : op.Describing) : op.Preparing := by
  unfold Op.Describing at hop
  split at hop
  all_goals trivial

theorem ne_terminate_of_preparing (op : Op) (hop : op.Preparing) : op ≠ .terminate := by
  rintro rfl
  exact hop

theorem only_collectAcsendantLayers (basePath parentLayerName : String) :
    (collectAcsendantLayers lib basePath parentLayerName).run.Only Op.Describing := by
  apply Fallible.only_run_bind (only_load trivial)
  intro json
  apply Fallible.only_run_bind (only_dumps trivial)
  intro _
  exact Fallible.only_run_bind (m := ofExcept _) trivial fun _ ↦ trivial

theorem only_createAscendantDescriptors (acsendantLayers : List (ContainerLayer lib)) :
    (createAscendantDescriptors acsendantLayers).run.Only Op.Describing := by
  refine Fallible.only_run_mapM (fun layer ↦ ?_) acsendantLayers
  exact Fallible.only_run_bind (only_checked trivial) fun _ ↦ trivial

theorem only_parentLayers_toJson (config : ContainerConfig lib) :
    (config.parentLayers.mapM ContainerLayer.toJson).run.Only Op.Describing := by
  refine Fallible.only_run_mapM (fun layer ↦ ?_) _
  refine Fallible.only_run_bind ?_ fun _ ↦ trivial
  exact Fallible.only_run_bind (only_checked trivial) fun _ ↦ trivial

theorem only_containerConfig_toJson (config : ContainerConfig lib) :
    config.toJson.run.Only Op.Describing :=
  Fallible.only_run_bind (only_parentLayers_toJson config) fun _ ↦ trivial

theorem only_hcsGetLayerMountPath (driverInfo : DriverInfo) (layer : ContainerLayer lib) :
    (hcsGetLayerMountPath driverInfo layer).run.Only Op.Preparing :=
  Fallible.only_run_bind (only_checked trivial) fun _ ↦ trivial

/-- The operations that take the layer up. -/
def Op.Acquiring : Op → Prop
  | .api (.createSandboxLayer ..) | .api (.activateLayer ..) | .api (.prepareLayer ..) => True
  | _ => False

/-- The operations of the guards that take the layer down. -/
def Op.Releasing : Op → Prop
  | .api (.unprepareLayer ..) | .api (.deactivateLayer ..) | .api (.destroyLayer ..) => True
  | .cerr _ | .terminate => True
  | _ => False

theorem only_runProcess {S : Op → Prop} (config : NspawnConfig) (layer : ContainerLayer lib)
    (computeSystem : Handle) (hdumps : ∀ json, S (.dumps json))
    (henumerate : ∀ query, S (.api (.hcsEnumerateComputeSystems query)))
    (hcreate : ∀ parameters, S (.api (.hcsCreateProcess computeSystem parameters)))
    (hregister : ∀ process, S (.api (.hcsRegisterProcessCallback process)))
    (hmethods : ∀ m, S (.latch m)) : (runProcess config layer computeSystem).run.Only S := by
  refine Fallible.only_run_bind (Fallible.only_run_bind (only_checked (henumerate _))
    fun _ ↦ trivial) fun _ ↦ ?_
  refine Fallible.only_run_bind (Fallible.only_run_bind (only_dumps (hdumps _))
    fun _ ↦ only_checked (hcreate _)) fun process ↦ ?_
  exact only_latched (hregister process) hmethods

/-- The operations on a container that has been created. -/
def Op.InContainer : Op → Prop
  | .api (.hcsRegisterComputeSystemCallback _) | .api (.hcsStartComputeSystem ..) => True
  | .api (.hcsEnumerateComputeSystems _) | .api (.hcsCreateProcess ..) => True
  | .api (.hcsRegisterProcessCallback _) | .api (.hcsTerminateComputeSystem ..) => True
  | .dumps _ | .cerr _ | .latch _ | .terminate => True
  | _ => False

/-- What runs in the scope of the latch. -/
theorem only_inContainer (config : NspawnConfig) (layer : ContainerLayer lib)
    (computeSystem : Handle) :
    ExceptT.run (m := Prog) (do
      hcsRegisterComputeSystemCallback computeSystem layer
      hcsStartComputeSystem lib computeSystem
      defer (hcsTerminateComputeSystem computeSystem layer) do
        runProcess config layer computeSystem) |>.Only Op.InContainer := by
  have hlatch : ∀ m, Op.InContainer (.latch m) := fun _ ↦ trivial
  apply Fallible.only_run_bind (only_latched trivial hlatch)
  intro _
  apply Fallible.only_run_bind (only_latched trivial hlatch)
  intro _
  apply Fallible.only_run_defer (only_hcsTerminateComputeSystem trivial hlatch (fun _ ↦ trivial)
    trivial)
  exact only_runProcess config layer computeSystem (fun _ ↦ trivial) (fun _ ↦ trivial)
    (fun _ ↦ trivial) (fun _ ↦ trivial) hlatch

section Layer

variable {config : NspawnConfig} {basePath parentLayerName : String} {driverInfo : DriverInfo}
  {acsendantLayers : List (ContainerLayer lib)} {acsendantDescriptors : List WcLayerDescriptor}
  {layer : ContainerLayer lib} {post : List MainEvent → Except StdException Unit → Prop}
  {I : List MainEvent → Prop}

/-- The layer is taken up with calls that cannot break `I` and taken down with calls that cannot
break the result. -/
theorem wp_runLayer_of {S S' : Op → Prop} (hI : Program.Stable pre S I)
    (hpost : ∀ result, Program.Stable pre S' fun past' ↦ post past' result)
    (hcreate : S (.api (.createSandboxLayer driverInfo (lib.widen layer.getName)
      (lib.widen parentLayerName) acsendantDescriptors)))
    (hactivate : S (.api (.activateLayer driverInfo (lib.widen layer.getName))))
    (hprepare : S (.api (.prepareLayer driverInfo (lib.widen layer.getName) acsendantDescriptors)))
    (hunprepare : S' (.api (.unprepareLayer driverInfo (lib.widen layer.getName))))
    (hdeactivate : S' (.api (.deactivateLayer driverInfo (lib.widen layer.getName))))
    (hdestroy : S' (.api (.destroyLayer driverInfo (lib.widen layer.getName))))
    (hcerr : ∀ line, S' (.cerr line)) (hterminate : S' .terminate) (hpast : I past)
    (herror : ∀ past' e, I past' → post past' (.error e))
    (hbody : ∀ past', I past' →
      (runPrepared config basePath driverInfo acsendantLayers layer).run.wp allowed pre past'
        post) :
    (runLayer config basePath parentLayerName driverInfo acsendantLayers acsendantDescriptors
      layer).run.wp allowed pre past post := by
  refine Fallible.wp_run_bind_of_only hI (only_checked hcreate) hpast herror fun past₁ _ hpast₁ ↦
    Fallible.wp_run_defer_of_only (only_cleanup hdestroy hcerr hterminate) hpost ?_
  refine Fallible.wp_run_bind_of_only hI (only_checked hactivate) hpast₁ herror
    fun past₂ _ hpast₂ ↦
      Fallible.wp_run_defer_of_only (only_cleanup hdeactivate hcerr hterminate) hpost ?_
  refine Fallible.wp_run_bind_of_only hI (only_checked hprepare) hpast₂ herror
    fun past₃ _ hpast₃ ↦
      Fallible.wp_run_defer_of_only (only_cleanup hunprepare hcerr hterminate) hpost ?_
  exact hbody past₃ hpast₃

/-- The layer is taken up without breaking `I` and taken down without breaking the result. -/
theorem wp_runLayer (hI : Program.Stable pre Op.Acquiring I)
    (hpost : ∀ result, Program.Stable pre Op.Releasing fun past' ↦ post past' result)
    (hpast : I past) (herror : ∀ past' e, I past' → post past' (.error e))
    (hbody : ∀ past', I past' →
      (runPrepared config basePath driverInfo acsendantLayers layer).run.wp allowed pre past'
        post) :
    (runLayer config basePath parentLayerName driverInfo acsendantLayers acsendantDescriptors
      layer).run.wp allowed pre past post :=
  wp_runLayer_of hI hpost trivial trivial trivial trivial trivial trivial (fun _ ↦ trivial) trivial
    hpast herror hbody

end Layer

/-- What preparing operations cannot break holds until the layer is created. -/
theorem wp_spawnAndWait {config : NspawnConfig}
    {post : List MainEvent → Except StdException Unit → Prop} {I : List MainEvent → Prop}
    (hI : Program.Stable pre Op.Preparing I) (hpast : I past)
    (herror : ∀ past' e, I past' → post past' (.error e))
    (hlayer : ∀ past' basePath parentLayerName driverInfo acsendantLayers acsendantDescriptors
      (layer : ContainerLayer lib), I past' → (runLayer config basePath parentLayerName driverInfo
        acsendantLayers acsendantDescriptors layer).run.wp allowed pre past' post) :
    (spawnAndWait lib config).run.wp allowed pre past post := by
  have hdescribing := hI.mono preparing_of_describing
  apply Fallible.wp_run_bind_of_only hI (only_dumps trivial) hpast herror
  intro past₁ _ hpast₁
  apply Fallible.wp_run_bind_of_only hdescribing (only_collectAcsendantLayers _ _) hpast₁ herror
  intro past₂ acsendantLayers hpast₂
  apply Fallible.wp_run_bind_of_only hdescribing (only_createAscendantDescriptors acsendantLayers)
    hpast₂ herror
  intro past₃ acsendantDescriptors hpast₃
  refine Fallible.wp_run_bind_of_only hI (only_run_perform trivial) hpast₃ herror
    fun past₄ datetime hpast₄ ↦ ?_
  refine Fallible.wp_run_bind_of_only hI (only_run_perform trivial) hpast₄ herror
    fun past₅ suffix hpast₅ ↦ ?_
  exact hlayer _ _ _ _ _ _ _ hpast₅

/-- What preparing operations cannot break holds until `spawn_and_wait` is called. -/
theorem wp_hostcomputeNspawn {configJson : Option (List UInt8)} {configJsonLen : Int32}
    {post : List MainEvent → Option String → Prop} {I : List MainEvent → Prop}
    (hI : Program.Stable pre Op.Preparing I) (hpast : I past)
    (herror : ∀ past' message, I past' → post past' (some message))
    (hspawn : ∀ past' config, I past' → (spawnAndWait lib config).run.wp allowed pre past'
      fun past'' result ↦ match result with
        | .ok _ => post past'' none
        | .error e => post past'' (some (raised lib e))) :
    (hostcomputeNspawn lib configJson configJsonLen).wp allowed pre past post := by
  have hparse (text : List UInt8) : (parseAndSpawn lib text).run.wp allowed pre past
      fun past'' result ↦ match result with
        | .ok _ => post past'' none
        | .error e => post past'' (some (raised lib e)) := by
    apply Fallible.wp_run_bind_of_only hI (only_load trivial) hpast
      (fun past' e h ↦ herror past' _ h)
    intro past₁ loaded hpast₁
    exact Fallible.wp_run_bind_of_only (m := ofExcept _) hI trivial hpast₁
      (fun past' e h ↦ herror past' _ h) fun past₂ config hpast₂ ↦ hspawn past₂ config hpast₂
  unfold hostcomputeNspawn
  split
  · exact herror past _ hpast
  split
  · exact herror past _ hpast
  refine (Program.wp_bind _ _).mpr (Program.wp_mono (fun past'' result h ↦ ?_) (hparse _))
  cases result with
  | ok u => exact h
  | error e => exact h

/-- Preconditions that preparations meet are met by the whole run if the scope of the layer meets
them. -/
theorem wp_hostcomputeNspawn_of_runLayer {configJson : Option (List UInt8)} {configJsonLen : Int32}
    {I : List MainEvent → Prop} (hI : Program.Stable pre Op.Preparing I) (hpast : I past)
    (hlayer : ∀ past' config basePath parentLayerName driverInfo acsendantLayers
      acsendantDescriptors (layer : ContainerLayer lib), I past' → (runLayer config basePath
        parentLayerName driverInfo acsendantLayers acsendantDescriptors layer).run.wp allowed pre
          past' fun _ _ ↦ True) :
    (hostcomputeNspawn lib configJson configJsonLen).wp allowed pre past fun _ _ ↦ True := by
  apply wp_hostcomputeNspawn hI hpast (fun _ _ _ ↦ trivial)
  intro past₁ config hpast₁
  have hspawn : (spawnAndWait lib config).run.wp allowed pre past₁ fun _ _ ↦ True :=
    wp_spawnAndWait hI hpast₁ (fun _ _ _ ↦ trivial) fun past' ↦ hlayer past' config
  apply Program.wp_mono _ hspawn
  intro past₂ result _
  cases result <;> trivial

/-- What preparing operations cannot break holds until the compute system is created. -/
theorem wp_runPrepared {config : NspawnConfig} {basePath : String} {driverInfo : DriverInfo}
    {acsendantLayers : List (ContainerLayer lib)} {layer : ContainerLayer lib}
    {post : List MainEvent → Except StdException Unit → Prop} {I : List MainEvent → Prop}
    (hI : Program.Stable pre Op.Preparing I) (hpast : I past)
    (herror : ∀ past' e, I past' → post past' (.error e))
    (hcreate : ∀ past' id configuration, I past' →
      pre past' (.api (.hcsCreateComputeSystem id configuration)))
    (hthrow : ∀ past' id configuration failure e, I past' →
      allowed (.api (.hcsCreateComputeSystem id configuration)) (.error failure) →
      post (past' ++ [called (.hcsCreateComputeSystem id configuration) (.error failure)])
        (.error e))
    (hfail : ∀ past' id configuration code computeSystem e, I past' → code ≠ operationPending →
      post (past' ++ [returned (.hcsCreateComputeSystem id configuration) code computeSystem])
        (.error e))
    (hok : ∀ past' id configuration computeSystem, I past' →
      (runContainer config layer computeSystem).run.wp allowed pre (past' ++
        [returned (.hcsCreateComputeSystem id configuration) operationPending computeSystem])
        post) :
    (runPrepared config basePath driverInfo acsendantLayers layer).run.wp allowed pre past
      post := by
  have hdescribing := hI.mono preparing_of_describing
  apply Fallible.wp_run_bind_of_only hI (only_hcsGetLayerMountPath _ _) hpast herror
  intro past₁ volumePath hpast₁
  refine Fallible.wp_run_bind_of_only hI (only_run_perform trivial) hpast₁ herror
    fun past₂ hostname hpast₂ ↦ ?_
  apply Fallible.wp_run_bind_of_only hdescribing (only_containerConfig_toJson _) hpast₂ herror
  intro past₃ contJson hpast₃
  apply Fallible.wp_run_bind_of_only hI (only_dumps trivial) hpast₃ herror
  intro past₄ _ hpast₄
  rw [hcsCreateComputeSystem, bind_assoc]
  apply Fallible.wp_run_bind_of_only hdescribing (only_containerConfig_toJson _) hpast₄ herror
  intro past₅ json hpast₅
  rw [bind_assoc]
  apply Fallible.wp_run_bind_of_only hI (only_dumps trivial) hpast₅ herror
  intro past₆ conf hpast₆
  refine (Fallible.wp_run_bind _ _).mpr (wp_checked (hcreate past₆ _ _ hpast₆)
    (fun failure hreply ↦ hthrow past₆ _ _ failure _ hpast₆ hreply)
    (fun code computeSystem _ hcode ↦ hfail past₆ _ _ code computeSystem _ hpast₆ hcode)
    fun computeSystem _ ↦ hok past₆ _ _ computeSystem hpast₆)

end Rules

end

/-! ## What the past tells about a compute system -/

namespace ComputeSystem

/-- The compute system exists. -/
def Created (computeSystem : Handle) (past : List MainEvent) : Prop :=
  ∃ id configuration,
    returned (.hcsCreateComputeSystem id configuration) operationPending computeSystem ∈ past

/-- The callback of the system is registered. -/
def Registered (computeSystem : Handle) (past : List MainEvent) : Prop :=
  returned (.hcsRegisterComputeSystemCallback computeSystem) 0 () ∈ past

/-- The start of the system is under way. -/
def Started (computeSystem : Handle) (past : List MainEvent) : Prop :=
  ∃ options, returned (.hcsStartComputeSystem computeSystem options) operationPending () ∈ past

end ComputeSystem

end HostcomputeNspawn
