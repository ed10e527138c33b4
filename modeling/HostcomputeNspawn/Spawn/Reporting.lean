import HostcomputeNspawn.World

/-!
# Failures are reported

A failure of the environment is a wrapper that threw, a code other than the expected one, or JSON
text that could not be read or written.  Only the calls of the guards may fail unnoticed.  The
program reports every other failure: it attempts nothing after it, and the exception that ends the
program names the call that failed and its code, whatever the guards do in between.
-/

namespace HostcomputeNspawn

open Interaction Transition World

/-- The calls in destructors, whose codes are only written out. -/
def ApiCall.isCleanup : ApiCall → Bool
  | unprepareLayer .. | deactivateLayer .. | destroyLayer .. | hcsTerminateComputeSystem .. => true
  | _ => false

namespace Reporting

/-- The operations whose failure the program is to report. -/
def Attempt : Op → Prop
  | .api call => call.isCleanup = false
  | .load _ | .dumps _ => True
  | _ => False

/-- The event is a failure that the program is to report. -/
def fails : MainEvent → Bool
  | ⟨.api call, .ok result⟩ => !call.isCleanup && result.code != successCode call
  | ⟨.api call, .error _⟩ => !call.isCleanup
  | ⟨.load _, .error _⟩ | ⟨.dumps _, .error _⟩ => true
  | _ => false

/-- Nothing has failed. -/
def Clean (past : List MainEvent) : Prop := ∀ event ∈ past, fails event = false

/-- The text of the exception for a call that came back with an unexpected code. -/
def CodeText (lib : Externals) : ApiCall → UInt32 → String → Prop
  | .nameToGuid string, _, text => ∃ name, string = lib.widen name ∧
    text = lib.traceMsg .toGuid ("Error obtaining GUID from name: [" ++ name ++ "]")
  | call, code, text => ∃ (site : TraceSite) (details : List String),
    text = lib.traceMsg site (details.foldl (· ++ ·) ("'" ++ call.name ++ "' failed,") ++
      " error: [" ++ lib.errcodeToString code ++ "]")

/-- The exception says what failed in the event. -/
def Explains (lib : Externals) : MainEvent → StdException → Prop
  | ⟨.load _, .error e'⟩, e => e = e'
  | ⟨.dumps _, .error e'⟩, e => e = e'
  | ⟨.api call, .error failure⟩, e => e = lookupException lib call failure
  | ⟨.api call, .ok result⟩, e => CodeText lib call result.code e.what
  | _, _ => True

/-- The exception explains whatever has failed. -/
def Blamed (lib : Externals) (past : List MainEvent) (e : StdException) : Prop :=
  ∀ event ∈ past, fails event = true → Explains lib event e

/-- Nothing is attempted after a failure. -/
def attemptPre (past : List MainEvent) (op : Op) : Prop := Attempt op → Clean past

theorem Clean.append {past more : List MainEvent} (h : Clean past) (hmore : Clean more) :
    Clean (past ++ more) := fun event hevent ↦
  (List.mem_append.mp hevent).elim (h event) (hmore event)

theorem clean_of_not_attempt {op : Op} (reply : op.Reply) (hop : ¬ Attempt op) :
    Clean [⟨op, reply⟩] := by
  intro event hevent
  cases List.mem_singleton.mp hevent
  cases op with
  | api call =>
    have hcall : call.isCleanup = true := by simpa [Attempt] using hop
    cases reply <;> simp [fails, hcall]
  | load source => exact absurd trivial hop
  | dumps json => exact absurd trivial hop
  | _ => rfl

theorem stable_clean : Program.Stable attemptPre (¬ Attempt ·) Clean where
  permits hpast _ _ := hpast
  keeps reply hpast hop := hpast.append (clean_of_not_attempt reply hop)

variable {lib : Externals} {allowed : (op : Op) → op.Reply → Prop} {α : Type}

theorem Clean.blamed_append {past more : List MainEvent} {e : StdException} (h : Clean past)
    (hmore : Blamed lib more e) : Blamed lib (past ++ more) e := by
  intro event hevent hfails
  rcases List.mem_append.mp hevent with hold | hnew
  · simp [h event hold] at hfails
  · exact hmore event hnew hfails

theorem blamed_singleton {event : MainEvent} {e : StdException} (hevent : Explains lib event e) :
    Blamed lib [event] e := fun _ hmem _ ↦ List.mem_singleton.mp hmem ▸ hevent

theorem stable_blamed (e : StdException) :
    Program.Stable attemptPre (¬ Attempt ·) fun past ↦ Blamed lib past e where
  permits _ hop hattempt := absurd hattempt hop
  keeps {past op} reply hpast hop := by
    intro event hevent hfails
    rcases List.mem_append.mp hevent with hold | hnew
    · exact hpast event hold hfails
    · simp [clean_of_not_attempt reply hop event hnew] at hfails

/-! ## The shapes of the functions -/

/-- Whatever fails in the computation is reported as an exception. -/
abbrev Reports (lib : Externals) (allowed : (op : Op) → op.Reply → Prop) (m : Nspawn α) : Prop :=
  Fallible.Reports allowed attemptPre Clean (Blamed lib) m

theorem reports_ofExcept (result : Except StdException α) :
    Reports lib allowed (ofExcept result) := by
  intro past hpast
  cases result with
  | ok a => exact hpast
  | error e => exact fun event hevent hfails ↦ by simp [hpast event hevent] at hfails

theorem reports_perform {op : Op} (hop : ¬ Attempt op) : Reports lib allowed (perform op) :=
  fun _ hpast ↦ wp_perform (fun _ ↦ hpast)
    fun reply _ ↦ hpast.append (clean_of_not_attempt reply hop)

theorem reports_load (source : JsonSource) : Reports lib allowed (load source) := by
  refine fun past hpast ↦ wp_perform_bind (fun _ ↦ hpast) ?_
  intro reply _
  cases reply with
  | ok json => exact hpast.append (by simp [Clean, fails])
  | error e => exact hpast.blamed_append (blamed_singleton rfl)

theorem reports_dumps (json : Json) : Reports lib allowed (dumps json) := by
  refine fun past hpast ↦ wp_dumps (fun _ ↦ hpast) ?_
  intro reply _
  cases reply with
  | ok text => exact hpast.append (by simp [Clean, fails])
  | error e => exact hpast.blamed_append (blamed_singleton rfl)

theorem reports_checked {call : ApiCall} {expected : UInt32} {message : UInt32 → String}
    (hexpected : successCode call = expected)
    (hmessage : ∀ code out, Explains lib (returned call code out) ⟨message code⟩) :
    Reports lib allowed (checked lib call expected message) := by
  intro past hpast
  apply wp_checked fun _ ↦ hpast
  · exact fun failure _ ↦ hpast.blamed_append (blamed_singleton rfl)
  · exact fun code out _ _ ↦ hpast.blamed_append (blamed_singleton (hmessage code out))
  · exact fun out _ ↦ hpast.append (by simp [Clean, fails, hexpected])

theorem reports_latched {call : ApiCall} {expected : UInt32} {message : UInt32 → String}
    {nt : NotificationType} {x : CallbackLatch.Slot} (hslot : CallbackLatch.slot nt = some x)
    (hexpected : successCode call = expected)
    (hmessage : ∀ code out, Explains lib (returned call code out) ⟨message code⟩) :
    Reports lib allowed (latched lib call expected message nt) := by
  intro past hpast
  have hlocked : Clean (past ++ [finished .lock]) := hpast.append (by simp [Clean, fails])
  apply wp_latched hslot False.elim fun _ ↦ hlocked
  · intro failure _
    refine hpast.blamed_append fun event hevent hfails ↦ ?_
    rcases List.mem_pair.mp hevent with rfl | rfl
    · simp [fails] at hfails
    · exact rfl
  · intro code out _ _
    refine ⟨False.elim, hpast.blamed_append ?_⟩
    simp only [Blamed, List.forall_mem_cons]
    exact ⟨nofun, fun _ ↦ hmessage code out, nofun, List.forall_mem_nil _⟩
  · exact fun out _ ↦ ⟨False.elim, hpast.append (by simp [Clean, fails, hexpected])⟩

theorem reports_defer {cleanup : Prog Unit} {rest : Nspawn Unit}
    (hcleanup : cleanup.Only (¬ Attempt ·)) (hrest : Reports lib allowed rest) :
    Reports lib allowed (Fallible.defer cleanup rest) :=
  hrest.defer hcleanup stable_clean stable_blamed

theorem only_cleanup_not_attempt {call : ApiCall} (hcall : call.isCleanup = true)
    {message : UInt32 → String} : (cleanup lib call message).Only (¬ Attempt ·) :=
  only_cleanup (by simp [Attempt, hcall]) (fun _ ↦ id) id

/-! ## The functions -/

theorem toGuid_reports (id : ContainerId) : Reports lib allowed (id.toGuid lib) :=
  reports_checked rfl fun _ _ ↦ ⟨id.name, rfl, rfl⟩

theorem toDescriptor_reports (layer : ContainerLayer lib) :
    Reports lib allowed layer.toDescriptor :=
  (toGuid_reports layer.id).bind fun _ ↦ Fallible.reports_pure _

theorem containerLayer_toJson_reports (layer : ContainerLayer lib) :
    Reports lib allowed layer.toJson :=
  ((toGuid_reports layer.id).bind fun _ ↦ reports_ofExcept _).bind fun _ ↦ Fallible.reports_pure _

theorem containerConfig_toJson_reports (config : ContainerConfig lib) :
    Reports lib allowed config.toJson :=
  (Fallible.Reports.mapM containerLayer_toJson_reports _).bind fun _ ↦ Fallible.reports_pure _

theorem collectAcsendantLayers_reports (basePath parentLayerName : String) :
    Reports lib allowed (collectAcsendantLayers lib basePath parentLayerName) :=
  (reports_load _).bind fun _ ↦ (reports_dumps _).bind fun _ ↦
    (reports_ofExcept _).bind fun _ ↦ Fallible.reports_pure _

theorem hcsCreateLayer_reports (driverInfo : DriverInfo) (layer : ContainerLayer lib)
    (parentLayerName : String) (acsendantDescriptors : List WcLayerDescriptor) :
    Reports lib allowed (hcsCreateLayer driverInfo layer parentLayerName acsendantDescriptors) :=
  reports_checked rfl fun _ _ ↦ ⟨_, [" layer_name: [", layer.getName, "],",
    " parent_layer_name: [", parentLayerName, "],"], rfl⟩

theorem hcsActivateLayer_reports (driverInfo : DriverInfo) (layer : ContainerLayer lib) :
    Reports lib allowed (hcsActivateLayer driverInfo layer) :=
  reports_checked rfl fun _ _ ↦ ⟨_, [" layer_name: [", layer.getName, "],"], rfl⟩

theorem hcsPrepareLayer_reports (driverInfo : DriverInfo) (layer : ContainerLayer lib)
    (acsendantDescriptors : List WcLayerDescriptor) :
    Reports lib allowed (hcsPrepareLayer driverInfo layer acsendantDescriptors) :=
  reports_checked rfl fun _ _ ↦ ⟨_, [" layer_name: [", layer.getName, "],"], rfl⟩

theorem hcsGetLayerMountPath_reports (driverInfo : DriverInfo) (layer : ContainerLayer lib) :
    Reports lib allowed (hcsGetLayerMountPath driverInfo layer) := by
  refine Fallible.Reports.bind (reports_checked rfl fun _ _ ↦ ?_) fun _ ↦ Fallible.reports_pure _
  exact ⟨_, [" layer_name: [", layer.getName, "],"], rfl⟩

theorem hcsCreateComputeSystem_reports (config : ContainerConfig lib)
    (layer : ContainerLayer lib) :
    Reports lib allowed (hcsCreateComputeSystem config layer) := by
  apply (containerConfig_toJson_reports config).bind
  intro json
  apply (reports_dumps json).bind
  intro conf
  exact reports_checked rfl fun _ _ ↦ ⟨_, [" config: [", conf, "],"], rfl⟩

theorem hcsRegisterComputeSystemCallback_reports (computeSystem : Handle)
    (layer : ContainerLayer lib) :
    Reports lib allowed (hcsRegisterComputeSystemCallback computeSystem layer) :=
  reports_latched (x := .systemCreate) rfl rfl fun _ _ ↦ ⟨_, [" name: [", layer.getName, "],"], rfl⟩

theorem hcsStartComputeSystem_reports (computeSystem : Handle) :
    Reports lib allowed (hcsStartComputeSystem lib computeSystem) :=
  reports_latched (x := .systemStart) rfl rfl fun _ _ ↦ ⟨_, [], rfl⟩

theorem hcsEnumerateComputeSystems_reports :
    Reports lib allowed (hcsEnumerateComputeSystems lib) := by
  refine Fallible.Reports.bind (reports_checked rfl fun _ _ ↦ ?_) fun _ ↦ Fallible.reports_pure _
  exact ⟨_, [], rfl⟩

theorem hcsCreateProcess_reports (computeSystem : Handle) (config : NspawnConfig) :
    Reports lib allowed (hcsCreateProcess lib computeSystem config) := by
  apply (reports_dumps _).bind
  intro pcfgJson
  exact reports_checked rfl fun _ _ ↦ ⟨_, [" config: [", pcfgJson, "],"], rfl⟩

theorem hcsRegisterProcessCallback_reports (process : Handle) (layer : ContainerLayer lib) :
    Reports lib allowed (hcsRegisterProcessCallback process layer) :=
  reports_latched (x := .processExit) rfl rfl fun _ _ ↦ ⟨_, [" name: [", layer.getName, "],"], rfl⟩

theorem runProcess_reports (config : NspawnConfig) (layer : ContainerLayer lib)
    (computeSystem : Handle) : Reports lib allowed (runProcess config layer computeSystem) := by
  apply hcsEnumerateComputeSystems_reports.bind
  intro _
  exact (hcsCreateProcess_reports computeSystem config).bind fun process ↦
    hcsRegisterProcessCallback_reports process layer

theorem runContainer_reports (config : NspawnConfig) (layer : ContainerLayer lib)
    (computeSystem : Handle) : Reports lib allowed (runContainer config layer computeSystem) := by
  refine (reports_perform id).bind fun _ ↦ reports_defer ⟨id, fun _ ↦ trivial⟩ ?_
  apply (hcsRegisterComputeSystemCallback_reports computeSystem layer).bind
  intro _
  apply (hcsStartComputeSystem_reports computeSystem).bind
  intro _
  refine reports_defer ?_ (runProcess_reports config layer computeSystem)
  exact only_hcsTerminateComputeSystem (by simp [Attempt, ApiCall.isCleanup]) (fun _ ↦ id)
    (fun _ ↦ id) id

theorem runPrepared_reports (config : NspawnConfig) (basePath : String) (driverInfo : DriverInfo)
    (acsendantLayers : List (ContainerLayer lib)) (layer : ContainerLayer lib) :
    Reports lib allowed (runPrepared config basePath driverInfo acsendantLayers layer) := by
  apply (hcsGetLayerMountPath_reports driverInfo layer).bind
  intro volumePath
  apply (reports_perform id).bind
  intro hostname
  apply (containerConfig_toJson_reports _).bind
  intro contJson
  apply (reports_dumps contJson).bind
  intro _
  exact (hcsCreateComputeSystem_reports _ layer).bind fun computeSystem ↦
    runContainer_reports config layer computeSystem

theorem runLayer_reports (config : NspawnConfig) (basePath parentLayerName : String)
    (driverInfo : DriverInfo) (acsendantLayers : List (ContainerLayer lib))
    (acsendantDescriptors : List WcLayerDescriptor) (layer : ContainerLayer lib) :
    Reports lib allowed (runLayer config basePath parentLayerName driverInfo acsendantLayers
      acsendantDescriptors layer) := by
  apply (hcsCreateLayer_reports driverInfo layer parentLayerName acsendantDescriptors).bind
  intro _
  apply reports_defer (only_cleanup_not_attempt rfl)
  apply (hcsActivateLayer_reports driverInfo layer).bind
  intro _
  apply reports_defer (only_cleanup_not_attempt rfl)
  apply (hcsPrepareLayer_reports driverInfo layer acsendantDescriptors).bind
  intro _
  apply reports_defer (only_cleanup_not_attempt rfl)
  exact runPrepared_reports config basePath driverInfo acsendantLayers layer

theorem spawnAndWait_reports (config : NspawnConfig) :
    Reports lib allowed (spawnAndWait lib config) := by
  apply (reports_dumps _).bind
  intro _
  apply (collectAcsendantLayers_reports _ _).bind
  intro acsendantLayers
  apply (Fallible.Reports.mapM toDescriptor_reports _).bind
  intro acsendantDescriptors
  apply (reports_perform id).bind
  intro datetime
  apply (reports_perform id).bind
  intro suffix
  exact runLayer_reports _ _ _ _ _ _ _

theorem parseAndSpawn_reports (text : List UInt8) : Reports lib allowed (parseAndSpawn lib text) :=
  (reports_load _).bind fun _ ↦ (reports_ofExcept _).bind spawnAndWait_reports

/-- The message explains whatever has failed, and without a message nothing has. -/
def Answered (lib : Externals) (past : List MainEvent) : Option String → Prop
  | none => Clean past
  | some message => ∀ event ∈ past, fails event = true →
    ∃ e, Explains lib event e ∧ message = raised lib e

/-- Nothing is attempted after a failure, and the result of the program explains it. -/
theorem hostcomputeNspawn_reports (configJson : Option (List UInt8)) (configJsonLen : Int32) :
    (hostcomputeNspawn lib configJson configJsonLen).wp allowed attemptPre [] (Answered lib) := by
  unfold hostcomputeNspawn
  split
  · exact fun event hevent ↦ nomatch hevent
  split
  · exact fun event hevent ↦ nomatch hevent
  refine (Program.wp_bind _ _).mpr (Program.wp_mono (fun past result haccounted ↦ ?_)
    (parseAndSpawn_reports _ [] (by simp [Clean])))
  cases result with
  | ok u => exact haccounted
  | error e => exact fun event hevent hfails ↦ ⟨e, haccounted event hevent hfails, rfl⟩

end Reporting

end HostcomputeNspawn
