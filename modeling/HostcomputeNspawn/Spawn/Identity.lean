import HostcomputeNspawn.World

/-!
# The identity of a container

`spawn_and_wait` generates one name, for the sandbox layer.  Every call on the layer carries it, it
is the id of the compute system, and the folder of the layer in the configuration of the container
is the directory of the driver followed by it.  The name in that configuration is another one: it
is the directory itself, because this is what the constructor of the configuration is given.
-/

namespace HostcomputeNspawn

open Interaction Transition World

namespace Identity

/-- The driver and the layer that a call on a layer names. -/
def layerArguments : ApiCall → Option (DriverInfo × WString)
  | .createSandboxLayer info id _ _ | .activateLayer info id | .prepareLayer info id _ =>
    some (info, id)
  | .unprepareLayer info id | .deactivateLayer info id | .destroyLayer info id => some (info, id)
  | .getLayerMountPath info id => some (info, id)
  | _ => none

/-- The reply of the clock. -/
def datetime? : MainEvent → Option String
  | ⟨.currentDatetime, datetime⟩ => some datetime
  | _ => none

/-- The reply of the random generator that the name of the layer ends with. -/
def suffix? : MainEvent → Option String
  | ⟨.generate 26, suffix⟩ => some suffix
  | _ => none

/-- The name that has been generated for the layer. -/
def generatedName (past : List MainEvent) : Option String := do
  let datetime ← past.findSome? datetime?
  let suffix ← past.findSome? suffix?
  return "nspawn_" ++ datetime ++ "_" ++ suffix

/-- The JSON value that has just been written, with its text. -/
def lastDump (past : List MainEvent) : Option (Json × String) :=
  match past.getLast? with
  | some ⟨.dumps json, .ok text⟩ => some (json, text)
  | _ => none

/-- The compute system and the layer are called by the generated name, and the configuration of the
container has just been written. -/
def Rule (lib : Externals) (basePath : String) (past : List MainEvent) : ApiCall → Prop
  | .hcsCreateComputeSystem id configuration =>
    ∃ name json text, generatedName past = some name ∧ id = lib.widen name ∧
      lastDump past = some (json, text) ∧ configuration = lib.widen text ∧
      json.field? "Name" = some (.string basePath) ∧
      json.field? "LayerFolderPath" = some (.string (basePath ++ name))
  | call => ∀ info id, layerArguments call = some (info, id) →
    ∃ name, generatedName past = some name ∧ id = lib.widen name ∧
      info = createDriverInfo (lib.widen basePath)

/-- The rule as a precondition of the main thread. -/
def identityPre (lib : Externals) (basePath : String) (past : List MainEvent) : Op → Prop
  | .api call => Rule lib basePath past call
  | _ => True

/-- Operations that create no compute system and call a layer by the given name only. -/
def Calls (info : DriverInfo) (id : WString) : Op → Prop
  | .api (.hcsCreateComputeSystem ..) => False
  | .api call => ∀ arguments, layerArguments call = some arguments → arguments = (info, id)
  | _ => True

/-- No name has been generated yet. -/
structure Unnamed (past : List MainEvent) : Prop where
  datetime : past.findSome? datetime? = none
  suffix : past.findSome? suffix? = none

variable {lib : Externals} {basePath name : String} {past : List MainEvent}

theorem Rule.layer {call : ApiCall} {info : DriverInfo} {id : WString}
    (hrule : Rule lib basePath past call) (hcall : layerArguments call = some (info, id)) :
    ∃ name, generatedName past = some name ∧ id = lib.widen name ∧
      info = createDriverInfo (lib.widen basePath) := by
  cases call with
  | hcsCreateComputeSystem => exact nomatch hcall
  | _ => exact hrule info id hcall

/-- A generated name stays the generated name. -/
theorem generatedName_append (hname : generatedName past = some name) (more : List MainEvent) :
    generatedName (past ++ more) = some name := by
  simp only [generatedName, Option.bind_eq_bind, Option.bind_eq_some_iff, Option.pure_def,
    List.findSome?_append] at hname ⊢
  obtain ⟨datetime, hdatetime, suffix, hsuffix, hname⟩ := hname
  exact ⟨datetime, by simp [hdatetime], suffix, by simp [hsuffix], hname⟩

theorem generatedName_unnamed (hpast : Unnamed past) (datetime suffix : String) :
    generatedName (past ++ [⟨.currentDatetime, datetime⟩] ++ [⟨.generate 26, suffix⟩]) =
      some ("nspawn_" ++ datetime ++ "_" ++ suffix) := by
  simp [generatedName, List.findSome?_append, List.findSome?_cons, hpast.datetime, hpast.suffix,
    datetime?, suffix?]

theorem stable_unnamed : Program.Stable (identityPre lib basePath) Op.Describing Unnamed where
  permits {past op} hpast hop := by
    unfold Op.Describing at hop
    split at hop
    any_goals trivial
    exact fun info id h ↦ nomatch h
  keeps {past op} reply hpast hop := by
    have hevent : datetime? ⟨op, reply⟩ = none ∧ suffix? ⟨op, reply⟩ = none := by
      cases op with
      | load | dumps | api => exact ⟨rfl, rfl⟩
      | _ => exact False.elim hop
    constructor
    · simp [List.findSome?_append, hpast.datetime, hevent.1]
    · simp [List.findSome?_append, hpast.suffix, hevent.2]

theorem stable_named : Program.Stable (identityPre lib basePath)
    (Calls (createDriverInfo (lib.widen basePath)) (lib.widen name))
    fun past ↦ generatedName past = some name where
  permits {past op} hname hop := by
    cases op with
    | api call =>
      cases call with
      | hcsCreateComputeSystem => exact hop.elim
      | _ =>
        intro info id harguments
        cases hop _ harguments
        exact ⟨name, hname, rfl, rfl⟩
    | _ => trivial
  keeps reply hname _ := generatedName_append hname _

theorem calls_of_layerArguments {info : DriverInfo} {id : WString} {call : ApiCall}
    (hcall : layerArguments call = some (info, id)) : Calls info id (.api call) := by
  cases call with
  | hcsCreateComputeSystem => exact nomatch hcall
  | _ => exact fun _ h ↦ Option.some.inj (h.symm.trans hcall)

theorem calls_of_describing (info : DriverInfo) (id : WString) (op : Op) (hop : op.Describing) :
    Calls info id op := by
  unfold Op.Describing at hop
  split at hop
  any_goals trivial
  exact fun _ h ↦ nomatch h

theorem calls_of_inContainer (info : DriverInfo) (id : WString) (op : Op) (hop : op.InContainer) :
    Calls info id op := by
  unfold Op.InContainer at hop
  split at hop
  any_goals trivial
  all_goals exact fun _ h ↦ nomatch h

/-! ## What `spawn_and_wait` calls -/

theorem runContainer_calls (config : NspawnConfig) (layer : ContainerLayer lib)
    (computeSystem : Handle) (info : DriverInfo) (id : WString) :
    (runContainer config layer computeSystem).run.Only (Calls info id) := by
  apply Fallible.only_run_bind (only_run_perform trivial)
  intro _
  exact Fallible.only_run_defer ⟨trivial, fun _ ↦ trivial⟩
    ((only_inContainer config layer computeSystem).mono (calls_of_inContainer info id))

/-- The configuration of a container has the name and the layer that it was made with. -/
theorem containerConfig_toJson_identity (config : ContainerConfig lib)
    (hname : generatedName past = some name) :
    config.toJson.run.wp (fun _ _ ↦ True) (identityPre lib basePath) past fun past' result ↦
      generatedName past' = some name ∧ ∀ json, result = .ok json →
        json.field? "Name" = some (.string config.name) ∧
          json.field? "LayerFolderPath" = some (.string config.ownLayer.getPath) := by
  have hstable : Program.Stable (identityPre lib basePath) Op.Describing
      fun past ↦ generatedName past = some name := stable_named.mono (calls_of_describing _ _)
  apply Fallible.wp_run_bind_of_only hstable (only_parentLayers_toJson config) hname
  · exact fun past' e hname' ↦ ⟨hname', nofun⟩
  · intro past' layers hname'
    refine ⟨hname', fun json hjson ↦ ?_⟩
    cases hjson
    exact ⟨rfl, rfl⟩

theorem hcsCreateComputeSystem_identity (config : NspawnConfig) (volumePath hostname : String)
    (acsendantLayers : List (ContainerLayer lib)) (hname : generatedName past = some name) :
    (hcsCreateComputeSystem (ContainerConfig.make config basePath volumePath
      (.make lib basePath name) acsendantLayers hostname) (.make lib basePath name)).run.wp
        (fun _ _ ↦ True) (identityPre lib basePath) past
        fun past' _ ↦ generatedName past' = some name := by
  apply Fallible.wp_run_bind_of _ (containerConfig_toJson_identity _ hname) (fun _ _ h ↦ h.1)
  intro past₁ json ⟨hname₁, hjson⟩
  refine (Fallible.wp_run_bind _ _).mpr (wp_dumps trivial fun reply _ ↦ ?_)
  have hname₂ := generatedName_append hname₁ [⟨.dumps json, reply⟩]
  cases reply with
  | error e => exact hname₂
  | ok text =>
    obtain ⟨hfield, hfolder⟩ := hjson json rfl
    refine wp_checked ⟨name, json, text, hname₂, rfl, ?_, rfl, hfield, hfolder⟩
      (fun _ _ ↦ generatedName_append hname₂ _) (fun _ _ _ _ ↦ generatedName_append hname₂ _)
      fun _ _ ↦ generatedName_append hname₂ _
    simp [lastDump]

theorem runPrepared_identity (config : NspawnConfig) (acsendantLayers : List (ContainerLayer lib))
    (hname : generatedName past = some name) :
    (runPrepared config basePath (createDriverInfo (lib.widen basePath)) acsendantLayers
      (.make lib basePath name)).run.wp (fun _ _ ↦ True) (identityPre lib basePath) past
        fun past' _ ↦ generatedName past' = some name := by
  have hstable : Program.Stable (identityPre lib basePath)
      (Calls (createDriverInfo (lib.widen basePath)) (lib.widen name))
      fun past ↦ generatedName past = some name := stable_named
  have hmount : (hcsGetLayerMountPath (createDriverInfo (lib.widen basePath))
      (.make lib basePath name)).run.Only
        (Calls (createDriverInfo (lib.widen basePath)) (lib.widen name)) :=
    Fallible.only_run_bind (only_checked (calls_of_layerArguments rfl)) fun _ ↦ trivial
  apply Fallible.wp_run_bind_of_only hstable hmount hname (fun _ _ h ↦ h)
  intro past₁ volumePath hname₁
  refine Fallible.wp_run_bind_of_only hstable (only_run_perform trivial) hname₁ (fun _ _ h ↦ h)
    fun past₂ hostname hname₂ ↦ ?_
  apply Fallible.wp_run_bind_of_only (hstable.mono (calls_of_describing _ _))
    (only_containerConfig_toJson _) hname₂ (fun _ _ h ↦ h)
  intro past₃ contJson hname₃
  apply Fallible.wp_run_bind_of_only hstable (only_dumps trivial) hname₃ (fun _ _ h ↦ h)
  intro past₄ _ hname₄
  apply Fallible.wp_run_bind_of _ (hcsCreateComputeSystem_identity config volumePath hostname
    acsendantLayers hname₄) (fun _ _ h ↦ h)
  intro past₅ computeSystem hname₅
  exact (runContainer_calls config _ computeSystem _ _).wp hstable hname₅

/-- Every call on the layer is made by its name. -/
theorem runLayer_identity (config : NspawnConfig) (parentLayerName : String)
    (acsendantLayers : List (ContainerLayer lib))
    (acsendantDescriptors : List WcLayerDescriptor) (hname : generatedName past = some name) :
    (runLayer config basePath parentLayerName (createDriverInfo (lib.widen basePath))
      acsendantLayers acsendantDescriptors (.make lib basePath name)).run.wp (fun _ _ ↦ True)
        (identityPre lib basePath) past fun past' _ ↦ generatedName past' = some name := by
  have hlayer {call : ApiCall} (hcall : layerArguments call =
      some (createDriverInfo (lib.widen basePath), lib.widen name)) :
      Calls (createDriverInfo (lib.widen basePath)) (lib.widen name) (.api call) :=
    calls_of_layerArguments hcall
  exact wp_runLayer_of stable_named (fun _ ↦ stable_named) (hlayer rfl) (hlayer rfl) (hlayer rfl)
    (hlayer rfl) (hlayer rfl) (hlayer rfl) (fun _ ↦ trivial) trivial hname (fun _ _ h ↦ h)
    fun past' hname' ↦ runPrepared_identity config acsendantLayers hname'

theorem spawnAndWait_identity (lib : Externals) (config : NspawnConfig) :
    (spawnAndWait lib config).run.wp (fun _ _ ↦ True)
      (identityPre lib (lib.stripFilename config.parentLayerDirectory)) [] fun _ _ ↦ True := by
  have hunnamed : Program.Stable (identityPre lib (lib.stripFilename config.parentLayerDirectory))
      Op.Describing Unnamed := stable_unnamed
  apply Fallible.wp_run_bind_of_only hunnamed (only_dumps trivial) ⟨rfl, rfl⟩ (fun _ _ _ ↦ trivial)
  intro past₁ _ hpast₁
  apply Fallible.wp_run_bind_of_only hunnamed (only_collectAcsendantLayers _ _) hpast₁
    (fun _ _ _ ↦ trivial)
  intro past₂ acsendantLayers hpast₂
  apply Fallible.wp_run_bind_of_only hunnamed (only_createAscendantDescriptors acsendantLayers)
    hpast₂ (fun _ _ _ ↦ trivial)
  intro past₃ acsendantDescriptors hpast₃
  refine wp_perform_bind trivial fun datetime _ ↦ wp_perform_bind trivial fun suffix _ ↦ ?_
  exact Program.wp_mono (fun _ _ _ ↦ trivial)
    (runLayer_identity config _ acsendantLayers acsendantDescriptors
      (generatedName_unnamed hpast₃ datetime suffix))

/-! ## What a run submits -/

/-- The name in the configuration that is submitted at a step. -/
def submittedName (labels : List Label) (i : ℕ) : Option Json :=
  (lastDump (mainEvents (labels.take i))).bind fun dump ↦ dump.1.field? "Name"

/-- The compute system that is created at a step, and all calls on the layer, go by the generated
name, and the configuration places the layer in the directory of the driver. -/
structure Submitted (lib : Externals) (labels : List Label) (i : ℕ) (id configuration : WString)
    (name homeDir : String) : Prop where
  generated : generatedName (mainEvents labels) = some name
  id_eq : id = lib.widen name
  layer : ∀ call reply, Label.call (.api call) reply ∈ labels → ∀ info layer,
    layerArguments call = some (info, layer) → layer = id ∧ info.homeDir = lib.widen homeDir
  configuration : ∃ json text, lastDump (mainEvents (labels.take i)) = some (json, text) ∧
    configuration = lib.widen text ∧
    json.field? "LayerFolderPath" = some (.string (homeDir ++ name))

/-- The container has one identity: its name in the configuration is the generated one, too. -/
def OneIdentity (lib : Externals) (labels : List Label) (i : ℕ) (id configuration : WString) :
    Prop :=
  ∃ name homeDir, Submitted lib labels i id configuration name homeDir ∧
    submittedName labels i = some (.string name)

section Runs

variable {config : NspawnConfig} {labels : List Label} {w : World (Except StdException Unit)}
  {i : ℕ}

theorem rule_of_run (hrun : (system _).Run (start (spawnAndWait lib config).run) labels w)
    {call : ApiCall} {reply : ApiReply call}
    (hi : labels[i]? = some (.call (.api call) reply)) :
    Rule lib (lib.stripFilename config.parentLayerDirectory) (mainEvents (labels.take i)) call :=
  pre_of_run hrun (fun _ _ ↦ trivial) (spawnAndWait_identity lib config) hi

theorem generatedName_of_take
    (hname : generatedName (mainEvents (labels.take i)) = some name) :
    generatedName (mainEvents labels) = some name := by
  rw [← List.take_append_drop i labels, mainEvents_append]
  exact generatedName_append hname _

theorem submitted_of_run
    (hrun : (system _).Run (start (spawnAndWait lib config).run) labels w)
    {id configuration : WString} {reply : ApiReply (.hcsCreateComputeSystem id configuration)}
    (hi : labels[i]? = some (.call (.api (.hcsCreateComputeSystem id configuration)) reply)) :
    (∃ name, Submitted lib labels i id configuration name
      (lib.stripFilename config.parentLayerDirectory)) ∧
    submittedName labels i = some (.string (lib.stripFilename config.parentLayerDirectory)) := by
  obtain ⟨name, json, text, hname, rfl, hdump, rfl, hfield, hfolder⟩ := rule_of_run hrun hi
  have hgenerated := generatedName_of_take hname
  refine ⟨⟨name, hgenerated, rfl, ?_, json, text, hdump, rfl, hfolder⟩, ?_⟩
  · intro call reply hcall info layer harguments
    obtain ⟨j, hj⟩ := List.getElem?_of_mem hcall
    obtain ⟨name', hname', rfl, rfl⟩ := (rule_of_run hrun hj).layer harguments
    rw [generatedName_of_take hname'] at hgenerated
    cases hgenerated
    exact ⟨rfl, rfl⟩
  · rw [submittedName, hdump]
    exact hfield

theorem oneIdentity_iff_of_run
    (hrun : (system _).Run (start (spawnAndWait lib config).run) labels w)
    {id configuration : WString} {reply : ApiReply (.hcsCreateComputeSystem id configuration)}
    (hi : labels[i]? = some (.call (.api (.hcsCreateComputeSystem id configuration)) reply)) :
    OneIdentity lib labels i id configuration ↔ generatedName (mainEvents labels) =
      some (lib.stripFilename config.parentLayerDirectory) := by
  obtain ⟨⟨name, hsubmitted⟩, hname⟩ := submitted_of_run hrun hi
  constructor
  · rintro ⟨name', homeDir, hsubmitted', hname'⟩
    rw [hname] at hname'
    cases hname'
    exact hsubmitted'.generated
  · intro hgenerated
    rw [hsubmitted.generated] at hgenerated
    cases hgenerated
    exact ⟨_, _, hsubmitted, hname⟩

/-- The id, the calls on the layer and the folder of the layer go by the generated name.  The
container has this one identity if and only if the generated name happens to be the base path, and
two containers have the same name if and only if they have the same base path. -/
theorem one_identity_iff (lib : Externals) (config : NspawnConfig)
    (hrun : (system _).Run (start (spawnAndWait lib config).run) labels w)
    {id configuration : WString} {reply : ApiReply (.hcsCreateComputeSystem id configuration)}
    (hi : labels[i]? = some (.call (.api (.hcsCreateComputeSystem id configuration)) reply)) :
    (∃ name homeDir, Submitted lib labels i id configuration name homeDir) ∧
    (OneIdentity lib labels i id configuration ↔ generatedName (mainEvents labels) =
      some (lib.stripFilename config.parentLayerDirectory)) ∧
    ∀ (config' : NspawnConfig) (labels' : List Label) (w' : World (Except StdException Unit))
      (i' : ℕ) (id' configuration' : WString)
      (reply' : ApiReply (.hcsCreateComputeSystem id' configuration')),
      (system _).Run (start (spawnAndWait lib config').run) labels' w' →
      labels'[i']? = some (.call (.api (.hcsCreateComputeSystem id' configuration')) reply') →
      (submittedName labels i = submittedName labels' i' ↔
        lib.stripFilename config.parentLayerDirectory =
          lib.stripFilename config'.parentLayerDirectory) := by
  obtain ⟨⟨name, hsubmitted⟩, hname⟩ := submitted_of_run hrun hi
  refine ⟨⟨name, _, hsubmitted⟩, oneIdentity_iff_of_run hrun hi, ?_⟩
  intro config' labels' w' i' id' configuration' reply' hrun' hi'
  rw [hname, (submitted_of_run hrun' hi').2]
  simp

end Runs

/-- The clock has moved on. -/
def later : Choice := .reply fun
  | .currentDatetime => "20161224180001"
  | op => answers successCode op

theorem one_identity_iff_run : ∃ labels labels' w w' id configuration,
    (system _).Run (start (spawnAndWait Externals.ascii someConfig).run) labels w ∧
    (system _).Run (start (spawnAndWait Externals.ascii someConfig).run) labels' w' ∧
    generatedName (mainEvents labels) ≠ generatedName (mainEvents labels') ∧
    (∃ name homeDir, Submitted Externals.ascii labels 15 id configuration name homeDir) ∧
    submittedName labels 15 = submittedName labels' 15 := by
  have hrun := run_of_choices (w := start (spawnAndWait Externals.ascii someConfig).run)
    Choice.untilLatch rfl
  have hrun' := run_of_choices (w := start (spawnAndWait Externals.ascii someConfig).run)
    (List.replicate 4 .succeed ++ later :: List.replicate 12 .succeed) rfl
  have hidentity := one_identity_iff _ _ hrun (i := 15) rfl
  exact ⟨_, _, _, _, _, _, hrun, hrun', by decide, hidentity.1,
    (hidentity.2.2 someConfig _ _ 15 _ _ _ hrun' rfl).mpr rfl⟩

/-- The container is named after the directory of its layer, as every other container there. -/
theorem not_one_identity : ∃ labels labels' w w' id configuration id' configuration' reply reply',
    (system _).Run (start (spawnAndWait Externals.ascii someConfig).run) labels w ∧
    (system _).Run (start (spawnAndWait Externals.ascii someConfig).run) labels' w' ∧
    labels[15]? = some (.call (.api (.hcsCreateComputeSystem id configuration)) reply) ∧
    labels'[15]? = some (.call (.api (.hcsCreateComputeSystem id' configuration')) reply') ∧
    ¬ OneIdentity Externals.ascii labels 15 id configuration ∧
    generatedName (mainEvents labels) ≠ generatedName (mainEvents labels') ∧
    submittedName labels 15 = some (.string "C:\\layers\\") ∧
    submittedName labels' 15 = some (.string "C:\\layers\\") := by
  have hrun := run_of_choices (w := start (spawnAndWait Externals.ascii someConfig).run)
    Choice.untilLatch rfl
  have hrun' := run_of_choices (w := start (spawnAndWait Externals.ascii someConfig).run)
    (List.replicate 4 .succeed ++ later :: List.replicate 12 .succeed) rfl
  have hidentity := oneIdentity_iff_of_run hrun (i := 15) rfl
  exact ⟨_, _, _, _, _, _, _, _, _, _, hrun, hrun', rfl, rfl, hidentity.not.mpr (by decide),
    by decide, rfl, rfl⟩

end Identity

end HostcomputeNspawn
