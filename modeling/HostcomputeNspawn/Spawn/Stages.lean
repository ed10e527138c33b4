import HostcomputeNspawn.World

/-!
# The stages of a container and their notifications

Every stage of a container is reached through a call and a notification.  What has to precede the
calls of the next stages is stated of the past of the main thread, where a notification shows as a
wait that is over; over the runs of the world every such wait has its delivery.
-/

namespace HostcomputeNspawn

open Interaction Transition World

open ComputeSystem

namespace Stages

/-- The termination of some compute system is under way. -/
def Terminating (past : List MainEvent) : Prop :=
  ∃ computeSystem options,
    returned (.hcsTerminateComputeSystem computeSystem options) operationPending () ∈ past

/-- A call between the start of the container and the exit of its process failed. -/
inductive Failed (past : List MainEvent) : Prop
  | enumerate (query : WString) (code : UInt32) (out : WString) : code ≠ 0 →
      returned (.hcsEnumerateComputeSystems query) code out ∈ past → Failed past
  | createProcess (computeSystem : Handle) (parameters : WString) (code : UInt32)
      (process : Handle) : code ≠ 0 →
      returned (.hcsCreateProcess computeSystem parameters) code process ∈ past → Failed past
  | registerProcess (process : Handle) (code : UInt32) : code ≠ 0 →
      returned (.hcsRegisterProcessCallback process) code () ∈ past → Failed past

/-- What has to precede a call, if `Notified x` says that the notification of `x` has arrived. -/
def Rule (Notified : CallbackLatch.Slot → Prop) (past : List MainEvent) : ApiCall → Prop
  | .hcsStartComputeSystem computeSystem _ =>
    Created computeSystem past ∧ Registered computeSystem past ∧ Notified .systemCreate
  | .hcsEnumerateComputeSystems _ =>
    ∃ computeSystem, Started computeSystem past ∧ Notified .systemStart
  | .hcsCreateProcess computeSystem _ => Started computeSystem past ∧ Notified .systemStart
  | .hcsTerminateComputeSystem computeSystem _ =>
    Started computeSystem past ∧ Notified .systemStart ∧ (Notified .processExit ∨ Failed past)
  | .unprepareLayer .. => Terminating past → Notified .systemExit
  | _ => True

theorem Rule.mono {Notified Notified' : CallbackLatch.Slot → Prop} {past : List MainEvent}
    {call : ApiCall} (himp : ∀ x, Notified x → Notified' x) (hrule : Rule Notified past call) :
    Rule Notified' past call := by
  cases call with
  | hcsStartComputeSystem => exact hrule.imp_right (And.imp_right (himp _))
  | hcsEnumerateComputeSystems => exact hrule.imp fun _ ↦ And.imp_right (himp _)
  | hcsCreateProcess => exact hrule.imp_right (himp _)
  | hcsTerminateComputeSystem => exact hrule.imp_right (And.imp (himp _) (Or.imp_left (himp _)))
  | unprepareLayer => exact fun h ↦ himp _ (hrule h)
  | _ => trivial

/-- The rule as a precondition of the main thread. -/
def stagePre (past : List MainEvent) : Op → Prop
  | .api call => Rule (Awaited · past) past call
  | _ => True

/-- Nothing is terminating without having been waited for. -/
def Settled (past : List MainEvent) : Prop := Terminating past → Awaited .systemExit past

/-- The compute system may be started. -/
structure Announced (computeSystem : Handle) (past : List MainEvent) : Prop where
  created : Created computeSystem past
  registered : Registered computeSystem past
  awaited : Awaited .systemCreate past

/-- The compute system is running. -/
structure Running (computeSystem : Handle) (past : List MainEvent) : Prop where
  started : Started computeSystem past
  awaited : Awaited .systemStart past

variable {lib : Externals} {past : List MainEvent} {computeSystem : Handle}

theorem Announced.append (h : Announced computeSystem past) (more : List MainEvent) :
    Announced computeSystem (past ++ more) where
  created := h.created.imp fun _ ↦ Exists.imp fun _ ↦ List.mem_append_left _
  registered := List.mem_append_left _ h.registered
  awaited := List.mem_append_left _ h.awaited

theorem Running.append (h : Running computeSystem past) (more : List MainEvent) :
    Running computeSystem (past ++ more) where
  started := h.started.imp fun _ ↦ List.mem_append_left _
  awaited := List.mem_append_left _ h.awaited

theorem Failed.append (h : Failed past) (more : List MainEvent) : Failed (past ++ more) := by
  cases h with
  | enumerate query code out hcode hmem =>
    exact .enumerate query code out hcode (List.mem_append_left _ hmem)
  | createProcess computeSystem parameters code process hcode hmem =>
    exact .createProcess computeSystem parameters code process hcode (List.mem_append_left _ hmem)
  | registerProcess process code hcode hmem =>
    exact .registerProcess process code hcode (List.mem_append_left _ hmem)

/-- What is not a termination leaves nothing to wait for. -/
theorem Settled.append (h : Settled past) {more : List MainEvent}
    (hmore : ¬ Terminating more) : Settled (past ++ more) := by
  rintro ⟨computeSystem, options, hterminate⟩
  rcases List.mem_append.mp hterminate with hbefore | hafter
  · exact List.mem_append_left _ (h ⟨computeSystem, options, hbefore⟩)
  · exact absurd ⟨computeSystem, options, hafter⟩ hmore

/-- The operations that no stage waits for. -/
def Free : Op → Prop
  | .api (.hcsStartComputeSystem ..) | .api (.hcsEnumerateComputeSystems _) => False
  | .api (.hcsCreateProcess ..) | .api (.hcsTerminateComputeSystem ..) => False
  | .api (.unprepareLayer ..) => False
  | _ => True

theorem free_of_preparing (op : Op) (hop : op.Preparing) : Free op := by
  unfold Op.Preparing at hop
  split at hop
  all_goals trivial

theorem free_of_acquiring (op : Op) (hop : op.Acquiring) : Free op := by
  unfold Op.Acquiring at hop
  split at hop
  all_goals trivial

theorem permits_free {op : Op} (hop : Free op) : stagePre past op := by
  cases op with
  | api call =>
    cases call
    all_goals trivial
  | _ => trivial

theorem stable_settled : Program.Stable stagePre Free Settled where
  permits _ hop := permits_free hop
  keeps reply hpast hop := by
    apply hpast.append
    rintro ⟨computeSystem, options, hterminate⟩
    cases List.mem_singleton.mp hterminate
    exact hop

/-- The layer may be taken down once nothing has to be waited for. -/
theorem stable_settled_releasing : Program.Stable stagePre Op.Releasing Settled where
  permits {past op} hpast hop := by
    unfold Op.Releasing at hop
    split at hop
    · exact hpast
    all_goals trivial
  keeps reply hpast hop := by
    apply hpast.append
    rintro ⟨computeSystem, options, hterminate⟩
    cases List.mem_singleton.mp hterminate
    exact hop

/-- The replies of a world in which every export resolves and the configuration of the process can
be written. -/
def Allowed (config : NspawnConfig) (op : Op) (reply : op.Reply) : Prop :=
  Resolved op reply ∧ ∀ e, (⟨op, reply⟩ : MainEvent) ≠
    ⟨.dumps (ProcessConfig.toJson ⟨config⟩), .error e⟩

variable {config : NspawnConfig}

theorem not_allowed_error {call : ApiCall} {failure : LookupFailure} :
    ¬ Allowed config (.api call) (.error failure) := fun h ↦ not_resolved_error h.1

theorem hcsRegisterComputeSystemCallback_stage (layer : ContainerLayer lib)
    (hsettled : Settled past) (hcreated : Created computeSystem past) :
    (hcsRegisterComputeSystemCallback computeSystem layer).run.wp (Allowed config) stagePre past
      fun past' result ↦ match result with
        | .ok _ => Settled past' ∧ Announced computeSystem past'
        | .error _ => Settled past' := by
  refine wp_latched (x := .systemCreate) rfl trivial trivial (fun _ h ↦ absurd h not_allowed_error)
    (fun code _ _ _ ↦ ⟨trivial, ?_⟩) fun _ _ ↦ ⟨trivial, ?_, ?_, ?_, ?_⟩
  · exact hsettled.append (by simp [Terminating])
  · exact hsettled.append (by simp [Terminating])
  · exact hcreated.imp fun _ ↦ Exists.imp fun _ ↦ List.mem_append_left _
  · simp [Registered]
  · simp [Awaited]

theorem hcsStartComputeSystem_stage (hsettled : Settled past)
    (hannounced : Announced computeSystem past) :
    (hcsStartComputeSystem lib computeSystem).run.wp (Allowed config) stagePre past
      fun past' result ↦ match result with
        | .ok _ => Settled past' ∧ Running computeSystem past'
        | .error _ => Settled past' := by
  have hlocked := hannounced.append [finished .lock]
  refine wp_latched (x := .systemStart) rfl trivial
    ⟨hlocked.created, hlocked.registered, hlocked.awaited⟩
    (fun _ h ↦ absurd h not_allowed_error) (fun code _ _ _ ↦ ⟨trivial, ?_⟩)
    fun _ _ ↦ ⟨trivial, ?_, ⟨lib.widen "", ?_⟩, ?_⟩
  · exact hsettled.append (by simp [Terminating])
  · exact hsettled.append (by simp [Terminating])
  · simp
  · simp [Awaited]

/-- What the guard that terminates the container may rely on. -/
structure Over (computeSystem : Handle) (past : List MainEvent) : Prop where
  settled : Settled past
  running : Running computeSystem past
  reason : Awaited .processExit past ∨ Failed past

theorem hcsEnumerateComputeSystems_stage (hsettled : Settled past)
    (hrunning : Running computeSystem past) :
    (hcsEnumerateComputeSystems lib).run.wp (Allowed config) stagePre past
      fun past' result ↦ match result with
        | .ok _ => Settled past' ∧ Running computeSystem past'
        | .error _ => Over computeSystem past' := by
  refine (Fallible.wp_run_bind _ _).mpr (wp_checked ⟨_, hrunning.started, hrunning.awaited⟩
    (fun _ h ↦ absurd h not_allowed_error) (fun code out _ hcode ↦ ⟨?_, hrunning.append _, ?_⟩)
    fun _ _ ↦ ⟨?_, hrunning.append _⟩)
  · exact hsettled.append (by simp [Terminating])
  · exact Or.inr (Failed.enumerate _ code out hcode
      (List.mem_append_right _ (List.mem_singleton.mpr rfl)))
  · exact hsettled.append (by simp [Terminating])

/-- The configuration of the process can be written. -/
theorem dumps_stage (hsettled : Settled past) (hrunning : Running computeSystem past) :
    (dumps (ProcessConfig.toJson ⟨config⟩)).run.wp (Allowed config) stagePre past
      fun past' result ↦
        (∀ e, result ≠ .error e) ∧ Settled past' ∧ Running computeSystem past' := by
  apply wp_dumps trivial
  intro reply hreply
  refine ⟨fun e he ↦ hreply.2 e ?_, hsettled.append (by simp [Terminating]), hrunning.append _⟩
  exact congrArg (Sigma.mk _) he

theorem hcsCreateProcess_stage (hsettled : Settled past) (hrunning : Running computeSystem past) :
    (hcsCreateProcess lib computeSystem config).run.wp (Allowed config) stagePre past
      fun past' result ↦ match result with
        | .ok _ => Settled past' ∧ Running computeSystem past'
        | .error _ => Over computeSystem past' := by
  refine Fallible.wp_run_bind_of _ (dumps_stage hsettled hrunning)
    (fun _ e h ↦ absurd rfl (h.1 e)) fun past₁ pcfgJson ⟨_, hsettled₁, hrunning₁⟩ ↦ ?_
  refine wp_checked ⟨hrunning₁.started, hrunning₁.awaited⟩ (fun _ h ↦ absurd h not_allowed_error)
    (fun code process _ hcode ↦ ⟨?_, hrunning₁.append _, ?_⟩) fun _ _ ↦ ⟨?_, hrunning₁.append _⟩
  · exact hsettled₁.append (by simp [Terminating])
  · exact Or.inr (Failed.createProcess computeSystem _ code process hcode
      (List.mem_append_right _ (List.mem_singleton.mpr rfl)))
  · exact hsettled₁.append (by simp [Terminating])

theorem hcsRegisterProcessCallback_stage (layer : ContainerLayer lib) (process : Handle)
    (hsettled : Settled past) (hrunning : Running computeSystem past) :
    (hcsRegisterProcessCallback process layer).run.wp (Allowed config) stagePre past
      fun past' _ ↦ Over computeSystem past' := by
  refine wp_latched (x := .processExit) rfl trivial trivial (fun _ h ↦ absurd h not_allowed_error)
    (fun code _ _ hcode ↦ ⟨trivial, ?_, hrunning.append _, Or.inr ?_⟩)
    fun _ _ ↦ ⟨trivial, ?_, hrunning.append _, Or.inl ?_⟩
  · exact hsettled.append (by simp [Terminating])
  · exact Failed.registerProcess process code hcode (List.mem_append_right _ (by simp))
  · exact hsettled.append (by simp [Terminating])
  · simp [Awaited]

/-- However the process ends, the guard that terminates the container may run. -/
theorem runProcess_stage (layer : ContainerLayer lib) (hsettled : Settled past)
    (hrunning : Running computeSystem past) :
    (runProcess config layer computeSystem).run.wp (Allowed config) stagePre past
      fun past' _ ↦ Over computeSystem past' := by
  apply Fallible.wp_run_bind_of _ (hcsEnumerateComputeSystems_stage hsettled hrunning)
    (fun _ _ h ↦ h)
  intro past₁ _ h₁
  apply Fallible.wp_run_bind_of _ (hcsCreateProcess_stage h₁.1 h₁.2) (fun _ _ h ↦ h)
  intro past₂ process h₂
  exact hcsRegisterProcessCallback_stage layer process h₂.1 h₂.2

theorem hcsTerminateComputeSystem_stage (layer : ContainerLayer lib)
    (hover : Over computeSystem past) :
    (hcsTerminateComputeSystem computeSystem layer).wp (Allowed config) stagePre past
      fun past' _ ↦ Settled past' := by
  have hrunning := hover.running.append [finished .lock]
  refine wp_hcsTerminateComputeSystem trivial ⟨hrunning.started, hrunning.awaited, ?_⟩
    (fun _ h ↦ absurd h not_allowed_error) (fun code _ hcode ↦ ⟨trivial, trivial, ?_⟩)
    fun _ ↦ ⟨trivial, fun _ ↦ ?_⟩
  · exact hover.reason.imp (List.mem_append_left _) fun h ↦ h.append _
  · exact hover.settled.append (by simp [Terminating, hcode.symm])
  · simp [Awaited]

theorem runContainer_stage (layer : ContainerLayer lib) (hsettled : Settled past)
    (hcreated : Created computeSystem past) :
    (runContainer config layer computeSystem).run.wp (Allowed config) stagePre past
      fun past' _ ↦ Settled past' := by
  refine wp_perform_bind trivial fun constructed _ ↦ ?_
  have hsettled' : Settled (past ++ [⟨.constructLatch, constructed⟩]) :=
    hsettled.append (by simp [Terminating])
  have hcreated' : Created computeSystem (past ++ [⟨.constructLatch, constructed⟩]) :=
    hcreated.imp fun _ ↦ Exists.imp fun _ ↦ List.mem_append_left _
  refine Fallible.wp_run_defer_of (fun past' _ ↦ Settled past') ?_
    fun _ _ h ↦ ⟨trivial, fun _ _ ↦ h.append (by simp [Terminating])⟩
  apply Fallible.wp_run_bind_of _ (hcsRegisterComputeSystemCallback_stage layer hsettled' hcreated')
    (fun _ _ h ↦ h)
  intro past₁ _ h₁
  apply Fallible.wp_run_bind_of _ (hcsStartComputeSystem_stage h₁.1 h₁.2) (fun _ _ h ↦ h)
  intro past₂ _ h₂
  exact Fallible.wp_run_defer_of _ (runProcess_stage layer h₂.1 h₂.2)
    fun _ _ hover ↦ hcsTerminateComputeSystem_stage layer hover

theorem runLayer_stage (basePath parentLayerName : String) (driverInfo : DriverInfo)
    (acsendantLayers : List (ContainerLayer lib))
    (acsendantDescriptors : List WcLayerDescriptor) (layer : ContainerLayer lib)
    (hsettled : Settled past) :
    (runLayer config basePath parentLayerName driverInfo acsendantLayers acsendantDescriptors
      layer).run.wp (Allowed config) stagePre past fun past' _ ↦ Settled past' := by
  apply wp_runLayer (stable_settled.mono free_of_acquiring) (fun _ ↦ stable_settled_releasing)
    hsettled (fun _ _ h ↦ h)
  intro past₁ hpast₁
  apply wp_runPrepared (stable_settled.mono free_of_preparing) hpast₁ (fun _ _ h ↦ h)
    (fun _ _ _ _ ↦ trivial) (fun _ _ _ _ _ _ h ↦ absurd h not_allowed_error)
    (fun _ _ _ _ _ _ h _ ↦ h.append (by simp [Terminating]))
  intro past' id conf computeSystem h
  exact runContainer_stage layer (h.append (by simp [Terminating]))
    ⟨id, conf, List.mem_append_right _ (by simp)⟩

theorem spawnAndWait_stage : (spawnAndWait lib config).run.wp (Allowed config) stagePre []
    fun past' _ ↦ Settled past' :=
  wp_spawnAndWait (stable_settled.mono free_of_preparing) (by simp [Settled, Terminating])
    (fun _ _ h ↦ h) fun _ _ _ _ _ _ _ h ↦ runLayer_stage _ _ _ _ _ _ h

/-- No stage runs ahead of its notification: what has to precede a call was called and delivered
before it was made. -/
theorem stages_follow_notifications (lib : Externals) (config : NspawnConfig)
    {labels : List Label} {w : World (Except StdException Unit)}
    (hrun : (system _).Run (start (spawnAndWait lib config).run) labels w)
    (hresolves : Resolves labels)
    (hdumps : ∀ e, Label.call (.dumps (ProcessConfig.toJson ⟨config⟩)) (.error e) ∉ labels)
    {i : ℕ} {call : ApiCall} {reply : ApiReply call}
    (hi : labels[i]? = some (.call (.api call) reply)) :
    Rule (Delivered · (labels.take i)) (mainEvents (labels.take i)) call := by
  have hallowed : ∀ event ∈ mainEvents labels, Allowed config event.1 event.2 := by
    refine fun event hevent ↦ ⟨hresolves.resolved event hevent, fun e he ↦ ?_⟩
    refine hdumps e ((mem_mainEvents rfl).mp ?_)
    exact he ▸ hevent
  obtain ⟨t, hbefore⟩ := hrun.take i
  have hrule := pre_of_run hrun hallowed spawnAndWait_stage hi
  exact Rule.mono (fun x ↦ delivered_of_awaited hbefore) hrule

theorem stages_follow_notifications_start : ∃ (labels : List Label)
    (w : World (Except StdException Unit)),
    (system _).Run (start (spawnAndWait Externals.ascii someConfig).run) labels w ∧
    Resolves labels ∧
    (∃ options, labels[30]? =
      some (.call (.api (.hcsStartComputeSystem 1 options)) (.ok ⟨operationPending, ()⟩))) ∧
    Delivered .systemCreate (labels.take 30) := by
  have hrun := run_of_choices (w := start (spawnAndWait Externals.ascii someConfig).run)
    (Choice.untilExit 0) rfl
  have hrule := stages_follow_notifications _ _ hrun (by decide)
    (fun e ↦ not_mem_of_threw (by decide) rfl) (i := 30) rfl
  exact ⟨_, _, hrun, by decide, ⟨_, rfl⟩, hrule.2.2⟩

end Stages

end HostcomputeNspawn
