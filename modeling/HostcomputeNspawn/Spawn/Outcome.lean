import HostcomputeNspawn.World

/-!
# What a result says

`spawn_and_wait` returns exactly when the process callback was registered, and then every stage
before it succeeded.  The notifications behind the stages were delivered, but their statuses are
only printed: an asynchronous failure passes for a success.
-/

namespace HostcomputeNspawn

open Interaction Transition World ComputeSystem

/-! ## The statuses are only printed -/

/-- The notification with another status. -/
def Notification.mapStatus (f : Int32 → Int32) (n : Notification) : Notification :=
  { n with notificationStatus := f n.notificationStatus }

namespace CallbackLatch

variable (f : Int32 → Int32)

def CallbackPc.mapStatus : CallbackPc → CallbackPc
  | .entered n => .entered (n.mapStatus f)
  | pc => pc

def State.mapStatus (s : State) : State :=
  { s with callbacks := s.callbacks.map (CallbackPc.mapStatus f) }

def Label.mapStatus : Label → Label
  | .enter n => .enter (n.mapStatus f)
  | .swap id n => .swap id (n.mapStatus f)
  | label => label

@[simp]
theorem method_mapStatus (label : Label) : (label.mapStatus f).method = label.method := by
  cases label <;> rfl

@[simp]
theorem returns_mapStatus (label : Label) : (label.mapStatus f).returns = label.returns := by
  cases label <;> rfl

variable {f}

theorem getElem?_mapStatus {s : State} {id : ℕ} {pc : CallbackPc}
    (hid : s.callbacks[id]? = some pc) :
    (s.mapStatus f).callbacks[id]? = some (pc.mapStatus f) := by
  simp [State.mapStatus, hid]

/-- The exchange depends on the type of the notification and not on its status. -/
theorem swap_mapStatus (s : State) (id : ℕ) (n : Notification) :
    (s.mapStatus f).swap id (n.mapStatus f) = (s.swap id n).mapStatus f := by
  have htype : (n.mapStatus f).notificationType = n.notificationType := rfl
  have hflag (x : Slot) : (s.mapStatus f).flag x = s.flag x := rfl
  unfold State.swap
  rw [htype]
  split
  · simp [State.mapStatus, CallbackPc.mapStatus]
  · rw [hflag]
    split <;> simp [State.mapStatus, CallbackPc.mapStatus]

/-- No step of the latch depends on a status. -/
theorem step_mapStatus {s t : State} {label : Label} (hstep : step s label = some t) :
    step (s.mapStatus f) (label.mapStatus f) = some (t.mapStatus f) := by
  cases label with
  | enter n =>
    simp only [step, Option.some.injEq] at hstep
    subst hstep
    simp [step, State.mapStatus, Label.mapStatus, CallbackPc.mapStatus]
  | swap id n =>
    simp only [step, Option.ite_none_right_eq_some, Option.some.injEq] at hstep
    obtain ⟨hid, rfl⟩ := hstep
    simp only [step, Label.mapStatus, swap_mapStatus]
    exact if_pos (getElem?_mapStatus hid)
  | acquire id x =>
    simp only [step, Option.ite_none_right_eq_some, Option.some.injEq] at hstep
    obtain ⟨⟨hid, hfree⟩, rfl⟩ := hstep
    refine (if_pos ⟨getElem?_mapStatus hid, hfree⟩).trans ?_
    simp [State.mapStatus, CallbackPc.mapStatus]
  | notify id x =>
    simp only [step, Option.ite_none_right_eq_some, Option.some.injEq] at hstep
    obtain ⟨hid, rfl⟩ := hstep
    refine (if_pos (getElem?_mapStatus hid)).trans ?_
    simp [State.mapStatus, CallbackPc.mapStatus]
  | release id x =>
    simp only [step, Option.ite_none_right_eq_some, Option.some.injEq] at hstep
    obtain ⟨hid, rfl⟩ := hstep
    refine (if_pos (getElem?_mapStatus hid)).trans ?_
    simp [State.mapStatus, CallbackPc.mapStatus]
  | _ =>
    simp only [step, Option.ite_none_right_eq_some, Option.some.injEq] at hstep
    obtain ⟨hguard, rfl⟩ := hstep
    exact if_pos hguard

end CallbackLatch

namespace World

variable (f : Int32 → Int32) {α : Type}

/-- The step with other statuses. -/
def Label.mapStatus : Label → Label
  | .latch label => .latch (label.mapStatus f)
  | label => label

theorem mainEvents_mapStatus (labels : List Label) :
    mainEvents (labels.map (Label.mapStatus f)) = mainEvents labels := by
  rw [mainEvents, List.filterMap_map]
  refine List.filterMap_congr fun label _ ↦ ?_
  cases label with
  | call op reply => rfl
  | latch label => simp [Label.mapStatus, Label.mainEvent]

variable {f}

theorem latchAfter_mapStatus (op : Op) (latch : CallbackLatch.State) :
    (op.latchAfter latch).mapStatus f = op.latchAfter (latch.mapStatus f) := by
  cases op <;> rfl

/-- The same environment drives the world through the same steps, whatever the statuses are. -/
theorem run_mapStatus {w w' : World α} {labels : List Label} (hrun : (system α).Run w labels w') :
    (system α).Run ⟨w.main, w.latch.mapStatus f⟩ (labels.map (Label.mapStatus f))
      ⟨w'.main, w'.latch.mapStatus f⟩ := by
  induction hrun with
  | refl => exact System.Run.refl _
  | @snoc u v labels label _ hstep ih =>
    rw [List.map_append, List.map_singleton]
    refine ih.snoc ?_
    cases step_cases hstep with
    | call reply hop =>
      rw [latchAfter_mapStatus]
      exact step_call hop reply
    | callback hlatch hmethod =>
      exact step_latch (CallbackLatch.step_mapStatus hlatch) (by simp [resume, hmethod])
    | method hlatch hmethod hreturns =>
      exact step_latch (CallbackLatch.step_mapStatus hlatch) (by simp [resume, hmethod, hreturns])
    | finish hlatch hmethod hreturns =>
      exact step_latch (CallbackLatch.step_mapStatus hlatch) (by simp [resume, hmethod, hreturns])

end World

namespace Outcome

/-- The process callback is registered. -/
def ProcessRegistered (process : Handle) (past : List MainEvent) : Prop :=
  returned (.hcsRegisterProcessCallback process) 0 () ∈ past

/-- The process was created in a compute system. -/
def ProcessCreated (computeSystem process : Handle) (past : List MainEvent) : Prop :=
  ∃ parameters, returned (.hcsCreateProcess computeSystem parameters) 0 process ∈ past

/-- The stages of a container up to its start. -/
structure Up (computeSystem : Handle) (past : List MainEvent) : Prop where
  created : Created computeSystem past
  registered : Registered computeSystem past
  started : Started computeSystem past

/-- All the stages of a container. -/
def Succeeded (past : List MainEvent) : Prop :=
  ∃ computeSystem process, Up computeSystem past ∧ ProcessCreated computeSystem process past ∧
    ProcessRegistered process past

/-- The last stage has not been reached. -/
def Unfinished (past : List MainEvent) : Prop := ∀ process, ¬ ProcessRegistered process past

/-- The result tells whether the last stage was reached, and with it all the others. -/
def Reported (past : List MainEvent) : Except StdException Unit → Prop
  | .ok _ => Succeeded past
  | .error _ => Unfinished past

/-- The notifications that the start of the container and the creation of its process wait for. -/
def notifiedPre (past : List MainEvent) : Op → Prop
  | .api (.hcsStartComputeSystem ..) => Awaited .systemCreate past
  | .api (.hcsCreateProcess ..) => Awaited .systemStart past
  | _ => True

variable {lib : Externals} {past : List MainEvent} {computeSystem : Handle}
  {allowed : (op : Op) → op.Reply → Prop}

theorem Up.append (h : Up computeSystem past) (more : List MainEvent) :
    Up computeSystem (past ++ more) where
  created := h.created.imp fun _ ↦ Exists.imp fun _ ↦ List.mem_append_left _
  registered := List.mem_append_left _ h.registered
  started := h.started.imp fun _ ↦ List.mem_append_left _

theorem Succeeded.append (h : Succeeded past) (more : List MainEvent) :
    Succeeded (past ++ more) := by
  obtain ⟨computeSystem, process, hup, hprocess, hregistered⟩ := h
  exact ⟨computeSystem, process, hup.append more, hprocess.imp fun _ ↦ List.mem_append_left _,
    List.mem_append_left _ hregistered⟩

theorem Unfinished.append (h : Unfinished past) {more : List MainEvent} (hmore : Unfinished more) :
    Unfinished (past ++ more) := fun process hregistered ↦
  (List.mem_append.mp hregistered).elim (h process) (hmore process)

/-- The operations that decide nothing about the result. -/
def Indifferent : Op → Prop
  | .api (.hcsStartComputeSystem ..) | .api (.hcsCreateProcess ..) => False
  | .api (.hcsRegisterProcessCallback _) => False
  | _ => True

theorem indifferent_of_preparing (op : Op) (hop : op.Preparing) : Indifferent op := by
  unfold Op.Preparing at hop
  split at hop
  all_goals trivial

theorem indifferent_of_acquiring (op : Op) (hop : op.Acquiring) : Indifferent op := by
  unfold Op.Acquiring at hop
  split at hop
  all_goals trivial

theorem indifferent_of_releasing (op : Op) (hop : op.Releasing) : Indifferent op := by
  unfold Op.Releasing at hop
  split at hop
  all_goals trivial

theorem permits_indifferent {op : Op} (hop : Indifferent op) : notifiedPre past op := by
  cases op with
  | api call =>
    cases call
    all_goals trivial
  | _ => trivial

theorem unfinished_of_indifferent {op : Op} (reply : op.Reply) (hop : Indifferent op) :
    Unfinished [⟨op, reply⟩] := fun process hregistered ↦ by
  cases List.mem_singleton.mp hregistered
  exact hop

theorem stable_unfinished : Program.Stable notifiedPre Indifferent Unfinished where
  permits _ hop := permits_indifferent hop
  keeps reply hpast hop := hpast.append (unfinished_of_indifferent reply hop)

theorem stable_reported (result : Except StdException Unit) :
    Program.Stable notifiedPre Indifferent (Reported · result) where
  permits _ hop := permits_indifferent hop
  keeps reply hpast hop := by
    cases result with
    | ok u => exact Succeeded.append hpast _
    | error e => exact Unfinished.append hpast (unfinished_of_indifferent reply hop)

/-- The container may be started. -/
structure Startable (computeSystem : Handle) (past : List MainEvent) : Prop where
  unfinished : Unfinished past
  created : Created computeSystem past
  registered : Registered computeSystem past
  awaited : Awaited .systemCreate past

/-- The process may be created. -/
structure Usable (computeSystem : Handle) (past : List MainEvent) : Prop where
  unfinished : Unfinished past
  up : Up computeSystem past
  awaited : Awaited .systemStart past

theorem hcsRegisterComputeSystemCallback_outcome (layer : ContainerLayer lib)
    (hpast : Unfinished past) (hcreated : Created computeSystem past) :
    (hcsRegisterComputeSystemCallback computeSystem layer).run.wp allowed notifiedPre past
      fun past' result ↦ match result with
        | .ok _ => Startable computeSystem past'
        | .error _ => Unfinished past' := by
  refine wp_latched (x := .systemCreate) rfl trivial trivial (fun _ _ ↦ ?_)
    (fun _ _ _ _ ↦ ⟨trivial, ?_⟩) fun _ _ ↦ ⟨trivial, ?_, ?_, ?_, ?_⟩
  · exact hpast.append (by simp [Unfinished, ProcessRegistered])
  · exact hpast.append (by simp [Unfinished, ProcessRegistered])
  · exact hpast.append (by simp [Unfinished, ProcessRegistered])
  · exact hcreated.imp fun _ ↦ Exists.imp fun _ ↦ List.mem_append_left _
  · simp [Registered]
  · simp [Awaited]

theorem hcsStartComputeSystem_outcome (hpast : Startable computeSystem past) :
    (hcsStartComputeSystem lib computeSystem).run.wp allowed notifiedPre past
      fun past' result ↦ match result with
        | .ok _ => Usable computeSystem past'
        | .error _ => Unfinished past' := by
  refine wp_latched (x := .systemStart) rfl trivial (List.mem_append_left _ hpast.awaited)
    (fun _ _ ↦ ?_) (fun _ _ _ _ ↦ ⟨trivial, ?_⟩)
    fun _ _ ↦ ⟨trivial, ?_, ⟨?_, ?_, lib.widen "", ?_⟩, ?_⟩
  · exact hpast.unfinished.append (by simp [Unfinished, ProcessRegistered])
  · exact hpast.unfinished.append (by simp [Unfinished, ProcessRegistered])
  · exact hpast.unfinished.append (by simp [Unfinished, ProcessRegistered])
  · exact hpast.created.imp fun _ ↦ Exists.imp fun _ ↦ List.mem_append_left _
  · exact List.mem_append_left _ hpast.registered
  · simp
  · simp [Awaited]

theorem Usable.append (h : Usable computeSystem past) {more : List MainEvent}
    (hmore : Unfinished more) : Usable computeSystem (past ++ more) where
  unfinished := h.unfinished.append hmore
  up := h.up.append more
  awaited := List.mem_append_left _ h.awaited

theorem stable_usable : Program.Stable notifiedPre Indifferent (Usable computeSystem) where
  permits _ hop := permits_indifferent hop
  keeps reply hpast hop := hpast.append (unfinished_of_indifferent reply hop)

theorem hcsCreateProcess_outcome {config : NspawnConfig} (hpast : Usable computeSystem past) :
    (hcsCreateProcess lib computeSystem config).run.wp allowed notifiedPre past
      fun past' result ↦ match result with
        | .ok process => Usable computeSystem past' ∧ ProcessCreated computeSystem process past'
        | .error _ => Unfinished past' := by
  apply Fallible.wp_run_bind_of_only stable_usable (only_dumps trivial) hpast
    (fun _ _ h ↦ h.unfinished)
  intro past₁ pcfgJson hpast₁
  refine wp_checked hpast₁.awaited (fun _ _ ↦ ?_) (fun _ _ _ _ ↦ ?_) fun _ _ ↦ ⟨?_, ?_⟩
  · exact hpast₁.unfinished.append (by simp [Unfinished, ProcessRegistered])
  · exact hpast₁.unfinished.append (by simp [Unfinished, ProcessRegistered])
  · exact hpast₁.append (by simp [Unfinished, ProcessRegistered])
  · exact ⟨lib.widen pcfgJson, List.mem_append_right _ (List.mem_singleton.mpr rfl)⟩

theorem hcsRegisterProcessCallback_outcome (layer : ContainerLayer lib) {process : Handle}
    (hpast : Usable computeSystem past) (hprocess : ProcessCreated computeSystem process past) :
    (hcsRegisterProcessCallback process layer).run.wp allowed notifiedPre past Reported := by
  refine wp_latched (x := .processExit) rfl trivial trivial (fun _ _ ↦ ?_)
    (fun _ _ _ hcode ↦ ⟨trivial, ?_⟩)
    fun _ _ ↦ ⟨trivial, computeSystem, process, hpast.up.append _, ?_, ?_⟩
  · exact hpast.unfinished.append (by simp [Unfinished, ProcessRegistered])
  · exact hpast.unfinished.append (by simp [Unfinished, ProcessRegistered, hcode.symm])
  · exact hprocess.imp fun _ ↦ List.mem_append_left _
  · simp [ProcessRegistered]

theorem runProcess_outcome (config : NspawnConfig) (layer : ContainerLayer lib)
    (hpast : Usable computeSystem past) :
    (runProcess config layer computeSystem).run.wp allowed notifiedPre past Reported := by
  refine Fallible.wp_run_bind_of_only stable_usable (Fallible.only_run_bind (only_checked trivial)
    fun _ ↦ trivial) hpast (fun _ _ h ↦ h.unfinished) fun past₁ _ hpast₁ ↦ ?_
  exact Fallible.wp_run_bind_of _ (hcsCreateProcess_outcome hpast₁) (fun _ _ h ↦ h)
    fun past₂ process h ↦ hcsRegisterProcessCallback_outcome layer h.1 h.2

theorem runContainer_outcome (config : NspawnConfig) (layer : ContainerLayer lib)
    (hpast : Unfinished past) (hcreated : Created computeSystem past) :
    (runContainer config layer computeSystem).run.wp allowed notifiedPre past Reported := by
  refine wp_perform_bind trivial fun constructed _ ↦ ?_
  refine Fallible.wp_run_defer_of_only ⟨trivial, fun _ ↦ trivial⟩ stable_reported ?_
  apply Fallible.wp_run_bind_of _ (hcsRegisterComputeSystemCallback_outcome layer
    (hpast.append (by simp [Unfinished, ProcessRegistered]))
    (hcreated.imp fun _ ↦ Exists.imp fun _ ↦ List.mem_append_left _)) (fun _ _ h ↦ h)
  intro past₁ _ hpast₁
  apply Fallible.wp_run_bind_of _ (hcsStartComputeSystem_outcome hpast₁) (fun _ _ h ↦ h)
  intro past₂ _ hpast₂
  exact Fallible.wp_run_defer_of_only (only_hcsTerminateComputeSystem trivial (fun _ ↦ trivial)
    (fun _ ↦ trivial) trivial) stable_reported (runProcess_outcome config layer hpast₂)

theorem runLayer_outcome (config : NspawnConfig) (basePath parentLayerName : String)
    (driverInfo : DriverInfo) (acsendantLayers : List (ContainerLayer lib))
    (acsendantDescriptors : List WcLayerDescriptor) (layer : ContainerLayer lib)
    (hpast : Unfinished past) :
    (runLayer config basePath parentLayerName driverInfo acsendantLayers acsendantDescriptors
      layer).run.wp allowed notifiedPre past Reported := by
  apply wp_runLayer (stable_unfinished.mono indifferent_of_acquiring)
    (fun result ↦ (stable_reported result).mono indifferent_of_releasing) hpast (fun _ _ h ↦ h)
  intro past₁ hpast₁
  refine wp_runPrepared (stable_unfinished.mono indifferent_of_preparing) hpast₁ (fun _ _ h ↦ h)
    (fun _ _ _ _ ↦ trivial) (fun _ _ _ _ _ h _ ↦ ?_) (fun _ _ _ _ _ _ h _ ↦ ?_)
    fun past' id configuration computeSystem h ↦ runContainer_outcome config layer ?_ ?_
  · exact h.append (by simp [Unfinished, ProcessRegistered])
  · exact h.append (by simp [Unfinished, ProcessRegistered])
  · exact h.append (by simp [Unfinished, ProcessRegistered])
  · exact ⟨id, configuration, List.mem_append_right _ (List.mem_singleton.mpr rfl)⟩

theorem spawnAndWait_outcome (config : NspawnConfig) (hpast : Unfinished past) :
    (spawnAndWait lib config).run.wp allowed notifiedPre past Reported :=
  wp_spawnAndWait (stable_unfinished.mono indifferent_of_preparing) hpast (fun _ _ h ↦ h)
    fun _ _ _ _ _ _ _ h ↦ runLayer_outcome _ _ _ _ _ _ _ h

/-- The message of `hostcompute_nspawn` tells what the result of `spawn_and_wait` tells. -/
def ReportedNull (past : List MainEvent) : Option String → Prop
  | none => Succeeded past
  | some _ => Unfinished past

theorem hostcomputeNspawn_outcome (configJson : Option (List UInt8)) (configJsonLen : Int32) :
    (hostcomputeNspawn lib configJson configJsonLen).wp allowed notifiedPre [] ReportedNull := by
  apply wp_hostcomputeNspawn (stable_unfinished.mono indifferent_of_preparing)
    (by simp [Unfinished, ProcessRegistered]) (fun _ _ h ↦ h)
  intro past' config hpast'
  refine Program.wp_mono (fun past'' result h ↦ ?_) (spawnAndWait_outcome config hpast')
  cases result with
  | ok u => exact h
  | error e => exact h

/-- The notification that a call relies on has been delivered. -/
def Notified (labels : List Label) : ApiCall → Prop
  | .hcsStartComputeSystem .. => Delivered .systemCreate labels
  | .hcsCreateProcess .. => Delivered .systemStart labels
  | _ => True

/-- The notification reports a success. -/
def reportsSuccess : Label → Bool
  | .latch (.swap _ n) => 0 ≤ n.notificationStatus
  | _ => false

end Outcome

end HostcomputeNspawn
