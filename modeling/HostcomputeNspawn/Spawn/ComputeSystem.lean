import HostcomputeNspawn.World

/-!
# The lifetime of the compute system

Which calls on the compute system a run makes.  The guard that terminates the system is armed only
after the system has been started, so a system that was created but could not be registered or
started is left behind.
-/

namespace HostcomputeNspawn

open Interaction World

namespace ComputeSystem

/-- The calls on the compute system, and the one that takes its layer away. -/
def concerns : Op → Bool
  | .api (.hcsCreateComputeSystem ..) => true
  | .api (.hcsRegisterComputeSystemCallback _) => true
  | .api (.hcsStartComputeSystem ..) => true
  | .api (.hcsTerminateComputeSystem ..) => true
  | .api (.unprepareLayer ..) => true
  | _ => false

/-- The events that concern the compute system. -/
def events (past : List MainEvent) : List MainEvent := past.filter fun event ↦ concerns event.1

@[simp]
theorem events_append (first second : List MainEvent) :
    events (first ++ second) = events first ++ events second := List.filter_append ..

/-- The calls on a compute system, from its creation on. -/
inductive History : List MainEvent → Prop
  | notCreated (id configuration : WString) (code : UInt32) (computeSystem : Handle) :
      code ≠ operationPending →
      History [returned (.hcsCreateComputeSystem id configuration) code computeSystem]
  | notRegistered (id configuration : WString) (computeSystem : Handle) (code : UInt32) :
      code ≠ 0 →
      History [returned (.hcsCreateComputeSystem id configuration) operationPending computeSystem,
        returned (.hcsRegisterComputeSystemCallback computeSystem) code ()]
  | notStarted (id configuration : WString) (computeSystem : Handle) (options : WString)
      (code : UInt32) :
      code ≠ operationPending →
      History [returned (.hcsCreateComputeSystem id configuration) operationPending computeSystem,
        returned (.hcsRegisterComputeSystemCallback computeSystem) 0 (),
        returned (.hcsStartComputeSystem computeSystem options) code ()]
  | terminated (id configuration : WString) (computeSystem : Handle) (options options' : WString)
      (code : UInt32) :
      History [returned (.hcsCreateComputeSystem id configuration) operationPending computeSystem,
        returned (.hcsRegisterComputeSystemCallback computeSystem) 0 (),
        returned (.hcsStartComputeSystem computeSystem options) operationPending (),
        returned (.hcsTerminateComputeSystem computeSystem options') code ()]

variable {lib : Externals}

/-- The operations that do not concern the compute system. -/
abbrev Unconcerned (op : Op) : Prop := concerns op = false

/-- What does not concern the compute system leaves no trace. -/
theorem stable_events (front : List MainEvent) :
    Program.Stable (fun _ _ ↦ True) Unconcerned fun past ↦ events past = front where
  permits _ _ := trivial
  keeps reply hpast hop := by
    rw [events_append, hpast]
    simp [events, hop]

theorem unconcerned_of_preparing (op : Op) (hop : op.Preparing) : Unconcerned op := by
  unfold Op.Preparing at hop
  split at hop
  any_goals rfl
  exact hop.elim

theorem stable_preparing (front : List MainEvent) :
    Program.Stable (fun _ _ ↦ True) Op.Preparing fun past ↦ events past = front :=
  (stable_events front).mono unconcerned_of_preparing

theorem wp_defer_of_unconcerned {α : Type} {cleanup : Prog Unit} {rest : Nspawn α}
    {past : List MainEvent} {P : List MainEvent → Prop} (hcleanup : cleanup.Only Unconcerned)
    (hrest : rest.run.wp Resolved (fun _ _ ↦ True) past fun past' _ ↦ P (events past')) :
    (Fallible.defer cleanup rest).run.wp Resolved (fun _ _ ↦ True) past
      fun past' _ ↦ P (events past') := by
  apply Fallible.wp_run_defer_of _ hrest
  intro past' _ hpast'
  refine Program.wp_mono (fun past'' _ hpast'' ↦ ?_) (hcleanup.wp (stable_events _) rfl)
  rwa [hpast'']

/-- The calls that have created and registered a compute system. -/
abbrev registeredCalls (id configuration : WString) (computeSystem : Handle) : List MainEvent :=
  [returned (.hcsCreateComputeSystem id configuration) operationPending computeSystem,
    returned (.hcsRegisterComputeSystemCallback computeSystem) 0 ()]

theorem hcsRegisterComputeSystemCallback_history (layer : ContainerLayer lib)
    {computeSystem : Handle} {id configuration : WString} {past : List MainEvent}
    (hpast : events past =
      [returned (.hcsCreateComputeSystem id configuration) operationPending computeSystem]) :
    (hcsRegisterComputeSystemCallback computeSystem layer).run.wp Resolved (fun _ _ ↦ True) past
      fun past' result ↦ match result with
        | .ok _ => events past' = registeredCalls id configuration computeSystem
        | .error _ => History (events past') := by
  refine wp_latched (x := .systemCreate) rfl trivial trivial (fun _ h ↦ absurd h not_resolved_error)
    (fun code _ _ hcode ↦ ⟨trivial, ?_⟩) (fun _ _ ↦ ⟨trivial, ?_⟩)
  · simp only [events_append, hpast]
    exact History.notRegistered id configuration computeSystem code hcode
  · simp only [events_append, hpast]
    rfl

theorem hcsStartComputeSystem_history {computeSystem : Handle} {id configuration : WString}
    {past : List MainEvent} (hpast : events past = registeredCalls id configuration computeSystem) :
    (hcsStartComputeSystem lib computeSystem).run.wp Resolved (fun _ _ ↦ True) past
      fun past' result ↦ match result with
        | .ok _ => events past' = registeredCalls id configuration computeSystem ++
            [returned (.hcsStartComputeSystem computeSystem (lib.widen "")) operationPending ()]
        | .error _ => History (events past') := by
  refine wp_latched (x := .systemStart) rfl trivial trivial (fun _ h ↦ absurd h not_resolved_error)
    (fun code _ _ hcode ↦ ⟨trivial, ?_⟩) (fun _ _ ↦ ⟨trivial, ?_⟩)
  · simp only [events_append, hpast]
    exact History.notStarted id configuration computeSystem (lib.widen "") code hcode
  · simp only [events_append, hpast]
    rfl

theorem hcsTerminateComputeSystem_history (layer : ContainerLayer lib) {computeSystem : Handle}
    {id configuration : WString} {past : List MainEvent}
    (hpast : events past = registeredCalls id configuration computeSystem ++
      [returned (.hcsStartComputeSystem computeSystem (lib.widen "")) operationPending ()]) :
    (hcsTerminateComputeSystem computeSystem layer).wp Resolved (fun _ _ ↦ True) past
      fun past' _ ↦ History (events past') := by
  refine wp_hcsTerminateComputeSystem trivial trivial (fun _ h ↦ absurd h not_resolved_error)
    (fun code _ _ ↦ ⟨trivial, trivial, ?_⟩) (fun _ ↦ ⟨trivial, ?_⟩)
  · simp only [events_append, hpast]
    exact History.terminated id configuration computeSystem (lib.widen "") (lib.widen "{}") code
  · simp only [events_append, hpast]
    exact History.terminated id configuration computeSystem (lib.widen "") (lib.widen "{}")
      operationPending

/-- A created system is terminated if it could be registered and started. -/
theorem runContainer_history (config : NspawnConfig) (layer : ContainerLayer lib)
    {computeSystem : Handle} {id configuration : WString} {past : List MainEvent}
    (hpast : events past =
      [returned (.hcsCreateComputeSystem id configuration) operationPending computeSystem]) :
    (runContainer config layer computeSystem).run.wp Resolved (fun _ _ ↦ True) past
      fun past' _ ↦ History (events past') := by
  refine wp_perform_bind trivial fun constructed _ ↦ ?_
  refine wp_defer_of_unconcerned ⟨rfl, fun _ ↦ trivial⟩ ?_
  have hconstructed : events (past ++ [⟨.constructLatch, constructed⟩]) =
      [returned (.hcsCreateComputeSystem id configuration) operationPending computeSystem] := by
    simpa [events, concerns] using hpast
  apply Fallible.wp_run_bind_of _ (hcsRegisterComputeSystemCallback_history layer hconstructed)
    (fun _ _ h ↦ h)
  intro past₁ _ hpast₁
  apply Fallible.wp_run_bind_of _ (hcsStartComputeSystem_history hpast₁) (fun _ _ h ↦ h)
  intro past₂ _ hpast₂
  refine Fallible.wp_run_defer_of (fun past' _ ↦ events past' = events past₂) ?_
    fun past' _ hpast' ↦ hcsTerminateComputeSystem_history layer (hpast'.trans hpast₂)
  exact (only_runProcess config layer computeSystem (fun _ ↦ rfl) (fun _ ↦ rfl) (fun _ ↦ rfl)
    (fun _ ↦ rfl) fun _ ↦ rfl).wp (stable_events _) rfl

/-- The calls before the guard of the prepared layer runs. -/
theorem runPrepared_history (config : NspawnConfig) (basePath : String) (driverInfo : DriverInfo)
    (acsendantLayers : List (ContainerLayer lib)) (layer : ContainerLayer lib)
    {past : List MainEvent} (hpast : events past = []) :
    (runPrepared config basePath driverInfo acsendantLayers layer).run.wp Resolved
      (fun _ _ ↦ True) past fun past' _ ↦ events past' = [] ∨ History (events past') := by
  refine wp_runPrepared (stable_preparing []) hpast (fun _ _ ↦ Or.inl) (fun _ _ _ _ ↦ trivial)
    (fun _ _ _ _ _ _ h ↦ absurd h not_resolved_error) (fun past' id configuration code
      computeSystem _ hpast' hcode ↦ Or.inr ?_) fun past' id configuration computeSystem hpast' ↦ ?_
  · rw [events_append, hpast']
    exact History.notCreated id configuration code computeSystem hcode
  · have hcreated : events (past' ++ [returned (.hcsCreateComputeSystem id configuration)
        operationPending computeSystem]) =
          [returned (.hcsCreateComputeSystem id configuration) operationPending computeSystem] := by
      rw [events_append, hpast']
      rfl
    exact Program.wp_mono (fun _ _ ↦ Or.inr) (runContainer_history config layer hcreated)

/-- The calls of a whole run: the layer is unprepared last, if it was prepared. -/
inductive Ended : List MainEvent → Prop
  | unprepared {calls : List MainEvent} (info : DriverInfo) (id : WString) (code : UInt32) :
      calls = [] ∨ History calls → Ended (calls ++ [returned (.unprepareLayer info id) code ()])
  | notPrepared : Ended []

theorem ended_of_nil {past : List MainEvent} (hpast : events past = []) : Ended (events past) := by
  rw [hpast]
  exact Ended.notPrepared

theorem runLayer_ended (config : NspawnConfig) (basePath parentLayerName : String)
    (driverInfo : DriverInfo) (acsendantLayers : List (ContainerLayer lib))
    (acsendantDescriptors : List WcLayerDescriptor) (layer : ContainerLayer lib)
    {past : List MainEvent} (hpast : events past = []) :
    (runLayer config basePath parentLayerName driverInfo acsendantLayers acsendantDescriptors
      layer).run.wp Resolved (fun _ _ ↦ True) past fun past' _ ↦ Ended (events past') := by
  have hstable := stable_events []
  apply Fallible.wp_run_bind_of_only hstable (only_checked rfl) hpast (fun _ _ ↦ ended_of_nil)
  intro past₁ _ hpast₁
  apply wp_defer_of_unconcerned (only_cleanup rfl (fun _ ↦ rfl) rfl)
  apply Fallible.wp_run_bind_of_only hstable (only_checked rfl) hpast₁ (fun _ _ ↦ ended_of_nil)
  intro past₂ _ hpast₂
  apply wp_defer_of_unconcerned (only_cleanup rfl (fun _ ↦ rfl) rfl)
  apply Fallible.wp_run_bind_of_only hstable (only_checked rfl) hpast₂ (fun _ _ ↦ ended_of_nil)
  intro past₃ _ hpast₃
  apply Fallible.wp_run_defer_of _ (runPrepared_history config basePath driverInfo acsendantLayers
    layer hpast₃)
  intro past₄ _ hpast₄
  refine wp_cleanup trivial (fun _ h ↦ absurd h not_resolved_error) (fun _ _ ↦ ?_)
    fun code _ _ _ ↦ ⟨trivial, ?_⟩
  · rw [events_append]
    exact Ended.unprepared driverInfo (lib.widen layer.getName) 0 hpast₄
  · rw [events_append]
    exact Ended.unprepared driverInfo (lib.widen layer.getName) code hpast₄

theorem spawnAndWait_ended (config : NspawnConfig) :
    (spawnAndWait lib config).run.wp Resolved (fun _ _ ↦ True) []
      fun past' _ ↦ Ended (events past') :=
  wp_spawnAndWait (stable_preparing []) rfl (fun _ _ ↦ ended_of_nil)
    fun _ _ _ _ _ _ _ hpast' ↦ runLayer_ended _ _ _ _ _ _ _ hpast'

/-! ## The system that is left behind -/

def isTerminate (computeSystem : Handle) : MainEvent → Bool
  | ⟨.api (.hcsTerminateComputeSystem handle _), _⟩ => handle == computeSystem
  | _ => false

def isUnprepare : MainEvent → Bool
  | ⟨.api (.unprepareLayer ..), _⟩ => true
  | _ => false

/-- The system is terminated exactly once. -/
def TerminatedOnce (computeSystem : Handle) (past : List MainEvent) : Prop :=
  past.countP (isTerminate computeSystem) = 1

/-- The system is terminated before its layer is taken away. -/
def TerminatedFirst (computeSystem : Handle) (past : List MainEvent) : Prop :=
  ∀ before event after, past = before ++ event :: after → isUnprepare event = true →
    ∃ earlier ∈ before, isTerminate computeSystem earlier = true

theorem mem_events {event : MainEvent} {past : List MainEvent} (hevent : concerns event.1 = true) :
    event ∈ events past ↔ event ∈ past := by
  simp [events, hevent]

theorem concerns_of_isTerminate {computeSystem : Handle} {event : MainEvent}
    (hevent : isTerminate computeSystem event = true) : concerns event.1 = true := by
  unfold isTerminate at hevent
  split at hevent
  · rfl
  · simp at hevent

theorem concerns_of_isUnprepare {event : MainEvent} (hevent : isUnprepare event = true) :
    concerns event.1 = true := by
  unfold isUnprepare at hevent
  split at hevent
  · rfl
  · simp at hevent

theorem terminatedOnce_events {computeSystem : Handle} {past : List MainEvent} :
    TerminatedOnce computeSystem (events past) ↔ TerminatedOnce computeSystem past := by
  have hcount : ∀ event : MainEvent, (isTerminate computeSystem event && concerns event.1) =
      isTerminate computeSystem event := by
    intro event
    cases hevent : isTerminate computeSystem event
    · rfl
    · exact concerns_of_isTerminate hevent
  simp only [TerminatedOnce, events, List.countP_filter, hcount]

theorem terminatedFirst_of_events {computeSystem : Handle} {past : List MainEvent}
    (hevents : TerminatedFirst computeSystem (events past)) :
    TerminatedFirst computeSystem past := by
  rintro before event after rfl hevent
  have hconcerns := concerns_of_isUnprepare hevent
  obtain ⟨earlier, hearlier, hterminate⟩ := hevents (events before) event (events after)
    (by simp [events, hconcerns]) hevent
  exact ⟨earlier, List.mem_of_mem_filter hearlier, hterminate⟩

theorem terminatedFirst_append {computeSystem : Handle} {front back : List MainEvent}
    (hterminate : ∃ event ∈ front, isTerminate computeSystem event = true)
    (hfront : ∀ event ∈ front, isUnprepare event = false) :
    TerminatedFirst computeSystem (front ++ back) := by
  intro before event after hsplit hevent
  obtain ⟨earlier, hearlier, hearly⟩ := hterminate
  rcases List.append_eq_append_iff.mp hsplit with ⟨rest, rfl, -⟩ | ⟨rest, rfl, hrest⟩
  · exact ⟨earlier, List.mem_append_left _ hearlier, hearly⟩
  · cases rest with
    | nil => exact ⟨earlier, by simpa using hearlier, hearly⟩
    | cons head rest =>
      obtain ⟨rfl, -⟩ := List.cons_eq_cons.mp hrest
      simp [hfront event (by simp)] at hevent

/-- Of the runs that create a system, exactly those that register and start it terminate it, and
they do so before they unprepare its layer. -/
theorem terminated_of_ended {computeSystem : Handle} {id configuration : WString}
    {calls : List MainEvent} (hcalls : Ended calls)
    (hcreated : returned (.hcsCreateComputeSystem id configuration) operationPending computeSystem ∈
      calls) :
    (TerminatedOnce computeSystem calls ↔ Registered computeSystem calls ∧
      Started computeSystem calls) ∧
    (TerminatedOnce computeSystem calls → TerminatedFirst computeSystem calls) := by
  cases hcalls with
  | notPrepared => simp at hcreated
  | unprepared info id code hhistory =>
    rcases hhistory with rfl | hhistory
    · simp at hcreated
    cases hhistory with
    | notCreated _ _ code _ hcode =>
      simp only [List.cons_append, List.nil_append, List.mem_cons, List.not_mem_nil,
        or_false] at hcreated
      rcases hcreated with h | h <;> cases h
      exact absurd rfl hcode
    | notRegistered _ _ handle code hcode =>
      refine ⟨iff_of_false (by simp [TerminatedOnce, isTerminate]) fun h ↦ ?_,
        fun h ↦ by simp [TerminatedOnce, isTerminate] at h⟩
      have hregistered := h.1
      simp only [Registered, List.cons_append, List.nil_append, List.mem_cons, List.not_mem_nil,
        or_false] at hregistered
      rcases hregistered with h | h | h <;> cases h
      exact hcode rfl
    | notStarted _ _ _ _ code hcode =>
      refine ⟨iff_of_false (by simp [TerminatedOnce, isTerminate]) fun h ↦ ?_,
        fun h ↦ by simp [TerminatedOnce, isTerminate] at h⟩
      obtain ⟨options, hstarted⟩ := h.2
      simp only [List.cons_append, List.nil_append, List.mem_cons, List.not_mem_nil,
        or_false] at hstarted
      rcases hstarted with h | h | h | h <;> cases h
      exact hcode rfl
    | terminated _ _ handle options options' code =>
      simp only [List.cons_append, List.nil_append, List.mem_cons, List.not_mem_nil,
        or_false] at hcreated
      rcases hcreated with h | h | h | h | h <;> cases h
      refine ⟨iff_of_true (by simp [TerminatedOnce, isTerminate]) ⟨by simp [Registered],
        options, by simp⟩, fun _ ↦ terminatedFirst_append ⟨returned
          (.hcsTerminateComputeSystem computeSystem options') code (), by simp, ?_⟩ ?_⟩
      · simp [isTerminate]
      · simp [isUnprepare]

theorem registered_events {computeSystem : Handle} {past : List MainEvent} :
    Registered computeSystem (events past) ↔ Registered computeSystem past := mem_events rfl

theorem started_events {computeSystem : Handle} {past : List MainEvent} :
    Started computeSystem (events past) ↔ Started computeSystem past :=
  exists_congr fun _ ↦ mem_events rfl

/-- A compute system that a completed run has created is terminated exactly once and before its
layer is unprepared, if and only if its callback was registered and its start was accepted. -/
theorem terminated_iff_started (lib : Externals) (config : NspawnConfig) {labels : List Label}
    {result : Except StdException Unit} {latch : CallbackLatch.State}
    (hrun : (system _).Run (start (spawnAndWait lib config).run) labels ⟨.ret result, latch⟩)
    (hresolves : Resolves labels) {id configuration : WString} {computeSystem : Handle}
    (hcreated : returned (.hcsCreateComputeSystem id configuration) operationPending computeSystem ∈
      mainEvents labels) :
    (TerminatedOnce computeSystem (mainEvents labels) ∧
      TerminatedFirst computeSystem (mainEvents labels)) ↔
      Registered computeSystem (mainEvents labels) ∧ Started computeSystem (mainEvents labels) := by
  have hended := post_of_run hrun hresolves.resolved (spawnAndWait_ended config)
  obtain ⟨hiff, hfirst⟩ := terminated_of_ended hended ((mem_events rfl).mpr hcreated)
  rw [terminatedOnce_events, registered_events, started_events] at hiff
  rw [terminatedOnce_events] at hfirst
  exact ⟨fun h ↦ hiff.mp h.1,
    fun h ↦ ⟨hiff.mpr h, terminatedFirst_of_events (hfirst (hiff.mpr h))⟩⟩

set_option maxRecDepth 1000 in
theorem terminated_iff_started_complete : ∃ labels result latch,
    (system _).Run (start (spawnAndWait Externals.ascii someConfig).run) labels
      ⟨.ret result, latch⟩ ∧
    TerminatedOnce 1 (mainEvents labels) ∧ TerminatedFirst 1 (mainEvents labels) := by
  have hrun := run_of_choices (w := start (spawnAndWait Externals.ascii someConfig).run)
    (Choice.untilExit 0 ++ Choice.unwind) rfl
  have hiff := terminated_iff_started _ _ hrun (by decide) (List.mem_of_getElem? (i := 15) rfl)
  refine ⟨_, _, _, hrun, hiff.mpr ⟨?_, ?_⟩⟩
  · exact List.mem_of_getElem? (i := 18) rfl
  · exact ⟨_, List.mem_of_getElem? (i := 21) rfl⟩

/-- The container service refuses the registration of the callback. -/
def refusedRegistration : List Choice :=
  Choice.untilLatch ++ Choice.lock ++ [.code 5, .latch .cancelCall, .latch .cancelReturn] ++
    Choice.unwind

theorem not_terminated_of_refused : ∃ labels result latch,
    (system _).Run (start (spawnAndWait Externals.ascii someConfig).run) labels
      ⟨.ret result, latch⟩ ∧ Resolves labels ∧
    (∃ id configuration, returned (.hcsCreateComputeSystem id configuration) operationPending
      (1 : ℕ) ∈ mainEvents labels) ∧
    ¬ (TerminatedOnce 1 (mainEvents labels) ∧ TerminatedFirst 1 (mainEvents labels)) := by
  refine ⟨_, _, _, run_of_choices refusedRegistration rfl, ?_, ?_, ?_⟩
  · decide
  · exact ⟨_, _, List.mem_of_getElem? (i := 15) rfl⟩
  · rintro ⟨honce, -⟩
    exact absurd honce (by simp only [TerminatedOnce]; decide)

end ComputeSystem

end HostcomputeNspawn
