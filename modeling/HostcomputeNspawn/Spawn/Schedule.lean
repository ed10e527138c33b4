import HostcomputeNspawn.World
import Mathlib.Data.List.Pairwise

/-!
# The order of the calls

Whatever the calls come back with, a run makes them in the order in which the scope of
`spawn_and_wait` has them, with the guards in reverse order at its end.  No call is made twice,
neither by a retry nor by a guard that runs on two exits, and no call comes after one that follows
it in the order.  The calls that only ask for a name or a path have no place in the order.
-/

namespace HostcomputeNspawn

open Interaction Transition World

/-- The place of an operation in the order of a run. -/
def Op.place : Op → Option ℕ
  | .api (.createSandboxLayer ..) => some 0
  | .api (.activateLayer ..) => some 1
  | .api (.prepareLayer ..) => some 2
  | .api (.hcsCreateComputeSystem ..) => some 3
  | .constructLatch => some 4
  | .api (.hcsRegisterComputeSystemCallback _) => some 5
  | .api (.hcsStartComputeSystem ..) => some 6
  | .api (.hcsEnumerateComputeSystems _) => some 7
  | .api (.hcsCreateProcess ..) => some 8
  | .api (.hcsRegisterProcessCallback _) => some 9
  | .api (.hcsTerminateComputeSystem ..) => some 10
  | .destroyLatch => some 11
  | .api (.unprepareLayer ..) => some 12
  | .api (.deactivateLayer ..) => some 13
  | .api (.destroyLayer ..) => some 14
  | _ => none

namespace Schedule

/-- Everything that has happened has an earlier place. -/
def Before (place : ℕ) (past : List MainEvent) : Prop :=
  ∀ event ∈ past, ∀ earlier, event.1.place = some earlier → earlier < place

/-- An operation with a place comes after everything with an earlier place. -/
def orderPre (past : List MainEvent) (op : Op) : Prop := ∀ place, op.place = some place →
  Before place past

theorem Before.mono {place later : ℕ} {past : List MainEvent} (h : Before place past)
    (hplace : place ≤ later) : Before later past := fun event hevent earlier hearlier ↦
  Nat.lt_of_lt_of_le (h event hevent earlier hearlier) hplace

theorem before_nil (place : ℕ) : Before place [] := fun _ hevent ↦ nomatch hevent

theorem before_append {place : ℕ} {past more : List MainEvent} :
    Before place (past ++ more) ↔ Before place past ∧ Before place more := by
  simp only [Before, List.mem_append, or_imp, forall_and]

theorem before_cons {place : ℕ} {op : Op} {reply : op.Reply} {past : List MainEvent} :
    Before place (⟨op, reply⟩ :: past) ↔
      (∀ earlier, op.place = some earlier → earlier < place) ∧ Before place past := by
  simp [Before]

/-- What is done at a place leaves everything before the next place. -/
theorem Before.snoc {place : ℕ} {past : List MainEvent} (h : Before place past) {op : Op}
    (hop : op.place = some place) (reply : op.Reply) :
    Before (place + 1) (past ++ [⟨op, reply⟩]) := by
  refine before_append.mpr ⟨h.mono (Nat.le_succ place), before_cons.mpr ⟨?_, before_nil _⟩⟩
  intro earlier hearlier
  obtain rfl : place = earlier := by simpa [hop] using hearlier
  omega

theorem orderPre_of_before {place : ℕ} {past : List MainEvent} {op : Op} (h : Before place past)
    (hop : op.place = some place) : orderPre past op := by
  intro place' hplace'
  obtain rfl : place = place' := by simpa [hop] using hplace'
  exact h

/-- The operations without a place. -/
def Placeless (op : Op) : Prop := op.place = none

theorem stable_before (place : ℕ) : Program.Stable orderPre Placeless (Before place) where
  permits {past op} _ hop place' hplace' := by
    rw [Placeless] at hop
    simp [hop] at hplace'
  keeps {past op} reply hpast hop := by
    rw [Placeless] at hop
    exact before_append.mpr ⟨hpast, before_cons.mpr ⟨by simp [hop], before_nil place⟩⟩

theorem placeless_of_preparing (op : Op) (hop : op.Preparing) : Placeless op := by
  unfold Op.Preparing at hop
  split at hop
  all_goals first | rfl | exact hop.elim

@[simp]
theorem place_latch (m : CallbackLatch.Method) : (Op.latch m).place = none := rfl

@[simp]
theorem place_cerr (line : String) : (Op.cerr line).place = none := rfl

variable {lib : Externals} {allowed : (op : Op) → op.Reply → Prop} {past : List MainEvent}
  {call : ApiCall} {place : ℕ}

theorem checked_in_order {expected : UInt32} {message : UInt32 → String} (h : Before place past)
    (hcall : (Op.api call).place = some place) :
    (checked lib call expected message).run.wp allowed orderPre past
      fun past' _ ↦ Before (place + 1) past' :=
  wp_checked (orderPre_of_before h hcall) (fun _ _ ↦ h.snoc hcall _) (fun _ _ _ _ ↦ h.snoc hcall _)
    fun _ _ ↦ h.snoc hcall _

theorem cleanup_in_order {message : UInt32 → String} (h : Before place past)
    (hcall : (Op.api call).place = some place) :
    (cleanup lib call message).wp allowed orderPre past
      fun past' _ ↦ Before (place + 1) past' := by
  have hlater := h.mono (Nat.le_succ place)
  refine wp_cleanup (orderPre_of_before h hcall) (fun failure _ ↦ ?_)
    (fun _ _ ↦ h.snoc hcall _) fun _ _ _ _ ↦ ⟨nofun, ?_⟩
  · have hthrown := h.snoc hcall (.error failure)
    exact ⟨(stable_before _).permits hthrown rfl,
      fun reply _ ↦ (stable_before _).keeps reply hthrown rfl⟩
  · simp [before_append, before_cons, before_nil, hlater, hcall]

theorem latched_in_order {expected : UInt32} {message : UInt32 → String} {nt : NotificationType}
    {x : CallbackLatch.Slot} (hslot : CallbackLatch.slot nt = some x) (h : Before place past)
    (hcall : (Op.api call).place = some place) :
    (latched lib call expected message nt).run.wp allowed orderPre past
      fun past' _ ↦ Before (place + 1) past' := by
  have hmethod (m : CallbackLatch.Method) (events : List MainEvent) :
      orderPre events (.latch m) := nofun
  have hlater := h.mono (Nat.le_succ place)
  refine wp_latched hslot (hmethod _ _) (orderPre_of_before ?_ hcall) (fun _ _ ↦ ?_)
    (fun _ _ _ _ ↦ ⟨hmethod _ _, ?_⟩) fun _ _ ↦ ⟨hmethod _ _, ?_⟩
  · simp [before_append, before_cons, before_nil, h]
  all_goals simp [before_append, before_cons, before_nil, hlater, hcall]

theorem hcsTerminateComputeSystem_in_order (computeSystem : Handle) (layer : ContainerLayer lib)
    (h : Before 10 past) :
    (hcsTerminateComputeSystem computeSystem layer).wp allowed orderPre past
      fun past' _ ↦ Before 11 past' := by
  have hcall : (Op.api (terminateCall lib computeSystem)).place = some 10 := rfl
  have hmethod (m : CallbackLatch.Method) (events : List MainEvent) :
      orderPre events (.latch m) := nofun
  have hlater : Before 11 past := h.mono (by omega)
  refine wp_hcsTerminateComputeSystem (hmethod _ _) (orderPre_of_before ?_ hcall) (fun _ _ ↦ ?_)
    (fun _ _ _ ↦ ⟨hmethod _ _, nofun, ?_⟩) fun _ ↦ ⟨hmethod _ _, ?_⟩
  · simp [before_append, before_cons, before_nil, h]
  · refine ⟨nofun, fun _ _ ↦ ?_⟩
    simp [before_append, before_cons, before_nil, hlater, Op.place]
  all_goals simp [before_append, before_cons, before_nil, hlater, hcall]

theorem runProcess_in_order (config : NspawnConfig) (layer : ContainerLayer lib)
    (computeSystem : Handle) (h : Before 7 past) :
    (runProcess config layer computeSystem).run.wp allowed orderPre past
      fun past' _ ↦ Before 10 past' := by
  refine Fallible.wp_run_bind_of (fun past' _ ↦ Before 8 past') ?_ (fun _ _ h ↦ h.mono (by omega))
    fun past₁ _ hpast₁ ↦ ?_
  · exact Fallible.wp_run_bind_of _ (checked_in_order h rfl) (fun _ _ h ↦ h) fun _ _ h ↦ h
  refine Fallible.wp_run_bind_of (fun past' _ ↦ Before 9 past') ?_ (fun _ _ h ↦ h.mono (by omega))
    fun past₂ process hpast₂ ↦ latched_in_order (x := .processExit) rfl hpast₂ rfl
  exact Fallible.wp_run_bind_of_only (stable_before 8) (only_dumps rfl) hpast₁
    (fun _ _ h ↦ h.mono (by omega)) fun _ _ h ↦ checked_in_order h rfl

theorem runContainer_in_order (config : NspawnConfig) (layer : ContainerLayer lib)
    (computeSystem : Handle) (h : Before 4 past) :
    (runContainer config layer computeSystem).run.wp allowed orderPre past
      fun past' _ ↦ Before 12 past' := by
  refine wp_perform_bind (orderPre_of_before h rfl) fun _ _ ↦ ?_
  refine Fallible.wp_run_defer_of (fun past' _ ↦ Before 11 past') ?_ fun _ _ h ↦
    ⟨orderPre_of_before h rfl, fun _ _ ↦ h.snoc rfl _⟩
  refine Fallible.wp_run_bind_of _ (latched_in_order (x := .systemCreate) rfl (h.snoc rfl _) rfl)
    (fun _ _ h ↦ h.mono (by omega)) fun past₁ _ hpast₁ ↦ ?_
  refine Fallible.wp_run_bind_of _ (latched_in_order (x := .systemStart) rfl hpast₁ rfl)
    (fun _ _ h ↦ h.mono (by omega)) fun past₂ _ hpast₂ ↦ ?_
  exact Fallible.wp_run_defer_of _ (runProcess_in_order config layer computeSystem hpast₂)
    fun _ _ h ↦ hcsTerminateComputeSystem_in_order computeSystem layer h

theorem runPrepared_in_order (config : NspawnConfig) (basePath : String) (driverInfo : DriverInfo)
    (acsendantLayers : List (ContainerLayer lib)) (layer : ContainerLayer lib)
    (h : Before 3 past) :
    (runPrepared config basePath driverInfo acsendantLayers layer).run.wp allowed orderPre past
      fun past' _ ↦ Before 12 past' := by
  have hcreated {past' : List MainEvent} {call : ApiCall} (h : Before 3 past')
      (hcall : (Op.api call).place = some 3) (reply : ApiReply call) :
      Before 12 (past' ++ [called call reply]) := (h.snoc hcall reply).mono (by omega)
  exact wp_runPrepared ((stable_before 3).mono placeless_of_preparing) h
    (fun _ _ h ↦ h.mono (by omega)) (fun _ _ _ h ↦ orderPre_of_before h rfl)
    (fun _ _ _ _ _ h _ ↦ hcreated h rfl _) (fun _ _ _ _ _ _ h _ ↦ hcreated h rfl _)
    fun _ _ _ _ h ↦ runContainer_in_order _ _ _ (h.snoc rfl _)

theorem runLayer_in_order (config : NspawnConfig) (basePath parentLayerName : String)
    (driverInfo : DriverInfo) (acsendantLayers : List (ContainerLayer lib))
    (acsendantDescriptors : List WcLayerDescriptor) (layer : ContainerLayer lib)
    (h : Before 0 past) :
    (runLayer config basePath parentLayerName driverInfo acsendantLayers acsendantDescriptors
      layer).run.wp allowed orderPre past fun past' _ ↦ Before 15 past' := by
  refine Fallible.wp_run_bind_of _ (checked_in_order h rfl) (fun _ _ h ↦ h.mono (by omega))
    fun past₁ _ hpast₁ ↦ ?_
  refine Fallible.wp_run_defer_of (fun past' _ ↦ Before 14 past') ?_
    fun _ _ h ↦ cleanup_in_order h rfl
  refine Fallible.wp_run_bind_of _ (checked_in_order hpast₁ rfl) (fun _ _ h ↦ h.mono (by omega))
    fun past₂ _ hpast₂ ↦ ?_
  refine Fallible.wp_run_defer_of (fun past' _ ↦ Before 13 past') ?_
    fun _ _ h ↦ cleanup_in_order h rfl
  refine Fallible.wp_run_bind_of _ (checked_in_order hpast₂ rfl) (fun _ _ h ↦ h.mono (by omega))
    fun past₃ _ hpast₃ ↦ ?_
  exact Fallible.wp_run_defer_of _ (runPrepared_in_order _ _ _ _ _ hpast₃)
    fun _ _ h ↦ cleanup_in_order h rfl

theorem hostcomputeNspawn_in_order (configJson : Option (List UInt8)) (configJsonLen : Int32) :
    (hostcomputeNspawn lib configJson configJsonLen).wp allowed orderPre [] fun _ _ ↦ True := by
  apply wp_hostcomputeNspawn_of_runLayer ((stable_before 0).mono placeless_of_preparing)
    (before_nil 0)
  intro past config _ _ _ _ _ _ hpast
  exact Program.wp_mono (fun _ _ _ ↦ trivial) (runLayer_in_order _ _ _ _ _ _ _ hpast)

/-- The place of a step of a run. -/
def stepPlace : World.Label → Option ℕ
  | .call op _ => op.place
  | .latch _ => none

/-- In every run the calls that create, start, observe and take down the layer, the compute system,
the process and the latch come in one fixed order, and each of them at most once. -/
theorem calls_in_order (lib : Externals) (configJson : Option (List UInt8))
    (configJsonLen : Int32) {labels : List World.Label} {w : World (Option String)}
    (hrun : (system _).Run (start (hostcomputeNspawn lib configJson configJsonLen)) labels w) :
    (labels.filterMap stepPlace).Pairwise (· < ·) := by
  have hwp : (hostcomputeNspawn lib configJson configJsonLen).wp (fun _ _ ↦ True) orderPre []
    fun _ _ ↦ True := hostcomputeNspawn_in_order configJson configJsonLen
  have hpairwise : labels.Pairwise fun label label' ↦ ∀ place, stepPlace label = some place →
      ∀ place', stepPlace label' = some place' → place < place' := by
    refine List.pairwise_iff_getElem.mpr fun i j hi hj hij place hplace place' hplace' ↦ ?_
    cases hlabel : labels[i] with
    | latch label => simp [hlabel, stepPlace] at hplace
    | call op reply =>
      cases hlabel' : labels[j] with
      | latch label => simp [hlabel', stepPlace] at hplace'
      | call op' reply' =>
        rw [hlabel] at hplace
        rw [hlabel'] at hplace'
        have hpre : orderPre (mainEvents (labels.take j)) op' :=
          pre_of_run hrun (fun _ _ ↦ trivial) hwp (List.getElem?_eq_some_iff.mpr ⟨hj, hlabel'⟩)
        have hmem : Label.call op reply ∈ labels.take j := by
          rw [← hlabel]
          exact List.mem_take_iff_getElem.mpr ⟨i, by omega, rfl⟩
        exact hpre place' hplace' ⟨op, reply⟩ (List.mem_filterMap.mpr ⟨_, hmem, rfl⟩) place hplace
  exact hpairwise.filterMap stepPlace fun label label' h place hplace place' hplace' ↦
    h place hplace place' hplace'

set_option maxRecDepth 1000 in
theorem calls_in_order_run : ∃ (labels : List World.Label) (latch : CallbackLatch.State),
    (system _).Run (start (hostcomputeNspawn Externals.ascii (some []) 1)) labels
      ⟨.ret none, latch⟩ ∧
    labels.filterMap stepPlace = List.range 15 ∧
    (labels.filterMap stepPlace).Pairwise (· < ·) := by
  have hrun := run_of_choices (w := start (hostcomputeNspawn Externals.ascii (some []) 1))
    (.loaded :: Choice.untilExit 0 ++ Choice.unwind) rfl
  exact ⟨_, _, hrun, rfl, calls_in_order _ _ _ hrun⟩

end Schedule

end HostcomputeNspawn
