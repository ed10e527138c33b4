import HostcomputeNspawn.Semantics.Growth
import HostcomputeNspawn.Semantics.Scope
import HostcomputeNspawn.Spawn.Outcome
import HostcomputeNspawn.Spawn.Reporting
import Mathlib.Data.List.TakeWhile

/-!
# The rollback of the sandbox layer

`spawn_and_wait` holds its sandbox layer as a scope of three guarded resources: the layer is
created, activated and prepared, and destroyed, deactivated and unprepared.  The scope unwinds as
every such scope does, so the calls on the layer are the acquisitions up to the first refusal and
then the inverses of exactly the acquired ones, whatever the cleanup calls return.  The scope is
entered unless something has gone wrong before it.
-/

namespace HostcomputeNspawn

open Interaction Transition World Reporting

namespace Rollback

/-- What a layer goes through. -/
inductive LayerStage
  | create
  | activate
  | prepare
deriving DecidableEq, Repr

/-- A call on a layer, or its inverse, with the code that it returned. -/
structure LayerCall where
  stage : LayerStage
  inverse : Bool
  layer : WString
  code : UInt32
deriving DecidableEq, Repr

/-- The layer calls among the events. -/
def layerCall : MainEvent → Option LayerCall
  | ⟨.api (.createSandboxLayer _ id _ _), .ok result⟩ => some ⟨.create, false, id, result.code⟩
  | ⟨.api (.activateLayer _ id), .ok result⟩ => some ⟨.activate, false, id, result.code⟩
  | ⟨.api (.prepareLayer _ id _), .ok result⟩ => some ⟨.prepare, false, id, result.code⟩
  | ⟨.api (.unprepareLayer _ id), .ok result⟩ => some ⟨.prepare, true, id, result.code⟩
  | ⟨.api (.deactivateLayer _ id), .ok result⟩ => some ⟨.activate, true, id, result.code⟩
  | ⟨.api (.destroyLayer _ id), .ok result⟩ => some ⟨.create, true, id, result.code⟩
  | _ => none

/-- The sequence of layer calls. -/
def layerCalls (past : List MainEvent) : List LayerCall := past.filterMap layerCall

/-- The operations that are no layer calls. -/
def Silent (op : Op) : Prop := ∀ reply, layerCall ⟨op, reply⟩ = none

theorem silent_of_preparing (op : Op) (hop : op.Preparing) : Silent op := by
  intro reply
  unfold Op.Preparing at hop
  split at hop
  any_goals rfl
  exact hop.elim

theorem stable_layerCalls (front : List LayerCall) :
    Program.Stable (fun _ _ ↦ True) Silent fun past ↦ layerCalls past = front where
  permits _ _ := trivial
  keeps {past op} reply hpast hop := by
    rw [← hpast]
    simp [layerCalls, hop reply]

/-- How the life of a stage of a layer shows. -/
def observed (layer : WString) (stage : LayerStage) : Observed LayerCall where
  acquired call := call = ⟨stage, false, layer, 0⟩
  refused call := ∃ code, code ≠ 0 ∧ call = ⟨stage, false, layer, code⟩
  released call := ∃ code, call = ⟨stage, true, layer, code⟩

/-- The stages in the order of their acquisition. -/
def stages : List LayerStage := [.create, .activate, .prepare]

variable {lib : Externals}

/-- A checked layer call is seen as acquired or as refused. -/
theorem wp_acquire (call : ApiCall) {message : UInt32 → String} {layer : WString}
    {stage : LayerStage} (hcall : ∀ result, layerCall (called call (.ok result)) =
      some ⟨stage, false, layer, result.code⟩) (past : List MainEvent) :
    (checked lib call 0 message).run.wp Resolved (fun _ _ ↦ True) past fun past' result ↦
      (observed layer stage).Acquires layerCall past past' result := by
  refine wp_checked trivial (fun _ h ↦ absurd h not_resolved_error)
    (fun code out _ hcode ↦ ⟨_, ⟨code, hcode, rfl⟩, ?_⟩) fun out _ ↦ ⟨_, rfl, ?_⟩
  · simp [List.filterMap_append, hcall]
  · simp [List.filterMap_append, hcall]

/-- A cleanup is seen as the release, whatever it returns. -/
theorem wp_release {call : ApiCall} {message : UInt32 → String} {layer : WString}
    {stage : LayerStage} (hcall : ∀ result, layerCall (called call (.ok result)) =
      some ⟨stage, true, layer, result.code⟩) (past : List MainEvent) :
    (cleanup lib call message).wp Resolved (fun _ _ ↦ True) past fun past' _ ↦
      SeesOne layerCall (observed layer stage).released past past' := by
  have hcomplained (line : String) : layerCall (complained line) = none := rfl
  refine wp_cleanup trivial (fun _ h ↦ absurd h not_resolved_error)
    (fun out _ ↦ ⟨_, ⟨0, rfl⟩, ?_⟩) fun code out _ _ ↦ ⟨trivial, _, ⟨code, rfl⟩, ?_⟩
  · simp [List.filterMap_append, hcall]
  · simp [List.filterMap_append, hcall, hcomplained]

theorem silent_of_describing (op : Op) (hop : op.Describing) : Silent op :=
  silent_of_preparing op (preparing_of_describing op hop)

theorem silent_of_inContainer (op : Op) (hop : op.InContainer) : Silent op := by
  intro reply
  unfold Op.InContainer at hop
  split at hop
  any_goals rfl
  exact hop.elim

/-- What runs in the prepared layer makes no calls on it. -/
theorem runPrepared_silent (config : NspawnConfig) (basePath : String) (driverInfo : DriverInfo)
    (acsendantLayers : List (ContainerLayer lib)) (layer : ContainerLayer lib) :
    (runPrepared config basePath driverInfo acsendantLayers layer).run.Only Silent := by
  apply Fallible.only_run_bind ((only_hcsGetLayerMountPath _ _).mono silent_of_preparing)
  intro volumePath
  apply Fallible.only_run_bind (only_run_perform fun _ ↦ rfl)
  intro hostname
  apply Fallible.only_run_bind ((only_containerConfig_toJson _).mono silent_of_describing)
  intro contJson
  apply Fallible.only_run_bind (only_dumps fun _ ↦ rfl)
  intro _
  refine Fallible.only_run_bind ?_ fun computeSystem ↦ ?_
  · apply Fallible.only_run_bind ((only_containerConfig_toJson _).mono silent_of_describing)
    intro json
    exact Fallible.only_run_bind (only_dumps fun _ ↦ rfl) fun conf ↦ only_checked fun _ ↦ rfl
  apply Fallible.only_run_bind (only_run_perform fun _ ↦ rfl)
  intro _
  exact Fallible.only_run_defer ⟨fun _ ↦ rfl, fun _ ↦ trivial⟩
    ((only_inContainer config layer computeSystem).mono silent_of_inContainer)

/-- The layer as a scope of three resources. -/
def resources (parentLayerName : String) (driverInfo : DriverInfo)
    (acsendantDescriptors : List WcLayerDescriptor) (layer : ContainerLayer lib) :
    List (Guarded Op Op.Reply StdException × Observed LayerCall) :=
  let name := lib.widen layer.getName
  [(⟨hcsCreateLayer driverInfo layer parentLayerName acsendantDescriptors,
      hcsDestroyLayer driverInfo layer⟩, observed name .create),
    (⟨hcsActivateLayer driverInfo layer, hcsDeactivateLayer driverInfo layer⟩,
      observed name .activate),
    (⟨hcsPrepareLayer driverInfo layer acsendantDescriptors, hcsUnprepareLayer driverInfo layer⟩,
      observed name .prepare)]

theorem runLayer_eq_nest (config : NspawnConfig) (basePath parentLayerName : String)
    (driverInfo : DriverInfo) (acsendantLayers : List (ContainerLayer lib))
    (acsendantDescriptors : List WcLayerDescriptor) (layer : ContainerLayer lib) :
    runLayer config basePath parentLayerName driverInfo acsendantLayers acsendantDescriptors layer =
      nest ((resources parentLayerName driverInfo acsendantDescriptors layer).map Prod.fst)
        (runPrepared config basePath driverInfo acsendantLayers layer) := rfl

theorem shows_resources (parentLayerName : String) (driverInfo : DriverInfo)
    (acsendantDescriptors : List WcLayerDescriptor) (layer : ContainerLayer lib) :
    ∀ resource ∈ resources parentLayerName driverInfo acsendantDescriptors layer,
      resource.1.Shows Resolved (fun _ _ ↦ True) layerCall resource.2 := by
  simp only [resources, List.forall_mem_cons]
  refine ⟨⟨?_, ?_⟩, ⟨?_, ?_⟩, ⟨?_, ?_⟩, by simp⟩
  all_goals dsimp only [hcsCreateLayer, hcsActivateLayer, hcsPrepareLayer, hcsDestroyLayer,
    hcsDeactivateLayer, hcsUnprepareLayer]
  · exact wp_acquire (.createSandboxLayer ..) fun _ ↦ rfl
  · exact wp_release fun _ ↦ rfl
  · exact wp_acquire (.activateLayer ..) fun _ ↦ rfl
  · exact wp_release fun _ ↦ rfl
  · exact wp_acquire (.prepareLayer ..) fun _ ↦ rfl
  · exact wp_release fun _ ↦ rfl

/-- The layer calls of a scope on a layer: the first stages were acquired, the next one was refused
unless there is none, and the acquired stages were released in reverse order. -/
def RolledBack (layer : WString) (calls : List LayerCall) : Prop :=
  ∃ (n : ℕ) (refusal backward : List LayerCall),
    calls = (stages.take n).map (⟨·, false, layer, 0⟩) ++ refusal ++ backward ∧
    backward.map (fun call ↦ (call.stage, call.inverse, call.layer)) =
      (stages.take n).reverse.map (·, true, layer) ∧
    (refusal = [] ∧ n = stages.length ∨ ∃ stage code, stages[n]? = some stage ∧ code ≠ 0 ∧
      refusal = [⟨stage, false, layer, code⟩])

theorem rolledBack_of_unwound {layer : WString} {calls : List LayerCall}
    (h : Unwound (stages.map (observed layer)) calls) : RolledBack layer calls := by
  obtain ⟨n, forward, refusal, backward, rfl, hforward, hbackward, hend⟩ := h.reverse_order
  rw [← List.map_take] at hforward
  rw [← List.map_take, ← List.map_reverse] at hbackward
  refine ⟨n, refusal, backward, ?_, ?_, ?_⟩
  · have hmap : forward = (stages.take n).map (⟨·, false, layer, 0⟩) := by
      rw [← List.forall₂_eq_eq_eq, List.forall₂_map_right_iff]
      exact (List.forall₂_map_left_iff.mp hforward).flip
    rw [hmap]
  · rw [← List.forall₂_eq_eq_eq, List.forall₂_map_left_iff, List.forall₂_map_right_iff]
    refine ((List.forall₂_map_left_iff.mp hbackward).imp ?_).flip
    rintro stage call ⟨code, rfl⟩
    rfl
  · apply hend.imp (And.imp_right fun h ↦ by simpa using h)
    rintro ⟨resource, event, hresource, hrefused, rfl⟩
    rw [List.getElem?_map, Option.map_eq_some_iff] at hresource
    obtain ⟨stage, hstage, rfl⟩ := hresource
    obtain ⟨code, hcode, rfl⟩ := hrefused
    exact ⟨stage, code, hstage, hcode, rfl⟩

theorem runLayer_rolledBack (config : NspawnConfig) (basePath parentLayerName : String)
    (driverInfo : DriverInfo) (acsendantLayers : List (ContainerLayer lib))
    (acsendantDescriptors : List WcLayerDescriptor) (layer : ContainerLayer lib)
    {past : List MainEvent} (hpast : layerCalls past = []) :
    (runLayer config basePath parentLayerName driverInfo acsendantLayers acsendantDescriptors
      layer).run.wp Resolved (fun _ _ ↦ True) past
      fun past' _ ↦ RolledBack (lib.widen layer.getName) (layerCalls past') := by
  have hbody (past : List MainEvent) :
      (runPrepared config basePath driverInfo acsendantLayers layer).run.wp Resolved
        (fun _ _ ↦ True) past fun past' _ ↦ layerCalls past' = layerCalls past :=
    (runPrepared_silent config basePath driverInfo acsendantLayers layer).wp
      (stable_layerCalls _) rfl
  rw [runLayer_eq_nest]
  refine Program.wp_mono ?_ (wp_nest (shows_resources parentLayerName driverInfo
    acsendantDescriptors layer) hbody past)
  rintro past' _ ⟨seen, hseen, hcalls⟩
  have hall : layerCalls past' = layerCalls past ++ seen := hcalls
  rw [hall, hpast, List.nil_append]
  exact rolledBack_of_unwound hseen

/-! ## Before the layer -/

/-- What happens before the first call on a layer. -/
def opening (past : List MainEvent) : List MainEvent :=
  past.takeWhile fun event ↦ (layerCall event).isNone

variable (lib) in
/-- The JSON text was read, but it is no configuration, or no list of layers. -/
def Rejects : MainEvent → Prop
  | ⟨.load (.text _), .ok json⟩ => ∃ e, NspawnConfig.ofJson lib json = .error e
  | ⟨.load (.file path), .ok json⟩ => ∃ e, ascendantLayers lib path json = .error e
  | _ => False

variable (lib) in
/-- The event makes the program throw. -/
def Throws (event : MainEvent) : Prop := fails event = true ∨ Rejects lib event

variable (lib) in
/-- The program throws before it creates a layer, or it refuses its parameters. -/
def Prevented (configJson : Option (List UInt8)) (configJsonLen : Int32)
    (past : List MainEvent) : Prop :=
  configJson = none ∨ lib.isUint32Positive configJsonLen = false ∨
    ∃ event ∈ opening past, Throws lib event

variable (lib) in
/-- No layer has been called for, and nothing has been thrown. -/
def Fresh (past : List MainEvent) : Prop :=
  ∀ event ∈ past, layerCall event = none ∧ ¬ Throws lib event

variable (lib) in
/-- No layer has been called for, and something has been thrown. -/
def Stopped (past : List MainEvent) : Prop :=
  (∀ event ∈ past, layerCall event = none) ∧ ∃ event ∈ past, Throws lib event

variable (lib) in
/-- Nothing was thrown before the layer, and the layer was rolled back. -/
def Rolled (past : List MainEvent) : Prop :=
  Fresh lib (opening past) ∧ ∃ layer, RolledBack layer (layerCalls past)

theorem Fresh.append {past more : List MainEvent} (h : Fresh lib past) (hmore : Fresh lib more) :
    Fresh lib (past ++ more) := List.forall_mem_append.mpr ⟨h, hmore⟩

theorem Fresh.stopped {past : List MainEvent} {event : MainEvent} (h : Fresh lib past)
    (hsilent : layerCall event = none) (hthrows : Throws lib event) :
    Stopped lib (past ++ [event]) := by
  have hpast : ∀ event ∈ past, layerCall event = none := fun event hevent ↦ (h event hevent).1
  refine ⟨List.forall_mem_append.mpr ⟨hpast, List.forall_mem_singleton.mpr hsilent⟩, event, ?_⟩
  exact ⟨List.mem_append_right _ (List.mem_singleton_self event), hthrows⟩

theorem Stopped.append {past : List MainEvent} {event : MainEvent} (h : Stopped lib past)
    (hsilent : layerCall event = none) : Stopped lib (past ++ [event]) := by
  obtain ⟨hpast, thrower, hmem, hthrows⟩ := h
  refine ⟨List.forall_mem_append.mpr ⟨hpast, List.forall_mem_singleton.mpr hsilent⟩, thrower, ?_⟩
  exact ⟨List.mem_append_left _ hmem, hthrows⟩

theorem fresh_singleton {event : MainEvent} (hsilent : layerCall event = none)
    (hfails : fails event = false) (haccepts : ¬ Rejects lib event) : Fresh lib [event] :=
  List.forall_mem_singleton.mpr ⟨hsilent, by simp [Throws, hfails, haccepts]⟩

/-- Code in front of the layer: it stays fresh, or it throws for a reason. -/
abbrev Enters {α : Type} (lib : Externals) (m : Nspawn α) : Prop :=
  Fallible.Reports Resolved (fun _ _ ↦ True) (Fresh lib) (fun past _ ↦ Stopped lib past) m

theorem enters_perform {op : Op} (hop : ∀ reply, Fresh lib [⟨op, reply⟩]) :
    Enters lib (perform op) := fun _ hpast ↦ wp_perform trivial fun reply _ ↦
  hpast.append (hop reply)

theorem enters_dumps (json : Json) : Enters lib (dumps json) := by
  intro past hpast
  apply wp_dumps trivial
  intro reply _
  cases reply with
  | ok text => exact hpast.append (fresh_singleton rfl rfl id)
  | error e => exact hpast.stopped rfl (Or.inl rfl)

theorem enters_toGuid (id : ContainerId) : Enters lib (id.toGuid lib) := by
  intro past hpast
  apply wp_checked trivial
  · exact fun _ h ↦ absurd h not_resolved_error
  · intro code out _ hcode
    refine hpast.stopped rfl (Or.inl ?_)
    simp [fails, ApiCall.isCleanup, successCode, hcode]
  · exact fun out _ ↦ hpast.append (fresh_singleton rfl rfl fun h ↦ h)

theorem enters_createAscendantDescriptors (acsendantLayers : List (ContainerLayer lib)) :
    Enters lib (createAscendantDescriptors acsendantLayers) :=
  Fallible.Reports.mapM (fun (layer : ContainerLayer lib) ↦ (enters_toGuid layer.id).bind fun _ ↦
    Fallible.reports_pure _) _

theorem enters_collectAcsendantLayers (basePath parentLayerName : String) :
    Enters lib (collectAcsendantLayers lib basePath parentLayerName) := by
  intro past hpast
  let jsonFile := basePath ++ "\\" ++ parentLayerName ++ "\\layerchain.json"
  refine (Fallible.wp_run_bind _ _).mpr (wp_load trivial fun loaded _ ↦ ?_)
  cases loaded with
  | error e => exact hpast.stopped rfl (Or.inl rfl)
  | ok json =>
    cases hlayers : ascendantLayers lib jsonFile json with
    | error e =>
      -- the chain is written out before it is found to be no list of layers
      have hstopped : Stopped lib (past ++ [⟨.load (.file jsonFile), .ok json⟩]) :=
        hpast.stopped rfl (Or.inr ⟨e, hlayers⟩)
      refine (Fallible.wp_run_bind _ _).mpr (wp_dumps trivial fun text _ ↦ ?_)
      cases text with
      | error e => exact hstopped.append rfl
      | ok text =>
        simp only [jsonFile] at hlayers
        simp only [hlayers]
        exact hstopped.append rfl
    | ok layers =>
      have haccepts : ¬ Rejects lib ⟨.load (.file jsonFile), .ok json⟩ :=
        fun ⟨e, he⟩ ↦ by simp [hlayers] at he
      have hfresh := hpast.append (fresh_singleton rfl rfl haccepts)
      refine Fallible.wp_run_bind_of _ (enters_dumps json _ hfresh) (fun _ _ h ↦ h)
        fun past' _ hpast' ↦ ?_
      simp only [jsonFile] at hlayers
      simp only [hlayers]
      exact hpast'

/-! ## The whole program -/

/-- The opening ends with the first call on a layer. -/
theorem opening_eq {past past' : List MainEvent} {event : MainEvent} (hpast : Fresh lib past)
    (hevent : layerCall event ≠ none) (hextends : past ++ [event] <+: past') :
    opening past' = past := by
  obtain ⟨more, rfl⟩ := hextends
  rw [opening, List.append_assoc, List.takeWhile_append_of_pos]
  · simp [hevent]
  · simpa using fun event hevent ↦ (hpast event hevent).1

theorem Fresh.layerCalls {past : List MainEvent} (h : Fresh lib past) : layerCalls past = [] :=
  List.filterMap_eq_nil_iff.mpr fun event hevent ↦ (h event hevent).1

theorem runLayer_rolled (config : NspawnConfig) (basePath parentLayerName : String)
    (driverInfo : DriverInfo) (acsendantLayers : List (ContainerLayer lib))
    (acsendantDescriptors : List WcLayerDescriptor) (layer : ContainerLayer lib)
    {past : List MainEvent} (hpast : Fresh lib past) :
    (runLayer config basePath parentLayerName driverInfo acsendantLayers acsendantDescriptors
      layer).run.wp Resolved (fun _ _ ↦ True) past fun past' _ ↦ Rolled lib past' := by
  have hopens : (runLayer config basePath parentLayerName driverInfo acsendantLayers
      acsendantDescriptors layer).run.wp Resolved (fun _ _ ↦ True) past
      fun past' _ ↦ opening past' = past := by
    -- the scope begins with a call on the layer
    refine ⟨trivial, fun reply hreply ↦ ?_⟩
    cases reply with
    | error failure => exact absurd hreply not_resolved_error
    | ok result =>
      apply Program.wp_mono _ (Program.wp_extends (Program.wp_true _ _))
      intro past' _ h
      exact opening_eq hpast (by simp [layerCall]) h.1
  refine Program.wp_mono ?_ (Program.wp_and hopens (runLayer_rolledBack config basePath
    parentLayerName driverInfo acsendantLayers acsendantDescriptors layer hpast.layerCalls))
  rintro past' _ ⟨hopening, hrolled⟩
  exact ⟨by rwa [hopening], _, hrolled⟩

variable (lib) in
/-- A scope that returns has rolled its layer back; one that throws may have been stopped before. -/
abbrev Settled {α : Type} : List MainEvent → Except StdException α → Prop :=
  Fallible.Accounted (Rolled lib) fun past _ ↦ Stopped lib past ∨ Rolled lib past

theorem spawnAndWait_settled (config : NspawnConfig) {past : List MainEvent}
    (hpast : Fresh lib past) :
    (spawnAndWait lib config).run.wp Resolved (fun _ _ ↦ True) past (Settled lib) := by
  refine Fallible.wp_run_bind_of _ (enters_dumps _ past hpast) (fun _ _ h ↦ Or.inl h)
    fun past₁ _ hpast₁ ↦ ?_
  refine Fallible.wp_run_bind_of _ (enters_collectAcsendantLayers _ _ past₁ hpast₁)
    (fun _ _ h ↦ Or.inl h) fun past₂ acsendantLayers hpast₂ ↦ ?_
  refine Fallible.wp_run_bind_of _ (enters_createAscendantDescriptors acsendantLayers past₂ hpast₂)
    (fun _ _ h ↦ Or.inl h) fun past₃ acsendantDescriptors hpast₃ ↦ ?_
  have hdatetime : Enters lib (perform .currentDatetime) :=
    enters_perform fun _ ↦ fresh_singleton rfl rfl id
  refine Fallible.wp_run_bind_of _ (hdatetime past₃ hpast₃)
    (fun _ _ h ↦ Or.inl h) fun past₄ datetime hpast₄ ↦ ?_
  have hgenerate : Enters lib (perform (.generate 26)) :=
    enters_perform fun _ ↦ fresh_singleton rfl rfl id
  refine Fallible.wp_run_bind_of _ (hgenerate past₄ hpast₄)
    (fun _ _ h ↦ Or.inl h) fun past₅ suffix hpast₅ ↦ ?_
  refine Program.wp_mono (fun past' result h ↦ ?_) (runLayer_rolled config _ _ _ _ _ _ hpast₅)
  cases result with
  | ok u => exact h
  | error e => exact Or.inr h

theorem parseAndSpawn_settled (text : List UInt8) :
    (parseAndSpawn lib text).run.wp Resolved (fun _ _ ↦ True) [] (Settled lib) := by
  have hpast : Fresh lib [] := nofun
  refine (Fallible.wp_run_bind _ _).mpr (wp_load trivial fun loaded _ ↦ ?_)
  cases loaded with
  | error e => exact Or.inl (hpast.stopped rfl (Or.inl rfl))
  | ok json =>
    cases hconfig : NspawnConfig.ofJson lib json with
    | error e =>
      simp only [hconfig]
      exact Or.inl (hpast.stopped rfl (Or.inr ⟨e, hconfig⟩))
    | ok config =>
      have haccepts : ¬ Rejects lib ⟨.load (.text text), .ok json⟩ :=
        fun ⟨e, he⟩ ↦ by simp [hconfig] at he
      simp only [hconfig]
      exact spawnAndWait_settled config (hpast.append (fresh_singleton rfl rfl haccepts))

variable (lib) in
/-- Either there is no layer because the program was prevented from making one, and it says so, or
the layer was rolled back. -/
def Decided (configJson : Option (List UInt8)) (configJsonLen : Int32) (past : List MainEvent)
    (result : Option String) : Prop :=
  layerCalls past = [] ∧ Prevented lib configJson configJsonLen past ∧ result ≠ none ∨
    ¬ Prevented lib configJson configJsonLen past ∧ ∃ layer, RolledBack layer (layerCalls past)

theorem Stopped.layerCalls {past : List MainEvent} (h : Stopped lib past) :
    layerCalls past = [] := List.filterMap_eq_nil_iff.mpr h.1

theorem Stopped.throws {past : List MainEvent} (h : Stopped lib past) :
    ∃ event ∈ opening past, Throws lib event := by
  rw [opening, List.takeWhile_eq_self_iff.mpr (by simpa using h.1)]
  exact h.2

theorem hostcomputeNspawn_decided (configJson : Option (List UInt8)) (configJsonLen : Int32) :
    (hostcomputeNspawn lib configJson configJsonLen).wp Resolved (fun _ _ ↦ True) []
      (Decided lib configJson configJsonLen) := by
  cases configJson with
  | none => exact Or.inl ⟨rfl, Or.inl rfl, nofun⟩
  | some bytes =>
    cases hlen : lib.isUint32Positive configJsonLen with
    | false =>
      rw [hostcomputeNspawn, if_pos (by simp [hlen])]
      exact Or.inl ⟨rfl, Or.inr (Or.inl hlen), nofun⟩
    | true =>
      rw [hostcomputeNspawn, if_neg (by simp [hlen])]
      have hrolled {past : List MainEvent} {result : Option String} (h : Rolled lib past) :
          Decided lib (some bytes) configJsonLen past result := by
        refine Or.inr ⟨?_, h.2⟩
        rintro (hnone | hrefused | ⟨event, hevent, hthrows⟩)
        · exact nomatch hnone
        · simp [hlen] at hrefused
        · exact (h.1 event hevent).2 hthrows
      refine (Program.wp_bind _ _).mpr (Program.wp_mono (fun past result h ↦ ?_)
        (parseAndSpawn_settled _))
      cases result with
      | ok u => exact hrolled h
      | error e =>
        rcases h with hstopped | h
        · exact Or.inl ⟨hstopped.layerCalls, Or.inr (Or.inr hstopped.throws), nofun⟩
        · exact hrolled h

/-- A refused layer is a failure. -/
theorem fails_of_refusal {event : MainEvent} {call : LayerCall}
    (hcall : layerCall event = some call) (hforward : call.inverse = false)
    (hcode : call.code ≠ 0) : fails event = true := by
  obtain ⟨op, reply⟩ := event
  cases op with
  | api call' =>
    cases reply with
    | error failure => cases call' <;> cases hcall
    | ok result =>
      cases call' with
      | createSandboxLayer | activateLayer | prepareLayer =>
        cases hcall
        simpa [fails, ApiCall.isCleanup, successCode] using hcode
      | unprepareLayer | deactivateLayer | destroyLayer =>
        cases hcall
        cases hforward
      | _ => cases hcall
  | _ => cases hcall

/-- If nothing has failed, every stage was acquired and released. -/
theorem RolledBack.complete {past : List MainEvent} {layer : WString}
    (h : RolledBack layer (layerCalls past)) (hclean : Clean past) :
    ∃ unprepared deactivated destroyed, layerCalls past =
      [⟨.create, false, layer, 0⟩, ⟨.activate, false, layer, 0⟩, ⟨.prepare, false, layer, 0⟩,
        ⟨.prepare, true, layer, unprepared⟩, ⟨.activate, true, layer, deactivated⟩,
        ⟨.create, true, layer, destroyed⟩] := by
  obtain ⟨n, refusal, backward, hcalls, hbackward, hend⟩ := h
  rcases hend with ⟨rfl, rfl⟩ | ⟨stage, code, -, hcode, rfl⟩
  · obtain ⟨unprepare, rest, rfl, hunprepare, hrest⟩ := List.map_eq_cons_iff.mp hbackward
    obtain ⟨deactivate, rest, rfl, hdeactivate, hrest⟩ := List.map_eq_cons_iff.mp hrest
    obtain ⟨destroy, rest, rfl, hdestroy, hrest⟩ := List.map_eq_cons_iff.mp hrest
    obtain rfl := List.map_eq_nil_iff.mp hrest
    cases unprepare
    cases deactivate
    cases destroy
    cases hunprepare
    cases hdeactivate
    cases hdestroy
    exact ⟨_, _, _, hcalls⟩
  · have hmem : ⟨stage, false, layer, code⟩ ∈ layerCalls past := by simp [hcalls]
    obtain ⟨event, hevent, hcall⟩ := List.mem_filterMap.mp hmem
    have hfails := fails_of_refusal hcall rfl hcode
    simp [hclean event hevent] at hfails

/-- In every completed run there is a layer unless something was thrown before it, and the layer is
rolled back exactly and in reverse order.  The result is null exactly when the process callback was
registered, and then the layer was created, activated and prepared.  The result explains a failure
of anything but a cleanup call, and nothing but cleanup follows such a failure. -/
theorem layer_rolled_back (lib : Externals) (configJson : Option (List UInt8))
    (configJsonLen : Int32) {labels : List Label} {result : Option String}
    {latch : CallbackLatch.State}
    (hrun : (system _).Run (start (hostcomputeNspawn lib configJson configJsonLen)) labels
      ⟨.ret result, latch⟩) (hresolves : Resolves labels) :
    (layerCalls (mainEvents labels) = [] ∧
        Prevented lib configJson configJsonLen (mainEvents labels) ∧ result ≠ none ∨
      ¬ Prevented lib configJson configJsonLen (mainEvents labels) ∧
        ∃ layer, RolledBack layer (layerCalls (mainEvents labels))) ∧
    (result = none → ∃ layer unprepared deactivated destroyed, layerCalls (mainEvents labels) =
      [⟨.create, false, layer, 0⟩, ⟨.activate, false, layer, 0⟩, ⟨.prepare, false, layer, 0⟩,
        ⟨.prepare, true, layer, unprepared⟩, ⟨.activate, true, layer, deactivated⟩,
        ⟨.create, true, layer, destroyed⟩]) ∧
    (result = none ↔ ∃ process, Outcome.ProcessRegistered process (mainEvents labels)) ∧
    ∀ (i : ℕ) op reply, labels[i]? = some (.call op reply) → fails ⟨op, reply⟩ = true →
      (∃ e, Explains lib ⟨op, reply⟩ e ∧ result = some (raised lib e)) ∧
      ∀ (j : ℕ) op' reply', i < j → labels[j]? = some (.call op' reply') → ¬ Attempt op' := by
  have hreports : (hostcomputeNspawn lib configJson configJsonLen).wp (fun _ _ ↦ True) attemptPre []
      (Answered lib) := hostcomputeNspawn_reports configJson configJsonLen
  have houtcome : (hostcomputeNspawn lib configJson configJsonLen).wp (fun _ _ ↦ True)
      Outcome.notifiedPre [] Outcome.ReportedNull :=
    Outcome.hostcomputeNspawn_outcome configJson configJsonLen
  have hdecided : Decided lib configJson configJsonLen (mainEvents labels) result :=
    post_of_run hrun hresolves.resolved (hostcomputeNspawn_decided configJson configJsonLen)
  refine ⟨hdecided, ?_, ?_, fun i op reply hi hfails ↦ ?_⟩
  · rintro rfl
    rcases hdecided with ⟨_, _, hnone⟩ | ⟨_, layer, hrolled⟩
    · exact absurd rfl hnone
    · exact ⟨layer, hrolled.complete (post_of_run hrun (fun _ _ ↦ trivial) hreports)⟩
  · have hresult := post_of_run hrun (fun _ _ ↦ trivial) houtcome
    cases result with
    | none =>
      obtain ⟨_, process, _, _, hregistered⟩ := hresult
      exact ⟨fun _ ↦ ⟨process, hregistered⟩, fun _ ↦ rfl⟩
    | some message => exact iff_of_false nofun fun ⟨process, h⟩ ↦ hresult process h
  · have hevent {front : List Label} (hfront : Label.call op reply ∈ front) :
        (⟨op, reply⟩ : MainEvent) ∈ mainEvents front := List.mem_filterMap.mpr ⟨_, hfront, rfl⟩
    constructor
    · have hanswered := post_of_run hrun (fun _ _ ↦ trivial) hreports
      have hmem := hevent (List.mem_of_getElem? hi)
      cases result with
      | none => simp [hanswered _ hmem] at hfails
      | some message =>
        obtain ⟨e, hexplains, rfl⟩ := hanswered _ hmem hfails
        exact ⟨e, hexplains, rfl⟩
    · intro j op' reply' hij hj hattempt
      have hbefore : Label.call op reply ∈ labels.take j :=
        List.mem_of_getElem? (by rw [List.getElem?_take_of_lt hij, hi])
      have hclean := pre_of_run hrun (fun _ _ ↦ trivial) hreports hj hattempt
      simp [hclean _ (hevent hbefore)] at hfails

theorem layer_rolled_back_refused : ∃ (labels : List Label) (message : String)
    (latch : CallbackLatch.State),
    (system _).Run (start (hostcomputeNspawn Externals.ascii (some []) 1)) labels
      ⟨.ret (some message), latch⟩ ∧ Resolves labels ∧
    (¬ Prevented Externals.ascii (some []) 1 (mainEvents labels) ∧
      ∃ layer, RolledBack layer (layerCalls (mainEvents labels))) ∧
    (layerCalls (mainEvents labels)).map (fun call ↦ (call.stage, call.inverse, call.code)) =
      [(.create, false, 0), (.activate, false, 5), (.create, true, 7)] := by
  -- `ActivateLayer` fails, and so does `DestroyLayer`
  have hrun := run_of_choices (w := start (hostcomputeNspawn Externals.ascii (some []) 1))
    (.loaded :: List.replicate 7 .succeed ++ [.code 5, .code 7, .succeed]) rfl
  refine ⟨_, _, _, hrun, by decide, ?_, by decide⟩
  exact (layer_rolled_back _ _ _ hrun (by decide)).1.resolve_left fun h ↦ absurd h.1 (by decide)

end Rollback

end HostcomputeNspawn
