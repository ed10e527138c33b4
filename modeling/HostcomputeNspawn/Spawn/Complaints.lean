import HostcomputeNspawn.Semantics.Growth
import HostcomputeNspawn.Spawn.Identity
import HostcomputeNspawn.Spawn.Reporting

/-!
# What the guards write

A guard cannot throw, so a cleanup that comes back with a bad code is only written to `std::cerr`.
The library writes nothing else there: its lines are those of the failed cleanups, in their order,
and each of them names the layer of the run.
-/

namespace HostcomputeNspawn

open Interaction World Identity

namespace Complaints

/-- The line that the event writes to `std::cerr`. -/
def line? : MainEvent → Option String
  | ⟨.cerr line, _⟩ => some line
  | _ => none

/-- The lines of the library on `std::cerr`. -/
def lines (past : List MainEvent) : List String := past.filterMap line?

/-- The line for a cleanup that came back with a bad code. -/
def cleanupError (lib : Externals) (call : ApiCall) (name : String) (code : UInt32) : String :=
  "ERROR: '" ++ call.name ++ "' failed, name: [" ++ name ++ "]" ++
    " error: [" ++ lib.errcodeToString code ++ "]"

/-- What there is to complain about in the event. -/
def complaint? (lib : Externals) (name : String) : MainEvent → Option String
  | ⟨.api call, .ok result⟩ =>
    if call.isCleanup && result.code != successCode call then
      some (cleanupError lib call name result.code)
    else none
  | _ => none

/-- Every failed cleanup has its line, and every line its failed cleanup. -/
def Noted (lib : Externals) (name : String) (past : List MainEvent) : Prop :=
  lines past = past.filterMap (complaint? lib name)

/-- The lines tell of the failed cleanups of the generated layer; before there is a layer, nothing
is written. -/
structure Complained (lib : Externals) (past : List MainEvent) : Prop where
  named : ∀ name, generatedName past = some name → Noted lib name past
  unnamed : generatedName past = none → lines past = []

variable {lib : Externals} {name : String} {past : List MainEvent}
  {allowed : (op : Op) → op.Reply → Prop}

/-- The preconditions of this module. -/
abbrev anything (_ : List MainEvent) (_ : Op) : Prop := True

/-- The operations that write nothing and leave nothing to be written. -/
def Silent : Op → Prop
  | .api call => call.isCleanup = false
  | .cerr _ => False
  | _ => True

theorem Noted.append (h : Noted lib name past) {more : List MainEvent}
    (hmore : Noted lib name more) : Noted lib name (past ++ more) := by
  unfold Noted lines at h hmore ⊢
  rw [List.filterMap_append, List.filterMap_append, h, hmore]

theorem lines_silent {op : Op} (reply : op.Reply) (hop : Silent op) :
    lines [⟨op, reply⟩] = [] := by
  cases op with
  | cerr line => exact hop.elim
  | _ => rfl

theorem noted_silent {op : Op} (reply : op.Reply) (hop : Silent op) :
    Noted lib name [⟨op, reply⟩] := by
  rw [Noted, lines_silent reply hop]
  cases op with
  | api call =>
    have hcall : call.isCleanup = false := hop
    cases reply <;> simp [complaint?, hcall]
  | _ => rfl

theorem stable_noted : Program.Stable anything Silent (Noted lib name) where
  permits _ _ := trivial
  keeps reply hpast hop := hpast.append (noted_silent reply hop)

theorem silent_of_preparing (op : Op) (hop : op.Preparing) : Silent op := by
  unfold Op.Preparing at hop
  split at hop
  all_goals trivial

/-! ## The guards -/

/-- A wrapper that throws leaves nothing to be written. -/
theorem noted_error (call : ApiCall) (failure : LookupFailure) :
    Noted lib name [called call (.error failure)] := rfl

/-- A cleanup writes its line when its code is bad. -/
theorem cleanup_noted {call : ApiCall} {message : UInt32 → String}
    (hcall : call.isCleanup = true) (hsuccess : successCode call = 0)
    (hmessage : ∀ code, message code = cleanupError lib call name code)
    (hpast : Noted lib name past) :
    (cleanup lib call message).wp allowed anything past fun past' _ ↦ Noted lib name past' := by
  refine wp_cleanup trivial (fun failure _ ↦ ⟨trivial, fun _ _ ↦ ?_⟩) (fun out _ ↦ ?_)
    fun code out _ hcode ↦ ⟨trivial, ?_⟩
  · exact (hpast.append (noted_error call failure)).append rfl
  · apply hpast.append
    simp [Noted, lines, List.filterMap_cons, line?, complaint?, hsuccess]
  · apply hpast.append
    simp [Noted, lines, List.filterMap_cons, line?, complaint?, hcall, hsuccess, hcode, hmessage]

theorem hcsTerminateComputeSystem_noted (computeSystem : Handle) (layer : ContainerLayer lib)
    (hpast : Noted lib layer.getName past) :
    (hcsTerminateComputeSystem computeSystem layer).wp allowed anything past
      fun past' _ ↦ Noted lib layer.getName past' := by
  refine wp_hcsTerminateComputeSystem trivial trivial (fun failure _ ↦ ⟨trivial, fun _ _ ↦ ?_⟩)
    (fun code _ hcode ↦ ⟨trivial, trivial, ?_⟩) fun _ ↦ ⟨trivial, ?_⟩
  · have hthrown : Noted lib layer.getName
        [finished .lock, called (terminateCall lib computeSystem) (.error failure)] := rfl
    exact (hpast.append hthrown).append rfl
  · have herror : terminateError layer code =
        cleanupError lib (terminateCall lib computeSystem) layer.getName code := rfl
    apply hpast.append
    simp [Noted, lines, List.filterMap_cons, line?, complaint?, ApiCall.isCleanup, successCode,
      hcode, herror]
  · apply hpast.append
    simp [Noted, lines, List.filterMap_cons, line?, complaint?, successCode]

/-! ## The scope of the layer -/

variable {config : NspawnConfig}

theorem runContainer_noted (layer : ContainerLayer lib) (computeSystem : Handle)
    (hpast : Noted lib layer.getName past) :
    (runContainer config layer computeSystem).run.wp allowed anything past
      fun past' _ ↦ Noted lib layer.getName past' := by
  refine Fallible.wp_run_bind_of_only stable_noted (only_run_perform trivial) hpast
    (fun _ _ h ↦ h) fun past₁ _ hpast₁ ↦ ?_
  refine Fallible.wp_run_defer_of_only ⟨trivial, fun _ ↦ trivial⟩ (fun _ ↦ stable_noted) ?_
  refine Fallible.wp_run_bind_of_only stable_noted (only_latched rfl fun _ ↦ trivial) hpast₁
    (fun _ _ h ↦ h) fun past₂ _ hpast₂ ↦ ?_
  refine Fallible.wp_run_bind_of_only stable_noted (only_latched rfl fun _ ↦ trivial) hpast₂
    (fun _ _ h ↦ h) fun past₃ _ hpast₃ ↦ ?_
  refine Fallible.wp_run_defer_of (fun past' _ ↦ Noted lib layer.getName past') ?_
    fun _ _ h ↦ hcsTerminateComputeSystem_noted computeSystem layer h
  exact (only_runProcess config layer computeSystem (fun _ ↦ trivial) (fun _ ↦ rfl) (fun _ ↦ rfl)
    (fun _ ↦ rfl) fun _ ↦ trivial).wp stable_noted hpast₃

theorem runPrepared_noted (basePath : String) (driverInfo : DriverInfo)
    (acsendantLayers : List (ContainerLayer lib)) (layer : ContainerLayer lib)
    (hpast : Noted lib layer.getName past) :
    (runPrepared config basePath driverInfo acsendantLayers layer).run.wp allowed anything past
      fun past' _ ↦ Noted lib layer.getName past' :=
  wp_runPrepared (stable_noted.mono silent_of_preparing) hpast (fun _ _ h ↦ h)
    (fun _ _ _ _ ↦ trivial) (fun _ _ _ _ _ h _ ↦ h.append rfl) (fun _ _ _ _ _ _ h _ ↦ h.append rfl)
    fun _ _ _ computeSystem h ↦ runContainer_noted layer computeSystem (h.append rfl)

theorem runLayer_noted (basePath parentLayerName : String) (driverInfo : DriverInfo)
    (acsendantLayers : List (ContainerLayer lib))
    (acsendantDescriptors : List WcLayerDescriptor) (layer : ContainerLayer lib)
    (hpast : Noted lib layer.getName past) :
    (runLayer config basePath parentLayerName driverInfo acsendantLayers acsendantDescriptors
      layer).run.wp allowed anything past fun past' _ ↦ Noted lib layer.getName past' := by
  refine Fallible.wp_run_bind_of_only stable_noted (only_checked rfl) hpast (fun _ _ h ↦ h)
    fun past₁ _ hpast₁ ↦ ?_
  refine Fallible.wp_run_defer_of (fun past' _ ↦ Noted lib layer.getName past') ?_
    fun _ _ h ↦ cleanup_noted rfl rfl (fun _ ↦ rfl) h
  refine Fallible.wp_run_bind_of_only stable_noted (only_checked rfl) hpast₁ (fun _ _ h ↦ h)
    fun past₂ _ hpast₂ ↦ ?_
  refine Fallible.wp_run_defer_of (fun past' _ ↦ Noted lib layer.getName past') ?_
    fun _ _ h ↦ cleanup_noted rfl rfl (fun _ ↦ rfl) h
  refine Fallible.wp_run_bind_of_only stable_noted (only_checked rfl) hpast₂ (fun _ _ h ↦ h)
    fun past₃ _ hpast₃ ↦ ?_
  refine Fallible.wp_run_defer_of (fun past' _ ↦ Noted lib layer.getName past') ?_
    fun _ _ h ↦ cleanup_noted rfl rfl (fun _ ↦ rfl) h
  exact runPrepared_noted basePath driverInfo acsendantLayers layer hpast₃

/-! ## The whole program -/

/-- No layer has been named and nothing has been written. -/
structure Calm (lib : Externals) (past : List MainEvent) : Prop where
  unnamed : Unnamed past
  silent : lines past = []
  noted : ∀ name, Noted lib name past

theorem stable_calm : Program.Stable anything Op.Describing (Calm lib) where
  permits _ _ := trivial
  keeps {past op} reply hpast hop := by
    have hsilent := silent_of_preparing op (preparing_of_describing op hop)
    have hunnamed : Program.Stable (identityPre lib "") Op.Describing Unnamed := stable_unnamed
    refine ⟨hunnamed.keeps reply hpast.unnamed hop, ?_,
      fun name ↦ (hpast.noted name).append (noted_silent reply hsilent)⟩
    have hline := lines_silent reply hsilent
    unfold lines at hline ⊢
    rw [List.filterMap_append, hline, List.append_nil]
    exact hpast.silent

theorem Calm.complained (h : Calm lib past) : Complained lib past where
  named name _ := h.noted name
  unnamed _ := h.silent

theorem spawnAndWait_complained (hpast : Calm lib past) :
    (spawnAndWait lib config).run.wp allowed anything past
      fun past' _ ↦ Complained lib past' := by
  refine Fallible.wp_run_bind_of_only stable_calm (only_dumps trivial) hpast
    (fun _ _ h ↦ h.complained) fun past₁ _ hpast₁ ↦ ?_
  refine Fallible.wp_run_bind_of_only stable_calm (only_collectAcsendantLayers _ _) hpast₁
    (fun _ _ h ↦ h.complained) fun past₂ acsendantLayers hpast₂ ↦ ?_
  refine Fallible.wp_run_bind_of_only stable_calm (only_createAscendantDescriptors _) hpast₂
    (fun _ _ h ↦ h.complained) fun past₃ acsendantDescriptors hpast₃ ↦ ?_
  refine wp_perform_bind trivial fun datetime _ ↦ wp_perform_bind trivial fun suffix _ ↦ ?_
  let layer := ContainerLayer.make lib (lib.stripFilename config.parentLayerDirectory)
    ("nspawn_" ++ datetime ++ "_" ++ suffix)
  have hname : generatedName (past₃ ++ [⟨.currentDatetime, datetime⟩] ++
      [⟨.generate 26, suffix⟩]) = some layer.getName :=
    generatedName_unnamed hpast₃.unnamed datetime suffix
  have hnoted : Noted lib layer.getName
      (past₃ ++ [⟨.currentDatetime, datetime⟩] ++ [⟨.generate 26, suffix⟩]) :=
    stable_noted.keeps suffix (stable_noted.keeps datetime (hpast₃.noted _) trivial) trivial
  apply Program.wp_mono _ (Program.wp_extends (runLayer_noted _ _ _ _ _ layer hnoted))
  rintro past' _ ⟨⟨more, rfl⟩, hpast'⟩
  -- the name that is generated for the layer is the one in its guards
  have hname' := generatedName_append hname more
  exact ⟨fun name h ↦ by rwa [Option.some.inj (h.symm.trans hname')],
    fun h ↦ nomatch h.symm.trans hname'⟩

theorem hostcomputeNspawn_complained (configJson : Option (List UInt8)) (configJsonLen : Int32) :
    (hostcomputeNspawn lib configJson configJsonLen).wp allowed anything []
      fun past' _ ↦ Complained lib past' := by
  have hstart : Calm lib [] := ⟨⟨rfl, rfl⟩, rfl, fun _ ↦ rfl⟩
  have hparse (text : List UInt8) : (parseAndSpawn lib text).run.wp allowed anything []
      fun past' _ ↦ Complained lib past' := by
    refine Fallible.wp_run_bind_of_only stable_calm (only_load trivial) hstart
      (fun _ _ h ↦ h.complained) fun past₁ loaded hpast₁ ↦ ?_
    exact Fallible.wp_run_bind_of_only (m := ofExcept _) stable_calm trivial hpast₁
      (fun _ _ h ↦ h.complained) fun past₂ config hpast₂ ↦ spawnAndWait_complained hpast₂
  unfold hostcomputeNspawn
  split
  · exact hstart.complained
  split
  · exact hstart.complained
  refine (Program.wp_bind _ _).mpr (Program.wp_mono (fun past' result h ↦ ?_) (hparse _))
  cases result <;> exact h

end Complaints

end HostcomputeNspawn
