import HostcomputeNspawn.Semantics.Growth
import HostcomputeNspawn.Spawn.Reporting
import HostcomputeNspawn.Vmcompute.Loader
import Mathlib.Data.List.Pairwise

/-!
# A container service that is missing

`hostcompute_nspawn` on the wrappers of `vmcompute.cpp`.  If the library cannot be loaded, no
export is ever called and the error message carries the error of the load.  If an export is
missing, the wrapper throws, and this ends the process only in a destructor: after an export of a
cleanup could not be found in a library whose other exports have been called.
-/

namespace HostcomputeNspawn

open Interaction Vmcompute

namespace Loading

/-- Some export has been called. -/
def Reached (past : List MainEvent) : Prop := ∃ call result, called call (.ok result) ∈ past

/-- Cleanups follow a call that came back, and the process ends after the wrapper of a cleanup. -/
def guardPre (past : List MainEvent) : Op → Prop
  | .api call => call.isCleanup = true → Reached past
  | .terminate => Reached past ∧ ∃ call failure, call.isCleanup = true ∧
    called call (.error failure) ∈ past
  | _ => True

theorem Reached.append {past : List MainEvent} (h : Reached past) (more : List MainEvent) :
    Reached (past ++ more) := by
  obtain ⟨call, result, hmem⟩ := h
  exact ⟨call, result, List.mem_append_left _ hmem⟩

theorem stable_reached : Program.Stable guardPre (· ≠ .terminate) Reached where
  permits {past op} hpast hop := by
    cases op with
    | api call => exact fun _ ↦ hpast
    | terminate => exact absurd rfl hop
    | _ => trivial
  keeps _ hpast _ := hpast.append _

theorem stable_preparing : Program.Stable guardPre Op.Preparing fun _ ↦ True where
  permits {past op} _ hop := by
    cases op with
    | api call => cases call <;> first | exact hop.elim | exact nofun
    | terminate => exact hop.elim
    | _ => trivial
  keeps _ _ _ := trivial

variable {lib : Externals}

/-- The process ends after the wrapper of a cleanup has thrown. -/
theorem wp_terminate {past : List MainEvent} {call : ApiCall} (failure : LookupFailure)
    (hpast : Reached past) (hcall : call.isCleanup = true) :
    (Program.perform Op.terminate : Prog Unit).wp (fun _ _ ↦ True) guardPre
      (past ++ [called call (.error failure)]) fun past' _ ↦ Reached past' := by
  have hreached := hpast.append [called call (.error failure)]
  exact ⟨⟨hreached, call, failure, hcall, by simp⟩, fun _ _ ↦ hreached.append _⟩

theorem cleanup_guards {past : List MainEvent} {call : ApiCall} {message : UInt32 → String}
    (hpast : Reached past) (hcall : call.isCleanup = true) :
    (cleanup lib call message).wp (fun _ _ ↦ True) guardPre past fun past' _ ↦ Reached past' :=
  wp_cleanup (fun _ ↦ hpast) (fun failure _ ↦ wp_terminate failure hpast hcall)
    (fun _ _ ↦ hpast.append _) fun _ _ _ _ ↦ ⟨trivial, hpast.append _⟩

theorem hcsTerminateComputeSystem_guards (computeSystem : Handle) (layer : ContainerLayer lib)
    {past : List MainEvent} (hpast : Reached past) :
    (hcsTerminateComputeSystem computeSystem layer).wp (fun _ _ ↦ True) guardPre past
      fun past' _ ↦ Reached past' := by
  refine wp_hcsTerminateComputeSystem trivial (fun _ ↦ hpast.append _) (fun failure _ ↦ ?_)
    (fun _ _ _ ↦ ⟨trivial, trivial, hpast.append _⟩) fun _ ↦ ⟨trivial, hpast.append _⟩
  simpa using wp_terminate failure (hpast.append [finished .lock]) rfl

theorem runContainer_guards (config : NspawnConfig) (layer : ContainerLayer lib)
    (computeSystem : Handle) {past : List MainEvent} (hpast : Reached past) :
    (runContainer config layer computeSystem).run.wp (fun _ _ ↦ True) guardPre past
      fun past' _ ↦ Reached past' := by
  refine wp_perform_bind trivial fun _ _ ↦ ?_
  refine Fallible.wp_run_defer_of (fun past' _ ↦ Reached past') ?_
    fun past' _ hpast' ↦ ⟨trivial, fun _ _ ↦ hpast'.append _⟩
  apply Fallible.wp_run_bind_of_only stable_reached (only_latched nofun nofun) (hpast.append _)
    (fun _ _ h ↦ h)
  intro past₁ _ hpast₁
  apply Fallible.wp_run_bind_of_only stable_reached (only_latched nofun nofun) hpast₁
    (fun _ _ h ↦ h)
  intro past₂ _ hpast₂
  apply Fallible.wp_run_defer_of (fun past' _ ↦ Reached past') _
    fun past' _ hpast' ↦ hcsTerminateComputeSystem_guards computeSystem layer hpast'
  have hprocess : (runProcess config layer computeSystem).run.Only (· ≠ .terminate) :=
    only_runProcess config layer computeSystem (fun _ h ↦ nomatch h) (fun _ h ↦ nomatch h)
      (fun _ h ↦ nomatch h) (fun _ h ↦ nomatch h) fun _ h ↦ nomatch h
  exact hprocess.wp stable_reached hpast₂

/-- The guards of the layer run when the call that creates it has come back. -/
theorem runLayer_guards (config : NspawnConfig) (basePath parentLayerName : String)
    (driverInfo : DriverInfo) (acsendantLayers : List (ContainerLayer lib))
    (acsendantDescriptors : List WcLayerDescriptor) (layer : ContainerLayer lib)
    {past : List MainEvent} :
    (runLayer config basePath parentLayerName driverInfo acsendantLayers acsendantDescriptors
      layer).run.wp (fun _ _ ↦ True) guardPre past fun _ _ ↦ True := by
  refine Fallible.wp_run_bind_of (fun past' result ↦ result = .ok () → Reached past') ?_
    (fun _ _ _ ↦ trivial) fun past₁ _ hpast₁ ↦ ?_
  · exact wp_checked nofun (fun _ _ ↦ nofun) (fun _ _ _ _ ↦ nofun)
      fun out _ _ ↦ ⟨_, _, List.mem_append_right _ (List.mem_singleton.mpr rfl)⟩
  have hbody : ∀ past₃, Reached past₃ → (runPrepared config basePath driverInfo acsendantLayers
      layer).run.wp (fun _ _ ↦ True) guardPre past₃ fun past' _ ↦ Reached past' := by
    intro past₃ hpast₃
    exact wp_runPrepared (stable_reached.mono ne_terminate_of_preparing) hpast₃ (fun _ _ h ↦ h)
      (fun _ _ _ _ ↦ nofun) (fun _ _ _ _ _ h _ ↦ h.append _) (fun _ _ _ _ _ _ h _ ↦ h.append _)
      fun _ _ _ _ h ↦ runContainer_guards _ _ _ (h.append _)
  apply Fallible.wp_run_defer_of (fun past' _ ↦ Reached past') _ fun past' _ hpast' ↦
    Program.wp_mono (fun _ _ _ ↦ trivial) (cleanup_guards hpast' rfl)
  apply Fallible.wp_run_bind_of_only stable_reached (only_checked nofun) (hpast₁ rfl)
    (fun _ _ h ↦ h)
  intro past₂ _ hpast₂
  apply Fallible.wp_run_defer_of (fun past' _ ↦ Reached past') _ fun past' _ hpast' ↦
    cleanup_guards hpast' rfl
  apply Fallible.wp_run_bind_of_only stable_reached (only_checked nofun) hpast₂ (fun _ _ h ↦ h)
  intro past₃ _ hpast₃
  exact Fallible.wp_run_defer_of (fun past' _ ↦ Reached past') (hbody past₃ hpast₃)
    fun past' _ hpast' ↦ cleanup_guards hpast' rfl

/-- Cleanups follow a call that came back in every execution of the program. -/
theorem hostcomputeNspawn_guards (configJson : Option (List UInt8)) (configJsonLen : Int32) :
    (hostcomputeNspawn lib configJson configJsonLen).wp (fun _ _ ↦ True) guardPre []
      fun _ _ ↦ True := by
  apply wp_hostcomputeNspawn_of_runLayer stable_preparing trivial
  exact fun _ _ _ _ _ _ _ _ _ ↦ runLayer_guards _ _ _ _ _ _ _

/-! ## On the functions of the system -/

/-- The implementation of `hostcompute_nspawn` by the wrappers. -/
def loadedNspawn (lib : Externals) (configJson : Option (List UInt8)) (configJsonLen : Int32) :
    Program LoaderOp LoaderOp.Reply (Option String × Statics) :=
  (hostcomputeNspawn lib configJson configJsonLen).handle (loader lib) .init

/-- The library is there for both calls or for neither. -/
def SameLibrary : MainEvent → MainEvent → Prop
  | ⟨.api _, reply⟩, ⟨.api _, reply'⟩ => libraryFailed reply = libraryFailed reply'
  | _, _ => True

instance : Std.Symm SameLibrary where
  symm := by
    rintro ⟨op, _⟩ ⟨op', _⟩ h
    cases op <;> cases op' <;> first | trivial | exact h.symm

/-- Whether the library is there does not change. -/
theorem libraryFailed_eq {events : List MainEvent} (h : events.Pairwise Consistent)
    {call call' : ApiCall} {reply : ApiReply call} {reply' : ApiReply call'}
    (hreply : called call reply ∈ events) (hreply' : called call' reply' ∈ events) :
    libraryFailed reply = libraryFailed reply' := by
  have hsame : events.Pairwise SameLibrary := by
    refine h.imp ?_
    rintro ⟨op, _⟩ ⟨op', _⟩ hconsistent
    cases op <;> cases op' <;> first | trivial | exact hconsistent.1
  have hrefl : ∀ event ∈ events, SameLibrary event event := by
    rintro ⟨op, _⟩ _
    cases op <;> trivial
  exact List.Pairwise.forall_of_forall hrefl hsame hreply hreply'

/-- The exports that are called are the calls that come back. -/
theorem invoked_iff {events : List MainEvent} {low : List LoaderEvent}
    (h : Explained lib events low) {call : ApiCall} {result : ApiResult call} :
    (∃ address, (⟨.invoke address call, result⟩ : LoaderEvent) ∈ low) ↔
      called call (.ok result) ∈ events := by
  have hlow : called call (.ok result) ∈ shown low ↔
      ∃ address, (⟨.invoke address call, result⟩ : LoaderEvent) ∈ low := by
    refine List.mem_filterMap.trans ⟨?_, fun ⟨address, hmem⟩ ↦ ⟨_, hmem, rfl⟩⟩
    rintro ⟨⟨op, reply⟩, hmem, hshown⟩
    cases op with
    | invoke address call' =>
      cases hshown
      exact ⟨address, hmem⟩
    | other op =>
      cases op with
      | api call' => exact nomatch hshown
      | _ => cases hshown
    | _ => exact nomatch hshown
  have hevents : called call (.ok result) ∈ events.filterMap performed ↔
      called call (.ok result) ∈ events := by
    refine List.mem_filterMap.trans ⟨?_, fun hmem ↦ ⟨_, hmem, rfl⟩⟩
    rintro ⟨⟨op, reply⟩, hmem, hperformed⟩
    cases op with
    | api call' =>
      cases reply with
      | ok result' =>
        cases hperformed
        exact hmem
      | error failure => exact nomatch hperformed
    | _ => cases hperformed
  rw [← hlow, h.shown, hevents]

section Leads

variable {α : Type} {p : Prog α} {low : List LoaderEvent}
  {q : Program LoaderOp LoaderOp.Reply (α × Statics)}

/-- The library is not loaded a second time. -/
theorem loads_once (hlow : (p.handle (loader lib) .init).Leads low q) :
    low.Pairwise fun event event' ↦ ∀ name name',
      event.1 = .loadLibraryW name → event'.1 ≠ .loadLibraryW name' := by
  apply Program.pairwise_of_leads hlow (fun _ _ ↦ trivial) (wp_handle_loader (wp_leadsTo p))
  intro past event hpre earlier hearlier name name' hname hname'
  rw [hname'] at hpre
  exact hpre.2 earlier hearlier name hname

/-- The events agree if both of them load the library. -/
def SameLoad (event event' : LoaderEvent) : Prop := ∀ name name',
  event.1 = .loadLibraryW name → event'.1 = .loadLibraryW name' → event = event'

instance : Std.Symm SameLoad where
  symm _ _ h name name' hname hname' := (h name' name hname' hname).symm

theorem load_unique (hlow : (p.handle (loader lib) .init).Leads low q) {event event' : LoaderEvent}
    (hevent : event ∈ low) (hevent' : event' ∈ low) : SameLoad event event' := by
  have hsame : low.Pairwise SameLoad := (loads_once hlow).imp fun h name name' hname hname' ↦
    absurd hname' (h name name' hname)
  have hrefl : ∀ event ∈ low, SameLoad event event := fun _ _ _ _ _ _ ↦ rfl
  exact List.Pairwise.forall_of_forall hrefl hsame hevent hevent'

/-- An export that was called was found in a library that has been loaded. -/
theorem loaded_of_invoked (hlow : (p.handle (loader lib) .init).Leads low q) {address : Address}
    {call : ApiCall} {result : ApiResult call}
    (hinvoked : (⟨.invoke address call, result⟩ : LoaderEvent) ∈ low) {name : WString} :
    (⟨.loadLibraryW name, none⟩ : LoaderEvent) ∉ low := by
  intro hnull
  obtain ⟨i, hi⟩ := List.getElem?_of_mem hinvoked
  obtain ⟨-, module, hfound⟩ := loaderPre_of_leads hlow hi
  obtain ⟨j, hj⟩ := List.getElem?_of_mem (List.take_subset i low hfound)
  have hload := List.take_subset j low (loaderPre_of_leads hlow hj).1
  have hsame := load_unique hlow hnull hload _ _ rfl rfl
  simp at hsame

end Leads

/-- The configuration and the layers can be read, and the system answers otherwise as given. -/
def readable (answer : (op : LoaderOp) → op.Reply) : (op : LoaderOp) → op.Reply
  | .other (.load (.text _)) => .ok World.someJson
  | .other (.load (.file _)) => .ok (.array [])
  | op => answer op

/-- The activation of the layer fails, and the export that destroys the layer is missing. -/
def withoutDestroyLayer : (op : LoaderOp) → op.Reply
  | .getProcAddress _ "DestroyLayer" => none
  | .invoke _ (.activateLayer ..) => ⟨5, ()⟩
  | op => found op

/-- A library that is not there lets no call come back. -/
theorem unreached_of_null {events : List MainEvent} {low : List LoaderEvent} {s : Statics}
    (h : Implements lib events low s) {name : WString}
    (hnull : (⟨.loadLibraryW name, none⟩ : LoaderEvent) ∈ low) : ¬ Reached events := by
  intro hreached
  obtain ⟨call, result, hmem⟩ := hreached
  have hlib : s.lib = some none := h.loaded.once name none hnull
  have hfailed : libraryFailed (Except.ok result : ApiReply call) = true :=
    (h.recalled call (.ok result) hmem).library.mpr hlib
  exact absurd hfailed Bool.false_ne_true

theorem uninvoked_of_unreached {events : List MainEvent} {low : List LoaderEvent}
    (h : Explained lib events low) (hunreached : ¬ Reached events) (address : Address)
    (call : ApiCall) (result : ApiResult call) :
    (⟨.invoke address call, result⟩ : LoaderEvent) ∉ low :=
  fun hmem ↦ hunreached ⟨call, result, (invoked_iff h).mp ⟨address, hmem⟩⟩

section Unreached

variable {configJson : Option (List UInt8)} {configJsonLen : Int32} {events : List MainEvent}
  {result : Option String}
  (hleads : (hostcomputeNspawn lib configJson configJsonLen).Leads events (.ret result))
  (hunreached : ¬ Reached events)

include hleads hunreached

/-- A cleanup would come after a call that came back. -/
theorem not_cleanup_of_unreached {call : ApiCall} {reply : ApiReply call}
    (hmem : called call reply ∈ events) : call.isCleanup = false := by
  obtain ⟨i, hi⟩ := List.getElem?_of_mem hmem
  have hpre := Program.pre_of_leads hleads (fun _ _ ↦ trivial)
    (hostcomputeNspawn_guards configJson configJsonLen) hi
  rw [List.nil_append] at hpre
  refine Bool.eq_false_iff.mpr fun h ↦ hunreached ?_
  obtain ⟨call', result', hmem'⟩ := hpre h
  exact ⟨call', result', List.take_subset i events hmem'⟩

/-- The failure of a lookup is the error of the run. -/
theorem result_of_unreached {call : ApiCall} {failure : LookupFailure}
    (hmem : called call (.error failure) ∈ events) :
    result = some (raised lib (lookupException lib call failure)) := by
  have hcleanup := not_cleanup_of_unreached hleads hunreached hmem
  have hfails : Reporting.fails (called call (.error failure)) = true := by
    simp [Reporting.fails, hcleanup]
  have hreports : (hostcomputeNspawn lib configJson configJsonLen).wp (fun _ _ ↦ True)
      Reporting.attemptPre [] (Reporting.Answered lib) :=
    Reporting.hostcomputeNspawn_reports configJson configJsonLen
  have hanswered : Reporting.Answered lib events result :=
    Program.wp_of_leads hleads (fun _ _ ↦ trivial) hreports
  cases result with
  | none => exact absurd ((hanswered _ hmem).symm.trans hfails) Bool.false_ne_true
  | some message =>
    obtain ⟨e, hexplains, hmessage⟩ := hanswered _ hmem hfails
    have hlookup : e = lookupException lib call failure := hexplains
    rw [hmessage, hlookup]

end Unreached

/-- If the library cannot be loaded, no export is called, and `hostcompute_nspawn` returns the error
of the load. -/
theorem missing_library_reported (lib : Externals) (configJson : Option (List UInt8))
    (configJsonLen : Int32) {low : List LoaderEvent} {result : Option String} {s : Statics}
    {name : WString}
    (hlow : (loadedNspawn lib configJson configJsonLen).Leads low (.ret (result, s)))
    (hnull : (⟨.loadLibraryW name, none⟩ : LoaderEvent) ∈ low) :
    (∀ address call reply, (⟨.invoke address call, reply⟩ : LoaderEvent) ∉ low) ∧
    ∃ lastError, (⟨.getLastError, lastError⟩ : LoaderEvent) ∈ low ∧
      result = some (lib.traceMsg .exceptionRaised
        (lib.traceMsg .vmcomputelib ("Cannot load 'vmcompute.dll' library," ++
          " error: [" ++ lib.errcodeToString lastError ++ "]") ++ "\nException raised")) := by
  obtain ⟨events, himplements, hleads⟩ := exists_leads_of_completed hlow
  have hunreached := unreached_of_null himplements hnull
  have hexplained : Explained lib events low :=
    ⟨himplements.shown, himplements.consistent, himplements.reasons⟩
  refine ⟨uninvoked_of_unreached hexplained hunreached, ?_⟩
  have hlib : s.lib = some none := himplements.loaded.once name none hnull
  obtain ⟨call, reply, hmem⟩ := himplements.asked (by simp [hlib])
  have hfailed : libraryFailed reply = true :=
    (himplements.recalled call reply hmem).library.mpr hlib
  cases reply with
  | ok result => exact absurd hfailed Bool.false_ne_true
  | error failure =>
    cases failure with
    | function => exact absurd hfailed Bool.false_ne_true
    | library lastError =>
      exact ⟨lastError, (himplements.reasons call _ hmem).2,
        result_of_unreached hleads hunreached hmem⟩

/-- The library cannot be loaded. -/
def withoutLibrary : (op : LoaderOp) → op.Reply
  | .loadLibraryW _ => none
  | .getLastError => 126
  | op => found op

theorem missing_library_reported_run : ∃ (low : List LoaderEvent) (message : String)
    (s : Statics) (lastError : UInt32),
    (loadedNspawn .ascii (some []) 1).Leads low (.ret (some message, s)) ∧
    (⟨.getLastError, lastError⟩ : LoaderEvent) ∈ low ∧
    ∀ address call reply, (⟨.invoke address call, reply⟩ : LoaderEvent) ∉ low := by
  have hlow : (loadedNspawn .ascii (some []) 1).Leads _ (.ret (some _, _)) :=
    Program.leads_follow _ (List.replicate 6 (readable withoutLibrary))
  obtain ⟨huncalled, lastError, hmem, -⟩ :=
    missing_library_reported _ _ _ hlow (List.mem_of_getElem? (rfl : _[4]? = some _))
  exact ⟨_, _, _, lastError, hlow, hmem, huncalled⟩

end Loading

end HostcomputeNspawn
