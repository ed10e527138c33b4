import HostcomputeNspawn.Semantics.Handler
import HostcomputeNspawn.World

/-!
# Loading the container service

The wrappers of `vmcompute.cpp` with their local statics.  The library is loaded by the first
wrapper that runs, and the result is kept even if it is null.  Every wrapper keeps the address of
its export once it has been found; an exception leaves the static uninitialized, so that the next
call looks the export up again.

The loader implements the calls of the main thread by the functions of the system.  What an
execution of the implementation shows of the container service is an execution of the program, in
which the failures of the lookup are as regular as the statics make them.
-/

namespace HostcomputeNspawn

open Interaction

namespace Vmcompute

/-- `FARPROC`. -/
abbrev Address := Nat

/-- What a wrapper does: the functions of the system and the call through the found address.  The
operations that do not go through a wrapper stay as they are. -/
inductive LoaderOp
  | loadLibraryW (name : WString)
  | getLastError
  | getProcAddress (module : Handle) (name : String)
  | invoke (address : Address) (call : ApiCall)
  | other (op : Op)

/-- The replies of the system; a null pointer is `none`. -/
@[reducible]
def LoaderOp.Reply : LoaderOp → Type
  | loadLibraryW _ => Option Handle
  | getLastError => UInt32
  | getProcAddress _ _ => Option Address
  | invoke _ call => ApiResult call
  | other op => op.Reply

/-- The local statics: of `vmcomputelib`, and of each wrapper under the name of its export. -/
structure Statics where
  lib : Option (Option Handle)
  funs : String → Option Address

/-- The statics before the first call. -/
def Statics.init : Statics where
  lib := none
  funs := fun _ ↦ none

abbrev LoaderEvent := Event LoaderOp LoaderOp.Reply

/-- Code of a wrapper: the statics survive its exceptions. -/
abbrev Loader := Stateful LoaderOp LoaderOp.Reply Statics LookupFailure

def Loader.perform (op : LoaderOp) : Loader op.Reply := Stateful.perform op

section

variable (lib : Externals)

def vmcomputelib : Loader Handle := do
  let statics ← get
  let module ← match statics.lib with
    | some module => pure module
    | none => do
      let module ← Loader.perform (.loadLibraryW (lib.widen "vmcompute"))
      set { statics with lib := some module }
      pure module
  match module with
  | none => do
    let lastError ← Loader.perform .getLastError
    throw (.library lastError)
  | some module => return module

def lookupfun (name : String) : Loader Address := do
  let module ← vmcomputelib lib
  match ← Loader.perform (.getProcAddress module name) with
  | none => throw .function
  | some res => return res

/-- The wrapper of an export. -/
def wrapper (call : ApiCall) : Loader (ApiResult call) := do
  let statics ← get
  let address ← match statics.funs call.name with
    | some address => pure address
    | none => do
      let address ← lookupfun lib call.name
      modify fun statics ↦
        { statics with funs := Function.update statics.funs call.name (some address) }
      pure address
  Loader.perform (.invoke address call)

/-- The operations of the main thread, implemented by the wrappers. -/
def loader : Handler Op Op.Reply LoaderOp LoaderOp.Reply Statics
  | .api call, s => (wrapper lib call).run.run s
  | op, s => do
    let reply ← Program.perform (.other op)
    return (reply, s)

end

/-! ## The discipline of the loader -/

/-- What an event of the implementation shows of the container service. -/
def LoaderEvent.shown : LoaderEvent → Option MainEvent
  | ⟨.invoke _ call, result⟩ => some ⟨.api call, .ok result⟩
  | ⟨.other (.api _), _⟩ => none
  | ⟨.other op, reply⟩ => some ⟨op, reply⟩
  | _ => none

/-- What has been shown so far. -/
def shown (past : List LoaderEvent) : List MainEvent := past.filterMap LoaderEvent.shown

/-- The library is loaded once, exports are looked up in it until they are found, and calls go
through the address that was found for their export.  What is shown is `visible`. -/
def loaderPre (lib : Externals) (visible : List LoaderEvent → Op → Prop)
    (past : List LoaderEvent) : LoaderOp → Prop
  | .loadLibraryW name => name = lib.widen "vmcompute" ∧
    ∀ event ∈ past, ∀ name', event.1 ≠ .loadLibraryW name'
  | .getLastError => (⟨.loadLibraryW (lib.widen "vmcompute"), none⟩ : LoaderEvent) ∈ past
  | .getProcAddress module name =>
    (⟨.loadLibraryW (lib.widen "vmcompute"), some module⟩ : LoaderEvent) ∈ past ∧
      ∀ module' address, (⟨.getProcAddress module' name, some address⟩ : LoaderEvent) ∉ past
  | .invoke address call => visible past (.api call) ∧ ∃ module,
    (⟨.getProcAddress module call.name, some address⟩ : LoaderEvent) ∈ past
  | .other op => visible past op ∧ ∀ call, op ≠ .api call

/-- The statics are what the past has found out. -/
structure Loaded (lib : Externals) (past : List LoaderEvent) (s : Statics) : Prop where
  once : ∀ name module, (⟨.loadLibraryW name, module⟩ : LoaderEvent) ∈ past → s.lib = some module
  loaded : ∀ module, s.lib = some module →
    (⟨.loadLibraryW (lib.widen "vmcompute"), module⟩ : LoaderEvent) ∈ past
  found : ∀ name address, s.funs name = some address ↔
    ∃ module, (⟨.getProcAddress module name, some address⟩ : LoaderEvent) ∈ past
  library : ∀ module name reply, (⟨.getProcAddress module name, reply⟩ : LoaderEvent) ∈ past →
    s.lib = some (some module)

variable {lib : Externals} {visible : List LoaderEvent → Op → Prop} {past : List LoaderEvent}
  {s : Statics}

theorem loaded_init : Loaded lib [] .init := by
  constructor <;> simp [Statics.init]

theorem shown_snoc (event : LoaderEvent) :
    shown (past ++ [event]) = shown past ++ event.shown.toList := by
  rw [shown, List.filterMap_append]
  cases h : event.shown <;> simp [h, shown]

/-- The functions of the system that change what is known of the library. -/
def LoaderOp.Informs : LoaderOp → Prop
  | .loadLibraryW _ | .getProcAddress _ _ => True
  | _ => False

theorem Loaded.append (hs : Loaded lib past s) {op : LoaderOp} (hop : ¬ op.Informs)
    (reply : op.Reply) : Loaded lib (past ++ [⟨op, reply⟩]) s where
  once name module hmem := by
    rcases List.mem_append.mp hmem with hold | hnew
    · exact hs.once name module hold
    · cases List.mem_singleton.mp hnew
      exact absurd trivial hop
  loaded module hlib := List.mem_append_left _ (hs.loaded module hlib)
  found name address := by
    rw [hs.found]
    refine exists_congr fun module ↦ ⟨List.mem_append_left _, fun hmem ↦ ?_⟩
    rcases List.mem_append.mp hmem with hold | hnew
    · exact hold
    · cases List.mem_singleton.mp hnew
      exact absurd trivial hop
  library module name found hmem := by
    rcases List.mem_append.mp hmem with hold | hnew
    · exact hs.library module name found hold
    · cases List.mem_singleton.mp hnew
      exact absurd trivial hop

theorem Loaded.not_loaded (hs : Loaded lib past s) (hlib : s.lib = none) :
    ∀ event ∈ past, ∀ name, event.1 ≠ .loadLibraryW name := by
  rintro ⟨op, module⟩ hevent name rfl
  exact nomatch hlib.symm.trans (hs.once name module hevent)

/-- The library has just been loaded, or not. -/
theorem Loaded.load (hs : Loaded lib past s) (hlib : s.lib = none) (module : Option Handle) :
    Loaded lib (past ++ [⟨.loadLibraryW (lib.widen "vmcompute"), module⟩])
      { s with lib := some module } where
  once name module' hmem := by
    rcases List.mem_append.mp hmem with hold | hnew
    · exact nomatch hlib.symm.trans (hs.once name module' hold)
    · cases List.mem_singleton.mp hnew
      rfl
  loaded module' h := by
    obtain rfl : module = module' := Option.some.inj h
    simp
  found name address := by simpa using hs.found name address
  library module' name reply hmem := by
    have hold := hs.library module' name reply (by simpa using hmem)
    simp [hlib] at hold

/-- The export is not in the library. -/
theorem Loaded.missing (hs : Loaded lib past s) {module : Handle}
    (hlib : s.lib = some (some module)) (name : String) :
    Loaded lib (past ++ [⟨.getProcAddress module name, none⟩]) s where
  once name' module' hmem := hs.once name' module' (by simpa using hmem)
  loaded module' h := List.mem_append_left _ (hs.loaded module' h)
  found name' address := by simpa using hs.found name' address
  library module' name' reply hmem := by
    rcases List.mem_append.mp hmem with hold | hnew
    · exact hs.library module' name' reply hold
    · cases List.mem_singleton.mp hnew
      exact hlib

/-- The address of the export is kept. -/
theorem Loaded.lookup (hs : Loaded lib past s) {module : Handle}
    (hlib : s.lib = some (some module)) {name : String} (hname : s.funs name = none)
    (address : Address) : Loaded lib (past ++ [⟨.getProcAddress module name, some address⟩])
      { s with funs := Function.update s.funs name (some address) } where
  once name' module' hmem := hs.once name' module' (by simpa using hmem)
  loaded module' h := List.mem_append_left _ (hs.loaded module' h)
  found name' address' := by
    have hfound := hs.found name' address'
    by_cases hname' : name' = name
    · subst hname'
      rw [hname] at hfound
      have hnone : ∀ module',
          (⟨.getProcAddress module' name', some address'⟩ : LoaderEvent) ∉ past :=
        fun module' hmem ↦ nomatch hfound.mpr ⟨module', hmem⟩
      simp [hnone, eq_comm]
    · simpa [Function.update_of_ne hname', hname'] using hfound
  library module' name' reply hmem := by
    rcases List.mem_append.mp hmem with hold | hnew
    · exact hs.library module' name' reply hold
    · cases List.mem_singleton.mp hnew
      exact hlib

/-- Nothing is shown between two pasts. -/
structure Hidden (past past' : List LoaderEvent) : Prop where
  subset : past ⊆ past'
  shown : shown past' = shown past

theorem Hidden.refl (past : List LoaderEvent) : Hidden past past := ⟨List.Subset.refl _, rfl⟩

theorem Hidden.snoc {past' : List LoaderEvent} (h : Hidden past past') {op : LoaderOp}
    (reply : op.Reply) (hop : LoaderEvent.shown ⟨op, reply⟩ = none) :
    Hidden past (past' ++ [⟨op, reply⟩]) where
  subset := List.subset_append_of_subset_left _ h.subset
  shown := by rw [shown_snoc, hop, h.shown, Option.toList_none, List.append_nil]

/-- What the system has said before a wrapper throws. -/
def Reason (lib : Externals) (past : List LoaderEvent) (name : String) : LookupFailure → Prop
  | .library lastError =>
    (⟨.loadLibraryW (lib.widen "vmcompute"), none⟩ : LoaderEvent) ∈ past ∧
      (⟨.getLastError, lastError⟩ : LoaderEvent) ∈ past
  | .function => ∃ module, (⟨.getProcAddress module name, none⟩ : LoaderEvent) ∈ past

theorem Reason.mono {past' : List LoaderEvent} {name : String} {failure : LookupFailure}
    (h : Reason lib past name failure) (hpast : past ⊆ past') : Reason lib past' name failure := by
  cases failure with
  | library lastError => exact ⟨hpast h.1, hpast h.2⟩
  | function => exact h.imp fun module hmem ↦ hpast hmem

/-- What `vmcomputelib` comes to. -/
structure LibraryResult (lib : Externals) (past : List LoaderEvent) (s : Statics)
    (past' : List LoaderEvent) (result : Except LookupFailure Handle × Statics) : Prop where
  loaded : Loaded lib past' result.2
  kept : s.lib ≠ none → result.2.lib = s.lib
  funs : result.2.funs = s.funs
  hidden : Hidden past past'
  result : match result.1 with
    | .ok module => result.2.lib = some (some module)
    | .error failure => (∃ lastError, failure = .library lastError) ∧ result.2.lib = some none ∧
      ∀ name, Reason lib past' name failure

theorem wp_vmcomputelib (hs : Loaded lib past s) :
    ((vmcomputelib lib).run.run s).wp (fun _ _ ↦ True) (loaderPre lib visible) past
      (LibraryResult lib past s) := by
  rw [vmcomputelib, Stateful.run_get_bind]
  cases hlib : s.lib with
  | some module =>
    cases module with
    | some module => exact ⟨hs, fun _ ↦ rfl, rfl, .refl past, hlib⟩
    | none =>
      have hload := hs.loaded none hlib
      refine ⟨hload, fun lastError _ ↦ ?_⟩
      exact ⟨hs.append id lastError, fun _ ↦ rfl, rfl, (Hidden.refl past).snoc lastError rfl,
        ⟨lastError, rfl⟩, hlib, fun _ ↦ ⟨List.mem_append_left _ hload, by simp⟩⟩
  | none =>
    refine ⟨⟨rfl, hs.not_loaded hlib⟩, fun module _ ↦ ?_⟩
    have hload := hs.load hlib module
    have hhidden := (Hidden.refl past).snoc module
      (rfl : LoaderEvent.shown ⟨.loadLibraryW (lib.widen "vmcompute"), module⟩ = none)
    cases module with
    | some module => exact ⟨hload, fun h ↦ absurd hlib h, rfl, hhidden, rfl⟩
    | none =>
      refine ⟨hload.loaded none rfl, fun lastError _ ↦ ?_⟩
      exact ⟨hload.append id lastError, fun h ↦ absurd hlib h, rfl, hhidden.snoc lastError rfl,
        ⟨lastError, rfl⟩, rfl, fun _ ↦ by simp [Reason]⟩

/-- What `lookupfun` comes to, with the address kept in the static of its caller. -/
structure LookupResult (lib : Externals) (past : List LoaderEvent) (s : Statics) (name : String)
    (past' : List LoaderEvent) (result : Except LookupFailure Address × Statics) : Prop where
  kept : s.lib ≠ none → result.2.lib = s.lib
  funs : result.2.funs = s.funs
  hidden : Hidden past past'
  result : match result.1 with
    | .ok address => (∃ module, result.2.lib = some (some module)) ∧ Loaded lib past'
        { result.2 with funs := Function.update result.2.funs name (some address) }
    | .error failure => Loaded lib past' result.2 ∧ Reason lib past' name failure ∧
      match failure with
      | .library _ => result.2.lib = some none
      | .function => ∃ module, result.2.lib = some (some module)

theorem wp_lookupfun (hs : Loaded lib past s) {name : String} (hname : s.funs name = none) :
    ((lookupfun lib name).run.run s).wp (fun _ _ ↦ True) (loaderPre lib visible) past
      (LookupResult lib past s name) := by
  refine Stateful.wp_bind.mpr (Program.wp_mono ?_ (wp_vmcomputelib hs))
  rintro past₁ ⟨result, s₁⟩ hlibrary
  cases result with
  | error failure =>
    obtain ⟨⟨lastError, rfl⟩, hlib, hreason⟩ := hlibrary.result
    exact ⟨hlibrary.kept, hlibrary.funs, hlibrary.hidden, hlibrary.loaded, hreason name, hlib⟩
  | ok module =>
    have hs₁ : Loaded lib past₁ s₁ := hlibrary.loaded
    have hlib : s₁.lib = some (some module) := hlibrary.result
    have hname₁ : s₁.funs name = none := (congrFun hlibrary.funs name).trans hname
    refine ⟨⟨hs₁.loaded _ hlib, fun module' address hmem ↦ ?_⟩, fun address _ ↦ ?_⟩
    · have hfound := (hs₁.found name address).mpr ⟨module', hmem⟩
      simp [hname₁] at hfound
    · have hhidden := hlibrary.hidden.snoc address
        (rfl : LoaderEvent.shown ⟨.getProcAddress module name, address⟩ = none)
      cases address with
      | none =>
        exact ⟨hlibrary.kept, hlibrary.funs, hhidden, hs₁.missing hlib name,
          ⟨module, by simp⟩, ⟨module, hlib⟩⟩
      | some address =>
        exact ⟨hlibrary.kept, hlibrary.funs, hhidden, ⟨module, hlib⟩,
          hs₁.lookup hlib hname₁ address⟩

/-! ## The failures of the lookup -/

/-- The events of the main thread without the calls that a wrapper refused. -/
def performed : MainEvent → Option MainEvent
  | ⟨.api call, .ok result⟩ => some ⟨.api call, .ok result⟩
  | ⟨.api _, .error _⟩ => none
  | event => some event

/-- The library could not be loaded. -/
def libraryFailed {call : ApiCall} : ApiReply call → Bool
  | .error (.library _) => true
  | _ => false

/-- The export was called. -/
def reached {call : ApiCall} : ApiReply call → Bool
  | .ok _ => true
  | .error _ => false

/-- What the statics remember of the reply to a call. -/
structure Recalled (s : Statics) (call : ApiCall) (reply : ApiReply call) : Prop where
  library : libraryFailed reply = true ↔ s.lib = some none
  loaded : s.lib ≠ none
  found : reached reply = true → s.funs call.name ≠ none

/-- The statics only grow. -/
structure Kept (s s' : Statics) : Prop where
  lib : s.lib ≠ none → s'.lib = s.lib
  funs : ∀ name, s.funs name ≠ none → s'.funs name ≠ none

/-- What the wrapper of an export comes to. -/
structure WrapperResult (lib : Externals) (past : List LoaderEvent) (s : Statics) (call : ApiCall)
    (past' : List LoaderEvent) (result : ApiReply call × Statics) : Prop where
  loaded : Loaded lib past' result.2
  recalled : Recalled result.2 call result.1
  kept : Kept s result.2
  again : s.funs call.name ≠ none → reached result.1 = true
  subset : past ⊆ past'
  reason : ∀ failure, result.1 = .error failure → Reason lib past' call.name failure
  shown : shown past' = shown past ++ (performed ⟨.api call, result.1⟩).toList

/-- The export is called through the address that the static keeps. -/
theorem wp_invoke {past' : List LoaderEvent} {s' : Statics} {call : ApiCall} {address : Address}
    (hs : Loaded lib past' s') (hfun : s'.funs call.name = some address) (hkept : Kept s s')
    (hhidden : Hidden past past') (hvisible : visible past' (.api call)) :
    ((Loader.perform (.invoke address call)).run.run s').wp (fun _ _ ↦ True)
      (loaderPre lib visible) past' (WrapperResult lib past s call) := by
  obtain ⟨module, hmem⟩ := (hs.found call.name address).mp hfun
  have hlib := hs.library module _ _ hmem
  refine ⟨⟨hvisible, module, hmem⟩, fun result _ ↦ ?_⟩
  exact {
    loaded := hs.append id result
    recalled := ⟨by simp [libraryFailed, hlib], by simp [hlib], fun _ ↦ by simp [hfun]⟩
    kept := hkept
    again := fun _ ↦ rfl
    subset := List.subset_append_of_subset_left _ hhidden.subset
    reason := nofun
    shown := by rw [shown_snoc, hhidden.shown]; rfl }

theorem wp_wrapper (hs : Loaded lib past s) {call : ApiCall}
    (hvisible : ∀ past', Hidden past past' → visible past' (.api call)) :
    ((wrapper lib call).run.run s).wp (fun _ _ ↦ True) (loaderPre lib visible) past
      (WrapperResult lib past s call) := by
  rw [wrapper, Stateful.run_get_bind]
  cases hfun : s.funs call.name with
  | some address =>
    exact wp_invoke hs hfun ⟨fun _ ↦ rfl, fun _ h ↦ h⟩ (.refl past) (hvisible past (.refl past))
  | none =>
    refine (Stateful.wp_bind (m := lookupfun lib call.name)).mpr
      (Program.wp_mono ?_ (wp_lookupfun hs hfun))
    rintro past₁ ⟨result, s₁⟩ hlookup
    have hfuns : s₁.funs = s.funs := hlookup.funs
    cases result with
    | error failure =>
      obtain ⟨hs₁, hreason, hlib⟩ := hlookup.result
      refine ⟨hs₁, ?_, ⟨hlookup.kept, fun name h ↦ hfuns ▸ h⟩, fun h ↦ absurd hfun h,
        hlookup.hidden.subset, fun _ h ↦ Except.error.inj h ▸ hreason, ?_⟩
      · cases failure with
        | library lastError =>
          have hlib : s₁.lib = some none := hlib
          exact ⟨iff_of_true rfl hlib, by simp [hlib], nofun⟩
        | function =>
          obtain ⟨module, hlib⟩ : ∃ module, s₁.lib = some (some module) := hlib
          exact ⟨by simp [libraryFailed, hlib], by simp [hlib], nofun⟩
      · simpa [performed] using hlookup.hidden.shown
    | ok address =>
      obtain ⟨⟨module, hlib⟩, hs₁⟩ := hlookup.result
      refine wp_invoke hs₁ (by simp) ⟨hlookup.kept, fun name hname ↦ ?_⟩ hlookup.hidden
        (hvisible past₁ hlookup.hidden)
      rw [← hfuns] at hname
      by_cases heq : name = call.name
      · simp [heq]
      · simpa [Function.update_of_ne heq] using hname

/-! ## The implementation of a program -/

/-- The replies to two calls fit together: the library is there for both or for neither, and an
export that was found is found again. -/
def Consistent : MainEvent → MainEvent → Prop
  | ⟨.api call, reply⟩, ⟨.api call', reply'⟩ => libraryFailed reply = libraryFailed reply' ∧
    (call.name = call'.name → reached reply = true → reached reply' = true)
  | _, _ => True

/-- The implementation has done what the main thread did. -/
structure Implements (lib : Externals) (past : List MainEvent) (past' : List LoaderEvent)
    (s : Statics) : Prop where
  loaded : Loaded lib past' s
  shown : shown past' = past.filterMap performed
  recalled : ∀ call reply, called call reply ∈ past → Recalled s call reply
  consistent : past.Pairwise Consistent
  reasons : ∀ call failure, called call (.error failure) ∈ past →
    Reason lib past' call.name failure
  asked : s.lib ≠ none → ∃ call reply, called call reply ∈ past

theorem implements_init : Implements lib [] [] .init where
  loaded := loaded_init
  shown := rfl
  recalled := nofun
  consistent := .nil
  reasons := nofun
  asked h := absurd rfl h

theorem Recalled.kept {s' : Statics} {call : ApiCall} {reply : ApiReply call}
    (h : Recalled s call reply) (hkept : Kept s s') : Recalled s' call reply where
  library := by rw [h.library, hkept.lib h.loaded]
  loaded := hkept.lib h.loaded ▸ h.loaded
  found hreached := hkept.funs _ (h.found hreached)

variable {events : List MainEvent}

/-- A call through its wrapper. -/
theorem Implements.call (h : Implements lib events past s) {call : ApiCall}
    {past' : List LoaderEvent} {reply : ApiReply call} {s' : Statics}
    (hwrapper : WrapperResult lib past s call past' (reply, s')) :
    Implements lib (events ++ [called call reply]) past' s' where
  loaded := hwrapper.loaded
  shown := by
    rw [hwrapper.shown, h.shown, List.filterMap_append]
    cases reply <;> rfl
  recalled call' reply' hmem := by
    rcases List.mem_append.mp hmem with hold | hnew
    · exact (h.recalled call' reply' hold).kept hwrapper.kept
    · cases List.mem_singleton.mp hnew
      exact hwrapper.recalled
  consistent := by
    refine List.pairwise_append.mpr ⟨h.consistent, List.pairwise_singleton _ _, ?_⟩
    rintro ⟨op, reply'⟩ hold event hnew
    cases List.mem_singleton.mp hnew
    cases op with
    | api call' =>
      have hbefore := h.recalled call' reply' hold
      have hafter := hbefore.kept hwrapper.kept
      refine ⟨?_, fun hname hreached ↦ hwrapper.again (hname ▸ hbefore.found hreached)⟩
      rw [Bool.eq_iff_iff, hafter.library, hwrapper.recalled.library]
    | _ => trivial
  reasons call' failure hmem := by
    rcases List.mem_append.mp hmem with hold | hnew
    · exact (h.reasons call' failure hold).mono hwrapper.subset
    · cases List.mem_singleton.mp hnew
      exact hwrapper.reason failure rfl
  asked _ := ⟨call, reply, by simp⟩

/-- An operation that does not go through a wrapper. -/
theorem Implements.other (h : Implements lib events past s) {op : Op}
    (hop : ∀ call, op ≠ .api call) (reply : op.Reply) :
    Implements lib (events ++ [⟨op, reply⟩]) (past ++ [⟨.other op, reply⟩]) s where
  loaded := by
    have hsilent : ¬ (LoaderOp.other op).Informs := id
    exact h.loaded.append hsilent reply
  shown := by
    rw [shown_snoc, h.shown, List.filterMap_append]
    cases op with
    | api call => exact absurd rfl (hop call)
    | _ => rfl
  recalled call reply' hmem := by
    rcases List.mem_append.mp hmem with hold | hnew
    · exact h.recalled call reply' hold
    · cases List.mem_singleton.mp hnew
      exact absurd rfl (hop call)
  consistent := by
    refine List.pairwise_append.mpr ⟨h.consistent, List.pairwise_singleton _ _, ?_⟩
    rintro ⟨op', reply'⟩ _ event hnew
    cases List.mem_singleton.mp hnew
    cases op with
    | api call => exact absurd rfl (hop call)
    | _ => cases op' <;> trivial
  reasons call failure hmem := by
    rcases List.mem_append.mp hmem with hold | hnew
    · exact (h.reasons call failure hold).mono (List.subset_append_left _ _)
    · cases List.mem_singleton.mp hnew
      exact absurd rfl (hop call)
  asked hlib := by
    obtain ⟨call, reply', hmem⟩ := h.asked hlib
    exact ⟨call, reply', List.mem_append_left _ hmem⟩

theorem wp_loader (h : Implements lib events past s) {op : Op}
    (hvisible : ∀ past', Hidden past past' → visible past' op) :
    (loader lib op s).wp (fun _ _ ↦ True) (loaderPre lib visible) past fun past' result ↦
      True ∧ Implements lib (events ++ [⟨op, result.1⟩]) past' result.2 := by
  have hother (hop : ∀ call, op ≠ .api call) :
      (do let reply ← Program.perform (.other op); return (reply, s)
        : Program LoaderOp LoaderOp.Reply (op.Reply × Statics)).wp (fun _ _ ↦ True)
        (loaderPre lib visible) past fun past' result ↦
          True ∧ Implements lib (events ++ [⟨op, result.1⟩]) past' result.2 :=
    ⟨⟨hvisible past (.refl past), hop⟩, fun reply _ ↦ ⟨trivial, h.other hop reply⟩⟩
  cases op with
  | api call =>
    refine Program.wp_mono (fun past' result hresult ↦ ⟨trivial, ?_⟩) (wp_wrapper h.loaded hvisible)
    exact h.call hresult
  | _ => exact hother (fun _ ↦ nofun)

variable {α : Type}

/-- The implementation has shown what a past of the program shows, in which the failures of the
lookup fit together and have their reasons. -/
structure Explained (lib : Externals) (events : List MainEvent) (past : List LoaderEvent) :
    Prop where
  shown : shown past = events.filterMap performed
  consistent : events.Pairwise Consistent
  reasons : ∀ call failure, called call (.error failure) ∈ events →
    Reason lib past call.name failure

theorem Explained.hidden {past' : List LoaderEvent} (h : Explained lib events past)
    (hhidden : Hidden past past') : Explained lib events past' where
  shown := hhidden.shown.trans h.shown
  consistent := h.consistent
  reasons call failure hmem := (h.reasons call failure hmem).mono hhidden.subset

/-- What a program makes visible. -/
def visibleOf (lib : Externals) (pre : List MainEvent → Op → Prop) (past : List LoaderEvent)
    (op : Op) : Prop :=
  ∃ events, Explained lib events past ∧ pre events op

/-- Whatever is known of a program is known of its implementation by the functions of the
system. -/
theorem wp_handle_loader {p : Prog α} {pre : List MainEvent → Op → Prop}
    {post : List MainEvent → α → Prop} (hp : p.wp (fun _ _ ↦ True) pre [] post) :
    (p.handle (loader lib) .init).wp (fun _ _ ↦ True) (loaderPre lib (visibleOf lib pre)) []
      fun past result ↦ ∃ events, Implements lib events past result.2 ∧ post events result.1 := by
  refine Program.wp_handle (R := Implements lib) ?_ hp implements_init
  intro events past s op h hpre
  have hexplained : Explained lib events past := ⟨h.shown, h.consistent, h.reasons⟩
  exact wp_loader h fun past' hhidden ↦ ⟨events, hexplained.hidden hhidden, hpre⟩

/-- The program can perform the operation after the events. -/
def LeadsTo (p : Prog α) (events : List MainEvent) (op : Op) : Prop :=
  ∃ next, p.Leads events (.call op next)

theorem wp_leadsTo (p : Prog α) :
    p.wp (fun _ _ ↦ True) (LeadsTo p) [] fun past a ↦ p.Leads past (.ret a) :=
  Program.wp_leads Program.Leads.refl

variable {p : Prog α} {low : List LoaderEvent} {q : Program LoaderOp LoaderOp.Reply (α × Statics)}

/-- The operations of an implementation keep to the discipline of the loader. -/
theorem loaderPre_of_leads (hlow : (p.handle (loader lib) .init).Leads low q) {i : ℕ}
    {event : LoaderEvent} (hi : low[i]? = some event) :
    loaderPre lib (visibleOf lib (LeadsTo p)) (low.take i) event.1 := by
  have hpre := Program.pre_of_leads hlow (fun _ _ ↦ trivial) (wp_handle_loader (wp_leadsTo p)) hi
  rwa [List.nil_append] at hpre

/-- A completed implementation is a completed execution of the program. -/
theorem exists_leads_of_completed {a : α}
    (hlow : (p.handle (loader lib) .init).Leads low (.ret (a, s))) :
    ∃ events, Implements lib events low s ∧ p.Leads events (.ret a) :=
  Program.wp_of_leads hlow (fun _ _ ↦ trivial) (wp_handle_loader (wp_leadsTo p))

/-- The wrappers implement the calls of a program: whatever the functions of the system reply, an
implementation loads the library once, looks an export up in it until it is found and calls it
through that address; what it shows of the container service is what the program may do next; and
when it has returned, the program has returned the same, with failures of the lookup that fit
together and have their reasons. -/
theorem loader_refines (lib : Externals) {p : Prog α} {low : List LoaderEvent}
    {q : Program LoaderOp LoaderOp.Reply (α × Statics)}
    (hlow : (p.handle (loader lib) .init).Leads low q) :
    (∀ (i : ℕ) event, low[i]? = some event →
      loaderPre lib (visibleOf lib (LeadsTo p)) (low.take i) event.1) ∧
    ∀ a s, q = .ret (a, s) → ∃ events, Explained lib events low ∧ p.Leads events (.ret a) := by
  refine ⟨fun i event hi ↦ loaderPre_of_leads hlow hi, ?_⟩
  rintro a s rfl
  obtain ⟨events, h, hleads⟩ := exists_leads_of_completed hlow
  exact ⟨events, ⟨h.shown, h.consistent, h.reasons⟩, hleads⟩

/-- A system in which the library and its exports are found. -/
def found : (op : LoaderOp) → op.Reply
  | .loadLibraryW _ => some (1 : ℕ)
  | .getLastError => 0
  | .getProcAddress _ _ => some (2 : ℕ)
  | .invoke _ call => ⟨World.successCode call, World.someOut call⟩
  | .other op => World.answers World.successCode op

/-- The same layer unprepared twice. -/
def cleanupTwice : Prog Unit := do
  cleanup .ascii (.unprepareLayer ⟨.filterDriver, []⟩ []) fun _ ↦ "ERROR"
  cleanup .ascii (.unprepareLayer ⟨.filterDriver, []⟩ []) fun _ ↦ "ERROR"

/-- The second time, the export is called through the address that the static has kept. -/
theorem loader_refines_twice : ∃ (low : List LoaderEvent) (s : Statics),
    (cleanupTwice.handle (loader .ascii) .init).Leads low (.ret ((), s)) ∧ low.length = 4 ∧
    ∀ (i : ℕ) event, low[i]? = some event →
      loaderPre .ascii (visibleOf .ascii (LeadsTo cleanupTwice)) (low.take i) event.1 := by
  have hlow : (cleanupTwice.handle (loader .ascii) .init).Leads _ (.ret (_, _)) :=
    Program.leads_follow _ (List.replicate 5 found)
  exact ⟨_, _, hlow, rfl, (loader_refines _ hlow).1⟩

end Vmcompute

end HostcomputeNspawn
