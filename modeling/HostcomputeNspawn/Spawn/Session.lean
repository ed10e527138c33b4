import HostcomputeNspawn.Spawn.Loading

/-!
# One process, many containers

A process may call `hostcompute_nspawn` again and again; the statics of the wrappers stay behind
from one call to the next.  So the library is loaded once for all the calls, also when the load
fails: then no later call tries again, and none of them can succeed.
-/

namespace HostcomputeNspawn

open Interaction Vmcompute Loading
open Fallible (Establishes establishes_known)

namespace Session

/-- What a caller passes to `hostcompute_nspawn`. -/
structure Input where
  configJson : Option (List UInt8)
  configJsonLen : Int32

/-- Calls of `hostcompute_nspawn` one after another. -/
def session (lib : Externals) (inputs : List Input) : Prog (List (Option String)) :=
  inputs.mapM fun input ↦ hostcomputeNspawn lib input.configJson input.configJsonLen

/-- The calls on the wrappers, whose statics are those of the process. -/
def loadedSession (lib : Externals) (inputs : List Input) :
    Program LoaderOp LoaderOp.Reply (List (Option String) × Statics) :=
  (session lib inputs).handle (loader lib) .init

variable {lib : Externals} {past : List MainEvent} {allowed : (op : Op) → op.Reply → Prop}

theorem lasting_reached {α : Type} : Lasting fun past (_ : α) ↦ Reached past := by
  intro past past' _ hpast h
  obtain ⟨call, result, hmem⟩ := h
  exact ⟨call, result, hpast.subset hmem⟩

theorem runLayer_reaches (config : NspawnConfig) (basePath parentLayerName : String)
    (info : DriverInfo) (acsendantLayers : List (ContainerLayer lib))
    (descriptors : List WcLayerDescriptor) (layer : ContainerLayer lib) :
    Establishes allowed (fun _ _ ↦ True) past
      (runLayer config basePath parentLayerName info acsendantLayers descriptors layer)
      fun past' _ ↦ Reached past' := by
  have hcreate : Establishes allowed (fun _ _ ↦ True) past
      (hcsCreateLayer info layer parentLayerName descriptors) fun past' _ ↦ Reached past' := by
    refine wp_checked trivial (fun _ _ ↦ nofun) (fun _ _ _ _ ↦ nofun) fun out _ a _ ↦ ?_
    exact ⟨_, _, List.mem_append_right _ (List.mem_singleton.mpr rfl)⟩
  apply hcreate.bind
  exact fun past' _ _ hpast' ↦ establishes_known lasting_reached hpast' _

theorem stable_unguarded :
    Program.Stable (fun (_ : List MainEvent) _ ↦ True) Op.Preparing fun _ ↦ True where
  permits _ _ := trivial
  keeps _ _ _ := trivial

/-- A success has called an export, whatever has happened in earlier calls. -/
theorem hostcomputeNspawn_reaches (input : Input) :
    (hostcomputeNspawn lib input.configJson input.configJsonLen).wp allowed (fun _ _ ↦ True) past
      fun past' result ↦ result = none → Reached past' := by
  apply wp_hostcomputeNspawn stable_unguarded trivial (fun _ _ _ h ↦ nomatch h)
  intro past₁ config _
  have hspawn : Establishes allowed (fun _ _ ↦ True) past₁ (spawnAndWait lib config)
      fun past' _ ↦ Reached past' :=
    wp_spawnAndWait stable_unguarded trivial (fun _ _ _ _ h ↦ nomatch h)
      fun _ _ _ _ _ _ _ _ ↦ runLayer_reaches _ _ _ _ _ _ _
  apply Program.wp_mono _ hspawn
  intro past₂ result h
  cases result with
  | ok a => exact fun _ ↦ h a rfl
  | error e => exact fun hnone ↦ nomatch hnone

theorem session_reaches (inputs : List Input) :
    (session lib inputs).wp (fun _ _ ↦ True) (fun _ _ ↦ True) [] fun past' results ↦
      results.length = inputs.length ∧ ∀ result ∈ results, result = none → Reached past' := by
  have hlasting : Lasting fun past (result : Option String) ↦ result = none → Reached past :=
    fun _ _ result hpast h hnone ↦ lasting_reached (a := result) hpast (h hnone)
  exact Program.wp_mapM hlasting (fun _ input ↦ hostcomputeNspawn_reaches input) inputs

/-- The event loads the library. -/
def loads : LoaderEvent → Bool
  | ⟨.loadLibraryW _, _⟩ => true
  | _ => false

theorem loads_eq_true {event : LoaderEvent} (h : loads event = true) :
    ∃ name, event.1 = .loadLibraryW name := by
  unfold loads at h
  split at h
  · exact ⟨_, rfl⟩
  · exact absurd h Bool.false_ne_true

/-- An implementation loads the library once at the most. -/
theorem length_loads_le_one {α : Type} {p : Prog α} {low : List LoaderEvent}
    {q : Program LoaderOp LoaderOp.Reply (α × Statics)}
    (hlow : (p.handle (loader lib) .init).Leads low q) : (low.filter loads).length ≤ 1 := by
  have honce := (loads_once hlow).filter loads
  cases hfilter : low.filter loads with
  | nil => simp
  | cons first rest =>
    cases rest with
    | nil => simp
    | cons second rest =>
      have hloads : ∀ event ∈ first :: second :: rest, ∃ name, event.1 = .loadLibraryW name := by
        intro event hmem
        rw [← hfilter] at hmem
        exact loads_eq_true (List.of_mem_filter hmem)
      obtain ⟨name, hname⟩ := hloads first (by simp)
      obtain ⟨name', hname'⟩ := hloads second (by simp)
      rw [hfilter] at honce
      exact absurd hname' (List.rel_of_pairwise_cons honce (by simp) name name' hname)

/-- When the library cannot be loaded, this is found out once, and every call of the session returns
an error without having called an export. -/
theorem failed_load_is_permanent (lib : Externals) (inputs : List Input) {low : List LoaderEvent}
    {results : List (Option String)} {s : Statics} {name : WString}
    (hlow : (loadedSession lib inputs).Leads low (.ret (results, s)))
    (hnull : (⟨.loadLibraryW name, none⟩ : LoaderEvent) ∈ low) :
    (low.filter loads).length = 1 ∧
      (∀ address call reply, (⟨.invoke address call, reply⟩ : LoaderEvent) ∉ low) ∧
      results.length = inputs.length ∧ ∀ result ∈ results, result ≠ none := by
  obtain ⟨events, himplements, hleads⟩ := exists_leads_of_completed hlow
  have hunreached := unreached_of_null himplements hnull
  have hexplained : Explained lib events low :=
    ⟨himplements.shown, himplements.consistent, himplements.reasons⟩
  have hresults := Program.wp_of_leads hleads (fun _ _ ↦ trivial) (session_reaches inputs)
  have hloaded : 0 < (low.filter loads).length :=
    List.length_pos_of_mem (List.mem_filter.mpr ⟨hnull, rfl⟩)
  have honce := length_loads_le_one hlow
  refine ⟨by omega, uninvoked_of_unreached hexplained hunreached, hresults.1, ?_⟩
  exact fun result hmem hnone ↦ hunreached (hresults.2 result hmem hnone)

theorem failed_load_is_permanent_run : ∃ (low : List LoaderEvent) (results : List (Option String))
    (s : Statics),
    (loadedSession .ascii [⟨some [], 1⟩, ⟨some [], 1⟩]).Leads low (.ret (results, s)) ∧
    (low.filter loads).length = 1 ∧ results.length = 2 ∧ ∀ result ∈ results, result ≠ none := by
  have hlow : (loadedSession .ascii [⟨some [], 1⟩, ⟨some [], 1⟩]).Leads _ (.ret (_, _)) :=
    Program.leads_follow _ (List.replicate 11 (readable withoutLibrary))
  obtain ⟨hloads, -, hresults⟩ :=
    failed_load_is_permanent _ _ hlow (List.mem_of_getElem? (rfl : _[4]? = some _))
  exact ⟨_, _, _, hlow, hloads, hresults⟩

end Session

end HostcomputeNspawn
