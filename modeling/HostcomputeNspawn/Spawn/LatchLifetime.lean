import HostcomputeNspawn.World

/-!
# The lifetime of the latch

The address of the latch is given to the container service when a callback is registered, and no
callback is ever unregistered.  The latch is destroyed when the scope of `spawn_and_wait` unwinds.
A callback uses it afterwards unless it was quiet: no callback was on its way through the latch,
and no callback could still start.  The service is assumed to start callbacks only after a
registration has succeeded, and none after the one that reports the exit of the system.
-/

namespace HostcomputeNspawn

open Interaction Transition World

namespace LatchLifetime

/-! ## What the service promises -/

/-- The step is a successful registration of a callback. -/
def registers : Label → Bool
  | .call (.api (.hcsRegisterComputeSystemCallback _)) (.ok result) => result.code == 0
  | .call (.api (.hcsRegisterProcessCallback _)) (.ok result) => result.code == 0
  | _ => false

/-- The step is the start of a callback. -/
def enters : Label → Bool
  | .latch (.enter _) => true
  | _ => false

/-- The step is the start of a callback that reports the exit of the system. -/
def exits : Label → Bool
  | .latch (.enter n) => NotificationType.ofUInt32 n.notificationType == .systemExit
  | _ => false

/-- The service may start a callback. -/
def MayEnter (labels : List Label) : Prop :=
  (∃ label ∈ labels, registers label = true) ∧ ∀ label ∈ labels, exits label = false

instance (labels : List Label) : Decidable (MayEnter labels) :=
  inferInstanceAs (Decidable (_ ∧ _))

/-- The service has started callbacks only when it may. -/
def Kept (labels : List Label) : Prop :=
  ∀ i, (hi : i < labels.length) → enters labels[i] = true → MayEnter (labels.take i)

instance (labels : List Label) : Decidable (Kept labels) :=
  inferInstanceAs (Decidable (∀ i, (hi : i < labels.length) → _ → _))

theorem kept_snoc {labels : List Label} {label : Label} :
    Kept (labels ++ [label]) ↔ Kept labels ∧ (enters label = true → MayEnter labels) := by
  constructor
  · refine fun h ↦ ⟨fun i hi henters ↦ ?_, fun henters ↦ ?_⟩
    · have hkept := h i (by simp; omega) (by rwa [List.getElem_append_left hi])
      rwa [List.take_append_of_le_length hi.le] at hkept
    · have hkept := h labels.length (by simp) (by simpa using henters)
      rwa [List.take_left] at hkept
  · rintro ⟨hkept, hlast⟩ i hi henters
    rcases Nat.lt_succ_iff_lt_or_eq.mp (by simpa using hi) with hlt | rfl
    · rw [List.getElem_append_left hlt] at henters
      rw [List.take_append_of_le_length hlt.le]
      exact hkept i hlt henters
    · rw [List.take_left]
      exact hlast (by simpa using henters)

/-! ## Use of the latch by callbacks -/

/-- The step of a callback that uses the flags, the mutex or a condition variable of the latch. -/
def touches : Label → Bool
  | .latch (.swap _ n) => (CallbackLatch.unlocks n.notificationType).isSome
  | .latch (.acquire ..) | .latch (.notify ..) | .latch (.release ..) => true
  | _ => false

/-- A callback that is on its way through the latch.  One that waits for a mutex which the main
thread has left locked takes no further step. -/
def InFlight (s : CallbackLatch.State) : CallbackLatch.CallbackPc → Prop
  | .entered n => (CallbackLatch.unlocks n.notificationType).isSome = true
  | .swapped _ => s.mutex ≠ some .main
  | .locked _ | .notified _ => True
  | .ended => False

/-- No callback is on its way through the latch. -/
def Idle (s : CallbackLatch.State) : Prop := ∀ pc ∈ s.callbacks, ¬ InFlight s pc

theorem idle_of_ended {s : CallbackLatch.State} (hs : ∀ pc ∈ s.callbacks, pc = .ended) :
    Idle s := by
  intro pc hpc
  rw [hs pc hpc]
  exact fun h ↦ h

/-- The latch is idle and stays idle: a registered callback has reported the exit of the system. -/
structure Quiet (labels : List Label) (s : CallbackLatch.State) : Prop where
  idle : Idle s
  exited : (∃ label ∈ labels, registers label = true) → ∃ label ∈ labels, exits label = true

/-! ## After the destruction -/

/-- Only the layer is left to be taken down. -/
structure Retired {α : Type} (w : World α) : Prop where
  main : w.main.Only Op.Releasing
  idle : Idle w.latch

theorem not_registers_of_releasing {op : Op} (reply : op.Reply) (hop : op.Releasing) :
    registers (.call op reply) = false := by
  unfold Op.Releasing at hop
  split at hop
  any_goals rfl
  exact hop.elim

/-- A callback that ends leaves the others as they are. -/
theorem Idle.ended {s t : CallbackLatch.State} (hs : Idle s) (id : ℕ) (hmutex : t.mutex = s.mutex)
    (hcallbacks : t.callbacks = s.callbacks.set id .ended) : Idle t := by
  intro pc hpc
  rw [hcallbacks] at hpc
  have hsame : InFlight t pc ↔ InFlight s pc := by cases pc <;> simp [InFlight, hmutex]
  rcases List.mem_or_eq_of_mem_set hpc with hold | rfl
  · exact hsame.not.mpr (hs pc hold)
  · exact fun h ↦ h

/-- A callback of an idle latch can only find that its type is not supported. -/
theorem Idle.step {s t : CallbackLatch.State} (hs : Idle s) {label : CallbackLatch.Label}
    (hstep : CallbackLatch.step s label = some t) (hmethod : label.method = none)
    (henters : enters (.latch label) = false) :
    Idle t ∧ touches (.latch label) = false := by
  cases label with
  | enter n => simp [enters] at henters
  | swap id n =>
    simp only [CallbackLatch.step, Option.ite_none_right_eq_some, Option.some.injEq] at hstep
    obtain ⟨hid, rfl⟩ := hstep
    have hunlocks : CallbackLatch.unlocks n.notificationType = none := by
      simpa [InFlight] using hs _ (List.mem_of_getElem? hid)
    refine ⟨hs.ended id ?_ ?_, by simp [touches, hunlocks]⟩ <;>
      simp [CallbackLatch.State.swap, hunlocks]
  | acquire id x =>
    simp only [CallbackLatch.step, Option.ite_none_right_eq_some] at hstep
    have hwaits := hs _ (List.mem_of_getElem? hstep.1.1)
    simp [InFlight, hstep.1.2] at hwaits
  | notify id x =>
    simp only [CallbackLatch.step, Option.ite_none_right_eq_some] at hstep
    exact absurd trivial (hs _ (List.mem_of_getElem? hstep.1))
  | release id x =>
    simp only [CallbackLatch.step, Option.ite_none_right_eq_some] at hstep
    exact absurd trivial (hs _ (List.mem_of_getElem? hstep.1))
  | _ => simp [CallbackLatch.Label.method] at hmethod

/-- A retired world stays retired unless a callback starts. -/
theorem Retired.step {α : Type} {w w' : World α} {label : Label} (hw : Retired w)
    (hstep : (system α).step w label w') (henters : enters label = false) :
    Retired w' ∧ touches label = false ∧ registers label = false := by
  cases step_cases hstep with
  | @call op k latch reply hop =>
    refine ⟨⟨hw.main.2 reply, ?_⟩, rfl, not_registers_of_releasing reply hw.main.1⟩
    cases op with
    | constructLatch => exact hw.main.1.elim
    | _ => exact hw.idle
  | callback hlatch hmethod =>
    obtain ⟨hidle, htouches⟩ := hw.idle.step hlatch hmethod henters
    exact ⟨⟨hw.main, hidle⟩, htouches, rfl⟩
  | method => exact hw.main.1.elim
  | finish => exact hw.main.1.elim

/-- Nothing happens to a latch that was quiet when it was destroyed. -/
theorem untouched_of_quiet {α : Type} {w w' : World α} {before after : List Label}
    (hrun : (system α).Run w after w') (hw : Retired w)
    (hexited : (∃ label ∈ before, registers label = true) → ∃ label ∈ before, exits label = true)
    (hkept : Kept (before ++ after)) :
    Retired w' ∧ ∀ label ∈ after, touches label = false ∧ registers label = false := by
  induction hrun with
  | refl => exact ⟨hw, by simp⟩
  | @snoc u v labels label hrun hstep ih =>
    rw [← List.append_assoc] at hkept
    obtain ⟨hfront, hlast⟩ := kept_snoc.mp hkept
    obtain ⟨hu, hlabels⟩ := ih hfront
    have henters : enters label = false := by
      by_contra henters
      obtain ⟨⟨registration, hmem, hregisters⟩, hnone⟩ := hlast (by simpa using henters)
      rcases List.mem_append.mp hmem with hbefore | hafter
      · obtain ⟨exit, hexit, hexits⟩ := hexited ⟨registration, hbefore, hregisters⟩
        simp [hnone exit (List.mem_append_left _ hexit)] at hexits
      · simp [(hlabels registration hafter).2] at hregisters
    obtain ⟨hv, htouches, hregisters⟩ := hu.step hstep henters
    refine ⟨hv, fun other hother ↦ ?_⟩
    rcases List.mem_append.mp hother with hold | hnew
    · exact hlabels other hold
    · cases List.mem_singleton.mp hnew
      exact ⟨htouches, hregisters⟩

/-! ## What the main thread does after the destruction -/

variable {lib : Externals} {past : List MainEvent}

/-- The latch has been destroyed. -/
def Destroyed (past : List MainEvent) : Prop := ⟨.destroyLatch, ()⟩ ∈ past

/-- Only the layer is taken down after the destruction. -/
def retirePre (past : List MainEvent) (op : Op) : Prop := Destroyed past → op.Releasing

/-- The operations that leave the latch in its scope. -/
def Lasting : Op → Prop
  | .destroyLatch => False
  | _ => True

theorem lasting_of_preparing (op : Op) (hop : op.Preparing) : Lasting op := by
  cases op <;> trivial

theorem lasting_of_acquiring (op : Op) (hop : op.Acquiring) : Lasting op := by
  cases op <;> trivial

theorem lasting_of_inContainer (op : Op) (hop : op.InContainer) : Lasting op := by
  cases op <;> trivial

theorem stable_lasting : Program.Stable retirePre Lasting fun past ↦ ¬ Destroyed past where
  permits hpast _ := fun h ↦ absurd h hpast
  keeps reply hpast hop := fun h ↦ by
    rcases List.mem_append.mp h with hold | hnew
    · exact hpast hold
    · cases List.mem_singleton.mp hnew
      exact hop

/-- The programs after whose destruction of the latch only the layer is taken down. -/
def Retires (m : Nspawn Unit) (past : List MainEvent) : Prop :=
  m.run.wp (fun _ _ ↦ True) retirePre past fun _ _ ↦ True

theorem runContainer_retires (config : NspawnConfig) (layer : ContainerLayer lib)
    (computeSystem : Handle) (hpast : ¬ Destroyed past) :
    Retires (runContainer config layer computeSystem) past := by
  refine wp_perform_bind (fun h ↦ absurd h hpast) fun constructed _ ↦ ?_
  refine Fallible.wp_run_defer_of (fun past' _ ↦ ¬ Destroyed past') ?_ fun past' _ hpast' ↦
    ⟨fun h ↦ absurd h hpast', fun _ _ ↦ trivial⟩
  exact ((only_inContainer config layer computeSystem).mono lasting_of_inContainer).wp
    stable_lasting (stable_lasting.keeps _ hpast trivial)

theorem runLayer_retires (config : NspawnConfig) (basePath parentLayerName : String)
    (driverInfo : DriverInfo) (acsendantLayers : List (ContainerLayer lib))
    (acsendantDescriptors : List WcLayerDescriptor) (layer : ContainerLayer lib)
    (hpast : ¬ Destroyed past) : Retires (runLayer config basePath parentLayerName driverInfo
      acsendantLayers acsendantDescriptors layer) past := by
  apply wp_runLayer (stable_lasting.mono lasting_of_acquiring)
    (fun _ ↦ ⟨fun _ hop _ ↦ hop, fun _ _ _ ↦ trivial⟩) hpast (fun _ _ _ ↦ trivial)
  intro past₁ hpast₁
  exact wp_runPrepared (stable_lasting.mono lasting_of_preparing) hpast₁ (fun _ _ _ ↦ trivial)
    (fun _ _ _ h hdestroyed ↦ absurd hdestroyed h) (fun _ _ _ _ _ _ _ ↦ trivial)
    (fun _ _ _ _ _ _ _ _ ↦ trivial) fun _ _ _ computeSystem h ↦
      runContainer_retires config layer computeSystem (stable_lasting.keeps _ h trivial)

theorem spawnAndWait_retires (lib : Externals) (config : NspawnConfig) :
    Retires (spawnAndWait lib config) [] :=
  wp_spawnAndWait (stable_lasting.mono lasting_of_preparing) (by simp [Destroyed])
    (fun _ _ _ ↦ trivial) fun _ _ _ _ _ _ _ h ↦ runLayer_retires _ _ _ _ _ _ _ h

/-- After the destruction of the latch only the layer is left to be taken down. -/
theorem only_releasing {m : Nspawn Unit} (hm : Retires m []) {labels : List Label}
    {k : Unit → Prog (Except StdException Unit)} {latch : CallbackLatch.State}
    (hrun : (system _).Run (start m.run) labels ⟨.call .destroyLatch k, latch⟩) :
    (k ()).Only Op.Releasing := by
  have hnow := Program.wp_of_leads (leads_of_run hrun) (fun _ _ ↦ trivial) hm
  apply Program.Only.of_wp (hnow.2 () trivial) (fun _ _ ↦ trivial)
  intro more op hop
  apply hop
  simp [Destroyed]

/-! ## A latch that is not quiet -/

/-- A callback takes a step whenever the latch lets it. -/
theorem step_callback {α : Type} (main : Prog α) {s t : CallbackLatch.State}
    {label : CallbackLatch.Label} (hstep : CallbackLatch.step s label = some t)
    (hmethod : label.method = none) :
    (system α).step ⟨main, s⟩ (.latch label) ⟨main, t⟩ :=
  step_latch hstep (by simp [resume, hmethod])

/-- If a callback is on its way, some callback can use the latch next. -/
theorem touch_of_inFlight {s : CallbackLatch.State} (howned : CallbackLatch.Owned s)
    {pc : CallbackLatch.CallbackPc} (hpc : pc ∈ s.callbacks) (hflight : InFlight s pc) :
    ∃ label t, CallbackLatch.step s label = some t ∧ label.method = none ∧
      enters (.latch label) = false ∧ touches (.latch label) = true := by
  have hinside {id : ℕ} {x : CallbackLatch.Slot} (hid : s.callbacks[id]? = some (.locked x) ∨
      s.callbacks[id]? = some (.notified x)) :
      ∃ label t, CallbackLatch.step s label = some t ∧ label.method = none ∧
        enters (.latch label) = false ∧ touches (.latch label) = true := by
    rcases hid with hid | hid
    · exact ⟨.notify id x, _, if_pos hid, rfl, rfl, rfl⟩
    · exact ⟨.release id x, _, if_pos hid, rfl, rfl, rfl⟩
  obtain ⟨id, hid⟩ := List.mem_iff_getElem?.mp hpc
  cases pc with
  | entered n => exact ⟨.swap id n, _, if_pos hid, rfl, rfl, hflight⟩
  | swapped x =>
    -- whoever holds the mutex goes on, or the waiting callback takes it
    cases hmutex : s.mutex with
    | none => exact ⟨.acquire id x, _, if_pos ⟨hid, hmutex⟩, rfl, rfl, rfl⟩
    | some owner =>
      cases owner with
      | main => exact absurd hmutex hflight
      | callback other =>
        obtain ⟨y, hother⟩ := (howned other).mp hmutex
        exact hinside hother
  | locked x => exact hinside (Or.inl hid)
  | notified x => exact hinside (Or.inr hid)
  | ended => exact hflight.elim

/-- While nothing has reported the exit of the system, another callback may start. -/
theorem mayEnter_of_not_quiet {s : CallbackLatch.State} {labels : List Label} (hidle : Idle s)
    (hquiet : ¬ Quiet labels s) : MayEnter (labels ++ [.call .destroyLatch ()]) := by
  by_contra hnot
  refine hquiet ⟨hidle, fun ⟨registration, hmem, hregisters⟩ ↦ ?_⟩
  by_contra hnone
  refine hnot ⟨⟨registration, List.mem_append_left _ hmem, hregisters⟩, fun label hlabel ↦ ?_⟩
  rcases List.mem_append.mp hlabel with hold | hnew
  · by_contra hexits
    exact hnone ⟨label, hold, by simpa using hexits⟩
  · cases List.mem_singleton.mp hnew
    rfl

/-- A callback that may start comes to swap its flag. -/
theorem touched_of_mayEnter {α : Type} (main : Prog α) (s : CallbackLatch.State)
    {labels : List Label} (hkept : Kept labels) (hmay : MayEnter labels) :
    ∃ after w', (system α).Run ⟨main, s⟩ after w' ∧ Kept (labels ++ after) ∧
      ∃ label ∈ after, touches label = true := by
  let n : Notification := ⟨0x00000002, 0⟩
  let entered : CallbackLatch.State := { s with callbacks := s.callbacks ++ [.entered n] }
  have henter : (system α).step ⟨main, s⟩ (.latch (.enter n)) ⟨main, entered⟩ :=
    step_callback main rfl rfl
  have hid : entered.callbacks[s.callbacks.length]? = some (.entered n) := by simp [entered]
  have hswap : (system α).step ⟨main, entered⟩ (.latch (.swap s.callbacks.length n))
      ⟨main, entered.swap s.callbacks.length n⟩ := step_callback main (if_pos hid) rfl
  refine ⟨[.latch (.enter n), .latch (.swap s.callbacks.length n)], _,
    .cons henter (.single hswap), ?_, _, List.mem_cons_of_mem _ (List.mem_singleton.mpr rfl), rfl⟩
  have hentered : Kept (labels ++ [.latch (.enter n)]) := kept_snoc.mpr ⟨hkept, fun _ ↦ hmay⟩
  have hswapped : Kept (labels ++ [.latch (.enter n)] ++ [.latch (.swap s.callbacks.length n)]) :=
    kept_snoc.mpr ⟨hentered, fun h ↦ nomatch h⟩
  simpa using hswapped

/-- A callback in flight comes to use the latch. -/
theorem touched_of_not_idle {α : Type} (main : Prog α) {s : CallbackLatch.State}
    (howned : CallbackLatch.Owned s) {labels : List Label} (hkept : Kept labels)
    (hidle : ¬ Idle s) : ∃ after w', (system α).Run ⟨main, s⟩ after w' ∧ Kept (labels ++ after) ∧
      ∃ label ∈ after, touches label = true := by
  simp only [Idle, not_forall, not_not] at hidle
  obtain ⟨pc, hpc, hflight⟩ := hidle
  obtain ⟨label, t, hstep, hmethod, henters, htouches⟩ := touch_of_inFlight howned hpc hflight
  exact ⟨[.latch label], _, .single (step_callback main hstep hmethod),
    kept_snoc.mpr ⟨hkept, fun h ↦ absurd h (henters ▸ Bool.false_ne_true)⟩, _,
    List.mem_singleton.mpr rfl, htouches⟩

/-- A latch that is not quiet when it is destroyed is used afterwards by some callback. -/
theorem touched_of_not_quiet {α : Type} (main : Prog α) {s : CallbackLatch.State}
    (howned : CallbackLatch.Owned s) {labels : List Label} (hkept : Kept labels)
    (hquiet : ¬ Quiet labels s) : ∃ after w', (system α).Run ⟨main, s⟩ after w' ∧
      Kept (labels ++ .call .destroyLatch () :: after) ∧ ∃ label ∈ after, touches label = true := by
  have hdestroyed : Kept (labels ++ [.call .destroyLatch ()]) :=
    kept_snoc.mpr ⟨hkept, fun h ↦ nomatch h⟩
  have htouched : ∃ after w', (system α).Run ⟨main, s⟩ after w' ∧
      Kept (labels ++ [.call .destroyLatch ()] ++ after) ∧
        ∃ label ∈ after, touches label = true := by
    by_cases hidle : Idle s
    · exact touched_of_mayEnter main s hdestroyed (mayEnter_of_not_quiet hidle hquiet)
    · exact touched_of_not_idle main howned hdestroyed hidle
  simpa using htouched

/-- In a run that has come to the destruction of the latch, no callback uses the latch afterwards,
whatever happens next, if and only if the latch is quiet. -/
theorem latch_outlives_iff_quiet (lib : Externals) (config : NspawnConfig) {labels : List Label}
    {k : Unit → Prog (Except StdException Unit)} {latch : CallbackLatch.State}
    (hrun : (system _).Run (start (spawnAndWait lib config).run) labels
      ⟨.call .destroyLatch k, latch⟩) (hkept : Kept labels) :
    (∀ after w', (system _).Run ⟨k (), latch⟩ after w' →
      Kept (labels ++ .call .destroyLatch () :: after) →
        ∀ label ∈ after, touches label = false) ↔ Quiet labels latch := by
  have howned : CallbackLatch.Owned latch := hrun.invariant
    (preserves_latch CallbackLatch.machine_preserves_owned CallbackLatch.owned_init)
    CallbackLatch.owned_init
  constructor
  · intro huntouched
    by_contra hquiet
    obtain ⟨after, w', hafter, hkept', label, hlabel, htouches⟩ :=
      touched_of_not_quiet (k ()) howned hkept hquiet
    simp [huntouched after w' hafter hkept' label hlabel] at htouches
  · intro hquiet after w' hafter hkept' label hlabel
    have hretired : Retired ⟨k (), latch⟩ :=
      ⟨only_releasing (spawnAndWait_retires lib config) hrun, hquiet.idle⟩
    have hexited : (∃ label ∈ labels ++ [.call .destroyLatch ()], registers label = true) →
        ∃ label ∈ labels ++ [.call .destroyLatch ()], exits label = true := by
      rintro ⟨registration, hmem, hregisters⟩
      rcases List.mem_append.mp hmem with hold | hnew
      · obtain ⟨exit, hexit, hexits⟩ := hquiet.exited ⟨registration, hold, hregisters⟩
        exact ⟨exit, List.mem_append_left _ hexit, hexits⟩
      · cases List.mem_singleton.mp hnew
        simp [registers] at hregisters
    exact ((untouched_of_quiet hafter hretired hexited (by simpa using hkept')).2 label hlabel).1

/-- The callback that reports the exit of the system is through before the latch is destroyed. -/
theorem latch_outlives_iff_quiet_run : ∃ labels k latch,
    (system _).Run (start (spawnAndWait Externals.ascii someConfig).run) labels
      ⟨.call .destroyLatch k, latch⟩ ∧
    (∃ label ∈ labels, touches label = true) ∧
    ∀ after w', (system _).Run ⟨k (), latch⟩ after w' →
      Kept (labels ++ .call .destroyLatch () :: after) →
        ∀ label ∈ after, touches label = false := by
  have hrun : (system _).Run (start (spawnAndWait Externals.ascii someConfig).run) _
      ⟨.call .destroyLatch _, _⟩ :=
    run_of_choices (Choice.untilExit 0 ++ Choice.retire 3 .systemExit) rfl
  refine ⟨_, _, _, hrun, ?_, (latch_outlives_iff_quiet _ _ hrun (by decide)).mpr ⟨?_, fun _ ↦ ?_⟩⟩
  · decide
  · exact idle_of_ended (by decide)
  · decide

/-- The callback that reports the exit of the system has set its flag and has not yet taken the
mutex when the main thread goes on and destroys the latch. -/
theorem not_latch_outlives : ∃ labels w i,
    (system _).Run (start (spawnAndWait Externals.ascii someConfig).run) labels w ∧ Kept labels ∧
    labels[i]? = some (.call .destroyLatch ()) ∧ ∃ label ∈ labels.drop i, touches label = true := by
  refine ⟨_, _, 61, run_of_choices (Choice.untilExit 0 ++
    [.succeed, .latch (.acquire 3 .systemExit)]) rfl, ?_, rfl, ?_⟩
  · decide
  · decide

end LatchLifetime

end HostcomputeNspawn
