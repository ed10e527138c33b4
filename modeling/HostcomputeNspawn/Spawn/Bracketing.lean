import HostcomputeNspawn.CallbackLatch.Progress
import HostcomputeNspawn.World

/-!
# The brackets of the latch

`lock` leaks the ownership of the mutex and `cancel` and `await` adopt it, so the functions that
use the latch have to pair them by hand.  They do so in their past: a program whose methods meet
`bracketPre` moves the latch as the bracketed machine does, whatever the callbacks do.  The pairing
is complete except when the wrapper of the call throws, which leaves the mutex locked.
-/

namespace HostcomputeNspawn

open Interaction Transition World

namespace Bracketing

/-- Whether the main thread owns the mutex after what it has done. -/
def held (past : List MainEvent) : Bool :=
  past.foldl (fun held event ↦ match event.1 with
    | .latch .lock => true
    | .latch _ => false
    | _ => held) false

theorem held_snoc (past : List MainEvent) (event : MainEvent) :
    held (past ++ [event]) = match event.1 with
      | .latch .lock => true
      | .latch _ => false
      | _ => held past := by
  rw [held, List.foldl_append]
  rfl

/-- `lock` outside a bracket, `cancel` and `await` inside, and a new latch outside. -/
def bracketPre (past : List MainEvent) : Op → Prop
  | .latch .lock => held past = false
  | .latch _ => held past = true
  | .constructLatch => held past = false
  | _ => True

end Bracketing

/-- The method of the latch that the main thread is inside of. -/
def CallbackLatch.MainPc.method : CallbackLatch.MainPc → Option CallbackLatch.Method
  | .running => none
  | .locking => some .lock
  | .cancelling => some .cancel
  | .checking x | .checked x _ | .asleep x | .woken x => some (.await x)

namespace CallbackLatch

@[simp]
theorem method_notifyAll (x : Slot) (pc : MainPc) : (pc.notifyAll x).method = pc.method := by
  unfold MainPc.notifyAll
  split
  · next h => rw [h]; rfl
  · rfl

theorem running_of_method {pc : MainPc} (hpc : pc.method = none) : pc = .running := by
  cases pc <;> simp [MainPc.method] at hpc ⊢

/-- A callback neither moves the main thread nor takes the mutex from it. -/
theorem step_callback {s t : State} {label : Label} (hstep : step s label = some t)
    (hmethod : label.method = none) (howned : Owned s) :
    t.main.method = s.main.method ∧ (t.mutex = some .main ↔ s.mutex = some .main) := by
  cases label with
  | enter n =>
    simp only [step, Option.some.injEq] at hstep
    subst hstep
    exact ⟨rfl, Iff.rfl⟩
  | swap id n =>
    simp only [step, Option.ite_none_right_eq_some, Option.some.injEq] at hstep
    obtain ⟨-, rfl⟩ := hstep
    unfold State.swap
    split
    · exact ⟨rfl, Iff.rfl⟩
    · split <;> exact ⟨rfl, Iff.rfl⟩
  | acquire id x =>
    simp only [step, Option.ite_none_right_eq_some, Option.some.injEq] at hstep
    obtain ⟨⟨-, hfree⟩, rfl⟩ := hstep
    simp [hfree]
  | notify id x =>
    simp only [step, Option.ite_none_right_eq_some, Option.some.injEq] at hstep
    obtain ⟨-, rfl⟩ := hstep
    simp
  | release id x =>
    simp only [step, Option.ite_none_right_eq_some, Option.some.injEq] at hstep
    obtain ⟨hid, rfl⟩ := hstep
    have howner := (howned id).mpr ⟨x, Or.inr hid⟩
    simp [howner]
  | _ => simp [Label.method] at hmethod

/-- Before a method returns, the main thread stays inside of it. -/
theorem step_method {s t : State} {label : Label} {m : Method} (hstep : step s label = some t)
    (hmethod : label.method = some m) (hreturns : label.returns = false) :
    t.main.method = some m := by
  cases label <;> simp only [Label.method, Option.some.injEq, reduceCtorEq] at hmethod <;>
    simp only [Label.returns, reduceCtorEq] at hreturns <;>
    simp only [step, Option.ite_none_right_eq_some, Option.some.injEq] at hstep <;>
    obtain ⟨-, rfl⟩ := hstep <;> subst hmethod <;> rfl

/-- When a method has returned, the main thread owns the mutex only after `lock`. -/
theorem step_return {s t : State} {label : Label} {m : Method} (hstep : step s label = some t)
    (hmethod : label.method = some m) (hreturns : label.returns = true) :
    t.main = .running ∧ (t.mutex = some .main ↔ m = .lock) := by
  cases label <;> simp only [Label.method, Option.some.injEq, reduceCtorEq] at hmethod <;>
    simp only [Label.returns, reduceCtorEq] at hreturns <;>
    simp only [step, Option.ite_none_right_eq_some, Option.some.injEq] at hstep <;>
    obtain ⟨-, rfl⟩ := hstep <;> subst hmethod <;> simp

end CallbackLatch

namespace Bracketing

/-- The latch is used in brackets, and the main thread is where its program says. -/
structure Bracketed {α : Type} (labels : List Label) (w : World α) : Prop where
  inv : CallbackLatch.Inv w.latch
  held : w.latch.main = .running →
    (w.latch.mutex = some .main ↔ held (mainEvents labels) = true)
  inside : ∀ m, w.latch.main.method = some m → ∃ k, w.main = .call (.latch m) k

variable {α : Type}

/-- The precondition of the operation that the main thread is about to do. -/
def Ready (labels : List Label) (w : World α) : Prop :=
  ∀ op k, w.main = .call op k → bracketPre (mainEvents labels) op

theorem label_bracketed {labels : List Label} {w w' : World α} {label : CallbackLatch.Label}
    (hw : Bracketed labels w) (hready : Ready labels w)
    (hstep : (system α).step w (.latch label) w') : label.Bracketed w.latch := by
  cases step_cases hstep with
  | callback hlatch hmethod =>
    cases label with
    | lockCall | cancelCall | awaitCall => simp [CallbackLatch.Label.method] at hmethod
    | _ => trivial
  | method hlatch hmethod hreturns =>
    have hheld := hw.held
    have hpre := hready _ _ rfl
    cases label with
    | lockCall | cancelCall | awaitCall =>
      simp only [CallbackLatch.Label.method, Option.some.injEq] at hmethod
      subst hmethod
      simp only [CallbackLatch.step, Option.ite_none_right_eq_some] at hlatch
      simpa [CallbackLatch.Label.Bracketed, hheld hlatch.1, bracketPre] using hpre
    | _ => trivial
  | finish hlatch hmethod hreturns =>
    cases label with
    | lockCall | cancelCall | awaitCall => simp [CallbackLatch.Label.returns] at hreturns
    | _ => trivial

theorem bracketed_call {op : Op} {k : op.Reply → Prog α} {latch : CallbackLatch.State}
    {labels : List Label} (reply : op.Reply) (hop : op.answered = true)
    (hw : Bracketed labels ⟨.call op k, latch⟩)
    (hready : Ready labels (World.mk (.call op k) latch)) :
    Bracketed (labels ++ [.call op reply]) ⟨k reply, op.latchAfter latch⟩ := by
  have hrunning : latch.main = .running := by
    cases hmain : latch.main with
    | running => rfl
    | _ =>
      obtain ⟨_, hcall⟩ := hw.inside _ (by simp only [hmain]; rfl)
      cases hcall
      simp [Op.answered] at hop
  have hpre := hready op k rfl
  have hheld := hw.held hrunning
  have hevents := mainEvents_snoc_call labels op reply
  cases op with
  | constructLatch =>
    refine ⟨CallbackLatch.inv_init, fun _ ↦ ?_, fun m hm ↦ ?_⟩
    · rw [hevents, held_snoc]
      simpa [Op.latchAfter, CallbackLatch.State.init, bracketPre] using hpre
    · simp [Op.latchAfter, CallbackLatch.State.init, CallbackLatch.MainPc.method] at hm
  | latch method => simp [Op.answered] at hop
  | _ =>
    refine ⟨hw.inv, fun _ ↦ ?_, fun m hm ↦ ?_⟩
    · rw [hevents, held_snoc]
      exact hheld
    · simp [Op.latchAfter, hrunning, CallbackLatch.MainPc.method] at hm

/-- One step keeps the brackets. -/
theorem Bracketed.step {labels : List Label} {w w' : World α} {label : Label}
    (hw : Bracketed labels w) (hready : Ready labels w)
    (hstep : (system α).step w label w') : Bracketed (labels ++ [label]) w' := by
  have hbracketed := fun l (h : label = .latch l) ↦ label_bracketed hw hready (h ▸ hstep)
  cases step_cases hstep with
  | call reply hop => exact bracketed_call reply hop hw hready
  | @callback _ _ _ l hlatch hmethod =>
    obtain ⟨hpc, hmutex⟩ := CallbackLatch.step_callback hlatch hmethod hw.inv.owned
    have hevents := mainEvents_snoc_callback labels hmethod
    refine ⟨CallbackLatch.bracketed_preserves_inv ⟨hbracketed l rfl, hlatch⟩ hw.inv,
      fun hrunning ↦ ?_, fun m hm ↦ hw.inside m (hpc ▸ hm)⟩
    have hbefore := CallbackLatch.running_of_method (hpc.symm.trans (by rw [hrunning]; rfl))
    rw [hevents, hmutex]
    exact hw.held hbefore
  | @method m k _ _ l hlatch hmethod hreturns =>
    have hpc := CallbackLatch.step_method hlatch hmethod hreturns
    refine ⟨CallbackLatch.bracketed_preserves_inv ⟨hbracketed l rfl, hlatch⟩ hw.inv,
      fun hrunning ↦ ?_, fun m' hm' ↦ ?_⟩
    · exact nomatch hpc.symm.trans (congrArg CallbackLatch.MainPc.method hrunning)
    · obtain rfl : m = m' := by simpa [hpc] using hm'
      exact ⟨k, rfl⟩
  | @finish m k _ _ l hlatch hmethod hreturns =>
    obtain ⟨hrunning, hmutex⟩ := CallbackLatch.step_return hlatch hmethod hreturns
    have hevents := mainEvents_snoc_return labels hmethod hreturns
    refine ⟨CallbackLatch.bracketed_preserves_inv ⟨hbracketed l rfl, hlatch⟩ hw.inv,
      fun _ ↦ ?_, fun m' hm' ↦ ?_⟩
    · rw [hevents, held_snoc, hmutex]
      cases m <;> simp
    · simp [hrunning, CallbackLatch.MainPc.method] at hm'

theorem ready_of_run {w w' : World α} {labels : List Label}
    {allowed : (op : Op) → op.Reply → Prop} {post : List MainEvent → α → Prop}
    (hrun : (system α).Run w labels w')
    (hallowed : ∀ event ∈ mainEvents labels, allowed event.1 event.2)
    (hwp : w.main.wp allowed bracketPre [] post) : Ready labels w' := by
  intro op k hmain
  have hnow := Program.wp_of_leads (leads_of_run hrun) hallowed hwp
  rw [hmain, List.nil_append] at hnow
  exact hnow.1

/-- A program that meets `bracketPre` keeps the brackets in all its runs. -/
theorem Bracketed.of_run {w w' : World α} {labels : List Label}
    {allowed : (op : Op) → op.Reply → Prop} {post : List MainEvent → α → Prop}
    (hw : Bracketed [] w) (hrun : (system α).Run w labels w')
    (hallowed : ∀ event ∈ mainEvents labels, allowed event.1 event.2)
    (hwp : w.main.wp allowed bracketPre [] post) : Bracketed labels w' := by
  induction hrun with
  | refl => exact hw
  | snoc hrun hstep ih =>
    have hfront := fun event hevent ↦ hallowed event (by
      rw [mainEvents_append]
      exact List.mem_append_left _ hevent)
    exact (ih hfront).step (ready_of_run hrun hfront hwp) hstep

/-- A program begins outside the brackets of a latch that it does not own. -/
theorem bracketed_begin {p : Prog α} {latch : CallbackLatch.State}
    (hlatch : CallbackLatch.bracketed.Reachable .init latch) (hmain : latch.main = .running)
    (hmutex : latch.mutex ≠ some .main) : Bracketed [] ⟨p, latch⟩ where
  inv := CallbackLatch.inv_of_reachable hlatch
  held _ := iff_of_false hmutex Bool.false_ne_true
  inside m hm := by simp [hmain, CallbackLatch.MainPc.method] at hm

theorem bracketed_start {p : Prog α} : Bracketed [] (start p) :=
  bracketed_begin ⟨[], System.Run.refl _⟩ rfl (by simp [CallbackLatch.State.init])

/-! ## The functions that use the latch -/

variable {lib : Externals} {call : ApiCall}

/-- A latched call leaves the mutex locked if and only if its wrapper throws. -/
theorem latched_held {expected : UInt32} {message : UInt32 → String} {nt : NotificationType}
    {x : CallbackLatch.Slot} (hslot : CallbackLatch.slot nt = some x) :
    (latched lib call expected message nt).run.wp (fun _ _ ↦ True) bracketPre []
      fun past' _ ↦ held past' = true ↔ ¬ ∀ event ∈ past', Resolved event.1 event.2 := by
  refine wp_latched hslot rfl trivial (fun failure _ ↦ ?_) (fun code out _ _ ↦ ⟨rfl, ?_⟩)
    fun out _ ↦ ⟨rfl, ?_⟩
  · refine iff_of_true rfl fun h ↦ not_resolved_error (h (called call (.error failure)) ?_)
    simp
  · refine iff_of_false (by simp [held]) (not_not.mpr fun event hevent ↦ ?_)
    simp only [List.nil_append, List.mem_cons, List.not_mem_nil, or_false] at hevent
    rcases hevent with rfl | rfl | rfl <;> rfl
  · refine iff_of_false (by simp [held]) (not_not.mpr fun event hevent ↦ ?_)
    simp only [List.nil_append, List.mem_cons, List.not_mem_nil, or_false] at hevent
    rcases hevent with rfl | rfl | rfl <;> rfl

/-- In every completed run from a latch that the main thread does not own, it does not own the
latch afterwards if and only if the wrapper of the call did not throw. -/
def UnlocksIffResolves (f : Nspawn Unit) : Prop :=
  ∀ latch labels result latch', CallbackLatch.bracketed.Reachable .init latch →
    latch.main = .running → latch.mutex ≠ some .main →
    (system _).Run ⟨f.run, latch⟩ labels ⟨.ret result, latch'⟩ →
    (latch'.mutex ≠ some .main ↔ Resolves labels)

theorem unlocksIffResolves_of_held {f : Nspawn Unit}
    (hf : f.run.wp (fun _ _ ↦ True) bracketPre []
      fun past' _ ↦ held past' = true ↔ ¬ ∀ event ∈ past', Resolved event.1 event.2) :
    UnlocksIffResolves f := by
  intro latch labels result latch' hlatch hmain hmutex hrun
  have hend := (bracketed_begin hlatch hmain hmutex).of_run hrun (fun _ _ ↦ trivial) hf
  have hrunning : latch'.main = .running := by
    refine CallbackLatch.running_of_method (Option.eq_none_iff_forall_ne_some.mpr fun m hm ↦ ?_)
    obtain ⟨k, hcall⟩ := hend.inside m hm
    cases hcall
  have hheld := Program.wp_of_leads (leads_of_run hrun) (fun _ _ ↦ trivial) hf
  rw [List.nil_append] at hheld
  rw [resolves_iff, ne_eq, hend.held hrunning]
  exact not_iff_comm.mp hheld.symm

/-! ## The brackets of a whole run -/

/-- The operations that leave the mutex as it is. -/
def Outside : Op → Prop
  | .latch _ | .constructLatch => False
  | _ => True

theorem outside_of_preparing (op : Op) (hop : op.Preparing) : Outside op := by
  cases op <;> trivial

theorem outside_of_acquiring (op : Op) (hop : op.Acquiring) : Outside op := by
  cases op <;> trivial

theorem outside_of_releasing (op : Op) (hop : op.Releasing) : Outside op := by
  cases op <;> trivial

theorem permits_outside {past : List MainEvent} {op : Op} (hop : Outside op) :
    bracketPre past op := by
  cases op <;> trivial

theorem stable_unlocked :
    Program.Stable bracketPre Outside fun past ↦ held past = false where
  permits _ hop := permits_outside hop
  keeps {past op} reply hpast hop := by
    rw [held_snoc]
    cases op with
    | latch method => exact hop.elim
    | _ => exact hpast

theorem stable_true : Program.Stable bracketPre Outside fun _ ↦ True where
  permits _ hop := permits_outside hop
  keeps _ _ _ := trivial

/-- The wrapper of the registration of the process callback returns. -/
def ProcessRegistrationReturns : (op : Op) → op.Reply → Prop
  | .api (.hcsRegisterProcessCallback _), .error _ => False
  | _, _ => True

/-- A latched call ends its bracket or throws out of it. -/
theorem latched_brackets {allowed : (op : Op) → op.Reply → Prop} {expected : UInt32}
    {message : UInt32 → String} {nt : NotificationType} {x : CallbackLatch.Slot}
    (hslot : CallbackLatch.slot nt = some x) {past : List MainEvent} (hpast : held past = false) :
    (latched lib call expected message nt).run.wp allowed bracketPre past
      fun past' result ↦ held past' = true →
        (∃ e, result = .error e) ∧ ∃ failure, allowed (.api call) (.error failure) := by
  have hlocked (reply : ApiReply call) :
      held (past ++ [finished .lock, called call reply]) = true := by
    simp [held, List.foldl_append]
  have hunlocked (reply : ApiReply call) (m : CallbackLatch.Method) (hm : m ≠ .lock) :
      held (past ++ [finished .lock, called call reply, finished m]) = false := by
    cases m <;> simp [held, List.foldl_append] at hm ⊢
  refine wp_latched hslot hpast trivial (fun failure hreply ↦ ?_) (fun code out _ _ ↦ ⟨?_, ?_⟩)
    fun out _ ↦ ⟨?_, ?_⟩
  · exact fun _ ↦ ⟨⟨_, rfl⟩, failure, hreply⟩
  · exact hlocked _
  · simp [hunlocked]
  · exact hlocked _
  · simp [hunlocked]

theorem runProcess_brackets (config : NspawnConfig) (layer : ContainerLayer lib)
    (computeSystem : Handle) {past : List MainEvent} (hpast : held past = false) :
    (runProcess config layer computeSystem).run.wp ProcessRegistrationReturns bracketPre past
      fun past' _ ↦ held past' = false := by
  refine Fallible.wp_run_bind_of_only stable_unlocked (Fallible.only_run_bind (only_checked trivial)
    fun _ ↦ trivial) hpast (fun _ _ h ↦ h) fun past₁ _ hpast₁ ↦ ?_
  refine Fallible.wp_run_bind_of_only stable_unlocked (Fallible.only_run_bind (only_dumps trivial)
    fun _ ↦ only_checked trivial) hpast₁ (fun _ _ h ↦ h) fun past₂ process hpast₂ ↦ ?_
  refine Program.wp_mono (fun past' _ h ↦ ?_) (latched_brackets (x := .processExit) rfl hpast₂)
  apply Bool.eq_false_iff.mpr
  intro hheld
  obtain ⟨-, failure, hreply⟩ := h hheld
  exact hreply

theorem hcsTerminateComputeSystem_brackets (computeSystem : Handle) (layer : ContainerLayer lib)
    {past : List MainEvent} {allowed : (op : Op) → op.Reply → Prop} (hpast : held past = false) :
    (hcsTerminateComputeSystem computeSystem layer).wp allowed bracketPre past
      fun _ _ ↦ True := by
  refine wp_hcsTerminateComputeSystem hpast trivial (fun _ _ ↦ ⟨trivial, fun _ _ ↦ trivial⟩)
    (fun _ _ _ ↦ ⟨?_, trivial, trivial⟩) fun _ ↦ ⟨?_, trivial⟩
  · simp [bracketPre, held, List.foldl_append]
  · simp [bracketPre, held, List.foldl_append]

theorem runContainer_brackets (config : NspawnConfig) (layer : ContainerLayer lib)
    (computeSystem : Handle) {past : List MainEvent} (hpast : held past = false) :
    (runContainer config layer computeSystem).run.wp ProcessRegistrationReturns bracketPre past
      fun _ _ ↦ True := by
  refine wp_perform_bind hpast fun constructed _ ↦ ?_
  have hconstructed : held (past ++ [⟨.constructLatch, constructed⟩]) = false := by
    rw [held_snoc]
    exact hpast
  refine Fallible.wp_run_defer_of (fun _ _ ↦ True) ?_ fun _ _ _ ↦ ⟨trivial, fun _ _ ↦ trivial⟩
  apply Fallible.wp_run_bind_of _ (latched_brackets (x := .systemCreate) rfl hconstructed)
    (fun _ _ _ ↦ trivial)
  intro past₁ _ h₁
  have hpast₁ : held past₁ = false := Bool.eq_false_iff.mpr fun hheld ↦ by simpa using (h₁ hheld).1
  apply Fallible.wp_run_bind_of _ (latched_brackets (x := .systemStart) rfl hpast₁)
    (fun _ _ _ ↦ trivial)
  intro past₂ _ h₂
  have hpast₂ : held past₂ = false := Bool.eq_false_iff.mpr fun hheld ↦ by simpa using (h₂ hheld).1
  exact Fallible.wp_run_defer_of _ (runProcess_brackets config layer computeSystem hpast₂)
    fun _ _ hpast' ↦ hcsTerminateComputeSystem_brackets computeSystem layer hpast'

theorem runLayer_brackets (config : NspawnConfig) (basePath parentLayerName : String)
    (driverInfo : DriverInfo) (acsendantLayers : List (ContainerLayer lib))
    (acsendantDescriptors : List WcLayerDescriptor) (layer : ContainerLayer lib)
    {past : List MainEvent} (hpast : held past = false) :
    (runLayer config basePath parentLayerName driverInfo acsendantLayers acsendantDescriptors
      layer).run.wp ProcessRegistrationReturns bracketPre past fun _ _ ↦ True := by
  apply wp_runLayer (stable_unlocked.mono outside_of_acquiring)
    (fun _ ↦ stable_true.mono outside_of_releasing) hpast (fun _ _ _ ↦ trivial)
  intro past₁ hpast₁
  apply wp_runPrepared (stable_unlocked.mono outside_of_preparing) hpast₁ (fun _ _ _ ↦ trivial)
    (fun _ _ _ _ ↦ trivial) (fun _ _ _ _ _ _ _ ↦ trivial) (fun _ _ _ _ _ _ _ _ ↦ trivial)
  intro past' id configuration computeSystem hpast'
  apply runContainer_brackets _ _ _
  rw [held_snoc]
  exact hpast'

theorem spawnAndWait_brackets (config : NspawnConfig) :
    (spawnAndWait lib config).run.wp ProcessRegistrationReturns bracketPre [] fun _ _ ↦ True :=
  wp_spawnAndWait (stable_unlocked.mono outside_of_preparing) rfl (fun _ _ _ ↦ trivial)
    fun _ _ _ _ _ _ _ hpast' ↦ runLayer_brackets _ _ _ _ _ _ _ hpast'

/-- The three functions leave the mutex unlocked exactly when their wrapper returns, and the whole
run keeps the brackets unless the wrapper of the process registration throws. -/
theorem latch_bracketed (lib : Externals) :
    (∀ computeSystem (layer : ContainerLayer lib),
      UnlocksIffResolves (hcsRegisterComputeSystemCallback computeSystem layer)) ∧
    (∀ computeSystem, UnlocksIffResolves (hcsStartComputeSystem lib computeSystem)) ∧
    (∀ process (layer : ContainerLayer lib),
      UnlocksIffResolves (hcsRegisterProcessCallback process layer)) ∧
    ∀ config labels w label w', (system _).Run (start (spawnAndWait lib config).run) labels w →
      (∀ process failure,
        Label.call (.api (.hcsRegisterProcessCallback process)) (.error failure) ∉ labels) →
      (system _).step w (.latch label) w' → label.Bracketed w.latch := by
  refine ⟨fun _ _ ↦ ?_, fun _ ↦ ?_, fun _ _ ↦ ?_, fun config labels w label w' hrun hreturns hstep ↦
    ?_⟩
  · exact unlocksIffResolves_of_held (latched_held (x := .systemCreate) rfl)
  · exact unlocksIffResolves_of_held (latched_held (x := .systemStart) rfl)
  · exact unlocksIffResolves_of_held (latched_held (x := .processExit) rfl)
  · have hallowed : ∀ event ∈ mainEvents labels,
        ProcessRegistrationReturns event.1 event.2 := by
      rintro ⟨op, reply⟩ hevent
      cases op with
      | api call =>
        cases call with
        | hcsRegisterProcessCallback process =>
          cases reply with
          | ok result => trivial
          | error failure => exact hreturns process failure ((mem_mainEvents rfl).mp hevent)
        | _ => trivial
      | _ => trivial
    have hbracketed := bracketed_start.of_run hrun hallowed (spawnAndWait_brackets config)
    exact label_bracketed hbracketed (ready_of_run hrun hallowed (spawnAndWait_brackets config))
      hstep

theorem latch_bracketed_run :
    (∃ labels result latch, (system _).Run (start (hcsStartComputeSystem Externals.ascii 1).run)
      labels ⟨.ret result, latch⟩ ∧ latch.mutex ≠ some .main) ∧
    ∃ labels w w', (system _).Run (start (spawnAndWait Externals.ascii someConfig).run) labels w ∧
      (system _).step w (.latch .lockCall) w' ∧
      CallbackLatch.Label.lockCall.Bracketed w.latch := by
  have hbracketed := latch_bracketed Externals.ascii
  have hstart := run_of_choices (w := start (hcsStartComputeSystem Externals.ascii 1).run)
    (Choice.notified 0 ⟨0x00000003, 0⟩ .systemStart) rfl
  have hrun := run_of_choices (w := start (spawnAndWait Externals.ascii someConfig).run)
    (Choice.untilProcess 0) rfl
  refine ⟨⟨_, _, _, hstart, ?_⟩, _, _, _, hrun, ⟨.latch .lockCall, rfl⟩, ?_⟩
  · have hfree : CallbackLatch.State.init.mutex ≠ some .main := nofun
    exact (hbracketed.2.1 1 _ _ _ _ ⟨[], System.Run.refl _⟩ rfl hfree hstart).mpr (by decide)
  · exact hbracketed.2.2.2 _ _ _ _ _ hrun (fun _ _ ↦ not_mem_of_threw (by decide) rfl)
      ⟨.latch .lockCall, rfl⟩

/-- A missing export leaves the mutex locked, and then the guard that terminates the container
locks it once more. -/
theorem not_latch_bracketed :
    (∃ labels result latch, (system _).Run (start (hcsStartComputeSystem Externals.ascii 1).run)
      labels ⟨.ret result, latch⟩ ∧ latch.mutex = some .main) ∧
    ∃ labels w w', (system _).Run (start (spawnAndWait Externals.ascii someConfig).run) labels w ∧
      w.latch.mutex = some .main ∧ (system _).step w (.latch .lockCall) w' := by
  refine ⟨⟨_, _, _, run_of_choices (Choice.lock ++ [.missing]) rfl, rfl⟩, ?_⟩
  exact ⟨_, _, _, run_of_choices (Choice.untilProcess 0 ++ Choice.lock ++ [.missing]) rfl, rfl,
    .latch .lockCall, rfl⟩

end Bracketing

end HostcomputeNspawn
