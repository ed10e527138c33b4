import HostcomputeNspawn.CallbackLatch.Winner

/-!
# The work that is left in the latch

`await` is a loop that checks its flag and sleeps until the flag is set, and every notification
wakes it up.  The loop does not spin: each new callback, each spurious wake-up and each return of a
method adds a fixed amount of work, and every step on the latch takes some of it away.
-/

namespace HostcomputeNspawn.CallbackLatch

/-- The work that the main thread has left in the latch. -/
def MainPc.work : MainPc → ℕ
  | .running => 3
  | .locking => 2
  | .cancelling => 2
  | .checking _ => 2
  | .checked _ _ => 1
  | .asleep _ => 0
  | .woken _ => 3

/-- The work that a callback has left; its notification may wake the main thread once more. -/
def CallbackPc.work : CallbackPc → ℕ
  | .entered _ => 7
  | .swapped _ => 6
  | .locked _ => 5
  | .notified _ => 1
  | .ended => 0

/-- The work that all the threads have left. -/
def State.work (s : State) : ℕ := s.main.work + (s.callbacks.map CallbackPc.work).sum

/-- The work that a step may add. -/
def Label.credit : Label → ℕ
  | .enter _ => 8
  | .wake _ => 4
  | .lockReturn | .cancelReturn => 2
  | .awaitReturn _ => 3
  | _ => 0

theorem work_notifyAll (x : Slot) (pc : MainPc) : (pc.notifyAll x).work ≤ pc.work + 3 := by
  unfold MainPc.notifyAll
  split
  · next h => rw [h]; rfl
  · omega

/-- A callback that moves on leaves the work of its new place. -/
theorem work_set {callbacks : List CallbackPc} {id : ℕ} {pc : CallbackPc}
    (hid : callbacks[id]? = some pc) (pc' : CallbackPc) :
    ((callbacks.set id pc').map CallbackPc.work).sum + pc.work =
      (callbacks.map CallbackPc.work).sum + pc'.work :=
  sum_map_set _ hid

theorem work_swap {s : State} {id : ℕ} {n : Notification}
    (hid : s.callbacks[id]? = some (.entered n)) : (s.swap id n).work + 1 ≤ s.work := by
  have hended := work_set hid .ended
  simp only [CallbackPc.work] at hended
  unfold State.swap State.work
  split
  · dsimp only
    omega
  · next y _ =>
    have hswapped := work_set hid (.swapped y)
    simp only [CallbackPc.work] at hswapped
    split <;> dsimp only <;> omega

/-- Every step takes some work away, apart from what it may add. -/
theorem work_step {s t : State} {label : Label} (hstep : step s label = some t) :
    t.work + 1 ≤ s.work + label.credit := by
  cases label with
  | enter n =>
    simp only [step, Option.some.injEq] at hstep
    subst hstep
    simp only [State.work, List.map_append, List.sum_append, List.map_cons, List.map_nil,
      List.sum_cons, List.sum_nil, CallbackPc.work, Label.credit]
    omega
  | swap id n =>
    simp only [step, Option.ite_none_right_eq_some, Option.some.injEq] at hstep
    obtain ⟨hid, rfl⟩ := hstep
    exact work_swap hid
  | acquire id x =>
    simp only [step, Option.ite_none_right_eq_some, Option.some.injEq] at hstep
    obtain ⟨⟨hid, -⟩, rfl⟩ := hstep
    have hset := work_set hid (.locked x)
    simp only [CallbackPc.work] at hset
    simp only [State.work, Label.credit]
    omega
  | notify id x =>
    simp only [step, Option.ite_none_right_eq_some, Option.some.injEq] at hstep
    obtain ⟨hid, rfl⟩ := hstep
    have hset := work_set hid (.notified x)
    have hwake := work_notifyAll x s.main
    simp only [CallbackPc.work] at hset
    simp only [State.work, Label.credit]
    omega
  | release id x =>
    simp only [step, Option.ite_none_right_eq_some, Option.some.injEq] at hstep
    obtain ⟨hid, rfl⟩ := hstep
    have hset := work_set hid .ended
    simp only [CallbackPc.work] at hset
    simp only [State.work, Label.credit]
    omega
  | lockCall | cancelCall | awaitCall =>
    simp only [step, Option.ite_none_right_eq_some, Option.some.injEq] at hstep
    obtain ⟨hmain, rfl⟩ := hstep
    simp only [State.work, hmain, MainPc.work, Label.credit]
    omega
  | check | wake =>
    simp only [step, Option.ite_none_right_eq_some, Option.some.injEq] at hstep
    obtain ⟨hmain, rfl⟩ := hstep
    simp only [State.work, hmain, MainPc.work, Label.credit]
    omega
  | _ =>
    simp only [step, Option.ite_none_right_eq_some, Option.some.injEq] at hstep
    obtain ⟨⟨hmain, -⟩, rfl⟩ := hstep
    simp only [State.work, hmain, MainPc.work, Label.credit]
    omega

/-- The credit of the steps of a run. -/
def credits (labels : List Label) : ℕ := (labels.map Label.credit).sum

/-- The steps of a run and the work that is left are paid for. -/
theorem machine_preserves_paid :
    machine.PreservesHistory fun labels s ↦ labels.length + s.work ≤ State.init.work +
      credits labels := by
  intro labels s label t hstep hs
  have hwork := work_step hstep
  simp only [credits, List.length_append, List.length_singleton, List.map_append, List.sum_append,
    List.map_cons, List.map_nil, List.sum_cons, List.sum_nil] at hs ⊢
  omega

/-- Whatever the threads do with a latch, it takes eight steps for each notification at the most,
four for each spurious wake-up, two for each `lock` and `cancel` and three for each `await` that has
returned, and three more. -/
theorem steps_le_credits {labels : List Label} {s : State} (hrun : machine.Run .init labels s) :
    labels.length ≤ credits labels + 3 := by
  have hpaid := hrun.historyInvariant machine_preserves_paid (Nat.le_add_right _ _)
  have hinit : State.init.work = 3 := rfl
  omega

theorem steps_le_credits_race : ∃ s, machine.Run .init raceSchedule s ∧
    raceSchedule.length ≤ credits raceSchedule + 3 := by
  have hreplay : Transition.System.replay machineNext .init raceSchedule = some (_, _) := rfl
  have hrun : machine.Run .init _ _ :=
    Transition.System.run_of_replay (fun _ _ _ _ ↦ machine_step_of_next) hreplay
  exact ⟨_, hrun, steps_le_credits hrun⟩

end HostcomputeNspawn.CallbackLatch
