import HostcomputeNspawn.CallbackLatch

/-!
# The latch loses no wake-up and does not deadlock

The flag is set outside the mutex, so a notification may fall between the check of `await` and its
sleep.  The main thread owns the mutex there, so the callback that has set the flag cannot notify
before the sleep: a sleeper on a set flag always has a callback on its way to `notify_all`.
Together with the ownership of the mutex this shows that some thread can always move, unless there
is nothing left to wait for but a notification that has not been delivered.
-/

namespace HostcomputeNspawn.CallbackLatch

/-- What holds of the latch between any two steps of a main thread that uses brackets. -/
structure Inv (s : State) : Prop where
  owned : Owned s
  mainOwned : MainOwned s
  read : Read s
  warned : Warned s
  awake : Awake s

theorem inv_init : Inv .init :=
  ⟨owned_init, mainOwned_init, read_init, warned_init, awake_init⟩

theorem bracketed_preserves_inv : bracketed.Preserves Inv := by
  intro s label t hstep hs
  obtain ⟨howned, hmain⟩ := bracketed_preserves_mainOwned hstep ⟨hs.owned, hs.mainOwned⟩
  obtain ⟨hwarned, hawake⟩ := machine_preserves_awake hstep.2 ⟨hs.warned, hs.awake⟩
  exact ⟨howned, hmain, machine_preserves_read hstep.2 hs.read, hwarned, hawake⟩

theorem inv_of_reachable {s : State} (hreach : bracketed.Reachable .init s) : Inv s := by
  obtain ⟨labels, hrun⟩ := hreach
  exact hrun.invariant bracketed_preserves_inv inv_init

/-- The steps that finish what the threads have begun: no spurious wake-up, no new callback and
no new bracket. -/
def Label.Finishing : Label → Prop
  | .wake _ => False
  | .enter _ => False
  | .lockCall => False
  | _ => True

/-- Some thread can go on with what it has begun. -/
def CanFinish (s : State) : Prop := ∃ label t, label.Finishing ∧ bracketed.step s label t

/-- Nothing is left to do before the main thread opens its next bracket or the notification that
it sleeps on is delivered. -/
def Settled (s : State) : Prop :=
  (∀ pc ∈ s.callbacks, pc = .ended) ∧ s.mutex = none ∧
    (s.main = .running ∨ ∃ x, s.main = .asleep x ∧ s.flag x = false)

theorem canFinish_of_step {s : State} (label : Label) (hlabel : label.Finishing)
    (hbracket : label.Bracketed s) (hstep : (step s label).isSome) : CanFinish s := by
  obtain ⟨t, ht⟩ := Option.isSome_iff_exists.mp hstep
  exact ⟨label, t, hlabel, hbracket, ht⟩

/-- A callback that owns the mutex gives it back. -/
theorem canFinish_of_callback_owner {s : State} (hs : Inv s) {id : ℕ}
    (howner : s.mutex = some (.callback id)) : CanFinish s := by
  obtain ⟨x, hlocked | hnotified⟩ := (hs.owned id).mp howner
  · exact canFinish_of_step (.notify id x) trivial trivial (by simp [step, hlocked])
  · exact canFinish_of_step (.release id x) trivial trivial (by simp [step, hnotified])

/-- The main thread never stops while it owns the mutex. -/
theorem canFinish_of_main_owner {s : State} (hs : Inv s) (howner : s.mutex = some .main) :
    CanFinish s := by
  cases hmain : s.main with
  | running =>
    exact canFinish_of_step .cancelCall trivial howner (by simp [step, hmain])
  | locking => exact absurd howner (hs.mainOwned.locking hmain)
  | cancelling =>
    exact canFinish_of_step .cancelReturn trivial trivial (by simp [step, hmain, howner])
  | checking x => exact canFinish_of_step (.check x) trivial trivial (by simp [step, hmain])
  | checked x flag =>
    cases flag with
    | true =>
      exact canFinish_of_step (.awaitReturn x) trivial trivial (by simp [step, hmain, howner])
    | false => exact canFinish_of_step (.sleep x) trivial trivial (by simp [step, hmain, howner])
  | asleep x => exact absurd howner (hs.mainOwned.asleep x hmain)
  | woken x => exact absurd howner (hs.mainOwned.woken x hmain)

/-- A callback that has not ended can move when the mutex is free. -/
theorem canFinish_of_callback {s : State} (hfree : s.mutex = none) {pc : CallbackPc}
    (hpc : pc ∈ s.callbacks) (hended : pc ≠ .ended) : CanFinish s := by
  obtain ⟨id, hid⟩ := List.getElem?_of_mem hpc
  cases pc with
  | entered n =>
    exact canFinish_of_step (.swap id n) trivial trivial (by simp [step, hid])
  | swapped x =>
    exact canFinish_of_step (.acquire id x) trivial trivial (by simp [step, hid, hfree])
  | locked x => exact canFinish_of_step (.notify id x) trivial trivial (by simp [step, hid])
  | notified x => exact canFinish_of_step (.release id x) trivial trivial (by simp [step, hid])
  | ended => exact absurd rfl hended

theorem canFinish_or_settled {s : State} (hs : Inv s) : CanFinish s ∨ Settled s := by
  cases howner : s.mutex with
  | some owner =>
    left
    cases owner with
    | main => exact canFinish_of_main_owner hs howner
    | callback id => exact canFinish_of_callback_owner hs howner
  | none =>
    by_cases hended : ∀ pc ∈ s.callbacks, pc = .ended
    · cases hmain : s.main with
      | running => exact Or.inr ⟨hended, howner, Or.inl hmain⟩
      | locking =>
        exact Or.inl (canFinish_of_step .lockReturn trivial trivial (by simp [step, hmain, howner]))
      | cancelling => simp [hs.mainOwned.cancelling hmain] at howner
      | checking x => simp [hs.mainOwned.checking x hmain] at howner
      | checked x flag => simp [hs.mainOwned.checked x flag hmain] at howner
      | asleep x =>
        -- a set flag would leave a callback on its way to wake the sleeper
        refine Or.inr ⟨hended, howner, Or.inr ⟨x, hmain, ?_⟩⟩
        by_contra hflag
        obtain ⟨id, hid⟩ := hs.awake x hmain (by simpa using hflag)
        rcases hid with hid | hid <;> have := hended _ (List.mem_of_getElem? hid) <;> simp at this
      | woken x =>
        exact Or.inl
          (canFinish_of_step (.reacquire x) trivial trivial (by simp [step, hmain, howner]))
    · push Not at hended
      obtain ⟨pc, hpc, hne⟩ := hended
      exact Or.inl (canFinish_of_callback howner hpc hne)

/-- In every reachable state of the latch, a sleeper on a set flag has a callback that has won
the swap and not notified yet, and some thread can go on unless everything is settled. -/
theorem no_lost_wakeup_no_deadlock {s : State} (hreach : bracketed.Reachable .init s) :
    (∀ x, s.main = .asleep x → s.flag x = true → Pending s x) ∧ (CanFinish s ∨ Settled s) :=
  ⟨(inv_of_reachable hreach).awake, canFinish_or_settled (inv_of_reachable hreach)⟩

/-- A schedule through the dangerous window: the callback sets the flag after the main thread has
read it and before it falls asleep. -/
def windowSchedule : List Label :=
  [.lockCall, .lockReturn, .enter ⟨2, 0⟩, .awaitCall .systemCreate, .check .systemCreate,
    .swap 0 ⟨2, 0⟩, .sleep .systemCreate]

theorem no_lost_wakeup_no_deadlock_window : ∃ s : State, bracketed.Run .init windowSchedule s ∧
    s.main = .asleep .systemCreate ∧ s.flag .systemCreate = true ∧ Pending s .systemCreate ∧
      (CanFinish s ∨ Settled s) := by
  have hreplay : Transition.System.replay bracketedNext .init windowSchedule = some (_, _) := rfl
  have hrun : bracketed.Run .init _ _ :=
    Transition.System.run_of_replay (fun _ _ _ _ ↦ bracketed_step_of_next) hreplay
  have h := no_lost_wakeup_no_deadlock ⟨_, hrun⟩
  exact ⟨_, hrun, rfl, rfl, h.1 _ rfl rfl, h.2⟩

end HostcomputeNspawn.CallbackLatch
