import HostcomputeNspawn.Semantics.Transition
import Mathlib.Logic.Function.Basic

/-!
# The callback latch

`callback_latch` as a machine of atomic steps.  The main thread locks the mutex, calls the
container service, and then either cancels or awaits a notification; every notification is
delivered on a thread of its own, which swaps the flag of its type without the mutex and only
then takes the mutex to notify.  `await` reads the flag under the mutex; if it has read that the
flag is not set, it releases the mutex and falls asleep in one step.  The flag may be set between
the check and the sleep.

The machine does not require its callers to use it in brackets: `lock` leaks the ownership of the
mutex on purpose, and `await` and `cancel` adopt it without a check.  The bracketed machine adds
that discipline for the main thread.
-/

namespace HostcomputeNspawn

/-- `notification_type`, a scoped enumeration over `uint32_t`: a cast may produce any value. -/
inductive NotificationType
  | systemExit
  | systemCreateComplete
  | systemStartComplete
  | systemPauseComplete
  | systemResumeComplete
  | processExit
  | commonInvalid
  | commonServiceDisconnect
  | other (value : UInt32)
deriving DecidableEq, Repr

/-- `static_cast<notification_type>`. -/
def NotificationType.ofUInt32 (value : UInt32) : NotificationType :=
  if value = 0x00000001 then .systemExit
  else if value = 0x00000002 then .systemCreateComplete
  else if value = 0x00000003 then .systemStartComplete
  else if value = 0x00000004 then .systemPauseComplete
  else if value = 0x00000005 then .systemResumeComplete
  else if value = 0x00010000 then .processExit
  else if value = 0x00000000 then .commonInvalid
  else if value = 0x01000000 then .commonServiceDisconnect
  else .other value

/-- The arguments of `container_callback` other than its context; the data is only logged. -/
structure Notification where
  notificationType : UInt32
  notificationStatus : Int32
deriving DecidableEq, Repr

namespace CallbackLatch

/-- The pairs of a condition variable and a flag that a latch has. -/
inductive Slot
  | systemCreate
  | systemStart
  | systemExit
  | processExit
deriving DecidableEq, Repr

/-- The `switch` shared by `await` and `unlock`. -/
def slot : NotificationType → Option Slot
  | .systemCreateComplete => some .systemCreate
  | .systemStartComplete => some .systemStart
  | .systemExit => some .systemExit
  | .processExit => some .processExit
  | _ => none

/-- The slot that `container_callback` unlocks for a `notificationType`. -/
def unlocks (notificationType : UInt32) : Option Slot := slot (.ofUInt32 notificationType)

/-- The value of the notification that a slot is for, in the interface of the container service. -/
def Slot.notificationType : Slot → UInt32
  | .systemCreate => 0x00000002
  | .systemStart => 0x00000003
  | .systemExit => 0x00000001
  | .processExit => 0x00010000

/-- A notification unlocks the slot that it is for, and no other. -/
theorem unlocks_eq_some_iff {notificationType : UInt32} {x : Slot} :
    unlocks notificationType = some x ↔ notificationType = x.notificationType := by
  unfold unlocks NotificationType.ofUInt32
  repeat' split
  all_goals cases x <;> simp_all [slot, Slot.notificationType]

theorem Slot.notificationType_injective : Function.Injective Slot.notificationType := by
  intro x y hxy
  have hx : unlocks x.notificationType = some x := unlocks_eq_some_iff.mpr rfl
  have hy : unlocks x.notificationType = some y := unlocks_eq_some_iff.mpr hxy
  exact Option.some.inj (hx.symm.trans hy)

/-- The methods that the main thread calls on a latch, with the slot that `await` selects. -/
inductive Method
  | lock
  | cancel
  | await (x : Slot)
deriving DecidableEq, Repr

/-- Who owns the mutex. -/
inductive Owner
  | main
  | callback (id : ℕ)
deriving DecidableEq, Repr

/-- Where the main thread is; `running` is anywhere outside the methods of the latch. -/
inductive MainPc
  | running
  | locking
  | cancelling
  | checking (x : Slot)
  | checked (x : Slot) (flag : Bool)
  | asleep (x : Slot)
  | woken (x : Slot)
deriving DecidableEq, Repr

/-- Where a callback thread is in `unlock` and `unlock_internal`. -/
inductive CallbackPc
  | entered (n : Notification)
  | swapped (x : Slot)
  | locked (x : Slot)
  | notified (x : Slot)
  | ended
deriving DecidableEq, Repr

/-- The mutex, the four flags, and the two kinds of threads that use them.  Only the main thread
ever sleeps on a condition variable, so its program counter is the set of sleepers. -/
structure State where
  mutex : Option Owner
  flag : Slot → Bool
  main : MainPc
  callbacks : List CallbackPc

/-- A latch just constructed, before any thread uses it. -/
def State.init : State where
  mutex := none
  flag := fun _ ↦ false
  main := .running
  callbacks := []

/-- The atomic steps.  `check` is the predicate of `cv.wait`, which reads the flag; `sleep`, `wake`
and `reacquire` are the inside of the wait, and `wake` is a spurious one. -/
inductive Label
  | lockCall
  | lockReturn
  | cancelCall
  | cancelReturn
  | awaitCall (x : Slot)
  | check (x : Slot)
  | awaitReturn (x : Slot)
  | sleep (x : Slot)
  | wake (x : Slot)
  | reacquire (x : Slot)
  | enter (n : Notification)
  | swap (id : ℕ) (n : Notification)
  | acquire (id : ℕ) (x : Slot)
  | notify (id : ℕ) (x : Slot)
  | release (id : ℕ) (x : Slot)
deriving DecidableEq, Repr

/-- `compare_exchange_strong` on the flag of the notification, without the mutex: the loser and a
callback of an unsupported type are done. -/
def State.swap (s : State) (id : ℕ) (n : Notification) : State :=
  match unlocks n.notificationType with
  | none => { s with callbacks := s.callbacks.set id .ended }
  | some x =>
    if s.flag x then { s with callbacks := s.callbacks.set id .ended }
    else { s with
      flag := Function.update s.flag x true
      callbacks := s.callbacks.set id (.swapped x) }

/-- The exchange sets the flag of its slot and no other. -/
theorem flag_swap_iff {s : State} {id : ℕ} {n : Notification} {x : Slot} :
    (s.swap id n).flag x = true ↔ s.flag x = true ∨ n.notificationType = x.notificationType := by
  rw [← unlocks_eq_some_iff, State.swap]
  split
  · next hslot => simp [hslot]
  · next y hslot =>
    rw [hslot, Option.some.injEq]
    split
    · next hflag =>
      refine ⟨Or.inl, fun h ↦ ?_⟩
      cases h with
      | inl hset => exact hset
      | inr hxy => exact hxy ▸ hflag
    · by_cases hxy : y = x
      · simp [hxy]
      · simp [Function.update_of_ne (Ne.symm hxy), hxy]

/-- `cv.notify_all()`: the main thread wakes up if it sleeps on this condition variable. -/
def MainPc.notifyAll (x : Slot) (pc : MainPc) : MainPc := if pc = .asleep x then .woken x else pc

/-- One atomic step of the latch, where it is enabled. -/
def step (s : State) : Label → Option State
  | .lockCall => if s.main = .running then some { s with main := .locking } else none
  | .lockReturn =>
    if s.main = .locking ∧ s.mutex = none then
      some { s with main := .running, mutex := some .main }
    else none
  | .cancelCall => if s.main = .running then some { s with main := .cancelling } else none
  | .cancelReturn =>
    if s.main = .cancelling ∧ s.mutex = some .main then
      some { s with main := .running, mutex := none }
    else none
  | .awaitCall x => if s.main = .running then some { s with main := .checking x } else none
  | .check x => if s.main = .checking x then some { s with main := .checked x (s.flag x) } else none
  | .awaitReturn x =>
    if s.main = .checked x true ∧ s.mutex = some .main then
      some { s with main := .running, mutex := none }
    else none
  | .sleep x =>
    if s.main = .checked x false ∧ s.mutex = some .main then
      some { s with main := .asleep x, mutex := none }
    else none
  | .wake x => if s.main = .asleep x then some { s with main := .woken x } else none
  | .reacquire x =>
    if s.main = .woken x ∧ s.mutex = none then
      some { s with main := .checking x, mutex := some .main }
    else none
  | .enter n => some { s with callbacks := s.callbacks ++ [.entered n] }
  | .swap id n => if s.callbacks[id]? = some (.entered n) then some (s.swap id n) else none
  | .acquire id x =>
    if s.callbacks[id]? = some (.swapped x) ∧ s.mutex = none then
      some { s with mutex := some (.callback id), callbacks := s.callbacks.set id (.locked x) }
    else none
  | .notify id x =>
    if s.callbacks[id]? = some (.locked x) then
      some { s with main := s.main.notifyAll x, callbacks := s.callbacks.set id (.notified x) }
    else none
  | .release id x =>
    if s.callbacks[id]? = some (.notified x) then
      some { s with mutex := none, callbacks := s.callbacks.set id .ended }
    else none

/-- A flag that is set stays set. -/
theorem flag_step {s t : State} {label : Label} {x : Slot} (hstep : step s label = some t)
    (hflag : s.flag x = true) : t.flag x = true := by
  cases label with
  | swap id n =>
    simp only [step, Option.ite_none_right_eq_some, Option.some.injEq] at hstep
    obtain ⟨-, rfl⟩ := hstep
    exact flag_swap_iff.mpr (Or.inl hflag)
  | enter n =>
    simp only [step, Option.some.injEq] at hstep
    exact hstep ▸ hflag
  | _ =>
    simp only [step] at hstep
    grind

/-- The latch with callers that may use it in any order. -/
def machine : Transition.System State Label where
  step s label t := step s label = some t

/-- The main thread calls `lock` only outside a bracket, and `cancel` and `await` only inside. -/
def Label.Bracketed (s : State) : Label → Prop
  | .lockCall => s.mutex ≠ some .main
  | .cancelCall => s.mutex = some .main
  | .awaitCall _ => s.mutex = some .main
  | _ => True

instance (s : State) (label : Label) : Decidable (label.Bracketed s) :=
  match label with
  | .lockCall => inferInstanceAs (Decidable (s.mutex ≠ some .main))
  | .cancelCall | .awaitCall _ => inferInstanceAs (Decidable (s.mutex = some .main))
  | .lockReturn | .cancelReturn | .check _ | .awaitReturn _ | .sleep _ | .wake _
  | .reacquire _ | .enter _ | .swap _ _ | .acquire _ _ | .notify _ _ | .release _ _ =>
    inferInstanceAs (Decidable True)

/-- The latch with a main thread that runs any sequence of brackets. -/
def bracketed : Transition.System State Label where
  step s label t := label.Bracketed s ∧ step s label = some t

/-- The step function of `bracketed`, for replaying a list of labels. -/
def bracketedNext (s : State) (label : Label) : Option (Label × State) :=
  if label.Bracketed s then (step s label).map (label, ·) else none

theorem bracketed_step_of_next {s : State} {choice label : Label} {t : State}
    (hnext : bracketedNext s choice = some (label, t)) : bracketed.step s label t := by
  simp only [bracketedNext, Option.ite_none_right_eq_some, Option.map_eq_some_iff,
    Prod.mk.injEq] at hnext
  obtain ⟨hbracket, u, hstep, rfl, rfl⟩ := hnext
  exact ⟨hbracket, hstep⟩

/-! ## Invariants of the latch -/

/-- A callback owns the mutex exactly while it is between its lock and its release. -/
def Owned (s : State) : Prop :=
  ∀ id, s.mutex = some (.callback id) ↔
    ∃ x, s.callbacks[id]? = some (.locked x) ∨ s.callbacks[id]? = some (.notified x)

/-- A callback has won the swap on `x` and does not have the mutex yet. -/
def Coming (s : State) (x : Slot) : Prop := ∃ id : ℕ, s.callbacks[id]? = some (.swapped x)

/-- A callback has won the swap on `x` and has not notified yet. -/
def Pending (s : State) (x : Slot) : Prop :=
  ∃ id : ℕ, s.callbacks[id]? = some (.swapped x) ∨ s.callbacks[id]? = some (.locked x)

/-- What the main thread has read of a set flag is still true. -/
def Read (s : State) : Prop := ∀ x, s.main = .checked x true → s.flag x = true

/-- A flag that has been set since the main thread read it has been set by a callback that the
mutex of the main thread still keeps from notifying. -/
def Warned (s : State) : Prop :=
  ∀ x, s.main = .checked x false → s.mutex = some .main → s.flag x = true → Coming s x

/-- The main thread sleeps on a set flag only while its wake-up is pending. -/
def Awake (s : State) : Prop := ∀ x, s.main = .asleep x → s.flag x = true → Pending s x

/-- Inside the methods of the latch the main thread owns the mutex where the code relies on it. -/
structure MainOwned (s : State) : Prop where
  locking : s.main = .locking → s.mutex ≠ some .main
  cancelling : s.main = .cancelling → s.mutex = some .main
  checking : ∀ x, s.main = .checking x → s.mutex = some .main
  checked : ∀ x flag, s.main = .checked x flag → s.mutex = some .main
  asleep : ∀ x, s.main = .asleep x → s.mutex ≠ some .main
  woken : ∀ x, s.main = .woken x → s.mutex ≠ some .main

theorem owned_init : Owned .init := by
  intro id
  simp [State.init]

theorem read_init : Read .init := by
  intro x hmain
  simp [State.init] at hmain

theorem warned_init : Warned .init := by
  intro x hmain
  simp [State.init] at hmain

theorem awake_init : Awake .init := by
  intro x hmain
  simp [State.init] at hmain

theorem mainOwned_init : MainOwned .init := by
  constructor <;> simp [State.init]

theorem machine_preserves_owned : machine.Preserves Owned := by
  intro s label t hstep hs id
  have hid := hs id
  cases label with
  | release id' x =>
    have hid' := hs id'
    simp only [machine, step] at hstep
    grind
  | _ =>
    simp only [machine, step, State.swap] at hstep
    grind

/-- A callback on its way to the mutex is still there after the step of another one. -/
theorem Coming.set {s t : State} {x : Slot} {id : ℕ} {pc pc' : CallbackPc} (hcoming : Coming s x)
    (hcallbacks : t.callbacks = s.callbacks.set id pc') (hid : s.callbacks[id]? = some pc)
    (hpc : pc ≠ .swapped x) : Coming t x := by
  obtain ⟨other, hother⟩ := hcoming
  refine ⟨other, ?_⟩
  rw [hcallbacks, List.getElem?_set]
  split <;> grind

/-- A pending wake-up survives the step of a callback that had no wake-up on `x` to lose. -/
theorem Pending.set {s t : State} {x : Slot} {id : ℕ} {pc pc' : CallbackPc}
    (hpending : Pending s x) (hcallbacks : t.callbacks = s.callbacks.set id pc')
    (hid : s.callbacks[id]? = some pc) (hpc : pc ≠ .locked x)
    (hpc' : pc = .swapped x → pc' = .locked x) : Pending t x := by
  obtain ⟨other, hother⟩ := hpending
  refine ⟨other, ?_⟩
  rw [hcallbacks, List.getElem?_set]
  split <;> grind

theorem swap_main (s : State) (id : ℕ) (n : Notification) : (s.swap id n).main = s.main := by
  unfold State.swap
  split <;> first | rfl | (split <;> rfl)

theorem swap_mutex (s : State) (id : ℕ) (n : Notification) : (s.swap id n).mutex = s.mutex := by
  unfold State.swap
  split <;> first | rfl | (split <;> rfl)

/-- An exchange moves no other callback. -/
theorem getElem?_swap_of_ne {s : State} {id other : ℕ} (hother : other ≠ id) (n : Notification) :
    (s.swap id n).callbacks[other]? = s.callbacks[other]? := by
  unfold State.swap
  split <;> grind

/-- The winner of the swap that sets a flag is the one to notify. -/
theorem coming_of_swap {s : State} {x : Slot} {id : ℕ} {n : Notification}
    (hid : s.callbacks[id]? = some (.entered n)) (hbefore : s.flag x = false)
    (hflag : (s.swap id n).flag x = true) : Coming (s.swap id n) x := by
  have hslot : unlocks n.notificationType = some x := by
    rcases flag_swap_iff.mp hflag with hset | htype
    · simp [hbefore] at hset
    · exact unlocks_eq_some_iff.mpr htype
  refine ⟨id, ?_⟩
  simp only [State.swap, hslot, hbefore, Bool.false_eq_true, if_false]
  grind

theorem machine_preserves_read : machine.Preserves Read := by
  intro s label t hstep hs x hmain
  have hkeeps (hbefore : s.main = .checked x true) : t.flag x = true :=
    flag_step hstep (hs x hbefore)
  cases label with
  | swap id n =>
    simp only [machine, step, Option.ite_none_right_eq_some, Option.some.injEq] at hstep
    obtain ⟨-, rfl⟩ := hstep
    exact hkeeps (swap_main s id n ▸ hmain)
  | _ =>
    simp only [machine, step, MainPc.notifyAll] at hstep
    grind

/-- Between the check and the sleep, the mutex keeps every callback that sets the flag from
notifying too early. -/
theorem machine_preserves_warned : machine.Preserves Warned := by
  intro s label t hstep hs x hmain hmutex hflag
  have hx := hs x
  cases label with
  | enter n =>
    simp only [machine, step, Option.some.injEq] at hstep
    subst hstep
    obtain ⟨id, hid⟩ := hx hmain hmutex hflag
    exact ⟨id, by grind⟩
  | swap id n =>
    simp only [machine, step, Option.ite_none_right_eq_some, Option.some.injEq] at hstep
    obtain ⟨hid, rfl⟩ := hstep
    rw [swap_main] at hmain
    rw [swap_mutex] at hmutex
    cases hbefore : s.flag x with
    | true =>
      obtain ⟨other, hother⟩ := hx hmain hmutex hbefore
      exact ⟨other, by rw [getElem?_swap_of_ne (by grind), hother]⟩
    | false => exact coming_of_swap hid hbefore hflag
  | notify id y =>
    simp only [machine, step, Option.ite_none_right_eq_some, Option.some.injEq] at hstep
    obtain ⟨hid, rfl⟩ := hstep
    simp only [MainPc.notifyAll] at hmain
    split at hmain
    · simp at hmain
    · exact (hx hmain hmutex hflag).set rfl hid (by simp)
  | _ =>
    -- the flag has just been read as not set, or the main thread does not own the mutex
    simp only [machine, step] at hstep
    grind

theorem machine_preserves_awake : machine.Preserves fun s ↦ Warned s ∧ Awake s := by
  rintro s label t hstep ⟨hwarned, hs⟩
  refine ⟨machine_preserves_warned hstep hwarned, fun x hmain hflag ↦ ?_⟩
  have hx := hs x
  cases label with
  | enter n =>
    simp only [machine, step, Option.some.injEq] at hstep
    subst hstep
    obtain ⟨id, hid⟩ := hx hmain hflag
    exact ⟨id, by grind⟩
  | sleep y =>
    -- a callback that has set the flag since the check has still to take the mutex
    simp only [machine, step, Option.ite_none_right_eq_some, Option.some.injEq] at hstep
    obtain ⟨⟨hchecked, howner⟩, rfl⟩ := hstep
    obtain rfl : y = x := by simpa using hmain
    obtain ⟨id, hid⟩ := hwarned y hchecked howner hflag
    exact ⟨id, Or.inl hid⟩
  | swap id n =>
    simp only [machine, step, Option.ite_none_right_eq_some, Option.some.injEq] at hstep
    obtain ⟨hid, rfl⟩ := hstep
    rw [swap_main] at hmain
    cases hbefore : s.flag x with
    | true =>
      obtain ⟨other, hother⟩ := hx hmain hbefore
      exact ⟨other, by rw [getElem?_swap_of_ne (by grind)]; exact hother⟩
    | false => exact (coming_of_swap hid hbefore hflag).imp fun _ ↦ Or.inl
  | acquire id y =>
    simp only [machine, step, Option.ite_none_right_eq_some, Option.some.injEq] at hstep
    obtain ⟨⟨hid, -⟩, rfl⟩ := hstep
    exact (hx hmain hflag).set rfl hid (by simp) (by simp)
  | notify id y =>
    simp only [machine, step, Option.ite_none_right_eq_some, Option.some.injEq] at hstep
    obtain ⟨hid, rfl⟩ := hstep
    simp only [MainPc.notifyAll] at hmain
    split at hmain
    · simp at hmain
    · exact (hx hmain hflag).set rfl hid (by grind) (by simp)
  | release id y =>
    simp only [machine, step, Option.ite_none_right_eq_some, Option.some.injEq] at hstep
    obtain ⟨hid, rfl⟩ := hstep
    exact (hx hmain hflag).set rfl hid (by simp) (by simp)
  | _ =>
    simp only [machine, step] at hstep
    grind [Pending]

/-- The callbacks never take the mutex from the main thread, so its brackets keep it. -/
theorem bracketed_preserves_mainOwned :
    bracketed.Preserves fun s ↦ Owned s ∧ MainOwned s := by
  rintro s label t ⟨hlabel, hstep⟩ ⟨howned, hs⟩
  refine ⟨machine_preserves_owned hstep howned, ?_⟩
  obtain ⟨hlocking, hcancelling, hchecking, hchecked, hasleep, hwoken⟩ := hs
  cases label with
  | release id x =>
    have hid := howned id
    simp only [step] at hstep
    constructor <;> grind
  | _ =>
    simp only [step, State.swap, MainPc.notifyAll, Label.Bracketed] at hstep hlabel
    constructor <;> grind

end CallbackLatch

end HostcomputeNspawn
