import HostcomputeNspawn.CallbackLatch.Progress
import HostcomputeNspawn.Semantics.Delivery
import Mathlib.Data.Set.Image
import Mathlib.Data.Set.Insert

/-!
# The latch is a monotone set of delivered notifications

Seen from outside, the mutex, the flags, the condition variables and the callback threads of the
latch do nothing but collect the delivered notification types: a state of the latch stands for
the set of the notification types whose flags are raised and the phase of the main thread.  A step
of the latch is at most one abstract step.  Conversely every abstract step is matched by steps of
the latch, and where the main thread sleeps, by the callbacks that owe it a wake-up and never by a
spurious one.
-/

namespace HostcomputeNspawn.CallbackLatch

open Transition.System

/-- The notification types that a latch supports: `system_exit`, `system_create_complete`,
`system_start_complete` and `process_exit`. -/
def supported : Set UInt32 := {0x00000001, 0x00000002, 0x00000003, 0x00010000}

theorem mem_supported {notificationType : UInt32} :
    notificationType ∈ supported ↔ ∃ x : Slot, x.notificationType = notificationType := by
  simp only [supported, Set.mem_insert_iff, Set.mem_singleton_iff]
  constructor
  · rintro (rfl | rfl | rfl | rfl)
    · exact ⟨.systemExit, rfl⟩
    · exact ⟨.systemCreate, rfl⟩
    · exact ⟨.systemStart, rfl⟩
    · exact ⟨.processExit, rfl⟩
  · rintro ⟨x, rfl⟩
    cases x <;> simp [Slot.notificationType]

/-- What an observer sees of the latch; a callback delivers its notification when it swaps. -/
def observe : Label → Option (Delivery.Event UInt32)
  | .lockCall => some .lockCall
  | .lockReturn => some .lockReturn
  | .cancelCall => some .cancelCall
  | .cancelReturn => some .cancelReturn
  | .awaitCall x => some (.awaitCall x.notificationType)
  | .awaitReturn x => some (.awaitReturn x.notificationType)
  | .swap _ n => some (.deliver n.notificationType)
  | _ => none

/-- The phase of the main thread; asleep or awake, it is inside `await`. -/
def State.phase (s : State) : Delivery.Phase UInt32 :=
  match s.main with
  | .running => if s.mutex = some .main then .inside else .outside
  | .locking => .locking
  | .cancelling => .cancelling
  | .checking x | .checked x _ | .asleep x | .woken x => .awaiting x.notificationType

/-- The notification types whose flags are raised. -/
def State.delivered (s : State) : Set UInt32 := Slot.notificationType '' {x | s.flag x = true}

/-- The abstract state that a latch stands for. -/
def State.abstract (s : State) : Delivery.State UInt32 := ⟨s.delivered, s.phase⟩

theorem mem_delivered {s : State} {x : Slot} :
    x.notificationType ∈ s.delivered ↔ s.flag x = true :=
  Slot.notificationType_injective.mem_set_image

theorem delivered_congr {s t : State} (hflag : t.flag = s.flag) : t.delivered = s.delivered := by
  rw [State.delivered, State.delivered, hflag]

theorem abstract_init : State.abstract .init = .init := by
  simp [State.abstract, State.delivered, State.phase, State.init, Delivery.State.init]

theorem abstract_congr {s t : State} (hflag : t.flag = s.flag) (hphase : t.phase = s.phase) :
    t.abstract = s.abstract := Delivery.State.ext (delivered_congr hflag) hphase

/-- A step of the client that leaves the flags alone. -/
theorem client_step {s t : State} {p q : Delivery.Phase UInt32} {event : Delivery.Event UInt32}
    (hevent : Delivery.Step supported ⟨s.delivered, p⟩ event ⟨s.delivered, q⟩)
    (hs : s.phase = p) (hflag : t.flag = s.flag) (ht : t.phase = q) :
    Delivery.Step supported s.abstract event t.abstract := by
  unfold State.abstract
  rw [hs, ht, delivered_congr hflag]
  exact hevent

/-- Swapping the flag of a notification delivers it: a duplicate and an unsupported type leave
the set as it is. -/
theorem delivered_swap (s : State) (id : ℕ) (n : Notification) :
    (s.swap id n).delivered = Delivery.deliver supported s.delivered n.notificationType := by
  ext message
  simp only [State.delivered, Delivery.deliver, Set.mem_image, Set.mem_ofPred_eq, Set.mem_union,
    Set.mem_inter_iff, Set.mem_singleton_iff, mem_supported, flag_swap_iff]
  constructor
  · rintro ⟨x, hset | htype, rfl⟩
    · exact Or.inl ⟨x, hset, rfl⟩
    · exact Or.inr ⟨htype.symm, x, rfl⟩
  · rintro (⟨x, hset, rfl⟩ | ⟨htype, x, rfl⟩)
    · exact ⟨x, Or.inl hset, rfl⟩
    · exact ⟨x, Or.inr htype.symm, rfl⟩

theorem abstract_swap (s : State) (id : ℕ) (n : Notification) : (s.swap id n).abstract =
    ⟨Delivery.deliver supported s.delivered n.notificationType, s.phase⟩ := by
  simp only [State.abstract, State.phase, delivered_swap, swap_mutex, swap_main]

/-- A notification moves the main thread inside `await` only. -/
theorem phase_notify {s t : State} {x : Slot} (hmain : t.main = s.main.notifyAll x)
    (hmutex : t.mutex = s.mutex) : t.phase = s.phase := by
  unfold State.phase
  rw [hmain, hmutex, MainPc.notifyAll]
  by_cases h : s.main = .asleep x <;> simp [h]

/-- Who else owns the mutex does not matter for the phase of the main thread. -/
theorem phase_of_not_main {s t : State} (hmain : t.main = s.main)
    (hs : s.mutex ≠ some .main) (ht : t.mutex ≠ some .main) : t.phase = s.phase := by
  unfold State.phase
  rw [hmain]
  cases s.main <;> simp [hs, ht]

/-! ## Every step of the latch is at most one abstract step -/

theorem abstract_step {s t : State} {label : Label} (hs : Inv s)
    (hstep : bracketed.step s label t) :
    (Delivery.machine supported).StepOrStay s.abstract (observe label) t.abstract := by
  obtain ⟨hlabel, hstep⟩ := hstep
  cases label with
  | lockCall =>
    simp only [step, Option.ite_none_right_eq_some, Option.some.injEq] at hstep
    obtain ⟨hmain, rfl⟩ := hstep
    exact client_step (.lockCall _)
      (by simp [State.phase, hmain, show s.mutex ≠ _ from hlabel]) rfl rfl
  | lockReturn =>
    simp only [step, Option.ite_none_right_eq_some, Option.some.injEq] at hstep
    obtain ⟨⟨hmain, -⟩, rfl⟩ := hstep
    exact client_step (.lockReturn _) (by simp [State.phase, hmain]) rfl
      (by simp [State.phase])
  | cancelCall =>
    simp only [step, Option.ite_none_right_eq_some, Option.some.injEq] at hstep
    obtain ⟨hmain, rfl⟩ := hstep
    exact client_step (.cancelCall _)
      (by simp [State.phase, hmain, show s.mutex = _ from hlabel]) rfl rfl
  | cancelReturn =>
    simp only [step, Option.ite_none_right_eq_some, Option.some.injEq] at hstep
    obtain ⟨⟨hmain, -⟩, rfl⟩ := hstep
    exact client_step (.cancelReturn _) (by simp [State.phase, hmain]) rfl
      (by simp [State.phase])
  | awaitCall x =>
    simp only [step, Option.ite_none_right_eq_some, Option.some.injEq] at hstep
    obtain ⟨hmain, rfl⟩ := hstep
    exact client_step (.awaitCall _ _ (mem_supported.mpr ⟨x, rfl⟩))
      (by simp [State.phase, hmain, show s.mutex = _ from hlabel]) rfl rfl
  | awaitReturn x =>
    -- the flag was set when it was checked, and nothing takes it back
    simp only [step, Option.ite_none_right_eq_some, Option.some.injEq] at hstep
    obtain ⟨⟨hmain, -⟩, rfl⟩ := hstep
    exact client_step (.awaitReturn _ _ (mem_delivered.mpr (hs.read x hmain)))
      (by simp [State.phase, hmain]) rfl (by simp [State.phase])
  | check x =>
    simp only [step, Option.ite_none_right_eq_some, Option.some.injEq] at hstep
    obtain ⟨hmain, rfl⟩ := hstep
    exact abstract_congr rfl (by simp [State.phase, hmain])
  | sleep x =>
    simp only [step, Option.ite_none_right_eq_some, Option.some.injEq] at hstep
    obtain ⟨⟨hmain, -⟩, rfl⟩ := hstep
    exact abstract_congr rfl (by simp [State.phase, hmain])
  | wake x =>
    simp only [step, Option.ite_none_right_eq_some, Option.some.injEq] at hstep
    obtain ⟨hmain, rfl⟩ := hstep
    exact abstract_congr rfl (by simp [State.phase, hmain])
  | reacquire x =>
    simp only [step, Option.ite_none_right_eq_some, Option.some.injEq] at hstep
    obtain ⟨⟨hmain, -⟩, rfl⟩ := hstep
    exact abstract_congr rfl (by simp [State.phase, hmain])
  | enter n =>
    simp only [step, Option.some.injEq] at hstep
    subst hstep
    exact abstract_congr rfl rfl
  | swap id n =>
    simp only [step, Option.ite_none_right_eq_some, Option.some.injEq] at hstep
    obtain ⟨-, rfl⟩ := hstep
    rw [abstract_swap]
    exact Delivery.Step.deliver _ _ _
  | acquire id x =>
    simp only [step, Option.ite_none_right_eq_some, Option.some.injEq] at hstep
    obtain ⟨⟨-, hfree⟩, rfl⟩ := hstep
    exact abstract_congr rfl (phase_of_not_main rfl (by simp [hfree]) (by simp))
  | notify id x =>
    simp only [step, Option.ite_none_right_eq_some, Option.some.injEq] at hstep
    obtain ⟨-, rfl⟩ := hstep
    exact abstract_congr rfl (phase_notify rfl rfl)
  | release id x =>
    simp only [step, Option.ite_none_right_eq_some, Option.some.injEq] at hstep
    obtain ⟨hid, rfl⟩ := hstep
    have howner := (hs.owned id).mpr ⟨x, Or.inr hid⟩
    exact abstract_congr rfl (phase_of_not_main rfl (by simp [howner]) (by simp))

theorem abstract_simulates_latch : bracketed.Simulates observe (Delivery.machine supported) some
    (fun s a ↦ Inv s ∧ s.abstract = a) :=
  simulates_of_map bracketed_preserves_inv fun _ _ _ ↦ abstract_step

/-! ## Every abstract step is matched by the latch -/

/-- The callback that owns the mutex notifies and releases it, silently. -/
theorem shows_free {s : State} (hs : Inv s) (howner : s.mutex ≠ some .main) :
    ∃ t, bracketed.Shows observe s [] t ∧ t.mutex = none ∧ t.flag = s.flag ∧
      (t.main = s.main ∨ ∃ x, s.main = .asleep x ∧ t.main = .woken x) := by
  have hrelease : ∀ u : State, Inv u → ∀ id x, u.callbacks[id]? = some (.notified x) →
      bracketed.step u (.release id x)
        { u with mutex := none, callbacks := u.callbacks.set id .ended } :=
    fun u _ id x hid ↦ ⟨trivial, by simp [step, hid]⟩
  cases hmutex : s.mutex with
  | none => exact ⟨s, Shows.refl s, hmutex, rfl, Or.inl rfl⟩
  | some owner =>
    cases owner with
    | main => exact absurd hmutex howner
    | callback id =>
      obtain ⟨x, hlocked | hnotified⟩ := (hs.owned id).mp hmutex
      · have hnotify : bracketed.step s (.notify id x) { s with
            main := s.main.notifyAll x, callbacks := s.callbacks.set id (.notified x) } :=
          ⟨trivial, by simp [step, hlocked]⟩
        have hlast := hrelease _ (bracketed_preserves_inv hnotify hs) id x (by grind)
        refine ⟨_, (Shows.silent hnotify rfl).before (Shows.silent hlast rfl), rfl, rfl, ?_⟩
        simp only [MainPc.notifyAll]
        split
        · exact Or.inr ⟨x, by assumption, rfl⟩
        · exact Or.inl rfl
      · exact ⟨_, Shows.silent (hrelease s hs id x hnotified) rfl, rfl, rfl, Or.inl rfl⟩

theorem inv_of_shows {s t : State} {events : List (Delivery.Event UInt32)}
    (hshows : bracketed.Shows observe s events t) (hs : Inv s) : Inv t := by
  obtain ⟨labels, hrun, -⟩ := hshows
  exact hrun.invariant bracketed_preserves_inv hs

/-- A main thread about to read a set flag reads that it is set. -/
theorem shows_checked_of_checking {s : State} {x : Slot} (hmain : s.main = .checking x)
    (hset : s.flag x = true) :
    ∃ t, bracketed.Shows observe s [] t ∧ t.main = .checked x true ∧ t.flag = s.flag := by
  have hstep : bracketed.step s (.check x) { s with main := .checked x (s.flag x) } :=
    ⟨trivial, by simp [step, hmain]⟩
  exact ⟨_, Shows.silent hstep rfl, congrArg (MainPc.checked x) hset, rfl⟩

/-- A woken main thread takes the mutex back as soon as the callbacks let it, and checks again. -/
theorem shows_checked_of_woken {s : State} (hs : Inv s) {x : Slot} (hmain : s.main = .woken x)
    (hset : s.flag x = true) :
    ∃ t, bracketed.Shows observe s [] t ∧ t.main = .checked x true ∧ t.flag = s.flag := by
  obtain ⟨t, hshows, hfree, hflag, hmain' | ⟨y, hasleep, -⟩⟩ :=
    shows_free hs (hs.mainOwned.woken x hmain)
  · have hstep : bracketed.step t (.reacquire x)
        { t with main := .checking x, mutex := some .main } :=
      ⟨trivial, by simp [step, hmain', hmain, hfree]⟩
    obtain ⟨u, hchecks, hchecked, hflag'⟩ := shows_checked_of_checking
      (s := { t with main := .checking x, mutex := some .main }) rfl (hflag ▸ hset)
    exact ⟨u, (hshows.before (Shows.silent hstep rfl)).before hchecks, hchecked,
      hflag'.trans hflag⟩
  · simp [hmain] at hasleep

/-- A main thread asleep on a set flag is woken by the callback that owes it the wake-up. -/
theorem shows_woken_of_asleep {s : State} (hs : Inv s) {x : Slot} (hmain : s.main = .asleep x)
    (hset : s.flag x = true) :
    ∃ t, bracketed.Shows observe s [] t ∧ t.main = .woken x ∧ t.flag = s.flag := by
  obtain ⟨t, hshows, hfree, hflag, hmain' | ⟨y, hasleep, hwoken⟩⟩ :=
    shows_free hs (hs.mainOwned.asleep x hmain)
  · -- the owner of the mutex did not notify `x`, so the winner of the swap is still to come
    have ht := inv_of_shows hshows hs
    obtain ⟨id, hswapped | hlocked⟩ := ht.awake x (hmain'.trans hmain) (by rw [hflag, hset])
    · have hacquire : bracketed.step t (.acquire id x)
          { t with mutex := some (.callback id), callbacks := t.callbacks.set id (.locked x) } :=
        ⟨trivial, by simp [step, hswapped, hfree]⟩
      have hnotify : bracketed.step
          { t with mutex := some (.callback id), callbacks := t.callbacks.set id (.locked x) }
          (.notify id x)
          { t with
            mutex := some (.callback id)
            main := t.main.notifyAll x
            callbacks := (t.callbacks.set id (.locked x)).set id (.notified x) } :=
        ⟨trivial, by simp only [step]; grind⟩
      refine ⟨_, hshows.before ((Shows.silent hacquire rfl).before (Shows.silent hnotify rfl)), ?_,
        hflag⟩
      simp [MainPc.notifyAll, hmain', hmain]
    · have howner := (ht.owned id).mpr ⟨x, Or.inl hlocked⟩
      simp [hfree] at howner
  · obtain rfl : x = y := by simpa [hmain] using hasleep
    exact ⟨t, hshows, hwoken, hflag⟩

/-- A main thread asleep on a set flag wakes up and checks again. -/
theorem shows_checked_of_asleep {s : State} (hs : Inv s) {x : Slot} (hmain : s.main = .asleep x)
    (hset : s.flag x = true) :
    ∃ t, bracketed.Shows observe s [] t ∧ t.main = .checked x true ∧ t.flag = s.flag := by
  obtain ⟨t, hshows, hwoken, hflag⟩ := shows_woken_of_asleep hs hmain hset
  obtain ⟨u, hchecks, hchecked, hflag'⟩ :=
    shows_checked_of_woken (inv_of_shows hshows hs) hwoken (hflag ▸ hset)
  exact ⟨u, hshows.before hchecks, hchecked, hflag'.trans hflag⟩

/-- A main thread that has read that a flag is not set sleeps, also when the flag has been set
since; then the callback that has set it wakes it up. -/
theorem shows_checked_of_window {s : State} (hs : Inv s) {x : Slot}
    (hmain : s.main = .checked x false) (hset : s.flag x = true) :
    ∃ t, bracketed.Shows observe s [] t ∧ t.main = .checked x true ∧ t.flag = s.flag := by
  have hstep : bracketed.step s (.sleep x) { s with main := .asleep x, mutex := none } :=
    ⟨trivial, by simp [step, hmain, hs.mainOwned.checked x false hmain]⟩
  obtain ⟨t, hshows, hchecked, hflag⟩ :=
    shows_checked_of_asleep (bracketed_preserves_inv hstep hs) rfl hset
  exact ⟨t, (Shows.silent hstep rfl).before hshows, hchecked, hflag⟩

theorem phase_eq_awaiting {s : State} {x : Slot} (hphase : s.phase = .awaiting x.notificationType) :
    s.main = .checking x ∨ (∃ flag, s.main = .checked x flag) ∨ s.main = .asleep x ∨
      s.main = .woken x := by
  have heq : ∀ y : Slot, y.notificationType = x.notificationType → y = x :=
    fun y hy ↦ Slot.notificationType_injective hy
  cases hmain : s.main with
  | running => by_cases h : s.mutex = some .main <;> simp [State.phase, hmain, h] at hphase
  | locking => simp [State.phase, hmain] at hphase
  | cancelling => simp [State.phase, hmain] at hphase
  | _ y =>
    obtain rfl : y = x := heq y (by simpa [State.phase, hmain] using hphase)
    simp

/-- Wherever the main thread is inside `await` on a set flag, it comes to read that it is set. -/
theorem shows_checked {s : State} (hs : Inv s) {x : Slot}
    (hphase : s.phase = .awaiting x.notificationType) (hset : s.flag x = true) :
    ∃ t, bracketed.Shows observe s [] t ∧ t.main = .checked x true ∧ t.flag = s.flag := by
  obtain hmain | ⟨flag, hmain⟩ | hmain | hmain := phase_eq_awaiting hphase
  · exact shows_checked_of_checking hmain hset
  · cases flag with
    | true => exact ⟨s, Shows.refl s, hmain, rfl⟩
    | false => exact shows_checked_of_window hs hmain hset
  · exact shows_checked_of_asleep hs hmain hset
  · exact shows_checked_of_woken hs hmain hset

theorem phase_eq_outside {s : State} (hphase : s.phase = .outside) :
    s.main = .running ∧ s.mutex ≠ some .main := by
  cases hmain : s.main <;> simp_all [State.phase]

theorem phase_eq_inside {s : State} (hphase : s.phase = .inside) :
    s.main = .running ∧ s.mutex = some .main := by
  cases hmain : s.main <;> simp_all [State.phase]

theorem phase_eq_locking {s : State} (hphase : s.phase = .locking) : s.main = .locking := by
  cases hmain : s.main <;> simp_all [State.phase]
  split at hphase <;> simp at hphase

theorem phase_eq_cancelling {s : State} (hphase : s.phase = .cancelling) :
    s.main = .cancelling := by
  cases hmain : s.main <;> simp_all [State.phase]
  split at hphase <;> simp at hphase

/-- A method that has returned leaves the flags alone. -/
theorem abstract_of_return {s t : State} {D : Set UInt32} {client client' : Delivery.Phase UInt32}
    (ha : s.abstract = ⟨D, client⟩) (hflag : t.flag = s.flag) (hphase : t.phase = client') :
    t.abstract = ⟨D, client'⟩ :=
  Delivery.State.ext ((delivered_congr hflag).trans (Delivery.State.mk.inj ha).1) hphase

theorem latch_simulates_abstract : (Delivery.machine supported).Simulates some bracketed observe
    (fun a s ↦ Inv s ∧ s.abstract = a) := by
  rintro a event a' s ⟨hs, ha⟩ hstep
  suffices h : ∃ t, bracketed.Shows observe s [event] t ∧ t.abstract = a' by
    obtain ⟨t, hshows, ht⟩ := h
    exact ⟨t, hshows, inv_of_shows hshows hs, ht⟩
  change Delivery.Step supported a event a' at hstep
  cases hstep with
  | lockCall D =>
    obtain ⟨hmain, hmutex⟩ := phase_eq_outside (Delivery.State.mk.inj ha).2
    have hstep : bracketed.step s .lockCall { s with main := .locking } :=
      ⟨hmutex, by simp [step, hmain]⟩
    exact ⟨_, Shows.visible hstep rfl, abstract_of_return ha rfl rfl⟩
  | lockReturn D =>
    have hmain := phase_eq_locking (Delivery.State.mk.inj ha).2
    obtain ⟨t, hshows, hfree, hflag, hmain' | ⟨x, hasleep, -⟩⟩ :=
      shows_free hs (hs.mainOwned.locking hmain)
    · have hstep : bracketed.step t .lockReturn
          { t with main := .running, mutex := some .main } :=
        ⟨trivial, by simp [step, hmain', hmain, hfree]⟩
      exact ⟨_, hshows.before (Shows.visible hstep rfl), abstract_of_return ha hflag rfl⟩
    · simp [hmain] at hasleep
  | cancelCall D =>
    obtain ⟨hmain, hmutex⟩ := phase_eq_inside (Delivery.State.mk.inj ha).2
    have hstep : bracketed.step s .cancelCall { s with main := .cancelling } :=
      ⟨hmutex, by simp [step, hmain]⟩
    exact ⟨_, Shows.visible hstep rfl, abstract_of_return ha rfl rfl⟩
  | cancelReturn D =>
    have hmain := phase_eq_cancelling (Delivery.State.mk.inj ha).2
    have hstep : bracketed.step s .cancelReturn { s with main := .running, mutex := none } :=
      ⟨trivial, by simp [step, hmain, hs.mainOwned.cancelling hmain]⟩
    exact ⟨_, Shows.visible hstep rfl, abstract_of_return ha rfl rfl⟩
  | awaitCall D message hsupported =>
    obtain ⟨x, rfl⟩ := mem_supported.mp hsupported
    obtain ⟨hmain, hmutex⟩ := phase_eq_inside (Delivery.State.mk.inj ha).2
    have hstep : bracketed.step s (.awaitCall x) { s with main := .checking x } :=
      ⟨hmutex, by simp [step, hmain]⟩
    exact ⟨_, Shows.visible hstep rfl, abstract_of_return ha rfl rfl⟩
  | awaitReturn D message hdelivered =>
    obtain ⟨hD, hphase⟩ := Delivery.State.mk.inj ha
    obtain ⟨x, hset, rfl⟩ : message ∈ s.delivered := hD ▸ hdelivered
    obtain ⟨t, hshows, hmain, hflag⟩ := shows_checked hs hphase hset
    have hmutex := (inv_of_shows hshows hs).mainOwned.checked x true hmain
    have hstep : bracketed.step t (.awaitReturn x) { t with main := .running, mutex := none } :=
      ⟨trivial, by simp [step, hmain, hmutex]⟩
    exact ⟨_, hshows.before (Shows.visible hstep rfl), abstract_of_return ha hflag rfl⟩
  | deliver D client message =>
    obtain ⟨hD, hphase⟩ := Delivery.State.mk.inj ha
    let n : Notification := ⟨message, 0⟩
    let t : State := { s with callbacks := s.callbacks ++ [.entered n] }
    have henter : bracketed.step s (.enter n) t := ⟨trivial, rfl⟩
    have hswap : bracketed.step t (.swap s.callbacks.length n) (t.swap s.callbacks.length n) :=
      ⟨trivial, by simp [step, t]⟩
    have hsilent : bracketed.Shows observe s [] t := Shows.silent henter rfl
    refine ⟨_, hsilent.before (Shows.visible hswap rfl), ?_⟩
    rw [abstract_swap]
    exact Delivery.State.ext (congrArg (Delivery.deliver supported · message) hD) hphase

/-- The latch and the monotone set of delivered notifications have exactly the same traces of
calls, returns and deliveries, from the start and from every reachable state. -/
theorem traces_eq_delivery :
    bracketed.traces observe .init = (Delivery.machine supported).traces some .init ∧
    ∀ s, bracketed.Reachable .init s →
      bracketed.traces observe s = (Delivery.machine supported).traces some s.abstract := by
  refine ⟨?_, fun s hreach ↦ ?_⟩
  · exact traces_eq_of_bisimulation abstract_simulates_latch latch_simulates_abstract
      ⟨inv_init, abstract_init⟩
  · exact traces_eq_of_bisimulation abstract_simulates_latch latch_simulates_abstract
      ⟨inv_of_reachable hreach, rfl⟩

end HostcomputeNspawn.CallbackLatch
