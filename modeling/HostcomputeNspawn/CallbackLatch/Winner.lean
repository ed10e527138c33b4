import HostcomputeNspawn.CallbackLatch
import Mathlib.Algebra.BigOperators.Group.List.Basic
import Mathlib.Algebra.Ring.Nat

/-!
# One winner for every slot

Any number of callbacks may deliver notifications of the same type, but only the exchange that
sets the flag lets its callback through to the mutex and to `notify_all`.  The steps that the
winners have made and the steps that they have still to make add up to the flag, whatever the
threads do, and also when the main thread does not keep its brackets.
-/

namespace HostcomputeNspawn.CallbackLatch

/-- Replacing an element moves a sum by the difference of the two summands. -/
theorem sum_map_set {α : Type*} (f : α → ℕ) {as : List α} {i : ℕ} {a b : α}
    (hi : as[i]? = some a) : ((as.set i b).map f).sum + f a = (as.map f).sum + f b := by
  induction as generalizing i with
  | nil => simp at hi
  | cons a' as ih =>
    cases i with
    | zero =>
      obtain rfl : a' = a := by simpa using hi
      simp only [List.set_cons_zero, List.map_cons, List.sum_cons]
      omega
    | succ i =>
      have htail := ih (by simpa using hi)
      simp only [List.set_cons_succ, List.map_cons, List.sum_cons]
      omega

/-! ## The steps of a winner -/

/-- The steps that the winner of a slot makes after the exchange. -/
inductive Turn
  | acquire
  | notify
  | release
deriving DecidableEq, Repr

/-- The place of a step in their order. -/
def Turn.index : Turn → ℕ
  | .acquire => 0
  | .notify => 1
  | .release => 2

/-- The step of a winner, with its slot. -/
def Label.turn : Label → Option (Slot × Turn)
  | .acquire _ x => some (x, .acquire)
  | .notify _ x => some (x, .notify)
  | .release _ x => some (x, .release)
  | _ => none

/-- The step that a winner is about to make, with its slot. -/
def CallbackPc.turn : CallbackPc → Option (Slot × Turn)
  | .swapped x => some (x, .acquire)
  | .locked x => some (x, .notify)
  | .notified x => some (x, .release)
  | _ => none

/-- One for a callback that has won the slot and has the step still to make. -/
def CallbackPc.owes (x : Slot) (k : Turn) (pc : CallbackPc) : ℕ :=
  match pc.turn with
  | some (y, j) => if y = x ∧ j.index ≤ k.index then 1 else 0
  | none => 0

/-- How often winners of the slot have made the step. -/
def turns (x : Slot) (k : Turn) (labels : List Label) : ℕ :=
  labels.countP fun label ↦ label.turn = some (x, k)

/-- How many callbacks have won the slot and have the step still to make. -/
def owing (x : Slot) (k : Turn) (callbacks : List CallbackPc) : ℕ :=
  (callbacks.map (·.owes x k)).sum

/-- The exchange of a notification for the slot. -/
def Label.exchanges (x : Slot) : Label → Prop
  | .swap _ n => n.notificationType = x.notificationType
  | _ => False

/-- The callback that moves at a place of a run wins the slot: its exchange finds the flag not set,
and sets it. -/
def Wins (labels : List Label) (x : Slot) (i : ℕ) : Prop :=
  ∃ s id n, machine.Run .init (labels.take i) s ∧ labels[i]? = some (.swap id n) ∧
    s.flag x = false ∧ (s.swap id n).flag x = true

/-- The steps made and the steps to be made add up to the flag, which is set by an exchange. -/
structure Counted (labels : List Label) (s : State) : Prop where
  balance : ∀ x k, turns x k labels + owing x k s.callbacks = (s.flag x).toNat
  flag : ∀ x, s.flag x = true ↔ ∃ label ∈ labels, label.exchanges x

@[simp]
theorem owes_entered (x : Slot) (k : Turn) (n : Notification) :
    (CallbackPc.entered n).owes x k = 0 := rfl

@[simp]
theorem owes_ended (x : Slot) (k : Turn) : CallbackPc.ended.owes x k = 0 := rfl

@[simp]
theorem owes_swapped (x y : Slot) (k : Turn) :
    (CallbackPc.swapped y).owes x k = if y = x then 1 else 0 := by
  simp [CallbackPc.owes, CallbackPc.turn, Turn.index]

@[simp]
theorem owes_locked (x y : Slot) (k : Turn) :
    (CallbackPc.locked y).owes x k = if y = x ∧ 1 ≤ k.index then 1 else 0 := rfl

@[simp]
theorem owes_notified (x y : Slot) (k : Turn) :
    (CallbackPc.notified y).owes x k = if y = x ∧ 2 ≤ k.index then 1 else 0 := rfl

theorem turns_snoc (x : Slot) (k : Turn) (labels : List Label) (label : Label) :
    turns x k (labels ++ [label]) =
      turns x k labels + if label.turn = some (x, k) then 1 else 0 := by
  simp [turns, List.countP_append, List.countP_cons]

/-- A callback that moves on owes what its new place says. -/
theorem owing_set {callbacks : List CallbackPc} {id : ℕ} {pc : CallbackPc}
    (hid : callbacks[id]? = some pc) (x : Slot) (k : Turn) (pc' : CallbackPc) :
    owing x k (callbacks.set id pc') + pc.owes x k = owing x k callbacks + pc'.owes x k :=
  sum_map_set _ hid

/-- The exchange lets a callback through exactly when it sets the flag. -/
theorem owing_swap {s : State} {id : ℕ} {n : Notification}
    (hid : s.callbacks[id]? = some (.entered n)) (x : Slot) (k : Turn) :
    owing x k (s.swap id n).callbacks + (s.flag x).toNat =
      owing x k s.callbacks + ((s.swap id n).flag x).toNat := by
  have hended := owing_set hid x k .ended
  rw [owes_entered, owes_ended] at hended
  unfold State.swap
  split
  · dsimp only
    omega
  · next y hslot =>
    split
    · dsimp only
      omega
    · next hflag =>
      have hswapped := owing_set hid x k (.swapped y)
      rw [owes_entered, owes_swapped] at hswapped
      by_cases hxy : y = x
      · subst hxy
        simp only [Function.update_self, Bool.eq_false_iff.mpr hflag, Bool.toNat_true,
          Bool.toNat_false]
        simpa using hswapped
      · rw [if_neg hxy] at hswapped
        simp only [Function.update_of_ne (Ne.symm hxy)]
        omega

/-- A step of a winner moves it from what it owes to what it has done. -/
theorem Counted.turn {labels : List Label} {s t : State} {label : Label} {id : ℕ}
    {pc pc' : CallbackPc} (hs : Counted labels s) (hid : s.callbacks[id]? = some pc)
    (hcallbacks : t.callbacks = s.callbacks.set id pc') (hflag : t.flag = s.flag)
    (hlabel : ∀ x, ¬ label.exchanges x)
    (howes : ∀ x k, pc.owes x k = pc'.owes x k + if label.turn = some (x, k) then 1 else 0) :
    Counted (labels ++ [label]) t where
  balance x k := by
    have hbalance := hs.balance x k
    have hset := owing_set hid x k pc'
    have hturn := howes x k
    rw [turns_snoc, hcallbacks, hflag]
    omega
  flag x := by simpa [hflag, hlabel] using hs.flag x

/-- Any other step but an exchange leaves the count as it is. -/
theorem Counted.idle {labels : List Label} {s t : State} {label : Label} (hs : Counted labels s)
    (howing : ∀ x k, owing x k t.callbacks = owing x k s.callbacks) (hflag : t.flag = s.flag)
    (hlabel : ∀ x, ¬ label.exchanges x) (hturn : label.turn = none) :
    Counted (labels ++ [label]) t where
  balance x k := by
    rw [turns_snoc, hturn, howing, hflag]
    simpa using hs.balance x k
  flag x := by simpa [hflag, hlabel] using hs.flag x

theorem machine_preserves_counted : machine.PreservesHistory Counted := by
  intro labels s label t hstep hs
  cases label with
  | enter n =>
    simp only [machine, step, Option.some.injEq] at hstep
    subst hstep
    exact hs.idle (fun x k ↦ by simp [owing]) rfl (fun _ h ↦ h) rfl
  | swap id n =>
    simp only [machine, step, Option.ite_none_right_eq_some, Option.some.injEq] at hstep
    obtain ⟨hid, rfl⟩ := hstep
    refine ⟨fun x k ↦ ?_, fun x ↦ ?_⟩
    · have hbalance := hs.balance x k
      have hswap := owing_swap hid x k
      rw [turns_snoc]
      simp only [Label.turn, reduceCtorEq, if_false]
      omega
    · rw [flag_swap_iff, hs.flag x]
      simp [Label.exchanges, or_and_right, exists_or]
  | acquire id y =>
    simp only [machine, step, Option.ite_none_right_eq_some, Option.some.injEq] at hstep
    obtain ⟨⟨hid, -⟩, rfl⟩ := hstep
    refine hs.turn hid rfl rfl (fun _ h ↦ h) fun x k ↦ ?_
    cases k <;> simp [Label.turn, Turn.index]
  | notify id y =>
    simp only [machine, step, Option.ite_none_right_eq_some, Option.some.injEq] at hstep
    obtain ⟨hid, rfl⟩ := hstep
    refine hs.turn hid rfl rfl (fun _ h ↦ h) fun x k ↦ ?_
    cases k <;> simp [Label.turn, Turn.index]
  | release id y =>
    simp only [machine, step, Option.ite_none_right_eq_some, Option.some.injEq] at hstep
    obtain ⟨hid, rfl⟩ := hstep
    refine hs.turn hid rfl rfl (fun _ h ↦ h) fun x k ↦ ?_
    cases k <;> simp [Label.turn, Turn.index]
  | _ =>
    simp only [machine, step, Option.ite_none_right_eq_some, Option.some.injEq] at hstep
    obtain ⟨-, rfl⟩ := hstep
    exact hs.idle (fun _ _ ↦ rfl) rfl (fun _ h ↦ h) rfl

theorem counted_init : Counted [] .init where
  balance x k := rfl
  flag x := by simp [State.init]

theorem counted_of_run {labels : List Label} {s : State} (hrun : machine.Run .init labels s) :
    Counted labels s := hrun.historyInvariant machine_preserves_counted counted_init

/-- A slot is won by an exchange of its notification, before which there has been none. -/
theorem Wins.exchanges {labels : List Label} {x : Slot} {i : ℕ} (hwins : Wins labels x i) :
    (∃ label, labels[i]? = some label ∧ label.exchanges x) ∧
      ∀ label ∈ labels.take i, ¬ label.exchanges x := by
  obtain ⟨s, id, n, hrun, hlabel, hbefore, hafter⟩ := hwins
  constructor
  · refine ⟨_, hlabel, ?_⟩
    rcases flag_swap_iff.mp hafter with hset | htype
    · simp [hbefore] at hset
    · exact htype
  · intro label hmem hexchanges
    have hset := ((counted_of_run hrun).flag x).mpr ⟨label, hmem, hexchanges⟩
    simp [hbefore] at hset

theorem Wins.not_lt {labels : List Label} {x : Slot} {i j : ℕ} (hi : Wins labels x i)
    (hj : Wins labels x j) : ¬ i < j := by
  intro hij
  obtain ⟨label, hlabel, hexchanges⟩ := hi.exchanges.1
  have hmem : label ∈ labels.take j :=
    List.mem_of_getElem? (by rw [List.getElem?_take_of_lt hij, hlabel])
  exact hj.exchanges.2 label hmem hexchanges

/-- The first exchange of a notification for the slot wins it. -/
theorem exists_wins {labels : List Label} {s : State} (hrun : machine.Run .init labels s)
    {x : Slot} : (∃ i, Wins labels x i) ↔ ∃ label ∈ labels, label.exchanges x := by
  constructor
  · rintro ⟨i, hwins⟩
    obtain ⟨label, hlabel, hexchanges⟩ := hwins.exchanges.1
    exact ⟨label, List.mem_of_getElem? hlabel, hexchanges⟩
  · intro h
    induction hrun with
    | refl => simp at h
    | @snoc _ t labels label hrun hstep ih =>
      have hold (hbefore : ∃ label ∈ labels, label.exchanges x) :
          ∃ i, Wins (labels ++ [label]) x i := by
        obtain ⟨i, u, id, n, hfront, hlabel, hflag⟩ := ih hbefore
        have hi : i < labels.length := (List.getElem?_eq_some_iff.mp hlabel).1
        refine ⟨i, u, id, n, ?_, ?_, hflag⟩
        · rwa [List.take_append_of_le_length hi.le]
        · rwa [List.getElem?_append_left hi]
      by_cases hbefore : ∃ label ∈ labels, label.exchanges x
      · exact hold hbefore
      · obtain ⟨last, hmem, hexchanges⟩ := h
        rcases List.mem_append.mp hmem with hmem | hmem
        · exact absurd ⟨last, hmem, hexchanges⟩ hbefore
        obtain rfl := List.mem_singleton.mp hmem
        cases last with
        | swap id n =>
          refine ⟨labels.length, _, id, n, by simpa using hrun, by simp, ?_,
            flag_swap_iff.mpr (Or.inr hexchanges)⟩
          rw [← Bool.not_eq_true, (counted_of_run hrun).flag x]
          exact hbefore
        | _ => exact hexchanges.elim

/-- However many notifications of a type are delivered and however the threads take turns, at most
one callback wins the swap, and it does if one is delivered at all; at most one takes the mutex for
it, notifies and releases the mutex; and when no callback is on its way any more, exactly one has
done so if and only if one was delivered. -/
theorem one_winner {labels : List Label} {s : State} (hrun : machine.Run .init labels s)
    (x : Slot) : (∀ i j, Wins labels x i → Wins labels x j → i = j) ∧
      ((∃ i, Wins labels x i) ↔ ∃ label ∈ labels, label.exchanges x) ∧
      ∀ k, turns x k labels ≤ 1 ∧ ((∀ pc ∈ s.callbacks, pc = .ended) →
        (turns x k labels = 1 ↔ ∃ label ∈ labels, label.exchanges x)) := by
  refine ⟨fun i j hi hj ↦ ?_, exists_wins hrun, fun k ↦ ?_⟩
  · have hij := hi.not_lt hj
    have hji := hj.not_lt hi
    omega
  have hcounted := counted_of_run hrun
  have hbalance := hcounted.balance x k
  have hbound : (s.flag x).toNat ≤ 1 := Bool.toNat_le (s.flag x)
  refine ⟨by omega, fun hended ↦ ?_⟩
  have howing : owing x k s.callbacks = 0 := by
    refine List.sum_eq_zero fun n hn ↦ ?_
    obtain ⟨pc, hpc, rfl⟩ := List.mem_map.mp hn
    rw [hended pc hpc, owes_ended]
  rw [← hcounted.flag x]
  cases hflag : s.flag x <;> rw [hflag] at hbalance <;>
    simp only [Bool.toNat_true, Bool.toNat_false] at hbalance <;> simp <;> omega

/-- The step function of `machine`, for replaying a list of labels. -/
def machineNext (s : State) (label : Label) : Option (Label × State) :=
  (step s label).map (label, ·)

theorem machine_step_of_next {s : State} {choice label : Label} {t : State}
    (hnext : machineNext s choice = some (label, t)) : machine.step s label t := by
  obtain ⟨u, hstep, heq⟩ := Option.map_eq_some_iff.mp hnext
  cases heq
  exact hstep

/-- Two notifications of one type: the second callback wins, and the first one finds the flag. -/
def raceSchedule : List Label :=
  [.enter ⟨2, 0⟩, .enter ⟨2, 0⟩, .swap 1 ⟨2, 0⟩, .swap 0 ⟨2, 0⟩, .acquire 1 .systemCreate,
    .notify 1 .systemCreate, .release 1 .systemCreate]

theorem one_winner_race : ∃ s, machine.Run .init raceSchedule s ∧
    (∃ i, Wins raceSchedule .systemCreate i) ∧ turns .systemCreate .notify raceSchedule = 1 := by
  have hreplay : Transition.System.replay machineNext .init raceSchedule = some (_, _) := rfl
  have hrun : machine.Run .init _ _ :=
    Transition.System.run_of_replay (fun _ _ _ _ ↦ machine_step_of_next) hreplay
  have hdelivered : ∃ label ∈ raceSchedule, label.exchanges .systemCreate :=
    ⟨.swap 1 ⟨2, 0⟩, by decide, rfl⟩
  obtain ⟨-, hwins, hturns⟩ := one_winner hrun .systemCreate
  exact ⟨_, hrun, hwins.mpr hdelivered, ((hturns .notify).2 (by decide)).mpr hdelivered⟩

end HostcomputeNspawn.CallbackLatch
