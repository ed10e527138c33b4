import HostcomputeNspawn.CallbackLatch.Refinement
import HostcomputeNspawn.Spawn.Liveness

/-!
# The program over a set of delivered notifications

The purpose of the latch, stated for the whole program: a sequential program, a set of the
notifications that have been delivered, and nothing else.  Locking and cancelling have no effect,
and waiting is over at once when the notification is in the set.  There is no mutex, no condition
variable, no sleeping and no thread of a callback.

Every run of the world shows what this machine shows, whatever the program.  A program that keeps
the brackets shows nothing less: a method of the latch is finished by the main thread and the
callbacks that are under way, without a notification or a wake-up that the machine does not have.
-/

namespace HostcomputeNspawn

open Interaction Transition World

/-- What an operation of the main thread does to the set of the delivered notifications. -/
def Op.deliveredAfter (delivered : Set UInt32) : Op → Set UInt32
  | .constructLatch => ∅
  | _ => delivered

namespace Atomic

variable {α : Type}

/-- What is seen of a run: what the main thread does, and what is delivered. -/
inductive Observation
  | main (event : MainEvent)
  | deliver (notificationType : UInt32)

def observe : World.Label → Option Observation
  | .latch (.swap _ n) => some (.deliver n.notificationType)
  | label => label.mainEvent.map .main

/-- The rest of the program, and what has been delivered to the latch. -/
@[ext]
structure State (α : Type) where
  main : Prog α
  delivered : Set UInt32

/-- A program about to run. -/
def State.start (p : Prog α) : State α := ⟨p, ∅⟩

inductive Step (allowed : (op : Op) → op.Reply → Prop) : State α → Observation → State α → Prop
  | call {op : Op} {k : op.Reply → Prog α} {D : Set UInt32} (reply : op.Reply)
      (hop : op.answered = true) (hreply : allowed op reply) :
      Step allowed ⟨.call op k, D⟩ (.main ⟨op, reply⟩) ⟨k reply, op.deliveredAfter D⟩
  | finish {m : CallbackLatch.Method} {k : Unit → Prog α} {D : Set UInt32}
      (hdelivered : ∀ x, m = .await x → x.notificationType ∈ D) :
      Step allowed ⟨.call (.latch m) k, D⟩ (.main (finished m)) ⟨k (), D⟩
  | deliver {main : Prog α} {D : Set UInt32} (message : UInt32) :
      Step allowed ⟨main, D⟩ (.deliver message)
        ⟨main, Delivery.deliver CallbackLatch.supported D message⟩

/-- The program over the set of delivered notifications. -/
def machine (α : Type) (allowed : (op : Op) → op.Reply → Prop) : System (State α) Observation where
  step := Step allowed

/-- The state that a world stands for. -/
def abstract (w : World α) : State α := ⟨w.main, w.latch.delivered⟩

theorem delivered_init : CallbackLatch.State.delivered .init = ∅ := by
  simp [CallbackLatch.State.delivered, CallbackLatch.State.init]

theorem abstract_start (p : Prog α) : abstract (World.start p) = .start p :=
  State.ext rfl delivered_init

theorem delivered_latchAfter (op : Op) (latch : CallbackLatch.State) :
    (op.latchAfter latch).delivered = op.deliveredAfter latch.delivered := by
  cases op with
  | constructLatch => exact delivered_init
  | _ => rfl

/-! ## Every step of the world is at most one step of the machine -/

variable {allowed : (op : Op) → op.Reply → Prop}

/-- Only a swap changes the flags. -/
theorem flag_of_not_swap {s t : CallbackLatch.State} {label : CallbackLatch.Label}
    (hstep : CallbackLatch.step s label = some t) (hlabel : ∀ id n, label ≠ .swap id n) :
    t.flag = s.flag := by
  cases label with
  | swap id n => exact absurd rfl (hlabel id n)
  | enter n =>
    simp only [CallbackLatch.step, Option.some.injEq] at hstep
    rw [← hstep]
  | _ =>
    simp only [CallbackLatch.step, Option.ite_none_right_eq_some, Option.some.injEq] at hstep
    rw [← hstep.2]

theorem observe_method {label : CallbackLatch.Label} {m : CallbackLatch.Method}
    (hmethod : label.method = some m) : observe (.latch label) =
      if label.returns then some (.main (finished m)) else none := by
  cases label <;> simp only [CallbackLatch.Label.method, Option.some.injEq, reduceCtorEq] at hmethod
    <;> subst hmethod <;> rfl

theorem not_swap_of_method {label : CallbackLatch.Label} {m : CallbackLatch.Method}
    (hmethod : label.method = some m) : ∀ id n, label ≠ .swap id n := by
  intro id n hlabel
  simp [hlabel, CallbackLatch.Label.method] at hmethod

theorem abstract_step {w w' : World α} {label : World.Label}
    (hread : CallbackLatch.Read w.latch) (hallowed : Liveness.Answering allowed label)
    (hstep : (system α).step w label w') :
    (machine α allowed).StepOrStay (abstract w) (observe label) (abstract w') := by
  cases step_cases hstep with
  | @call op k latch reply hop =>
    unfold abstract
    rw [delivered_latchAfter]
    exact Step.call reply hop hallowed
  | @callback main latch latch' label hlatch hmethod =>
    cases label with
    | swap id n =>
      simp only [CallbackLatch.step, Option.ite_none_right_eq_some, Option.some.injEq] at hlatch
      obtain ⟨-, rfl⟩ := hlatch
      unfold abstract
      rw [CallbackLatch.delivered_swap]
      exact Step.deliver n.notificationType
    | enter | acquire | notify | release =>
      unfold abstract
      rw [CallbackLatch.delivered_congr (flag_of_not_swap hlatch (by simp))]
      rfl
    | _ => simp [CallbackLatch.Label.method] at hmethod
  | @method m k latch latch' label hlatch hmethod hreturns =>
    have hdelivered :=
      CallbackLatch.delivered_congr (flag_of_not_swap hlatch (not_swap_of_method hmethod))
    unfold abstract
    rw [observe_method hmethod, hreturns, hdelivered]
    rfl
  | @finish m k latch latch' label hlatch hmethod hreturns =>
    have hdelivered :=
      CallbackLatch.delivered_congr (flag_of_not_swap hlatch (not_swap_of_method hmethod))
    unfold abstract
    rw [observe_method hmethod, hreturns, hdelivered]
    apply Step.finish
    -- `await` has read that the flag is set
    intro x hx
    subst hx
    cases label with
    | awaitReturn y =>
      obtain rfl : y = x := by simpa [CallbackLatch.Label.method] using hmethod
      simp only [CallbackLatch.step, Option.ite_none_right_eq_some] at hlatch
      exact CallbackLatch.mem_delivered.mpr (hread y hlatch.1.1)
    | _ => simp [CallbackLatch.Label.method, CallbackLatch.Label.returns] at hmethod hreturns

theorem preserves_read : (system α).Preserves fun w ↦ CallbackLatch.Read w.latch :=
  preserves_latch CallbackLatch.machine_preserves_read CallbackLatch.read_init

theorem machine_simulates_world : (Liveness.answering α allowed).Simulates observe
    (machine α allowed) some fun w a ↦ CallbackLatch.Read w.latch ∧ abstract w = a :=
  System.simulates_of_map (fun _ _ _ hstep ↦ preserves_read hstep.2) fun _ _ _ hread hstep ↦
    abstract_step hread hstep.1 hstep.2

/-! ## Every step of the machine is matched by the world -/

/-- Steps that are not seen leave the main thread in the method where it is. -/
theorem method_of_silent {s t : CallbackLatch.State} {label : CallbackLatch.Label}
    (hstep : CallbackLatch.step s label = some t) (hsilent : CallbackLatch.observe label = none) :
    t.main.method = s.main.method := by
  cases label with
  | enter n =>
    simp only [CallbackLatch.step, Option.some.injEq] at hstep
    rw [← hstep]
  | check | sleep | wake | reacquire =>
    simp only [CallbackLatch.step, Option.ite_none_right_eq_some, Option.some.injEq] at hstep
    obtain ⟨hguard, rfl⟩ := hstep
    simp [CallbackLatch.MainPc.method, hguard]
  | acquire | release =>
    simp only [CallbackLatch.step, Option.ite_none_right_eq_some, Option.some.injEq] at hstep
    rw [← hstep.2]
  | notify id x =>
    simp only [CallbackLatch.step, Option.ite_none_right_eq_some, Option.some.injEq] at hstep
    rw [← hstep.2]
    exact CallbackLatch.method_notifyAll x s.main
  | _ => simp [CallbackLatch.observe] at hsilent

theorem observe_silent {label : CallbackLatch.Label}
    (hsilent : CallbackLatch.observe label = none) : observe (.latch label) = none := by
  cases label <;> first | rfl | simp [CallbackLatch.observe] at hsilent

theorem returns_silent {label : CallbackLatch.Label}
    (hsilent : CallbackLatch.observe label = none) : label.returns = false := by
  cases label <;> first | rfl | simp [CallbackLatch.observe] at hsilent

/-- A method begins with a step that is seen. -/
theorem not_running_of_silent {s t : CallbackLatch.State} {label : CallbackLatch.Label}
    {m : CallbackLatch.Method} (hstep : CallbackLatch.step s label = some t)
    (hsilent : CallbackLatch.observe label = none) (hmethod : label.method = some m) :
    s.main ≠ .running := by
  intro hrunning
  cases label with
  | check | sleep | wake | reacquire => simp [CallbackLatch.step, hrunning] at hstep
  | enter | acquire | notify | release => simp [CallbackLatch.Label.method] at hmethod
  | _ => simp [CallbackLatch.observe] at hsilent

variable (allowed) in
/-- A step of the latch in the method that the main thread has called. -/
theorem step_inside {m : CallbackLatch.Method} {k : Unit → Prog α} {s t : CallbackLatch.State}
    {label : CallbackLatch.Label} (hstep : CallbackLatch.step s label = some t)
    (hmethod : label.method = some m) : (Liveness.answering α allowed).step ⟨.call (.latch m) k, s⟩
      (.latch label) ⟨if label.returns then k () else .call (.latch m) k, t⟩ :=
  ⟨trivial, step_latch hstep (by simp [resume, hmethod])⟩

/-- What the latch does unseen, it does in every world. -/
theorem shows_silent {main : Prog α} {s t : CallbackLatch.State}
    (hmain : ∀ m, s.main.method = some m → ∃ k, main = .call (.latch m) k)
    (hshows : CallbackLatch.bracketed.Shows CallbackLatch.observe s [] t) :
    (Liveness.answering α allowed).Shows observe ⟨main, s⟩ [] ⟨main, t⟩ := by
  obtain ⟨labels, hrun, hsilent⟩ := hshows
  have hall : (Liveness.answering α allowed).Shows observe ⟨main, s⟩ [] ⟨main, t⟩ ∧
      t.main.method = s.main.method := by
    induction hrun with
    | refl => exact ⟨System.Shows.refl _, rfl⟩
    | @snoc u v labels label hrun hstep ih =>
      rw [List.filterMap_append, List.append_eq_nil_iff] at hsilent
      have hlabel : CallbackLatch.observe label = none := by simpa using hsilent.2
      obtain ⟨hfront, hmethod⟩ := ih hsilent.1
      refine ⟨hfront.before ?_, (method_of_silent hstep.2 hlabel).trans hmethod⟩
      cases hinside : label.method with
      | none =>
        exact System.Shows.silent (Liveness.step_callback hstep.2 hinside).2 (observe_silent hlabel)
      | some m =>
        have hcalled := CallbackLatch.method_of_step hstep.2 hinside
          (not_running_of_silent hstep.2 hlabel hinside)
        obtain ⟨k, rfl⟩ := hmain m (hmethod ▸ hcalled)
        have hnext := step_inside allowed (k := k) hstep.2 hinside
        rw [returns_silent hlabel] at hnext
        exact System.Shows.silent hnext (observe_silent hlabel)
  exact hall.1

theorem phase_of_method {s : CallbackLatch.State} {x : CallbackLatch.Slot}
    (hmethod : s.main.method = some (.await x)) : s.phase = .awaiting x.notificationType := by
  cases hmain : s.main <;> simp_all [CallbackLatch.MainPc.method, CallbackLatch.State.phase]

/-- The last step of a method. -/
theorem shows_return {main : Prog α} {m : CallbackLatch.Method} {k : Unit → Prog α}
    {s t u : CallbackLatch.State} {label : CallbackLatch.Label} (hmain : main = .call (.latch m) k)
    (hinside : s.main.method = some m)
    (hshows : CallbackLatch.bracketed.Shows CallbackLatch.observe s [] t)
    (hstep : CallbackLatch.step t label = some u) (hmethod : label.method = some m)
    (hreturns : label.returns = true) :
    (Liveness.answering α allowed).Shows observe ⟨main, s⟩ [.main (finished m)] ⟨k (), u⟩ := by
  subst hmain
  have hnext := step_inside allowed (k := k) hstep hmethod
  rw [hreturns] at hnext
  have hlast : observe (.latch label) = some (.main (finished m)) := by
    rw [observe_method hmethod, hreturns]
    rfl
  refine (shows_silent ?_ hshows).before (System.Shows.visible hnext hlast)
  intro m' hm'
  obtain rfl : m = m' := by simpa [hinside] using hm'
  exact ⟨k, rfl⟩

variable (allowed) in
/-- Inside a method, the main thread comes to its end unseen. -/
theorem shows_finish_of_inside {m : CallbackLatch.Method} {k : Unit → Prog α}
    {s : CallbackLatch.State} (hs : CallbackLatch.Inv s) (hinside : s.main.method = some m)
    (hdelivered : ∀ x, m = .await x → s.flag x = true) :
    ∃ t, (Liveness.answering α allowed).Shows observe ⟨.call (.latch m) k, s⟩
      [.main (finished m)] ⟨k (), t⟩ ∧ t.flag = s.flag := by
  cases m with
  | lock =>
    have hmain : s.main = .locking := by
      cases hmain : s.main <;> simp [hmain, CallbackLatch.MainPc.method] at hinside ⊢
    obtain ⟨t, hshows, hfree, hflag, hmain' | ⟨x, hasleep, -⟩⟩ :=
      CallbackLatch.shows_free hs (hs.mainOwned.locking hmain)
    · have hstep : CallbackLatch.step t .lockReturn =
          some { t with main := .running, mutex := some .main } :=
        if_pos ⟨hmain'.trans hmain, hfree⟩
      exact ⟨_, shows_return rfl hinside hshows hstep rfl rfl, hflag⟩
    · simp [hmain] at hasleep
  | cancel =>
    have hmain : s.main = .cancelling := by
      cases hmain : s.main <;> simp [hmain, CallbackLatch.MainPc.method] at hinside ⊢
    have hstep : CallbackLatch.step s .cancelReturn =
        some { s with main := .running, mutex := none } :=
      if_pos ⟨hmain, hs.mainOwned.cancelling hmain⟩
    exact ⟨_, shows_return rfl hinside (System.Shows.refl s) hstep rfl rfl, rfl⟩
  | await x =>
    have hset : s.flag x = true := hdelivered x rfl
    obtain ⟨t, hshows, hmain, hflag⟩ :=
      CallbackLatch.shows_checked hs (phase_of_method hinside) hset
    have hmutex := (CallbackLatch.inv_of_shows hshows hs).mainOwned.checked x true hmain
    have hstep : CallbackLatch.step t (.awaitReturn x) =
        some { t with main := .running, mutex := none } := if_pos ⟨hmain, hmutex⟩
    exact ⟨_, shows_return rfl hinside hshows hstep rfl rfl, hflag⟩

variable (allowed) in
/-- A method whose wait is over is finished without anything else being seen. -/
theorem shows_finish {labels : List World.Label} {m : CallbackLatch.Method} {k : Unit → Prog α}
    {s : CallbackLatch.State} (hw : Bracketing.Bracketed labels ⟨.call (.latch m) k, s⟩)
    (hready : Bracketing.Ready labels (World.mk (.call (.latch m) k) s))
    (hdelivered : ∀ x, m = .await x → s.flag x = true) :
    ∃ t, (Liveness.answering α allowed).Shows observe ⟨.call (.latch m) k, s⟩
      [.main (finished m)] ⟨k (), t⟩ ∧ t.flag = s.flag := by
  by_cases hrunning : s.main = .running
  · obtain ⟨label, t, hstep, hmethod, hreturns⟩ := CallbackLatch.exists_step_begin hrunning m
    have hbegin := step_inside allowed (k := k) hstep hmethod
    rw [hreturns] at hbegin
    have hsilent : observe (.latch label) = none := by
      rw [observe_method hmethod, hreturns]
      rfl
    have hflag := flag_of_not_swap hstep (not_swap_of_method hmethod)
    have hbracketed := hw.step hready hbegin.2
    obtain ⟨u, hfinish, hflag'⟩ := shows_finish_of_inside allowed (k := k)
      hbracketed.inv (CallbackLatch.step_method hstep hmethod hreturns)
      (fun x hx ↦ by rw [hflag]; exact hdelivered x hx)
    exact ⟨u, (System.Shows.silent hbegin hsilent).before hfinish, hflag'.trans hflag⟩
  · have hinside : s.main.method = some m := by
      cases hmethod : s.main.method with
      | none => exact absurd (CallbackLatch.running_of_method hmethod) hrunning
      | some m' =>
        obtain ⟨_, hcall⟩ := hw.inside m' hmethod
        cases hcall
        rfl
    exact shows_finish_of_inside allowed hw.inv hinside hdelivered

variable (allowed) in
/-- Any notification is delivered by a callback of its own. -/
theorem shows_deliver (main : Prog α) (s : CallbackLatch.State) (message : UInt32) :
    ∃ t, (Liveness.answering α allowed).Shows observe ⟨main, s⟩ [.deliver message] ⟨main, t⟩ ∧
      t.delivered = Delivery.deliver CallbackLatch.supported s.delivered message := by
  let n : Notification := ⟨message, 0⟩
  let entered : CallbackLatch.State := { s with callbacks := s.callbacks ++ [.entered n] }
  have hid : entered.callbacks[s.callbacks.length]? = some (.entered n) := by simp [entered]
  have henter : (Liveness.answering α allowed).step ⟨main, s⟩ (.latch (.enter n))
      ⟨main, entered⟩ := (Liveness.step_callback rfl rfl).2
  have hstep : CallbackLatch.step entered (.swap s.callbacks.length n) =
      some (entered.swap s.callbacks.length n) := if_pos hid
  have hswap : (Liveness.answering α allowed).step ⟨main, entered⟩
      (.latch (.swap s.callbacks.length n)) ⟨main, entered.swap s.callbacks.length n⟩ :=
    (Liveness.step_callback hstep rfl).2
  exact ⟨_, (System.Shows.silent henter rfl).before (System.Shows.visible hswap rfl),
    CallbackLatch.delivered_swap entered s.callbacks.length n⟩

variable {p : Prog α} {post : List MainEvent → α → Prop}

theorem world_simulates_machine (hlatch : ∀ m, allowed (.latch m) ())
    (hp : p.wp allowed Bracketing.bracketPre [] post) :
    (machine α allowed).Simulates some (Liveness.answering α allowed) observe fun a w ↦
      (Liveness.answering α allowed).Reachable (World.start p) w ∧ abstract w = a := by
  rintro a event a' ⟨main, latch⟩ ⟨⟨labels, hrun⟩, rfl⟩ hstep
  suffices h : ∃ w', (Liveness.answering α allowed).Shows observe ⟨main, latch⟩ [event] w' ∧
      abstract w' = a' by
    obtain ⟨w', hshows, ha'⟩ := h
    obtain ⟨more, hmore, -⟩ := id hshows
    exact ⟨w', hshows, ⟨labels ++ more, hrun.trans hmore⟩, ha'⟩
  change Step allowed ⟨main, latch.delivered⟩ event a' at hstep
  cases hstep with
  | @call op k _ reply hop hreply =>
    have hnext : (Liveness.answering α allowed).step ⟨.call op k, latch⟩ (.call op reply)
        ⟨k reply, op.latchAfter latch⟩ := ⟨hreply, step_call hop reply⟩
    refine ⟨_, System.Shows.visible hnext rfl, ?_⟩
    unfold abstract
    rw [delivered_latchAfter]
  | @finish m k _ hdelivered =>
    obtain ⟨hrun', hlabels⟩ := System.run_restrict_iff.mp hrun
    have hallowed := Liveness.allowed_of_answering hlatch hlabels
    obtain ⟨t, hshows, hflag⟩ := shows_finish allowed
      (Liveness.bracketed_of_answering hlatch hp hrun) (Bracketing.ready_of_run hrun' hallowed hp)
      fun x hx ↦ CallbackLatch.mem_delivered.mp (hdelivered x hx)
    exact ⟨_, hshows, State.ext rfl (CallbackLatch.delivered_congr hflag)⟩
  | deliver message =>
    obtain ⟨t, hshows, hflag⟩ := shows_deliver allowed main latch message
    exact ⟨_, hshows, State.ext rfl hflag⟩

/-- A program that keeps the brackets cannot be told from its machine. -/
theorem traces_eq (hlatch : ∀ m, allowed (.latch m) ())
    (hp : p.wp allowed Bracketing.bracketPre [] post) {w : World α}
    (hreach : (Liveness.answering α allowed).Reachable (World.start p) w) :
    (Liveness.answering α allowed).traces observe w =
      (machine α allowed).traces some (abstract w) := by
  have hread : CallbackLatch.Read w.latch := by
    obtain ⟨labels, hrun⟩ := hreach
    exact (System.run_restrict_iff.mp hrun).1.invariant preserves_read CallbackLatch.read_init
  exact Set.Subset.antisymm (machine_simulates_world.traces_subset ⟨hread, rfl⟩)
    ((world_simulates_machine hlatch hp).traces_subset ⟨hreach, rfl⟩)

/-- The whole program with its latch, the callbacks and the sleeping main thread shows what the
sequential program shows that waits on the set of the delivered notifications.  As long as the
wrapper of the process registration has not thrown, it shows no less either, from the start and
from every state on the way. -/
theorem nspawn_traces_eq_sequential (lib : Externals) (configJson : Option (List UInt8))
    (configJsonLen : Int32) :
    (system _).traces observe (World.start (hostcomputeNspawn lib configJson configJsonLen)) ⊆
        (machine _ fun _ _ ↦ True).traces some
          (.start (hostcomputeNspawn lib configJson configJsonLen)) ∧
      ∀ w, (Liveness.answering _ Bracketing.ProcessRegistrationReturns).Reachable
          (World.start (hostcomputeNspawn lib configJson configJsonLen)) w →
        (Liveness.answering _ Bracketing.ProcessRegistrationReturns).traces observe w =
          (machine _ Bracketing.ProcessRegistrationReturns).traces some (abstract w) := by
  constructor
  · have hsimulates : (system (Option String)).Simulates observe (machine _ fun _ _ ↦ True) some
        fun w a ↦ CallbackLatch.Read w.latch ∧ abstract w = a := by
      apply System.simulates_of_map preserves_read
      intro w label w' hread hstep
      apply abstract_step hread _ hstep
      cases label <;> trivial
    exact hsimulates.traces_subset ⟨CallbackLatch.read_init, abstract_start _⟩
  · intro w hreach
    exact traces_eq (fun _ ↦ trivial) (Liveness.hostcomputeNspawn_brackets configJson configJsonLen)
      hreach

/-- A world whose main thread is asleep stands for a program that waits. -/
theorem nspawn_traces_eq_sequential_asleep : ∃ labels w, (system _).Run
      (World.start (hostcomputeNspawn Externals.ascii (some []) 1)) labels w ∧ Liveness.Waits w ∧
    (Liveness.answering _ Bracketing.ProcessRegistrationReturns).traces observe w =
      (machine _ Bracketing.ProcessRegistrationReturns).traces some (abstract w) := by
  have hrun := run_of_choices (w := World.start (hostcomputeNspawn Externals.ascii (some []) 1))
    Liveness.untilAsleep rfl
  have hreach := System.run_restrict_iff.mpr
    ⟨hrun, Liveness.processRegistrationReturns_of_resolves (by decide)⟩
  exact ⟨_, _, hrun, ⟨.systemCreate, _, rfl, rfl, rfl⟩,
    (nspawn_traces_eq_sequential _ _ _).2 _ ⟨_, hreach⟩⟩

end Atomic

end HostcomputeNspawn
