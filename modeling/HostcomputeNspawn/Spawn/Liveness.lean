import HostcomputeNspawn.CallbackLatch.Work
import HostcomputeNspawn.Semantics.Liveness
import HostcomputeNspawn.Spawn.Bracketing

/-!
# What a spawn comes to

Left alone by the container service and by the scheduler, the threads stop: the main thread has
returned, or has ended the process, or sleeps on a notification that has not been delivered.  It
does not deadlock on the mutex of the latch, and it does not spin in its loop.  When every export
resolves, none of these places is a dead end: the notification that the main thread sleeps on can
still arrive, and then the run goes on to the next one and in the end returns.
-/

namespace HostcomputeNspawn

open Interaction Transition World

namespace CallbackLatch

/-- Inside a method, the main thread takes the steps of that method only. -/
theorem method_of_step {s t : State} {label : Label} {m : Method} (hstep : step s label = some t)
    (hmethod : label.method = some m) (hmain : s.main ≠ .running) : s.main.method = some m := by
  cases label <;> simp only [Label.method, Option.some.injEq, reduceCtorEq] at hmethod <;>
    simp only [step, Option.ite_none_right_eq_some] at hstep <;> subst hmethod <;>
    simp_all [MainPc.method]

/-- Outside the methods, the main thread can begin any of them. -/
theorem exists_step_begin {s : State} (hmain : s.main = .running) (m : Method) :
    ∃ label t, step s label = some t ∧ label.method = some m ∧ label.returns = false := by
  cases m with
  | lock => exact ⟨.lockCall, _, if_pos hmain, rfl, rfl⟩
  | cancel => exact ⟨.cancelCall, _, if_pos hmain, rfl, rfl⟩
  | await x => exact ⟨.awaitCall x, _, if_pos hmain, rfl, rfl⟩

end CallbackLatch

namespace Liveness

variable {α : Type}

/-- What happens to the program: a notification is delivered on a new thread, or the main thread
is woken spuriously. -/
def External : World.Label → Prop
  | .latch (.enter _) => True
  | .latch (.wake _) => True
  | _ => False

/-- The main thread wakes up without having been notified. -/
def Spurious : World.Label → Prop
  | .latch (.wake _) => True
  | _ => False

theorem external_of_spurious {label : World.Label} (hlabel : Spurious label) : External label := by
  unfold Spurious at hlabel
  split at hlabel
  · trivial
  · exact hlabel.elim

/-- A step of the world with a reply that is allowed. -/
def Answering (allowed : (op : Op) → op.Reply → Prop) : World.Label → Prop
  | .call op reply => allowed op reply
  | .latch _ => True

/-! ## The threads stop -/

theorem work_lt_of_step {s t : CallbackLatch.State} {label : CallbackLatch.Label}
    (hstep : CallbackLatch.step s label = some t) (hexternal : ¬ External (.latch label))
    (hreturns : label.returns = false) : t.work < s.work := by
  have hwork := CallbackLatch.work_step hstep
  have hcredit : label.credit = 0 := by
    cases label with
    | enter | wake => exact absurd trivial hexternal
    | lockReturn | cancelReturn | awaitReturn => simp [CallbackLatch.Label.returns] at hreturns
    | _ => rfl
  omega

/-- A program stops if it stops after each of its operations. -/
theorem terminates_of_rest {main : Prog α}
    (hrest : ∀ op k reply latch, main = .call op k →
      (system α).Terminates External ⟨k reply, latch⟩) (latch : CallbackLatch.State) :
    (system α).Terminates External ⟨main, latch⟩ := by
  induction hwork : latch.work using Nat.strong_induction_on generalizing latch with
  | _ work ih =>
    constructor
    rintro w' ⟨label, hexternal, hstep⟩
    cases step_cases hstep with
    | call reply hop => exact hrest _ _ reply _ rfl
    | callback hlatch hmethod =>
      have hreturns : ∀ l : CallbackLatch.Label, l.method = none → l.returns = false := by
        intro l hl
        cases l <;> simp [CallbackLatch.Label.method] at hl <;> rfl
      exact ih _ (hwork ▸ work_lt_of_step hlatch hexternal (hreturns _ hmethod)) _ rfl
    | method hlatch hmethod hreturns =>
      exact ih _ (hwork ▸ work_lt_of_step hlatch hexternal hreturns) _ rfl
    | finish hlatch hmethod hreturns => exact hrest _ _ () _ rfl

/-- Without new notifications and spurious wake-ups, every world stops. -/
theorem terminates (w : World α) : (system α).Terminates External w := by
  obtain ⟨main, latch⟩ := w
  induction main generalizing latch with
  | ret a =>
    refine terminates_of_rest (fun _ _ _ _ hcall ↦ ?_) latch
    simp at hcall
  | call op k ih =>
    apply terminates_of_rest _ latch
    intro op' k' reply latch' hcall
    cases hcall
    exact ih reply latch'

/-! ## Where they stop -/

/-- The main thread sleeps on a notification that has not been delivered. -/
def Waits (w : World α) : Prop :=
  ∃ x k, w.main = .call (.latch (.await x)) k ∧ w.latch.main = .asleep x ∧ w.latch.flag x = false

/-- The main thread has returned, has ended the process, or waits. -/
def Rested (w : World α) : Prop :=
  (∃ a, w.main = .ret a) ∨ (∃ k, w.main = .call .terminate k) ∨ Waits w

/-- A step on the latch is a step of the world if the main thread is in no other method. -/
theorem exists_step_latch {m : CallbackLatch.Method} {k : Unit → Prog α}
    {latch latch' : CallbackLatch.State} {label : CallbackLatch.Label}
    (hstep : CallbackLatch.step latch label = some latch')
    (hmethod : ∀ m', label.method = some m' → m' = m) :
    ∃ main, (system α).step ⟨.call (.latch m) k, latch⟩ (.latch label) ⟨main, latch'⟩ := by
  have hresume : ∃ main, resume (.call (.latch m) k) label = some main := by
    rw [← Option.isSome_iff_exists]
    cases hlabel : label.method with
    | none => simp [resume, hlabel]
    | some m' => simp [resume, hlabel, hmethod m' hlabel]
  obtain ⟨main, hmain⟩ := hresume
  exact ⟨main, step_latch hstep hmain⟩

/-- In a method of the latch some thread can move, unless the main thread waits. -/
theorem exists_internal_of_method {labels : List World.Label} {m : CallbackLatch.Method}
    {k : Unit → Prog α} {latch : CallbackLatch.State}
    (hw : Bracketing.Bracketed labels ⟨.call (.latch m) k, latch⟩)
    (hwaits : ¬ Waits ⟨.call (.latch m) k, latch⟩) :
    ∃ label w', ¬ External (.latch label) ∧
      (system α).step ⟨.call (.latch m) k, latch⟩ (.latch label) w' := by
  by_cases hmain : latch.main = .running
  · obtain ⟨label, latch', hstep, hlabel, -⟩ := CallbackLatch.exists_step_begin hmain m
    have hinternal : ¬ External (.latch label) := by
      cases label with
      | enter | wake => simp_all [CallbackLatch.Label.method, CallbackLatch.step]
      | _ => exact not_false
    obtain ⟨main, hnext⟩ := exists_step_latch (m := m) (k := k) hstep fun m' hm' ↦ by
      simpa [hlabel, eq_comm] using hm'
    exact ⟨label, _, hinternal, hnext⟩
  · have hinside : ∀ m', latch.main.method = some m' → m' = m := by
      intro m' hm'
      obtain ⟨_, hcall⟩ := hw.inside m' hm'
      cases hcall
      rfl
    cases CallbackLatch.canFinish_or_settled hw.inv with
    | inl hfinish =>
      obtain ⟨label, latch', hfinishing, -, hstep⟩ := hfinish
      have hinternal : ¬ External (.latch label) := by
        cases label with
        | enter | wake => exact hfinishing.elim
        | _ => exact not_false
      obtain ⟨main, hnext⟩ := exists_step_latch (k := k) hstep fun m' hm' ↦
        hinside m' (CallbackLatch.method_of_step hstep hm' hmain)
      exact ⟨label, _, hinternal, hnext⟩
    | inr hsettled =>
      obtain ⟨x, hasleep, hflag⟩ := hsettled.2.2.resolve_left hmain
      obtain rfl := hinside (.await x) (by rw [hasleep]; rfl)
      exact absurd ⟨x, k, rfl, hasleep, hflag⟩ hwaits

section Allowed

variable {allowed : (op : Op) → op.Reply → Prop}

/-- The world in which every reply is an allowed one. -/
abbrev answering (α : Type) (allowed : (op : Op) → op.Reply → Prop) : System (World α) Label :=
  (system α).restrict (Answering allowed)

/-- The events of a run with allowed replies. -/
theorem allowed_of_answering {labels : List World.Label} (hlatch : ∀ m, allowed (.latch m) ())
    (hlabels : ∀ label ∈ labels, Answering allowed label) :
    ∀ event ∈ mainEvents labels, allowed event.1 event.2 := by
  intro event hevent
  obtain ⟨label, hlabel, hevent⟩ := List.mem_filterMap.mp hevent
  cases label with
  | call op reply =>
    simp only [Label.mainEvent, Option.some.injEq] at hevent
    subst hevent
    exact hlabels _ hlabel
  | latch label =>
    simp only [Label.mainEvent, Option.ite_none_right_eq_some, Option.map_eq_some_iff] at hevent
    obtain ⟨-, m, -, rfl⟩ := hevent
    exact hlatch m

/-- Before it rests, a program that keeps the brackets can move. -/
theorem exists_internal {labels : List World.Label} {w : World α}
    (hanswers : ∀ op, ∃ reply, allowed op reply) (hw : Bracketing.Bracketed labels w)
    (hrested : ¬ Rested w) : ∃ w', (answering α allowed).Internal External w w' := by
  obtain ⟨main, latch⟩ := w
  cases main with
  | ret a => exact absurd (Or.inl ⟨a, rfl⟩) hrested
  | call op k =>
    have hanswered (hop : op.answered = true) :
        ∃ w', (answering α allowed).Internal External ⟨.call op k, latch⟩ w' := by
      obtain ⟨reply, hreply⟩ := hanswers op
      exact ⟨_, .call op reply, not_false, hreply, step_call hop reply⟩
    cases op with
    | terminate => exact absurd (Or.inr (Or.inl ⟨k, rfl⟩)) hrested
    | latch m =>
      obtain ⟨label, w', hinternal, hstep⟩ :=
        exists_internal_of_method hw fun hwaits ↦ hrested (Or.inr (Or.inr hwaits))
      exact ⟨w', .latch label, hinternal, trivial, hstep⟩
    | _ => exact hanswered rfl

variable {p : Prog α} {post : List MainEvent → α → Prop} {w : World α}

theorem bracketed_of_answering {labels : List World.Label} (hlatch : ∀ m, allowed (.latch m) ())
    (hp : p.wp allowed Bracketing.bracketPre [] post)
    (hrun : (answering α allowed).Run (start p) labels w) : Bracketing.Bracketed labels w := by
  obtain ⟨hrun, hlabels⟩ := System.run_restrict_iff.mp hrun
  exact Bracketing.bracketed_start.of_run hrun (allowed_of_answering hlatch hlabels) hp

/-- A program that keeps the brackets comes to rest. -/
theorem inevitably_rested (hlatch : ∀ m, allowed (.latch m) ())
    (hanswers : ∀ op, ∃ reply, allowed op reply)
    (hp : p.wp allowed Bracketing.bracketPre [] post)
    (hreach : (answering α allowed).Reachable (start p) w) :
    (answering α allowed).Inevitable External Rested w := by
  apply System.inevitable_of_terminates (I := (answering α allowed).Reachable (start p)) _ _
    (terminates w).restrict hreach
  · rintro s t ⟨labels, hrun⟩ - ⟨label, -, hstep⟩
    exact ⟨labels ++ [label], hrun.snoc hstep⟩
  · rintro s ⟨labels, hrun⟩ hrested
    exact exists_internal hanswers (bracketed_of_answering hlatch hp hrun) hrested

/-! ## No place to rest is a dead end -/

/-- A method of the latch returns by itself, also `await` once its flag is set. -/
theorem inevitably_finished {m : CallbackLatch.Method} {k : Unit → Prog α}
    {latch : CallbackLatch.State} (hlatch : ∀ m, allowed (.latch m) ())
    (hanswers : ∀ op, ∃ reply, allowed op reply)
    (hp : p.wp allowed Bracketing.bracketPre [] post)
    (hreach : (answering α allowed).Reachable (start p) ⟨.call (.latch m) k, latch⟩)
    (hflag : ∀ x, m = .await x → latch.flag x = true) :
    (answering α allowed).Inevitable External (fun w ↦ w.main = k ())
      ⟨.call (.latch m) k, latch⟩ := by
  apply System.inevitable_of_terminates (I := fun w ↦
    (answering α allowed).Reachable (start p) w ∧ (w.main = k () ∨
      w.main = .call (.latch m) k ∧ ∀ x, m = .await x → w.latch.flag x = true)) _ _
    (terminates _).restrict ⟨hreach, Or.inr ⟨rfl, hflag⟩⟩
  · rintro s t ⟨⟨labels, hrun⟩, hmain⟩ hgoal ⟨label, -, hstep⟩
    refine ⟨⟨labels ++ [label], hrun.snoc hstep⟩, ?_⟩
    obtain ⟨main, latch⟩ := s
    obtain ⟨rfl, hset⟩ := hmain.resolve_left hgoal
    cases step_cases hstep.2 with
    | call reply hop => simp [Op.answered] at hop
    | callback hlatch _ =>
      exact Or.inr ⟨rfl, fun x hx ↦ CallbackLatch.flag_step hlatch (hset x hx)⟩
    | method hlatch _ _ =>
      exact Or.inr ⟨rfl, fun x hx ↦ CallbackLatch.flag_step hlatch (hset x hx)⟩
    | finish => exact Or.inl rfl
  · rintro s ⟨⟨labels, hrun⟩, hmain⟩ hgoal
    obtain ⟨hcall, hset⟩ := hmain.resolve_left hgoal
    apply exists_internal hanswers (bracketed_of_answering hlatch hp hrun)
    rintro (⟨a, ha⟩ | ⟨k', hk'⟩ | ⟨x, k', hk', -, hunset⟩)
    · simp [hcall] at ha
    · simp [hcall] at hk'
    · obtain rfl : m = .await x := by
        simpa using (Program.call.inj (hcall.symm.trans hk')).1
      simp [hset x rfl] at hunset

/-- The world in which every reply is an allowed one, without spurious wake-ups. -/
abbrev genuine (α : Type) (allowed : (op : Op) → op.Reply → Prop) : System (World α) Label :=
  (answering α allowed).restrict (¬ Spurious ·)

theorem run_of_genuine {labels : List World.Label} {w w' : World α}
    (hrun : (genuine α allowed).Run w labels w') : (answering α allowed).Run w labels w' :=
  (System.run_restrict_iff.mp hrun).1

/-- The notification that sets the flag of a slot. -/
def notification (x : CallbackLatch.Slot) : Notification := ⟨x.notificationType, 0⟩

/-- A step of a callback does not depend on the main thread. -/
theorem step_callback {main : Prog α} {latch latch' : CallbackLatch.State}
    {label : CallbackLatch.Label} (hstep : CallbackLatch.step latch label = some latch')
    (hmethod : label.method = none) :
    (genuine α allowed).step ⟨main, latch⟩ (.latch label) ⟨main, latch'⟩ := by
  have hspurious : ¬ Spurious (.latch label) := by
    cases label with
    | wake => simp [CallbackLatch.Label.method] at hmethod
    | _ => exact not_false
  exact ⟨hspurious, trivial, step_latch hstep (by simp [resume, hmethod])⟩

/-- Any notification may be delivered at any time. -/
theorem exists_delivery (main : Prog α) (latch : CallbackLatch.State) (x : CallbackLatch.Slot) :
    ∃ labels latch', (genuine α allowed).Run ⟨main, latch⟩ labels ⟨main, latch'⟩ ∧
      latch'.flag x = true := by
  let entered : CallbackLatch.State :=
    { latch with callbacks := latch.callbacks ++ [.entered (notification x)] }
  have hid : entered.callbacks[latch.callbacks.length]? = some (.entered (notification x)) := by
    simp [entered]
  have henter : (genuine α allowed).step ⟨main, latch⟩ (.latch (.enter (notification x)))
      ⟨main, entered⟩ := step_callback rfl rfl
  have hswap : (genuine α allowed).step ⟨main, entered⟩
      (.latch (.swap latch.callbacks.length (notification x)))
      ⟨main, entered.swap latch.callbacks.length (notification x)⟩ := step_callback (if_pos hid) rfl
  exact ⟨_, _, (System.Run.single henter).snoc hswap,
    CallbackLatch.flag_swap_iff.mpr (Or.inr rfl)⟩

/-- A delivery makes a method ready, if it needs one. -/
theorem exists_ready (main : Prog α) (latch : CallbackLatch.State) (m : CallbackLatch.Method) :
    ∃ labels latch', (genuine α allowed).Run ⟨main, latch⟩ labels ⟨main, latch'⟩ ∧
      ∀ x, m = .await x → latch'.flag x = true := by
  cases m with
  | await x =>
    obtain ⟨labels, latch', hrun, hset⟩ := exists_delivery main latch x
    exact ⟨labels, latch', hrun, fun y hy ↦ CallbackLatch.Method.await.inj hy ▸ hset⟩
  | _ => exact ⟨[], latch, System.Run.refl _, fun _ h ↦ nomatch h⟩

/-- Every operation but `std::terminate`. -/
def continuing (_ : List MainEvent) (op : Op) : Prop := op ≠ .terminate

/-- A program that keeps the brackets and does not end the process can still return. -/
theorem exists_return (hlatch : ∀ m, allowed (.latch m) ())
    (hanswers : ∀ op, ∃ reply, allowed op reply)
    (hp : p.wp allowed Bracketing.bracketPre [] post)
    (hterminate : p.wp allowed continuing [] post) {main : Prog α} {latch : CallbackLatch.State}
    (hreach : (answering α allowed).Reachable (start p) ⟨main, latch⟩) :
    ∃ more a latch', (genuine α allowed).Run ⟨main, latch⟩ more ⟨.ret a, latch'⟩ := by
  induction main generalizing latch with
  | ret a => exact ⟨[], a, latch, System.Run.refl _⟩
  | call op k ih =>
    obtain ⟨labels, hrun⟩ := hreach
    -- what is left to do after the operation has finished
    have hrest {first : List World.Label} {reply : op.Reply} {latch₁ : CallbackLatch.State}
        (hfirst : (genuine α allowed).Run ⟨.call op k, latch⟩ first ⟨k reply, latch₁⟩) :
        ∃ more a latch', (genuine α allowed).Run ⟨.call op k, latch⟩ more ⟨.ret a, latch'⟩ := by
      obtain ⟨more, a, latch', hmore⟩ := ih reply ⟨labels ++ first,
        hrun.trans (run_of_genuine hfirst)⟩
      exact ⟨first ++ more, a, latch', hfirst.trans hmore⟩
    have hanswered (hop : op.answered = true) :
        ∃ more a latch', (genuine α allowed).Run ⟨.call op k, latch⟩ more ⟨.ret a, latch'⟩ := by
      obtain ⟨reply, hreply⟩ := hanswers op
      have hstep : (genuine α allowed).step ⟨.call op k, latch⟩ (.call op reply)
          ⟨k reply, op.latchAfter latch⟩ := ⟨not_false, hreply, step_call hop reply⟩
      exact hrest (System.Run.single hstep)
    cases op with
    | terminate =>
      obtain ⟨hleads, hlabels⟩ := System.run_restrict_iff.mp hrun
      have hnow := Program.wp_of_leads (leads_of_run hleads) (allowed_of_answering hlatch hlabels)
        hterminate
      exact absurd rfl hnow.1
    | latch m =>
      obtain ⟨first, latch₁, hfirst, hflag⟩ := exists_ready (.call (.latch m) k) latch m
      have hfinished := inevitably_finished hlatch hanswers hp
        ⟨labels ++ first, hrun.trans (run_of_genuine hfirst)⟩ hflag
      -- the method comes to its end by itself, so the main thread is not woken for nothing
      obtain ⟨second, ⟨main, latch₂⟩, hsecond, hinternal, rfl⟩ := hfinished.exists_run
      have hgenuine := System.run_restrict_iff.mpr ⟨hsecond, fun label hlabel hspurious ↦
        hinternal label hlabel (external_of_spurious hspurious)⟩
      exact hrest (hfirst.trans hgenuine)
    | _ => exact hanswered rfl

end Allowed

/-! ## The whole program -/

variable {lib : Externals}

/-- The brackets of the latch are kept up to the result. -/
theorem hostcomputeNspawn_brackets (configJson : Option (List UInt8)) (configJsonLen : Int32) :
    (hostcomputeNspawn lib configJson configJsonLen).wp Bracketing.ProcessRegistrationReturns
      Bracketing.bracketPre [] fun _ _ ↦ True := by
  have hpreparing := Bracketing.stable_unlocked.mono Bracketing.outside_of_preparing
  apply wp_hostcomputeNspawn_of_runLayer hpreparing rfl
  exact fun _ _ _ _ _ _ _ _ hpast ↦ Bracketing.runLayer_brackets _ _ _ _ _ _ _ hpast

theorem exists_processRegistrationReturns (op : Op) :
    ∃ reply, Bracketing.ProcessRegistrationReturns op reply := by
  refine ⟨answers successCode op, ?_⟩
  cases op with
  | api call => cases call <;> trivial
  | _ => trivial

/-- A run of `hostcompute_nspawn` goes on forever only if it gets infinitely many notifications or
spurious wake-ups.  As long as the wrapper of the process registration has not thrown, it comes to
rest from every state by whatever steps the threads take: it returns, ends the process, or sleeps
on a notification that has not been delivered. -/
theorem nspawn_rests (lib : Externals) (configJson : Option (List UInt8)) (configJsonLen : Int32) :
    (∀ run : (system (Option String)).InfiniteRun, ∀ i, ∃ j, i ≤ j ∧ External (run.label j)) ∧
    ∀ w, (answering _ Bracketing.ProcessRegistrationReturns).Reachable
        (start (hostcomputeNspawn lib configJson configJsonLen)) w →
      (answering _ Bracketing.ProcessRegistrationReturns).Inevitable External Rested w :=
  ⟨fun run ↦ run.external_infinitely_often terminates, fun _ hreach ↦ inevitably_rested
    (fun _ ↦ trivial) exists_processRegistrationReturns
    (hostcomputeNspawn_brackets configJson configJsonLen) hreach⟩

theorem stable_continuing : Program.Stable continuing (· ≠ .terminate) fun _ ↦ True where
  permits _ hop := hop
  keeps _ _ _ := trivial

theorem continues_bind {α β : Type} {m : Nspawn α} {f : α → Nspawn β} {past : List MainEvent}
    (hm : m.run.Only (· ≠ .terminate))
    (hf : ∀ past' a, (f a).run.wp Resolved continuing past' fun _ _ ↦ True) :
    (m >>= f).run.wp Resolved continuing past fun _ _ ↦ True :=
  Fallible.wp_run_bind_of_only stable_continuing hm trivial (fun _ _ _ ↦ trivial)
    fun past' a _ ↦ hf past' a

/-- A cleanup whose wrapper returns does not end the process. -/
theorem cleanup_continues {call : ApiCall} {message : UInt32 → String} {past : List MainEvent} :
    (cleanup lib call message).wp Resolved continuing past fun _ _ ↦ True :=
  wp_cleanup nofun (fun _ hreply ↦ absurd hreply not_resolved_error) (fun _ _ ↦ trivial)
    fun _ _ _ _ ↦ ⟨nofun, trivial⟩

theorem runContainer_continues (config : NspawnConfig) (layer : ContainerLayer lib)
    (computeSystem : Handle) {past : List MainEvent} :
    (runContainer config layer computeSystem).run.wp Resolved continuing past
      fun _ _ ↦ True := by
  refine wp_perform_bind nofun fun _ _ ↦ ?_
  refine Fallible.wp_run_defer_of (fun _ _ ↦ True) ?_ fun _ _ _ ↦ ⟨nofun, fun _ _ ↦ trivial⟩
  refine continues_bind (only_latched nofun nofun) fun _ _ ↦ ?_
  refine continues_bind (only_latched nofun nofun) fun _ _ ↦ ?_
  refine Fallible.wp_run_defer_of (fun _ _ ↦ True) ?_ fun _ _ _ ↦ ?_
  · have hprocess : (runProcess config layer computeSystem).run.Only (· ≠ .terminate) :=
      only_runProcess config layer computeSystem (fun _ h ↦ nomatch h) (fun _ h ↦ nomatch h)
        (fun _ h ↦ nomatch h) (fun _ h ↦ nomatch h) fun _ h ↦ nomatch h
    exact hprocess.wp stable_continuing trivial
  · exact wp_hcsTerminateComputeSystem nofun nofun
      (fun _ hreply ↦ absurd hreply not_resolved_error) (fun _ _ _ ↦ ⟨nofun, nofun, trivial⟩)
      fun _ ↦ ⟨nofun, trivial⟩

theorem runLayer_continues (config : NspawnConfig) (basePath parentLayerName : String)
    (driverInfo : DriverInfo) (acsendantLayers : List (ContainerLayer lib))
    (acsendantDescriptors : List WcLayerDescriptor) (layer : ContainerLayer lib)
    {past : List MainEvent} :
    (runLayer config basePath parentLayerName driverInfo acsendantLayers acsendantDescriptors
      layer).run.wp Resolved continuing past fun _ _ ↦ True := by
  refine continues_bind (only_checked nofun) fun _ _ ↦
    Fallible.wp_run_defer_of (fun _ _ ↦ True) ?_ fun _ _ _ ↦ cleanup_continues
  refine continues_bind (only_checked nofun) fun _ _ ↦
    Fallible.wp_run_defer_of (fun _ _ ↦ True) ?_ fun _ _ _ ↦ cleanup_continues
  refine continues_bind (only_checked nofun) fun _ _ ↦
    Fallible.wp_run_defer_of (fun _ _ ↦ True) ?_ fun _ _ _ ↦ cleanup_continues
  refine wp_runPrepared (I := fun _ ↦ True)
    (stable_continuing.mono ne_terminate_of_preparing) trivial (fun _ _ _ ↦ trivial)
    (fun _ _ _ _ ↦ nofun) (fun _ _ _ _ _ _ _ ↦ trivial) (fun _ _ _ _ _ _ _ _ ↦ trivial)
    fun _ _ _ _ _ ↦ runContainer_continues _ _ _

/-- A run whose wrappers all return does not end the process. -/
theorem hostcomputeNspawn_continues (configJson : Option (List UInt8)) (configJsonLen : Int32) :
    (hostcomputeNspawn lib configJson configJsonLen).wp Resolved continuing []
      fun _ _ ↦ True := by
  have hpreparing := stable_continuing.mono ne_terminate_of_preparing
  apply wp_hostcomputeNspawn_of_runLayer hpreparing trivial
  exact fun _ _ _ _ _ _ _ _ _ ↦ runLayer_continues _ _ _ _ _ _ _

theorem exists_resolved (op : Op) : ∃ reply, Resolved op reply := by
  refine ⟨answers successCode op, ?_⟩
  cases op <;> rfl

/-- The wrapper of the process registration returns when every wrapper does. -/
theorem processRegistrationReturns_of_resolved {op : Op} {reply : op.Reply}
    (hreply : Resolved op reply) : Bracketing.ProcessRegistrationReturns op reply := by
  unfold Bracketing.ProcessRegistrationReturns
  split
  · exact not_resolved_error hreply
  · trivial

theorem answering_resolved_iff {labels : List World.Label} :
    (∀ label ∈ labels, Answering Resolved label) ↔ Resolves labels := by
  refine forall₂_congr fun label _ ↦ ?_
  cases label <;> simp [Answering, Resolved, Label.resolved]

theorem processRegistrationReturns_of_resolves {labels : List World.Label}
    (hresolves : Resolves labels) :
    ∀ label ∈ labels, Answering Bracketing.ProcessRegistrationReturns label := by
  intro label hlabel
  cases label with
  | call op reply => exact processRegistrationReturns_of_resolved (hresolves _ hlabel)
  | latch label => trivial

/-- The main thread falls asleep on the creation of the compute system. -/
def untilAsleep : List Choice :=
  .loaded :: Choice.untilLatch ++ Choice.lock ++
    [.succeed, .latch (.awaitCall .systemCreate), .latch (.check .systemCreate),
      .latch (.sleep .systemCreate)]

theorem nspawn_rests_asleep : ∃ labels w,
    (system _).Run (start (hostcomputeNspawn Externals.ascii (some []) 1)) labels w ∧ Waits w ∧
    (answering _ Bracketing.ProcessRegistrationReturns).Inevitable External Rested w := by
  have hrun := run_of_choices (w := start (hostcomputeNspawn Externals.ascii (some []) 1))
    untilAsleep rfl
  have hreach := System.run_restrict_iff.mpr
    ⟨hrun, processRegistrationReturns_of_resolves (by decide)⟩
  exact ⟨_, _, hrun, ⟨.systemCreate, _, rfl, rfl, rfl⟩, (nspawn_rests _ _ _).2 _ ⟨_, hreach⟩⟩

/-- As long as every export has resolved, `hostcompute_nspawn` can still return from wherever it
is, and without a spurious wake-up: it is never blocked for good, whatever codes the calls came
back with and whatever the callbacks have done. -/
theorem nspawn_can_return (lib : Externals) (configJson : Option (List UInt8))
    (configJsonLen : Int32) {labels : List World.Label} {w : World (Option String)}
    (hrun : (system _).Run (start (hostcomputeNspawn lib configJson configJsonLen)) labels w)
    (hresolves : Resolves labels) : ∃ more result latch,
      (system _).Run w more ⟨.ret result, latch⟩ ∧ Resolves more ∧
        ∀ label ∈ more, ¬ Spurious label := by
  have hbrackets := Program.wp_of_allowed (fun _ _ ↦ processRegistrationReturns_of_resolved)
    (@hostcomputeNspawn_brackets lib configJson configJsonLen)
  have hreach := System.run_restrict_iff.mpr ⟨hrun, answering_resolved_iff.mpr hresolves⟩
  obtain ⟨more, result, latch, hmore⟩ := exists_return (fun _ ↦ rfl) exists_resolved hbrackets
    (hostcomputeNspawn_continues configJson configJsonLen) ⟨labels, hreach⟩
  obtain ⟨hanswering, hgenuine⟩ := System.run_restrict_iff.mp hmore
  obtain ⟨hmore, hlabels⟩ := System.run_restrict_iff.mp hanswering
  exact ⟨more, result, latch, hmore, answering_resolved_iff.mp hlabels, hgenuine⟩

theorem nspawn_can_return_waiting : ∃ labels w more result latch,
    (system _).Run (start (hostcomputeNspawn Externals.ascii (some []) 1)) labels w ∧ Waits w ∧
    (system _).Run w more ⟨.ret result, latch⟩ ∧ ∀ label ∈ more, ¬ Spurious label := by
  have hrun := run_of_choices (w := start (hostcomputeNspawn Externals.ascii (some []) 1))
    untilAsleep rfl
  obtain ⟨more, result, latch, hmore, -, hgenuine⟩ := nspawn_can_return _ _ _ hrun (by decide)
  exact ⟨_, _, more, result, latch, hrun, ⟨.systemCreate, _, rfl, rfl, rfl⟩, hmore, hgenuine⟩

end Liveness

end HostcomputeNspawn
