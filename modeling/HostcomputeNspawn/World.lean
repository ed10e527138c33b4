import HostcomputeNspawn.Spawn

/-!
# The main thread among the threads of the container service

The main thread runs a program; the container service delivers notifications on threads of its
own, at any time and of any type and status.  The threads meet in the latch only, so the world is
the rest of the main program together with the state of the latch.

An operation of the main thread is one step, taken when it is invoked: its reply is chosen then,
and what the callbacks do during a call comes after it.  A method of the latch takes the steps of
the latch machine.  `std::terminate` takes no step.  A latch that has been destroyed is left in
place, so that a step on it shows in a run.
-/

namespace HostcomputeNspawn

open Interaction Transition

/-- The method of the main thread that a step of the latch is inside of, if it is no callback. -/
def CallbackLatch.Label.method : CallbackLatch.Label → Option CallbackLatch.Method
  | .lockCall | .lockReturn => some .lock
  | .cancelCall | .cancelReturn => some .cancel
  | .awaitCall x | .check x | .awaitReturn x | .sleep x | .wake x | .reacquire x =>
    some (.await x)
  | .enter _ | .swap _ _ | .acquire _ _ | .notify _ _ | .release _ _ => none

/-- The step of the latch is the return of a method. -/
def CallbackLatch.Label.returns : CallbackLatch.Label → Bool
  | .lockReturn | .cancelReturn | .awaitReturn _ => true
  | _ => false

/-- Operations that the environment answers in one step. -/
def Op.answered : Op → Bool
  | .latch _ => false
  | .terminate => false
  | _ => true

/-- What an operation of the main thread does to the latch in its scope. -/
def Op.latchAfter (latch : CallbackLatch.State) : Op → CallbackLatch.State
  | .constructLatch => .init
  | _ => latch

/-- The rest of the main program and the latch. -/
structure World (α : Type) where
  main : Prog α
  latch : CallbackLatch.State

namespace World

variable {α : Type}

/-- A step of the world: a call of the main thread with its reply, or a step on the latch. -/
inductive Label
  | call (op : Op) (reply : op.Reply)
  | latch (label : CallbackLatch.Label)

/-- What the environment chooses: the reply to the main thread, or who moves on the latch. -/
inductive Choice
  | reply (answer : (op : Op) → op.Reply)
  | latch (label : CallbackLatch.Label)

/-- The main program after a step on the latch: it waits for the method that it has called. -/
def resume (main : Prog α) (label : CallbackLatch.Label) : Option (Prog α) :=
  match label.method, main with
  | none, _ => some main
  | some m, .call (.latch m') k =>
    if m' = m then some (if label.returns then k () else main) else none
  | some _, _ => none

/-- One step, as the environment chooses it. -/
def next (w : World α) : Choice → Option (Label × World α)
  | .reply answer =>
    match w.main with
    | .ret _ => none
    | .call op k =>
      if op.answered then
        some (.call op (answer op), ⟨k (answer op), op.latchAfter w.latch⟩)
      else none
  | .latch label => do
    let latch ← CallbackLatch.step w.latch label
    let main ← resume w.main label
    return (.latch label, ⟨main, latch⟩)

/-- The steps of the world. -/
def system (α : Type) : System (World α) Label where
  step w label w' := ∃ choice, w.next choice = some (label, w')

/-- A program about to run, before any latch has been constructed. -/
def start (main : Prog α) : World α := ⟨main, .init⟩

/-- Everything that a step can do. -/
inductive Step : World α → Label → World α → Prop
  | call {op : Op} {k : op.Reply → Prog α} {latch : CallbackLatch.State} (reply : op.Reply)
      (hop : op.answered = true) :
      Step ⟨.call op k, latch⟩ (.call op reply) ⟨k reply, op.latchAfter latch⟩
  | callback {main : Prog α} {latch latch' : CallbackLatch.State} {label : CallbackLatch.Label}
      (hstep : CallbackLatch.step latch label = some latch') (hmethod : label.method = none) :
      Step ⟨main, latch⟩ (.latch label) ⟨main, latch'⟩
  | method {m : CallbackLatch.Method} {k : Unit → Prog α} {latch latch' : CallbackLatch.State}
      {label : CallbackLatch.Label} (hstep : CallbackLatch.step latch label = some latch')
      (hmethod : label.method = some m) (hreturns : label.returns = false) :
      Step ⟨.call (.latch m) k, latch⟩ (.latch label) ⟨.call (.latch m) k, latch'⟩
  | finish {m : CallbackLatch.Method} {k : Unit → Prog α} {latch latch' : CallbackLatch.State}
      {label : CallbackLatch.Label} (hstep : CallbackLatch.step latch label = some latch')
      (hmethod : label.method = some m) (hreturns : label.returns = true) :
      Step ⟨.call (.latch m) k, latch⟩ (.latch label) ⟨k (), latch'⟩

theorem resume_eq_some {main main' : Prog α} {label : CallbackLatch.Label}
    (hresume : resume main label = some main') :
    (label.method = none ∧ main' = main) ∨
      ∃ m k, label.method = some m ∧ main = .call (.latch m) k ∧
        main' = if label.returns then k () else main := by
  unfold resume at hresume
  split at hresume
  · next hmethod => exact Or.inl ⟨hmethod, by simpa using hresume.symm⟩
  · next m m' k hmethod =>
    split at hresume
    · next heq =>
      subst heq
      exact Or.inr ⟨_, k, hmethod, rfl, by simpa using hresume.symm⟩
    · simp at hresume
  · simp at hresume

theorem step_cases {w w' : World α} {label : Label} (hstep : (system α).step w label w') :
    Step w label w' := by
  obtain ⟨choice, hnext⟩ := hstep
  obtain ⟨main, latch⟩ := w
  cases choice with
  | reply answer =>
    cases main with
    | ret a => simp [next] at hnext
    | call op k =>
      simp only [next, Option.ite_none_right_eq_some, Option.some.injEq, Prod.mk.injEq] at hnext
      obtain ⟨hop, rfl, rfl⟩ := hnext
      exact Step.call (answer op) hop
  | latch label =>
    simp only [next, Option.bind_eq_bind, Option.bind_eq_some_iff, Option.pure_def,
      Option.some.injEq, Prod.mk.injEq] at hnext
    obtain ⟨latch', hlatch, main', hresume, rfl, rfl⟩ := hnext
    obtain ⟨hmethod, rfl⟩ | ⟨m, k, hmethod, rfl, rfl⟩ := resume_eq_some hresume
    · exact Step.callback hlatch hmethod
    · cases hreturns : label.returns with
      | false => exact Step.method hlatch hmethod hreturns
      | true => exact Step.finish hlatch hmethod hreturns

/-- A step on the latch is a step of the world when the main program goes along with it. -/
theorem step_latch {main main' : Prog α} {latch latch' : CallbackLatch.State}
    {label : CallbackLatch.Label} (hlatch : CallbackLatch.step latch label = some latch')
    (hresume : resume main label = some main') :
    (system α).step ⟨main, latch⟩ (.latch label) ⟨main', latch'⟩ :=
  ⟨.latch label, by simp [next, hlatch, hresume]⟩

/-- What every step of the latch machine keeps holds of the latch in every world. -/
theorem preserves_latch {P : CallbackLatch.State → Prop} (hP : CallbackLatch.machine.Preserves P)
    (hinit : P .init) : (system α).Preserves fun w ↦ P w.latch := by
  intro w label w' hstep hw
  cases step_cases hstep with
  | @call op k latch reply hop =>
    cases op with
    | constructLatch => exact hinit
    | _ => exact hw
  | callback hlatch => exact hP hlatch hw
  | method hlatch => exact hP hlatch hw
  | finish hlatch => exact hP hlatch hw

/-! ## What the main thread does in a run -/

/-- The event of the main thread that a step completes. -/
def Label.mainEvent : Label → Option MainEvent
  | .call op reply => some ⟨op, reply⟩
  | .latch label => if label.returns then label.method.map finished else none

/-- The events of the main thread in a run. -/
def mainEvents (labels : List Label) : List MainEvent := labels.filterMap Label.mainEvent

@[simp]
theorem mainEvents_nil : mainEvents [] = [] := rfl

@[simp]
theorem mainEvents_append (first second : List Label) :
    mainEvents (first ++ second) = mainEvents first ++ mainEvents second :=
  List.filterMap_append

theorem mainEvents_snoc_call (labels : List Label) (op : Op) (reply : op.Reply) :
    mainEvents (labels ++ [.call op reply]) = mainEvents labels ++ [⟨op, reply⟩] := by
  simp [mainEvents, Label.mainEvent]

theorem mainEvents_snoc_callback (labels : List Label) {label : CallbackLatch.Label}
    (hmethod : label.method = none) :
    mainEvents (labels ++ [.latch label]) = mainEvents labels := by
  simp [mainEvents, Label.mainEvent, hmethod]

theorem mainEvents_snoc_inner (labels : List Label) {label : CallbackLatch.Label}
    (hreturns : label.returns = false) :
    mainEvents (labels ++ [.latch label]) = mainEvents labels := by
  simp [mainEvents, Label.mainEvent, hreturns]

theorem mainEvents_snoc_return (labels : List Label) {label : CallbackLatch.Label}
    {m : CallbackLatch.Method} (hmethod : label.method = some m) (hreturns : label.returns = true) :
    mainEvents (labels ++ [.latch label]) = mainEvents labels ++ [finished m] := by
  simp [mainEvents, Label.mainEvent, hmethod, hreturns]

/-- The answered operations among the events are those of the run. -/
theorem mem_mainEvents {labels : List Label} {op : Op} {reply : op.Reply}
    (hop : op.answered = true) :
    (⟨op, reply⟩ : MainEvent) ∈ mainEvents labels ↔ Label.call op reply ∈ labels := by
  refine List.mem_filterMap.trans ⟨?_, fun h ↦ ⟨_, h, rfl⟩⟩
  rintro ⟨label, hlabel, hevent⟩
  cases label with
  | call op' reply' =>
    simp only [Label.mainEvent, Option.some.injEq] at hevent
    cases hevent
    exact hlabel
  | latch label =>
    simp only [Label.mainEvent, Option.ite_none_right_eq_some, Option.map_eq_some_iff] at hevent
    obtain ⟨-, m, -, hm⟩ := hevent
    cases hm
    simp [Op.answered] at hop

theorem leads_snoc {p : Prog α} {w w' : World α} {labels : List Label} {label : Label}
    (hstep : (system α).step w label w') (hleads : p.Leads (mainEvents labels) w.main) :
    p.Leads (mainEvents (labels ++ [label])) w'.main := by
  cases step_cases hstep with
  | call reply hop =>
    rw [mainEvents_snoc_call]
    exact hleads.snoc reply
  | callback hlatch hmethod =>
    rw [mainEvents_snoc_callback _ hmethod]
    exact hleads
  | method hlatch hmethod hreturns =>
    rw [mainEvents_snoc_inner _ hreturns]
    exact hleads
  | finish hlatch hmethod hreturns =>
    rw [mainEvents_snoc_return _ hmethod hreturns]
    exact hleads.snoc ()

/-- Whatever the callbacks do, the main thread executes its program. -/
theorem leads_of_run {w w' : World α} {labels : List Label}
    (hrun : (system α).Run w labels w') : w.main.Leads (mainEvents labels) w'.main :=
  hrun.historyInvariant (P := fun labels w' ↦ w.main.Leads (mainEvents labels) w'.main)
    (fun _ _ _ _ ↦ leads_snoc) Program.Leads.refl

/-! ## Notifications that arrive -/

/-- The step with which a callback delivers the notification that a slot is for. -/
def Label.delivers (x : CallbackLatch.Slot) : Label → Bool
  | .latch (.swap _ n) => n.notificationType == x.notificationType
  | _ => false

/-- The notification that a slot is for has been delivered. -/
def Delivered (x : CallbackLatch.Slot) (labels : List Label) : Prop :=
  ∃ label ∈ labels, label.delivers x = true

/-- The main thread has waited for a notification and gone on. -/
def Awaited (x : CallbackLatch.Slot) (past : List MainEvent) : Prop := finished (.await x) ∈ past

theorem Delivered.append {x : CallbackLatch.Slot} {labels : List Label}
    (h : Delivered x labels) (more : List Label) : Delivered x (labels ++ more) := by
  obtain ⟨label, hlabel, hdelivers⟩ := h
  exact ⟨label, List.mem_append_left _ hlabel, hdelivers⟩

/-- A flag that is set was set before or is set by this swap. -/
theorem flag_of_step {s t : CallbackLatch.State} {label : CallbackLatch.Label}
    {x : CallbackLatch.Slot} (hstep : CallbackLatch.step s label = some t)
    (hflag : t.flag x = true) :
    s.flag x = true ∨ (Label.latch label).delivers x = true := by
  cases label with
  | swap id n =>
    simp only [CallbackLatch.step, Option.ite_none_right_eq_some, Option.some.injEq] at hstep
    obtain ⟨-, rfl⟩ := hstep
    exact (CallbackLatch.flag_swap_iff.mp hflag).imp_right beq_iff_eq.mpr
  | _ =>
    simp only [CallbackLatch.step] at hstep
    grind

/-- Every set flag and every wait that is over has its notification. -/
structure Backed (labels : List Label) (w : World α) : Prop where
  read : CallbackLatch.Read w.latch
  flag : ∀ x, w.latch.flag x = true → Delivered x labels
  awaited : ∀ x, Awaited x (mainEvents labels) → Delivered x labels

theorem Backed.snoc {w w' : World α} {labels : List Label} {label : Label}
    (hstep : (system α).step w label w') (hw : Backed labels w) :
    Backed (labels ++ [label]) w' := by
  have hread : CallbackLatch.Read w'.latch :=
    preserves_latch CallbackLatch.machine_preserves_read CallbackLatch.read_init hstep hw.read
  have hflag (l : CallbackLatch.Label) (hlabel : label = .latch l) (x : CallbackLatch.Slot)
      (t : CallbackLatch.State) (hlatch : CallbackLatch.step w.latch l = some t)
      (hset : t.flag x = true) : Delivered x (labels ++ [label]) := by
    rcases flag_of_step hlatch hset with hbefore | hdelivers
    · exact (hw.flag x hbefore).append _
    · exact ⟨label, by simp, hlabel ▸ hdelivers⟩
  cases step_cases hstep with
  | @call op k latch reply hop =>
    refine ⟨hread, fun x hset ↦ (hw.flag x ?_).append _,
      fun x hawaited ↦ (hw.awaited x ?_).append _⟩
    · cases op with
      | constructLatch => simp [Op.latchAfter, CallbackLatch.State.init] at hset
      | _ => exact hset
    · rw [mainEvents_snoc_call] at hawaited
      rcases List.mem_append.mp hawaited with hbefore | hlast
      · exact hbefore
      · cases List.mem_singleton.mp hlast
        simp [Op.answered] at hop
  | callback hlatch hmethod =>
    refine ⟨hread, fun x ↦ hflag _ rfl x _ hlatch, fun x hawaited ↦ (hw.awaited x ?_).append _⟩
    rwa [mainEvents_snoc_callback _ hmethod] at hawaited
  | method hlatch hmethod hreturns =>
    refine ⟨hread, fun x ↦ hflag _ rfl x _ hlatch, fun x hawaited ↦ (hw.awaited x ?_).append _⟩
    rwa [mainEvents_snoc_inner _ hreturns] at hawaited
  | @finish m _ latch _ l hlatch hmethod hreturns =>
    refine ⟨hread, fun x ↦ hflag _ rfl x _ hlatch, fun x hawaited ↦ ?_⟩
    rw [mainEvents_snoc_return _ hmethod hreturns] at hawaited
    rcases List.mem_append.mp hawaited with hbefore | hlast
    · exact (hw.awaited x hbefore).append _
    · -- the wait has just returned, having read that its flag is set
      cases List.mem_singleton.mp hlast
      refine (hw.flag x ?_).append _
      cases l with
      | awaitReturn y =>
        obtain rfl : y = x := by simpa [CallbackLatch.Label.method] using hmethod
        simp only [CallbackLatch.step, Option.ite_none_right_eq_some] at hlatch
        exact hw.read y hlatch.1.1
      | _ => simp [CallbackLatch.Label.method, CallbackLatch.Label.returns] at hmethod hreturns

/-- What the main thread has waited for has been delivered. -/
theorem delivered_of_awaited {p : Prog α} {w : World α} {labels : List Label}
    (hrun : (system α).Run (start p) labels w) {x : CallbackLatch.Slot}
    (hawaited : Awaited x (mainEvents labels)) : Delivered x labels := by
  have hbacked : Backed labels w := hrun.historyInvariant (P := Backed)
    (fun _ _ _ _ hstep hw ↦ hw.snoc hstep)
    ⟨CallbackLatch.read_init, fun x hflag ↦ by simp [start, CallbackLatch.State.init] at hflag,
      fun x hawaited ↦ by simp [Awaited] at hawaited⟩
  exact hbacked.awaited x hawaited

/-! ## Exports that resolve -/

/-- The step is not a wrapper that threw instead of calling its export. -/
def Label.resolved : Label → Bool
  | .call (.api _) (.error _) => false
  | _ => true

/-- No wrapper of an export threw: every call came back with a code. -/
def Resolves (labels : List Label) : Prop := ∀ label ∈ labels, label.resolved = true

instance (labels : List Label) : Decidable (Resolves labels) :=
  inferInstanceAs (Decidable (∀ label ∈ labels, label.resolved = true))

/-- The replies of a world in which every export resolves. -/
def Resolved (op : Op) (reply : op.Reply) : Prop := (Label.call op reply).resolved = true

theorem not_resolved_error {call : ApiCall} {failure : LookupFailure} :
    ¬ Resolved (.api call) (.error failure) := Bool.false_ne_true

theorem Resolves.resolved {labels : List Label} (hlabels : Resolves labels) :
    ∀ event ∈ mainEvents labels, Resolved event.1 event.2 := by
  rintro event hevent
  obtain ⟨label, hlabel, hevent⟩ := List.mem_filterMap.mp hevent
  cases label with
  | call op reply =>
    simp only [Label.mainEvent, Option.some.injEq] at hevent
    subst hevent
    exact hlabels _ hlabel
  | latch label =>
    simp only [Label.mainEvent, Option.ite_none_right_eq_some, Option.map_eq_some_iff] at hevent
    obtain ⟨-, m, -, rfl⟩ := hevent
    rfl

theorem resolves_iff {labels : List Label} :
    Resolves labels ↔ ∀ event ∈ mainEvents labels, Resolved event.1 event.2 := by
  refine ⟨Resolves.resolved, fun h label hlabel ↦ ?_⟩
  cases label with
  | call op reply => exact h ⟨op, reply⟩ (List.mem_filterMap.mpr ⟨_, hlabel, rfl⟩)
  | latch label => rfl

/-- An operation of a run met its precondition when it was performed. -/
theorem pre_of_run {w w' : World α} {labels : List Label}
    {allowed : (op : Op) → op.Reply → Prop} {pre : List MainEvent → Op → Prop}
    {post : List MainEvent → α → Prop} (hrun : (system α).Run w labels w')
    (hallowed : ∀ event ∈ mainEvents labels, allowed event.1 event.2)
    (hwp : w.main.wp allowed pre [] post) {i : ℕ} {op : Op} {reply : op.Reply}
    (hi : labels[i]? = some (.call op reply)) : pre (mainEvents (labels.take i)) op := by
  obtain ⟨hlength, hlabel⟩ := List.getElem?_eq_some_iff.mp hi
  have hsplit : labels = labels.take i ++ .call op reply :: labels.drop (i + 1) := by
    rw [← hlabel, ← List.drop_eq_getElem_cons hlength, List.take_append_drop]
  rw [hsplit] at hrun
  obtain ⟨t, t', hbefore, hstep, -⟩ := hrun.split
  have hnow := Program.wp_of_leads (leads_of_run hbefore) (fun event hevent ↦ hallowed event (by
    rw [hsplit, mainEvents_append]
    exact List.mem_append_left _ hevent)) hwp
  rw [List.nil_append] at hnow
  cases step_cases hstep with
  | call reply hop => exact hnow.1

/-- The result of a completed run meets a postcondition of the program. -/
theorem post_of_run {p : Prog α} {a : α} {latch : CallbackLatch.State} {labels : List Label}
    {allowed : (op : Op) → op.Reply → Prop} {pre : List MainEvent → Op → Prop}
    {post : List MainEvent → α → Prop} (hrun : (system α).Run (start p) labels ⟨.ret a, latch⟩)
    (hallowed : ∀ event ∈ mainEvents labels, allowed event.1 event.2)
    (hwp : p.wp allowed pre [] post) : post (mainEvents labels) a := by
  simpa using Program.wp_of_leads (leads_of_run hrun) hallowed hwp

/-! ## Schedules -/

/-- The step is an answer that the program sees as an exception. -/
def Label.threw : Label → Bool
  | .call (.api _) (.error _) => true
  | .call (.load _) (.error _) => true
  | .call (.dumps _) (.error _) => true
  | _ => false

theorem not_mem_of_threw {labels : List Label} {label : Label}
    (hlabels : ∀ label ∈ labels, label.threw = false) (hlabel : label.threw = true) :
    label ∉ labels := fun h ↦ by simp [hlabels label h] at hlabel

/-- A configuration for concrete runs. -/
def someConfig : NspawnConfig where
  processDirectory := "C:\\app"
  processExecutable := "app.exe"
  mappedDirectory := "C:\\host"
  stdoutFilename := "out.txt"
  parentLayerDirectory := "C:\\layers\\base"

/-- The text of `someConfig` as a JSON value. -/
def someJson : Json := .object [("process_directory", .string "C:/app"),
  ("process_executable", .string "app.exe"), ("mapped_directory", .string "C:/host"),
  ("stdout_filename", .string "out.txt"), ("parent_layer_directory", .string "C:/layers/base")]

/-- The code with which a call succeeds. -/
def successCode : ApiCall → UInt32
  | .hcsCreateComputeSystem .. => operationPending
  | .hcsStartComputeSystem .. => operationPending
  | .hcsTerminateComputeSystem .. => operationPending
  | _ => 0

/-- Out parameters for the calls of a schedule. -/
def someOut : (call : ApiCall) → call.Out
  | .getLayerMountPath .. => []
  | .nameToGuid _ => ⟨0, 0, 0, .replicate 8 0⟩
  | .hcsCreateComputeSystem .. => (1 : ℕ)
  | .hcsEnumerateComputeSystems _ => []
  | .hcsCreateProcess .. => (2 : ℕ)
  | .createSandboxLayer .. | .activateLayer .. | .prepareLayer .. | .unprepareLayer ..
  | .deactivateLayer .. | .destroyLayer .. | .hcsRegisterComputeSystemCallback _
  | .hcsStartComputeSystem .. | .hcsTerminateComputeSystem .. | .hcsRegisterProcessCallback _ => ()

/-- The answers of an environment in which a call comes back with the given code. -/
def answers (code : ApiCall → UInt32) : (op : Op) → op.Reply
  | .api call => .ok ⟨code call, someOut call⟩
  | .load _ => .ok (.array [])
  | .dumps _ => .ok ""
  | .currentDatetime => "20161224180000"
  | .generate length => .ofList (List.replicate length '0')
  | .cerr _ | .constructLatch | .destroyLatch | .latch _ | .terminate => ()

/-- An answered operation may get any reply. -/
theorem step_call {op : Op} {k : op.Reply → Prog α} {latch : CallbackLatch.State}
    (hop : op.answered = true) (reply : op.Reply) :
    (system α).step ⟨.call op k, latch⟩ (.call op reply) ⟨k reply, op.latchAfter latch⟩ := by
  classical
  exact ⟨.reply (Function.update (answers successCode) op reply), by simp [next, hop]⟩

/-- The environment answers as it does when nothing fails. -/
def Choice.succeed : Choice := .reply (answers successCode)

/-- The environment answers a call with a code. -/
def Choice.code (code : UInt32) : Choice := .reply (answers fun _ ↦ code)

/-- The configuration is read. -/
def Choice.loaded : Choice := .reply fun
  | .load _ => .ok someJson
  | op => answers successCode op

/-- The export of a call is missing. -/
def Choice.missing : Choice := .reply fun
  | .api _ => .error .function
  | op => answers successCode op

/-- The steps of the main thread up to the construction of the latch. -/
def Choice.untilLatch : List Choice := List.replicate 17 .succeed

/-- The main thread locks the latch. -/
def Choice.lock : List Choice := [.latch .lockCall, .latch .lockReturn]

/-- A latched call that succeeds and whose notification arrives before the main thread waits. -/
def Choice.notified (id : ℕ) (n : Notification) (x : CallbackLatch.Slot) : List Choice :=
  Choice.lock ++ [.succeed, .latch (.enter n), .latch (.swap id n), .latch (.awaitCall x),
    .latch (.check x), .latch (.awaitReturn x)]

/-- The rest of a callback that has published its flag. -/
def Choice.retire (id : ℕ) (x : CallbackLatch.Slot) : List Choice :=
  [.latch (.acquire id x), .latch (.notify id x), .latch (.release id x)]

/-- A run in which every call succeeds up to the creation of the process, with the status that the
notifications carry. -/
def Choice.untilProcess (status : Int32) : List Choice :=
  Choice.untilLatch ++
    Choice.notified 0 ⟨0x00000002, status⟩ .systemCreate ++ Choice.retire 0 .systemCreate ++
    Choice.notified 1 ⟨0x00000003, status⟩ .systemStart ++ Choice.retire 1 .systemStart ++
    List.replicate 3 .succeed

/-- The same run up to the exit of the compute system. -/
def Choice.untilExit (status : Int32) : List Choice :=
  Choice.untilProcess status ++
    Choice.notified 2 ⟨0x00010000, status⟩ .processExit ++ Choice.retire 2 .processExit ++
    Choice.notified 3 ⟨0x00000001, status⟩ .systemExit

/-- The guards of the latch and of the layer. -/
def Choice.unwind : List Choice := List.replicate 4 .succeed

/-- The run that the environment chooses. -/
theorem run_of_choices {w w' : World α} (choices : List Choice) {labels : List Label}
    (hreplay : System.replay next w choices = some (labels, w')) :
    (system α).Run w labels w' :=
  System.run_of_replay (S := system α) (fun _ choice _ _ hnext ↦ ⟨choice, hnext⟩) hreplay

end World

end HostcomputeNspawn
