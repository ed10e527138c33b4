import HostcomputeNspawn.CallbackLatch
import HostcomputeNspawn.Externals
import HostcomputeNspawn.Semantics.Interaction

/-!
# What the main thread does outside itself

The operations of the main thread: calls to the container service, reading and writing JSON text,
the clock and the random generator, lines on `std::cerr`, and the methods and the lifetime of the
callback latch.  The functions of the program that talk to the container service fall into few
shapes: check the code of a call and throw, complain about the code of a cleanup, or hold the latch
over a call and await its notification.  Each shape is defined once, with one rule for its weakest
precondition.
-/

namespace HostcomputeNspawn

open Interaction

/-- Where JSON text is read from. -/
inductive JsonSource
  | file (path : String)
  | text (bytes : List UInt8)
deriving DecidableEq, Repr

/-- The operations of the main thread.  `terminate` is `std::terminate`, which has no reply. -/
inductive Op
  | api (call : ApiCall)
  | load (source : JsonSource)
  | dumps (json : Json)
  | currentDatetime
  | generate (length : ℕ)
  | cerr (line : String)
  | constructLatch
  | destroyLatch
  | latch (method : CallbackLatch.Method)
  | terminate

/-- The replies of the environment: reading and writing JSON text may throw. -/
@[reducible]
def Op.Reply : Op → Type
  | api call => ApiReply call
  | load _ => Except StdException Json
  | dumps _ => Except StdException String
  | currentDatetime => String
  | generate _ => String
  | _ => Unit

/-- Code that cannot throw. -/
abbrev Prog := Program Op Op.Reply

/-- Code that may throw. -/
abbrev Nspawn := Fallible Op Op.Reply StdException

/-- The events of the main thread. -/
abbrev MainEvent := Event Op Op.Reply

/-- One operation of code that may throw. -/
def perform (op : Op) : Nspawn op.Reply := liftM (Program.perform op : Prog op.Reply)

/-- A computation without effects. -/
def ofExcept {α : Type} (result : Except StdException α) : Nspawn α := ExceptT.mk (pure result)

/-- `sl::json::load`. -/
def load (source : JsonSource) : Nspawn Json := do
  let result ← perform (.load source)
  ofExcept result

/-- `sl::json::value::dumps`. -/
def dumps (json : Json) : Nspawn String := do
  let result ← perform (.dumps json)
  ofExcept result

/-- The exception of a wrapper whose library or export cannot be resolved. -/
def lookupException (lib : Externals) (call : ApiCall) : LookupFailure → StdException
  | .library lastError => ⟨lib.traceMsg .vmcomputelib ("Cannot load 'vmcompute.dll' library," ++
      " error: [" ++ lib.errcodeToString lastError ++ "]")⟩
  | .function => ⟨lib.traceMsg .lookupfun
      ("Cannot load function [" ++ call.name ++ "] from 'vmcompute.dll'")⟩

/-- The wrapper of an export: look it up, and call it. -/
def vmcompute (lib : Externals) (call : ApiCall) : Nspawn (ApiResult call) := do
  let reply ← perform (.api call)
  ofExcept (Except.mapError (lookupException lib call) reply)

/-- Call, and throw unless the expected code was returned. -/
def checked (lib : Externals) (call : ApiCall) (expected : UInt32) (message : UInt32 → String) :
    Nspawn call.Out := do
  let result ← vmcompute lib call
  if result.code ≠ expected then
    throw ⟨message result.code⟩
  return result.out

/-- The body of a function declared `noexcept`: an exception that leaves it ends the process. -/
def noexcept (body : Nspawn Unit) : Prog Unit := do
  match ← body.run with
  | .ok () => pure ()
  | .error _ => Program.perform Op.terminate

/-- A line on `std::cerr`. -/
def cerr (line : String) : Nspawn Unit := perform (.cerr line)

/-- Call in a destructor, where the code of a failure is only written out. -/
def cleanup (lib : Externals) (call : ApiCall) (message : UInt32 → String) : Prog Unit :=
  noexcept do
    let result ← vmcompute lib call
    if result.code ≠ 0 then
      cerr (message result.code)

namespace CallbackLatch

def lock : Nspawn Unit := perform (.latch .lock)

def cancel : Nspawn Unit := perform (.latch .cancel)

def await (lib : Externals) (nt : NotificationType) : Nspawn Unit :=
  match slot nt with
  | some x => perform (.latch (.await x))
  | none => throw ⟨lib.traceMsg .await "Unsupported notification type"⟩

end CallbackLatch

/-- Call with the latch locked; cancel and throw unless the expected code was returned, and then
await the notification. -/
def latched (lib : Externals) (call : ApiCall) (expected : UInt32) (message : UInt32 → String)
    (nt : NotificationType) : Nspawn call.Out := do
  CallbackLatch.lock
  let result ← vmcompute lib call
  if result.code ≠ expected then
    CallbackLatch.cancel
    throw ⟨message result.code⟩
  CallbackLatch.await lib nt
  return result.out

/-! ## Rules -/

section Rules

variable {lib : Externals} {allowed : (op : Op) → op.Reply → Prop}
  {pre : List MainEvent → Op → Prop} {past : List MainEvent} {call : ApiCall}

/-- A call with its reply. -/
abbrev called (call : ApiCall) (reply : ApiReply call) : MainEvent := ⟨.api call, reply⟩

/-- A call that came back with a code. -/
abbrev returned (call : ApiCall) (code : UInt32) (out : call.Out) : MainEvent :=
  called call (.ok ⟨code, out⟩)

/-- A line that has been written to `std::cerr`. -/
abbrev complained (line : String) : MainEvent := ⟨.cerr line, ()⟩

/-- A method of the latch that has returned. -/
abbrev finished (method : CallbackLatch.Method) : MainEvent := ⟨.latch method, ()⟩

theorem wp_perform {op : Op} {post : List MainEvent → Except StdException op.Reply → Prop}
    (hop : pre past op)
    (hreply : ∀ reply, allowed op reply → post (past ++ [⟨op, reply⟩]) (.ok reply)) :
    (perform op).run.wp allowed pre past post := ⟨hop, hreply⟩

/-- An operation, and what is done with its reply. -/
theorem wp_perform_bind {β : Type} {op : Op} {k : op.Reply → Nspawn β}
    {post : List MainEvent → Except StdException β → Prop} (hop : pre past op)
    (hrest : ∀ reply, allowed op reply →
      (k reply).run.wp allowed pre (past ++ [⟨op, reply⟩]) post) :
    (perform op >>= k).run.wp allowed pre past post :=
  (Fallible.wp_run_bind _ _).mpr (wp_perform hop hrest)

theorem wp_load {source : JsonSource} {post : List MainEvent → Except StdException Json → Prop}
    (hop : pre past (.load source))
    (hreply : ∀ reply, allowed (.load source) reply →
      post (past ++ [⟨.load source, reply⟩]) reply) :
    (load source).run.wp allowed pre past post :=
  wp_perform_bind hop hreply

theorem wp_dumps {json : Json} {post : List MainEvent → Except StdException String → Prop}
    (hop : pre past (.dumps json))
    (hreply : ∀ reply, allowed (.dumps json) reply → post (past ++ [⟨.dumps json, reply⟩]) reply) :
    (dumps json).run.wp allowed pre past post :=
  wp_perform_bind hop hreply

theorem wp_vmcompute {post : List MainEvent → Except StdException (ApiResult call) → Prop}
    (hcall : pre past (.api call))
    (hthrow : ∀ failure, allowed (.api call) (.error failure) →
      post (past ++ [called call (.error failure)]) (.error (lookupException lib call failure)))
    (hreturn : ∀ result, allowed (.api call) (.ok result) →
      post (past ++ [called call (.ok result)]) (.ok result)) :
    (vmcompute lib call).run.wp allowed pre past post := by
  refine ⟨hcall, fun reply hreply ↦ ?_⟩
  cases reply with
  | error failure => exact hthrow failure hreply
  | ok result => exact hreturn result hreply

theorem wp_checked {expected : UInt32} {message : UInt32 → String}
    {post : List MainEvent → Except StdException call.Out → Prop}
    (hcall : pre past (.api call))
    (hthrow : ∀ failure, allowed (.api call) (.error failure) →
      post (past ++ [called call (.error failure)]) (.error (lookupException lib call failure)))
    (hfail : ∀ code out, allowed (.api call) (.ok ⟨code, out⟩) → code ≠ expected →
      post (past ++ [returned call code out]) (.error ⟨message code⟩))
    (hok : ∀ out, allowed (.api call) (.ok ⟨expected, out⟩) →
      post (past ++ [returned call expected out]) (.ok out)) :
    (checked lib call expected message).run.wp allowed pre past post := by
  refine (Fallible.wp_run_bind _ _).mpr (wp_vmcompute hcall hthrow ?_)
  rintro ⟨code, out⟩ hreply
  by_cases hcode : code = expected
  · subst hcode
    simpa using hok out hreply
  · simpa [hcode] using hfail code out hreply hcode

theorem wp_cleanup {message : UInt32 → String} {post : List MainEvent → Unit → Prop}
    (hcall : pre past (.api call))
    (hthrow : ∀ failure, allowed (.api call) (.error failure) →
      (Program.perform Op.terminate : Prog Unit).wp allowed pre
        (past ++ [called call (.error failure)]) post)
    (hok : ∀ out, allowed (.api call) (.ok ⟨0, out⟩) → post (past ++ [returned call 0 out]) ())
    (hfail : ∀ code out, allowed (.api call) (.ok ⟨code, out⟩) → code ≠ 0 →
      pre (past ++ [returned call code out]) (.cerr (message code)) ∧
        post (past ++ [returned call code out, complained (message code)]) ()) :
    (cleanup lib call message).wp allowed pre past post := by
  refine (Program.wp_bind _ _).mpr ((Fallible.wp_run_bind _ _).mpr (wp_vmcompute hcall hthrow ?_))
  rintro ⟨code, out⟩ hreply
  by_cases hcode : code = 0
  · subst hcode
    simpa using hok out hreply
  · obtain ⟨hcerr, hpost⟩ := hfail code out hreply hcode
    simp only [ne_eq, hcode, not_false_eq_true, if_true]
    apply wp_perform hcerr
    intro _ _
    simpa using hpost

theorem wp_latched {expected : UInt32} {message : UInt32 → String} {nt : NotificationType}
    {x : CallbackLatch.Slot} {post : List MainEvent → Except StdException call.Out → Prop}
    (hslot : CallbackLatch.slot nt = some x) (hlock : pre past (.latch .lock))
    (hcall : pre (past ++ [finished .lock]) (.api call))
    (hthrow : ∀ failure, allowed (.api call) (.error failure) →
      post (past ++ [finished .lock, called call (.error failure)])
        (.error (lookupException lib call failure)))
    (hfail : ∀ code out, allowed (.api call) (.ok ⟨code, out⟩) → code ≠ expected →
      pre (past ++ [finished .lock, returned call code out]) (.latch .cancel) ∧
        post (past ++ [finished .lock, returned call code out, finished .cancel])
          (.error ⟨message code⟩))
    (hok : ∀ out, allowed (.api call) (.ok ⟨expected, out⟩) →
      pre (past ++ [finished .lock, returned call expected out]) (.latch (.await x)) ∧
        post (past ++ [finished .lock, returned call expected out, finished (.await x)])
          (.ok out)) :
    (latched lib call expected message nt).run.wp allowed pre past post := by
  refine wp_perform_bind hlock fun _ _ ↦ ?_
  refine (Fallible.wp_run_bind _ _).mpr (wp_vmcompute hcall ?_ ?_)
  · simpa using hthrow
  · rintro ⟨code, out⟩ hreply
    by_cases hcode : code = expected
    · subst hcode
      obtain ⟨hawait, hpost⟩ := hok out hreply
      simp only [ne_eq, not_true_eq_false, if_false, CallbackLatch.await, hslot]
      refine wp_perform_bind (by simpa using hawait) fun _ _ ↦ ?_
      simpa using hpost
    · obtain ⟨hcancel, hpost⟩ := hfail code out hreply hcode
      simp only [ne_eq, hcode, not_false_eq_true, if_true]
      refine wp_perform_bind (by simpa using hcancel) fun _ _ ↦ ?_
      simpa using hpost

/-! ## Footprints -/

variable {S : Op → Prop}

theorem only_run_perform {op : Op} (hop : S op) : (perform op).run.Only S := ⟨hop, fun _ ↦ trivial⟩

theorem only_load {source : JsonSource} (hop : S (.load source)) : (load source).run.Only S :=
  Fallible.only_run_bind (only_run_perform hop) fun _ ↦ trivial

theorem only_dumps {json : Json} (hop : S (.dumps json)) : (dumps json).run.Only S :=
  Fallible.only_run_bind (only_run_perform hop) fun _ ↦ trivial

theorem only_vmcompute (hcall : S (.api call)) : (vmcompute lib call).run.Only S :=
  Fallible.only_run_bind (only_run_perform hcall) fun _ ↦ trivial

theorem only_checked {expected : UInt32} {message : UInt32 → String} (hcall : S (.api call)) :
    (checked lib call expected message).run.Only S := by
  apply Fallible.only_run_bind (only_vmcompute hcall)
  intro result
  split <;> trivial

theorem only_noexcept {body : Nspawn Unit} (hbody : body.run.Only S) (hterminate : S .terminate) :
    (noexcept body).Only S := by
  apply Program.Only.bind hbody
  intro result
  cases result with
  | ok u => trivial
  | error e => exact ⟨hterminate, fun _ ↦ trivial⟩

theorem only_cleanup {message : UInt32 → String} (hcall : S (.api call))
    (hcerr : ∀ line, S (.cerr line)) (hterminate : S .terminate) :
    (cleanup lib call message).Only S := by
  refine only_noexcept (Fallible.only_run_bind (only_vmcompute hcall) fun result ↦ ?_) hterminate
  split
  · exact only_run_perform (hcerr _)
  · trivial

theorem only_await {nt : NotificationType} (hmethods : ∀ m, S (.latch m)) :
    (CallbackLatch.await lib nt).run.Only S := by
  rw [CallbackLatch.await]
  split
  · next x _ => exact only_run_perform (hmethods (.await x))
  · trivial

theorem only_latched {expected : UInt32} {message : UInt32 → String} {nt : NotificationType}
    (hcall : S (.api call)) (hmethods : ∀ m, S (.latch m)) :
    (latched lib call expected message nt).run.Only S := by
  apply Fallible.only_run_bind (only_run_perform (hmethods .lock))
  intro _
  apply Fallible.only_run_bind (only_vmcompute hcall)
  intro result
  split
  · exact Fallible.only_run_bind (only_run_perform (hmethods .cancel)) fun _ ↦ trivial
  · exact Fallible.only_run_bind (only_await hmethods) fun _ ↦ trivial

/-! ## Evaluation -/

variable {oracle : (op : Op) → op.Reply}

theorem eval_load {source : JsonSource} {json : Json} (hload : oracle (.load source) = .ok json) :
    (load source).run.eval oracle = .ok json := by
  rw [load, Fallible.eval_run_bind (a := oracle (.load source)) rfl, hload]
  rfl

theorem eval_dumps {json : Json} {text : String} (hdumps : oracle (.dumps json) = .ok text) :
    (dumps json).run.eval oracle = .ok text := by
  rw [dumps, Fallible.eval_run_bind (a := oracle (.dumps json)) rfl, hdumps]
  rfl

theorem eval_checked {expected : UInt32} {message : UInt32 → String} {out : call.Out}
    (hcall : oracle (.api call) = .ok ⟨expected, out⟩) :
    (checked lib call expected message).run.eval oracle = .ok out := by
  have hreply : (vmcompute lib call).run.eval oracle = .ok ⟨expected, out⟩ := by
    rw [vmcompute, Fallible.eval_run_bind (a := oracle (.api call)) rfl, hcall]
    rfl
  rw [checked, Fallible.eval_run_bind hreply, if_neg (fun h ↦ h rfl)]
  rfl

end Rules

end HostcomputeNspawn
