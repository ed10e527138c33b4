import HostcomputeNspawn.Semantics.Interaction

/-!
# Handlers

A handler implements every operation of a program by a program over other operations, with a state
that survives from one operation to the next.  What is known of a program is known of its
implementation: if the past of the operations and the past of their implementations stay related,
then an implementation does what some execution of the program allows.
-/

namespace Interaction

variable {Op Op' : Type} {Reply : Op → Type} {Reply' : Op' → Type} {α β σ : Type}

/-- How operations are implemented, from a state to a state. -/
abbrev Handler (Op : Type) (Reply : Op → Type) (Op' : Type) (Reply' : Op' → Type) (σ : Type) :=
  (op : Op) → σ → Program Op' Reply' (Reply op × σ)

namespace Program

/-- Run a program with its operations implemented. -/
def handle (h : Handler Op Reply Op' Reply' σ) : Program Op Reply α → σ → Program Op' Reply' (α × σ)
  | ret a, s => ret (a, s)
  | call op next, s => (h op s).bind fun result ↦ (next result.1).handle h result.2

variable {h : Handler Op Reply Op' Reply' σ}

theorem handle_call (op : Op) (next : Reply op → Program Op Reply α) (s : σ) :
    (call op next).handle h s = h op s >>= fun result ↦ (next result.1).handle h result.2 := rfl

/-- The strongest statement about a program: it leads to its operations and to its results. -/
theorem wp_leads {allowed : (op : Op) → Reply op → Prop} {p q : Program Op Reply α}
    {past : List (Event Op Reply)} (hq : p.Leads past q) :
    q.wp allowed (fun past' op ↦ ∃ next, p.Leads past' (call op next)) past
      fun past' a ↦ p.Leads past' (ret a) := by
  induction q generalizing past with
  | ret a => exact hq
  | call op next ih => exact ⟨⟨next, hq⟩, fun reply _ ↦ ih reply (hq.snoc reply)⟩

/-- The same of a program whose operations are permitted wherever it performs them. -/
theorem Only.wp_leads {S : Op → Prop} {allowed : (op : Op) → Reply op → Prop}
    {pre : List (Event Op Reply) → Op → Prop} {p q : Program Op Reply α}
    {past : List (Event Op Reply)} (honly : q.Only S) (hq : p.Leads past q)
    (hpre : ∀ past op, S op → pre past op) :
    q.wp allowed pre past fun past' a ↦ p.Leads past' (ret a) := by
  induction q generalizing past with
  | ret a => exact hq
  | call op next ih =>
    exact ⟨hpre past op honly.1, fun reply _ ↦ ih reply (honly.2 reply) (hq.snoc reply)⟩

section Transfer

variable {allowed : (op : Op) → Reply op → Prop} {pre : List (Event Op Reply) → Op → Prop}
  {allowed' : (op : Op') → Reply' op → Prop} {pre' : List (Event Op' Reply') → Op' → Prop}
  {R : List (Event Op Reply) → List (Event Op' Reply') → σ → Prop}
  {post : List (Event Op Reply) → α → Prop}

/-- What is known of a program is known of its implementation, if every operation keeps the pasts
related and gets a reply that the program allows. -/
theorem wp_handle {p : Program Op Reply α} {past : List (Event Op Reply)}
    {past' : List (Event Op' Reply')} {s : σ}
    (hop : ∀ past past' s op, R past past' s → pre past op →
      (h op s).wp allowed' pre' past' fun past'' result ↦
        allowed op result.1 ∧ R (past ++ [⟨op, result.1⟩]) past'' result.2)
    (hp : p.wp allowed pre past post) (hR : R past past' s) :
    (p.handle h s).wp allowed' pre' past' fun past'' result ↦
      ∃ events, R events past'' result.2 ∧ post events result.1 := by
  induction p generalizing past past' s with
  | ret a => exact ⟨past, hR, hp⟩
  | call op next ih =>
    rw [handle_call, wp_bind]
    refine wp_mono (fun past'' result hresult ↦ ?_) (hop past past' s op hR hp.1)
    exact ih result.1 (hp.2 result.1 hresult.1) hresult.2

end Transfer

end Program

/-! ## Implementations that throw and keep a state -/

/-- Programs with a state that survives their exceptions. -/
abbrev Stateful (Op : Type) (Reply : Op → Type) (σ ε : Type) :=
  ExceptT ε (StateT σ (Program Op Reply))

namespace Stateful

open Program

variable {ε : Type} {allowed : (op : Op) → Reply op → Prop}
  {pre : List (Event Op Reply) → Op → Prop} {past : List (Event Op Reply)} {s : σ}

/-- One operation. -/
def perform (op : Op) : Stateful Op Reply σ ε (Reply op) :=
  ExceptT.mk fun s ↦ Program.perform op >>= fun reply ↦ Program.ret (.ok reply, s)

theorem run_get_bind (f : σ → Stateful Op Reply σ ε α) :
    ((get >>= f : Stateful Op Reply σ ε α)).run.run s = (f s).run.run s := rfl

/-- Sequential composition, with the state that the first part leaves. -/
theorem wp_bind {m : Stateful Op Reply σ ε α} {f : α → Stateful Op Reply σ ε β}
    {post : List (Event Op Reply) → Except ε β × σ → Prop} :
    ((m >>= f).run.run s).wp allowed pre past post ↔
      (m.run.run s).wp allowed pre past fun past' result ↦
        match result.1 with
        | .ok a => ((f a).run.run result.2).wp allowed pre past' post
        | .error e => post past' (.error e, result.2) := by
  rw [ExceptT.run_bind, StateT.run_bind, Program.wp_bind]
  constructor <;> intro h <;> refine wp_mono (fun past' result hresult ↦ ?_) h <;>
    obtain ⟨result, s'⟩ := result <;> cases result <;> exact hresult

end Stateful

end Interaction
