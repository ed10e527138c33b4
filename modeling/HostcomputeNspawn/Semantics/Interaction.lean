import Mathlib.Control.Basic
import Mathlib.Data.List.Basic
import Mathlib.Tactic.Common

/-!
# Programs that interact with an environment

A program either returns or performs an operation and continues with the reply that the
environment chooses.  What a program does is the list of its events, the operations together with
their replies.

The weakest precondition of a program speaks about the events of the past: an operation may be
restricted by a precondition on what has happened before it, replies may be restricted to the
allowed ones, and the postcondition relates the whole past with the result.  `wp_of_leads`
transports it to every partial execution.  Fallible programs are programs in an exception
transformer; a deferred cleanup runs on both of their exits.
-/

namespace Interaction

/-- A program over operations `Op` with replies `Reply`. -/
inductive Program (Op : Type) (Reply : Op → Type) (α : Type) : Type
  | ret (a : α)
  | call (op : Op) (next : Reply op → Program Op Reply α)

/-- An operation that was performed, and its reply. -/
abbrev Event (Op : Type) (Reply : Op → Type) := (op : Op) × Reply op

variable {Op : Type} {Reply : Op → Type} {α β ε : Type}

namespace Program

/-- Sequential composition. -/
def bind (p : Program Op Reply α) (f : α → Program Op Reply β) : Program Op Reply β :=
  match p with
  | ret a => f a
  | call op next => call op fun reply ↦ (next reply).bind f

instance : Monad (Program Op Reply) where
  pure := ret
  bind := bind

@[simp]
theorem pure_eq (a : α) : (pure a : Program Op Reply α) = ret a := rfl

@[simp]
theorem call_bind (op : Op) (next : Reply op → Program Op Reply α)
    (f : α → Program Op Reply β) :
    (call op next >>= f) = call op fun reply ↦ next reply >>= f := rfl

theorem bind_ret (p : Program Op Reply α) : p.bind ret = p := by
  induction p with
  | ret a => rfl
  | call op next ih => exact congrArg (call op) (funext ih)

theorem bind_bind {γ : Type} (p : Program Op Reply α) (f : α → Program Op Reply β)
    (g : β → Program Op Reply γ) : (p.bind f).bind g = p.bind fun a ↦ (f a).bind g := by
  induction p with
  | ret a => rfl
  | call op next ih => exact congrArg (call op) (funext ih)

instance : LawfulMonad (Program Op Reply) :=
  LawfulMonad.mk' (Program Op Reply) bind_ret (fun _ _ ↦ rfl) bind_bind

/-- Perform one operation and return its reply. -/
def perform (op : Op) : Program Op Reply (Reply op) := call op ret

/-- Let a fixed oracle answer every operation. -/
def eval (oracle : (op : Op) → Reply op) : Program Op Reply α → α
  | ret a => a
  | call op next => (next (oracle op)).eval oracle

@[simp]
theorem eval_bind (oracle : (op : Op) → Reply op) (p : Program Op Reply α)
    (f : α → Program Op Reply β) : (p >>= f).eval oracle = (f (p.eval oracle)).eval oracle := by
  induction p with
  | ret a => rfl
  | call op next ih => exact ih (oracle op)

/-- `p.Leads events q`: performing `events`, the program `p` has come to `q`. -/
inductive Leads (p : Program Op Reply α) : List (Event Op Reply) → Program Op Reply α → Prop
  | refl : Leads p [] p
  | snoc {events : List (Event Op Reply)} {op : Op} {next : Reply op → Program Op Reply α}
      (reply : Reply op) :
      Leads p events (call op next) → Leads p (events ++ [⟨op, reply⟩]) (next reply)

theorem Leads.cons {p : Program Op Reply α} {op : Op} {next : Reply op → Program Op Reply α}
    {events : List (Event Op Reply)} {reply : Reply op} (h : (next reply).Leads events p) :
    (call op next).Leads (⟨op, reply⟩ :: events) p := by
  induction h with
  | refl => exact Leads.refl.snoc reply
  | snoc reply' _ ih => exact ih.snoc reply'

/-- An execution begins with the first operation. -/
theorem Leads.head {op : Op} {next : Reply op → Program Op Reply α} {p : Program Op Reply α}
    {events : List (Event Op Reply)} (h : (call op next).Leads events p) :
    (events = [] ∧ p = call op next) ∨ ∃ reply rest, events = ⟨op, reply⟩ :: rest := by
  induction h with
  | refl => exact Or.inl ⟨rfl, rfl⟩
  | @snoc events op' next' reply h ih =>
    rcases ih with ⟨rfl, hcall⟩ | ⟨reply', rest, rfl⟩
    · cases hcall
      exact Or.inr ⟨reply, [], rfl⟩
    · exact Or.inr ⟨reply', rest ++ [⟨op', reply⟩], rfl⟩

/-- Answer the operations in turn, as long as there are answers. -/
def follow : Program Op Reply α → List ((op : Op) → Reply op) →
    List (Event Op Reply) × Program Op Reply α
  | call op next, answer :: answers =>
    (⟨op, answer op⟩ :: ((next (answer op)).follow answers).1,
      ((next (answer op)).follow answers).2)
  | p, _ => ([], p)

theorem leads_follow (p : Program Op Reply α) (answers : List ((op : Op) → Reply op)) :
    p.Leads (p.follow answers).1 (p.follow answers).2 := by
  induction answers generalizing p with
  | nil =>
    cases p <;> exact Leads.refl
  | cons answer answers ih =>
    cases p with
    | ret a => exact Leads.refl
    | call op next => exact (ih (next (answer op))).cons

/-! ## Weakest preconditions -/

section WeakestPrecondition

variable (allowed : (op : Op) → Reply op → Prop) (pre : List (Event Op Reply) → Op → Prop)

/-- Every operation meets `pre` in its past, and every result that allowed replies lead to meets
`post`. -/
def wp : Program Op Reply α → List (Event Op Reply) → (List (Event Op Reply) → α → Prop) → Prop
  | ret a, past, post => post past a
  | call op next, past, post =>
    pre past op ∧ ∀ reply, allowed op reply → (next reply).wp (past ++ [⟨op, reply⟩]) post

variable {allowed pre} {past : List (Event Op Reply)}
  {post post' : List (Event Op Reply) → α → Prop}

@[simp]
theorem wp_ret (a : α) : (ret a : Program Op Reply α).wp allowed pre past post ↔ post past a :=
  Iff.rfl

theorem wp_call (op : Op) (next : Reply op → Program Op Reply α) :
    (call op next).wp allowed pre past post ↔ pre past op ∧
      ∀ reply, allowed op reply → (next reply).wp allowed pre (past ++ [⟨op, reply⟩]) post :=
  Iff.rfl

@[simp]
theorem wp_perform (op : Op) (post : List (Event Op Reply) → Reply op → Prop) :
    (perform op : Program Op Reply (Reply op)).wp allowed pre past post ↔
      pre past op ∧ ∀ reply, allowed op reply → post (past ++ [⟨op, reply⟩]) reply :=
  Iff.rfl

@[simp]
theorem wp_bind (p : Program Op Reply α) (f : α → Program Op Reply β)
    {post : List (Event Op Reply) → β → Prop} : (p >>= f).wp allowed pre past post ↔
      p.wp allowed pre past fun past' a ↦ (f a).wp allowed pre past' post := by
  induction p generalizing past with
  | ret a => rfl
  | call op next ih =>
    simp only [call_bind, wp_call]
    exact and_congr_right fun _ ↦ forall₂_congr fun reply _ ↦ ih reply

theorem wp_mono {p : Program Op Reply α} (hpost : ∀ past a, post past a → post' past a)
    (hp : p.wp allowed pre past post) : p.wp allowed pre past post' := by
  induction p generalizing past with
  | ret a => exact hpost past a hp
  | call op next ih => exact ⟨hp.1, fun reply hreply ↦ ih reply (hp.2 reply hreply)⟩

/-- What two descriptions say of a program holds together. -/
theorem wp_and {pre' : List (Event Op Reply) → Op → Prop} {p : Program Op Reply α}
    (hp : p.wp allowed pre past post) (hp' : p.wp allowed pre' past post') :
    p.wp allowed pre past fun past' a ↦ post past' a ∧ post' past' a := by
  induction p generalizing past with
  | ret a => exact ⟨hp, hp'⟩
  | call op next ih =>
    exact ⟨hp.1, fun reply hreply ↦ ih reply (hp.2 reply hreply) (hp'.2 reply hreply)⟩

/-- Fewer replies need no more than all of them do. -/
theorem wp_of_allowed {allowed' : (op : Op) → Reply op → Prop} {p : Program Op Reply α}
    (hallowed : ∀ op reply, allowed' op reply → allowed op reply)
    (hp : p.wp allowed pre past post) : p.wp allowed' pre past post := by
  induction p generalizing past with
  | ret a => exact hp
  | call op next ih =>
    exact ⟨hp.1, fun reply hreply ↦ ih reply (hp.2 reply (hallowed op reply hreply))⟩

/-- What is true of the past and the program stays true along an execution. -/
theorem wp_of_leads {p q : Program Op Reply α} {events : List (Event Op Reply)}
    (hleads : p.Leads events q) (hallowed : ∀ event ∈ events, allowed event.1 event.2)
    (hp : p.wp allowed pre past post) : q.wp allowed pre (past ++ events) post := by
  induction hleads with
  | refl => simpa using hp
  | @snoc events op next reply hleads ih =>
    have hnext := ih fun event hevent ↦ hallowed event (List.mem_append_left _ hevent)
    have hreply := hallowed ⟨op, reply⟩ (List.mem_append_right _ (List.mem_singleton.mpr rfl))
    rw [← List.append_assoc]
    exact hnext.2 reply hreply

/-- Every operation of an execution met its precondition when it was performed. -/
theorem pre_of_leads {p q : Program Op Reply α} {events : List (Event Op Reply)}
    (hleads : p.Leads events q) (hallowed : ∀ event ∈ events, allowed event.1 event.2)
    (hp : p.wp allowed pre past post) {i : ℕ} {event : Event Op Reply}
    (hi : events[i]? = some event) : pre (past ++ events.take i) event.1 := by
  induction hleads with
  | refl => simp at hi
  | @snoc events op next reply hleads ih =>
    have hfront := fun event hevent ↦ hallowed event (List.mem_append_left _ hevent)
    by_cases hlast : i < events.length
    · rw [List.getElem?_append_left hlast] at hi
      rw [List.take_append_of_le_length (Nat.le_of_lt hlast)]
      exact ih hfront hi
    · have hnow := wp_of_leads hleads hfront hp
      obtain ⟨hbound, -⟩ := List.getElem?_eq_some_iff.mp hi
      obtain rfl : i = events.length := by
        simp only [List.length_append, List.length_singleton] at hbound
        omega
      obtain rfl : ⟨op, reply⟩ = event := by simpa using hi
      simpa using hnow.1

end WeakestPrecondition

/-! ## Footprints -/

/-- Every operation that `p` may perform is in `S`. -/
def Only (S : Op → Prop) : Program Op Reply α → Prop
  | ret _ => True
  | call op next => S op ∧ ∀ reply, (next reply).Only S

variable {S S' : Op → Prop}

theorem Only.bind {p : Program Op Reply α} {f : α → Program Op Reply β} (hp : p.Only S)
    (hf : ∀ a, (f a).Only S) : (p >>= f).Only S := by
  induction p with
  | ret a => exact hf a
  | call op next ih => exact ⟨hp.1, fun reply ↦ ih reply (hp.2 reply)⟩

theorem Only.mono {p : Program Op Reply α} (hp : p.Only S) (hS : ∀ op, S op → S' op) :
    p.Only S' := by
  induction p with
  | ret a => trivial
  | call op next ih => exact ⟨hS op hp.1, fun reply ↦ ih reply (hp.2 reply)⟩

/-- Every operation of an execution is in the footprint. -/
theorem Only.leads {p q : Program Op Reply α} {events : List (Event Op Reply)} (hp : p.Only S)
    (hleads : p.Leads events q) : ∀ event ∈ events, S event.1 := by
  have hall : q.Only S ∧ ∀ event ∈ events, S event.1 := by
    induction hleads with
    | refl => exact ⟨hp, nofun⟩
    | @snoc events op next reply _ ih =>
      refine ⟨ih.1.2 reply, fun event hevent ↦ ?_⟩
      rcases List.mem_append.mp hevent with hold | hnew
      · exact ih.2 event hold
      · cases List.mem_singleton.mp hnew
        exact ih.1.1
  exact hall.2

/-- Under `I`, the operations in `S` are permitted and keep `I`. -/
structure Stable (pre : List (Event Op Reply) → Op → Prop) (S : Op → Prop)
    (I : List (Event Op Reply) → Prop) : Prop where
  permits : ∀ {past op}, I past → S op → pre past op
  keeps : ∀ {past op} (reply : Reply op), I past → S op → I (past ++ [⟨op, reply⟩])

theorem Stable.mono {I : List (Event Op Reply) → Prop}
    {pre : List (Event Op Reply) → Op → Prop} (hI : Stable pre S' I)
    (hS : ∀ op, S op → S' op) : Stable pre S I where
  permits hpast hop := hI.permits hpast (hS _ hop)
  keeps reply hpast hop := hI.keeps reply hpast (hS _ hop)

/-- A program keeps what none of its operations can break. -/
theorem Only.wp {p : Program Op Reply α} {I : List (Event Op Reply) → Prop}
    {allowed : (op : Op) → Reply op → Prop} {pre : List (Event Op Reply) → Op → Prop}
    {past : List (Event Op Reply)} (hp : p.Only S) (hI : Stable pre S I) (hpast : I past) :
    p.wp allowed pre past fun past' _ ↦ I past' := by
  induction p generalizing past with
  | ret a => exact hpast
  | call op next ih =>
    exact ⟨hI.permits hpast hp.1, fun reply _ ↦ ih reply (hp.2 reply) (hI.keeps reply hpast hp.1)⟩

/-- What the past no longer permits is not performed. -/
theorem Only.of_wp {p : Program Op Reply α} {allowed : (op : Op) → Reply op → Prop}
    {pre : List (Event Op Reply) → Op → Prop} {past : List (Event Op Reply)}
    {post : List (Event Op Reply) → α → Prop} (hp : p.wp allowed pre past post)
    (hallowed : ∀ op reply, allowed op reply)
    (hpre : ∀ more op, pre (past ++ more) op → S op) : p.Only S := by
  induction p generalizing past with
  | ret a => trivial
  | call op next ih =>
    refine ⟨hpre [] op (by simpa using hp.1), fun reply ↦ ih reply (hp.2 reply
      (hallowed op reply)) fun more op' h ↦ hpre (⟨op, reply⟩ :: more) op' (by simpa using h)⟩

end Program

/-! ## Fallible programs -/

/-- Programs that may throw. -/
abbrev Fallible (Op : Type) (Reply : Op → Type) (ε : Type) := ExceptT ε (Program Op Reply)

namespace Fallible

open Program

/-- `auto guard = defer(cleanup)` in front of the rest of a scope: the destructor of the guard
runs when the rest of the scope returns and when it throws. -/
def defer (cleanup : Program Op Reply Unit) (rest : Fallible Op Reply ε α) :
    Fallible Op Reply ε α :=
  ExceptT.mk do
    let result ← rest.run
    cleanup
    pure result

variable {allowed : (op : Op) → Reply op → Prop} {pre : List (Event Op Reply) → Op → Prop}
  {past : List (Event Op Reply)}

theorem eval_run_bind {oracle : (op : Op) → Reply op} {m : Fallible Op Reply ε α} {a : α}
    (hm : m.run.eval oracle = .ok a) (f : α → Fallible Op Reply ε β) :
    ((m >>= f).run).eval oracle = (f a).run.eval oracle := by
  rw [ExceptT.run_bind, eval_bind, hm]

theorem eval_run_bind_eq_ok {oracle : (op : Op) → Reply op} {m : Fallible Op Reply ε α}
    {f : α → Fallible Op Reply ε β} {b : β} : ((m >>= f).run).eval oracle = .ok b ↔
      ∃ a, m.run.eval oracle = .ok a ∧ (f a).run.eval oracle = .ok b := by
  constructor
  · intro hb
    cases hm : m.run.eval oracle with
    | ok a => exact ⟨a, rfl, eval_run_bind hm f ▸ hb⟩
    | error e =>
      rw [ExceptT.run_bind, eval_bind, hm] at hb
      exact nomatch hb
  · rintro ⟨a, ha, hb⟩
    rw [eval_run_bind ha, hb]

theorem eval_run_mapM {oracle : (op : Op) → Reply op} {f : α → Fallible Op Reply ε β} {g : α → β}
    {as : List α} (hf : ∀ a ∈ as, (f a).run.eval oracle = .ok (g a)) :
    (as.mapM f).run.eval oracle = .ok (as.map g) := by
  induction as with
  | nil => rfl
  | cons a as ih =>
    have has := ih fun a ha ↦ hf a (List.mem_cons_of_mem _ ha)
    rw [List.mapM_cons, eval_run_bind (hf a List.mem_cons_self), eval_run_bind has]
    rfl

theorem wp_run_bind (m : Fallible Op Reply ε α) (f : α → Fallible Op Reply ε β)
    {post : List (Event Op Reply) → Except ε β → Prop} :
    ((m >>= f).run).wp allowed pre past post ↔
      m.run.wp allowed pre past fun past' result ↦
        match result with
        | .ok a => (f a).run.wp allowed pre past' post
        | .error e => post past' (.error e) := by
  rw [ExceptT.run_bind, wp_bind]
  constructor <;> intro h <;> refine wp_mono (fun past' result hresult ↦ ?_) h <;>
    cases result <;> exact hresult

theorem wp_run_defer (cleanup : Program Op Reply Unit) (rest : Fallible Op Reply ε α)
    {post : List (Event Op Reply) → Except ε α → Prop} :
    ((defer cleanup rest).run).wp allowed pre past post ↔
      rest.run.wp allowed pre past fun past' result ↦
        cleanup.wp allowed pre past' fun past'' _ ↦ post past'' result := by
  simp only [defer, ExceptT.run_mk, wp_bind, pure_eq, wp_ret]

/-- Sequential composition through an intermediate condition. -/
theorem wp_run_bind_of {m : Fallible Op Reply ε α} {f : α → Fallible Op Reply ε β}
    {post : List (Event Op Reply) → Except ε β → Prop}
    (mid : List (Event Op Reply) → Except ε α → Prop) (hm : m.run.wp allowed pre past mid)
    (herror : ∀ past' e, mid past' (.error e) → post past' (.error e))
    (hok : ∀ past' a, mid past' (.ok a) → (f a).run.wp allowed pre past' post) :
    (m >>= f).run.wp allowed pre past post := by
  refine (wp_run_bind m f).mpr (wp_mono (fun past' result hresult ↦ ?_) hm)
  cases result with
  | ok a => exact hok past' a hresult
  | error e => exact herror past' e hresult

/-- A guarded scope through the condition in which its guard runs. -/
theorem wp_run_defer_of {cleanup : Program Op Reply Unit} {rest : Fallible Op Reply ε α}
    {post : List (Event Op Reply) → Except ε α → Prop}
    (mid : List (Event Op Reply) → Except ε α → Prop) (hrest : rest.run.wp allowed pre past mid)
    (hcleanup : ∀ past' result, mid past' result →
      cleanup.wp allowed pre past' fun past'' _ ↦ post past'' result) :
    (defer cleanup rest).run.wp allowed pre past post :=
  (wp_run_defer cleanup rest).mpr (wp_mono hcleanup hrest)

/-- A guard that cannot break what the rest of its scope establishes. -/
theorem wp_run_defer_of_only {S : Op → Prop} {cleanup : Program Op Reply Unit}
    {rest : Fallible Op Reply ε α} {post : List (Event Op Reply) → Except ε α → Prop}
    (hcleanup : cleanup.Only S) (hpost : ∀ result, Stable pre S fun past ↦ post past result)
    (hrest : rest.run.wp allowed pre past post) :
    (defer cleanup rest).run.wp allowed pre past post :=
  wp_run_defer_of post hrest fun _ result h ↦ hcleanup.wp (hpost result) h

theorem only_run_bind {S : Op → Prop} {m : Fallible Op Reply ε α} {f : α → Fallible Op Reply ε β}
    (hm : m.run.Only S) (hf : ∀ a, (f a).run.Only S) : (m >>= f).run.Only S := by
  rw [ExceptT.run_bind]
  apply hm.bind
  intro result
  cases result with
  | ok a => exact hf a
  | error e => trivial

theorem only_run_mapM {S : Op → Prop} {f : α → Fallible Op Reply ε β} (hf : ∀ a, (f a).run.Only S)
    (as : List α) : (as.mapM f).run.Only S := by
  induction as with
  | nil => trivial
  | cons a as ih =>
    rw [List.mapM_cons]
    exact only_run_bind (hf a) fun _ ↦ only_run_bind ih fun _ ↦ trivial

/-- A computation that cannot break `I`, in front of the rest of a scope. -/
theorem wp_run_bind_of_only {S : Op → Prop} {m : Fallible Op Reply ε α}
    {f : α → Fallible Op Reply ε β} {post : List (Event Op Reply) → Except ε β → Prop}
    {I : List (Event Op Reply) → Prop} (hI : Stable pre S I) (hm : m.run.Only S) (hpast : I past)
    (herror : ∀ past' e, I past' → post past' (.error e))
    (hok : ∀ past' a, I past' → (f a).run.wp allowed pre past' post) :
    (m >>= f).run.wp allowed pre past post :=
  wp_run_bind_of (fun past _ ↦ I past) (hm.wp hI hpast) herror hok

/-- The past is still clean when a computation returns, and explained by its exception otherwise. -/
def Accounted (clean : List (Event Op Reply) → Prop) (blamed : List (Event Op Reply) → ε → Prop)
    (past : List (Event Op Reply)) : Except ε α → Prop
  | .ok _ => clean past
  | .error e => blamed past e

/-- What makes the past unclean is reported as an exception that explains it. -/
def Reports (allowed : (op : Op) → Reply op → Prop) (pre : List (Event Op Reply) → Op → Prop)
    (clean : List (Event Op Reply) → Prop) (blamed : List (Event Op Reply) → ε → Prop)
    (m : Fallible Op Reply ε α) : Prop :=
  ∀ past, clean past → m.run.wp allowed pre past (Accounted clean blamed)

variable {clean : List (Event Op Reply) → Prop} {blamed : List (Event Op Reply) → ε → Prop}

theorem reports_pure (a : α) :
    Reports allowed pre clean blamed (pure a : Fallible Op Reply ε α) :=
  fun _ hpast ↦ hpast

theorem Reports.bind {m : Fallible Op Reply ε α} {f : α → Fallible Op Reply ε β}
    (hm : Reports allowed pre clean blamed m)
    (hf : ∀ a, Reports allowed pre clean blamed (f a)) :
    Reports allowed pre clean blamed (m >>= f) := fun past hpast ↦
  wp_run_bind_of _ (hm past hpast) (fun _ _ h ↦ h) fun past' a hpast' ↦ hf a past' hpast'

theorem Reports.mapM {f : α → Fallible Op Reply ε β}
    (hf : ∀ a, Reports allowed pre clean blamed (f a)) (as : List α) :
    Reports allowed pre clean blamed (as.mapM f) := by
  induction as with
  | nil => exact reports_pure []
  | cons a as ih =>
    rw [List.mapM_cons]
    exact (hf a).bind fun _ ↦ ih.bind fun _ ↦ reports_pure _

/-- A guard that needs no report does not replace the report of the rest of its scope. -/
theorem Reports.defer {S : Op → Prop} {cleanup : Program Op Reply Unit}
    {rest : Fallible Op Reply ε α} (hcleanup : cleanup.Only S) (hclean : Stable pre S clean)
    (hblamed : ∀ e, Stable pre S fun past ↦ blamed past e)
    (hrest : Reports allowed pre clean blamed rest) :
    Reports allowed pre clean blamed (defer cleanup rest) := by
  intro past hpast
  apply wp_run_defer_of_only hcleanup _ (hrest past hpast)
  intro result
  cases result with
  | ok a => exact hclean
  | error e => exact hblamed e

theorem only_run_defer {S : Op → Prop} {cleanup : Program Op Reply Unit}
    {rest : Fallible Op Reply ε α} (hcleanup : cleanup.Only S) (hrest : rest.run.Only S) :
    (defer cleanup rest).run.Only S :=
  hrest.bind fun _ ↦ hcleanup.bind fun _ ↦ trivial

end Fallible

end Interaction
