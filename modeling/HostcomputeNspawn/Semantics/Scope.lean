import HostcomputeNspawn.Semantics.Interaction
import Mathlib.Data.List.Forall2

/-!
# Scopes of guarded resources

A scope acquires its resources one after another and puts a guard behind each: when the rest of the
scope returns or throws, the guard releases the resource.  Whatever the environment does, what an
observer sees of such a scope is the acquisitions up to the first refusal, and then the releases of
exactly the acquired resources in reverse order.
-/

namespace Interaction

/-- A resource: how it is acquired, and what its guard does. -/
structure Guarded (Op : Type) (Reply : Op → Type) (ε : Type) where
  acquire : Fallible Op Reply ε Unit
  release : Program Op Reply Unit

variable {Op : Type} {Reply : Op → Type} {α ε δ : Type}

/-- Acquire the resources in order, each with its guard, around a body. -/
def nest : List (Guarded Op Reply ε) → Fallible Op Reply ε α → Fallible Op Reply ε α
  | [], body => body
  | resource :: resources, body => do
    resource.acquire
    Fallible.defer resource.release (nest resources body)

/-- How the life of a resource is observed. -/
structure Observed (δ : Type) where
  acquired : δ → Prop
  refused : δ → Prop
  released : δ → Prop

/-- What an observer sees of a scope. -/
inductive Unwound : List (Observed δ) → List δ → Prop
  | body : Unwound [] []
  | refused {resource : Observed δ} {resources : List (Observed δ)} {refusal : δ} :
      resource.refused refusal → Unwound (resource :: resources) [refusal]
  | released {resource : Observed δ} {resources : List (Observed δ)} {first last : δ}
      {inner : List δ} :
      resource.acquired first → resource.released last → Unwound resources inner →
      Unwound (resource :: resources) (first :: inner ++ [last])

/-- The releases are in the reverse order of the acquisitions, one for each. -/
theorem Unwound.reverse_order {resources : List (Observed δ)} {seen : List δ}
    (h : Unwound resources seen) : ∃ (n : ℕ) (forward refusal backward : List δ),
      seen = forward ++ refusal ++ backward ∧
      List.Forall₂ (fun resource event ↦ resource.acquired event) (resources.take n) forward ∧
      List.Forall₂ (fun resource event ↦ resource.released event) (resources.take n).reverse
        backward ∧
      (refusal = [] ∧ n = resources.length ∨ ∃ resource event, resources[n]? = some resource ∧
        resource.refused event ∧ refusal = [event]) := by
  induction h with
  | body => exact ⟨0, [], [], [], rfl, by simp, by simp, Or.inl ⟨rfl, rfl⟩⟩
  | @refused resource resources refusal hrefused =>
    exact ⟨0, [], [refusal], [], rfl, by simp, by simp,
      Or.inr ⟨resource, refusal, rfl, hrefused, rfl⟩⟩
  | @released resource resources first last inner hacquired hreleased _ ih =>
    obtain ⟨n, forward, refusal, backward, rfl, hforward, hbackward, hend⟩ := ih
    refine ⟨n + 1, first :: forward, refusal, backward ++ [last], by simp, ?_, ?_, ?_⟩
    · exact List.Forall₂.cons hacquired hforward
    · rw [List.take_succ_cons, List.reverse_cons]
      exact List.rel_append hbackward (.cons hreleased .nil)
    · exact hend.imp (And.imp_right (congrArg Nat.succ)) id

/-- One more event is seen than before. -/
def SeesOne (observe : Event Op Reply → Option δ) (kind : δ → Prop)
    (past past' : List (Event Op Reply)) : Prop :=
  ∃ event, kind event ∧ past'.filterMap observe = past.filterMap observe ++ [event]

/-- An acquisition is seen as what it was. -/
def Observed.Acquires (observed : Observed δ) (observe : Event Op Reply → Option δ)
    (past past' : List (Event Op Reply)) : Except ε α → Prop
  | .ok _ => SeesOne observe observed.acquired past past'
  | .error _ => SeesOne observe observed.refused past past'

section WeakestPrecondition

variable {allowed : (op : Op) → Reply op → Prop} {pre : List (Event Op Reply) → Op → Prop}

variable (allowed pre) in
/-- A resource is observed as it should be, whatever has happened before. -/
structure Guarded.Shows (resource : Guarded Op Reply ε) (observe : Event Op Reply → Option δ)
    (observed : Observed δ) : Prop where
  acquire : ∀ past, resource.acquire.run.wp allowed pre past fun past' result ↦
    observed.Acquires observe past past' result
  release : ∀ past, resource.release.wp allowed pre past fun past' _ ↦
    SeesOne observe observed.released past past'

/-- A scope around a body that shows nothing unwinds. -/
theorem wp_nest {observe : Event Op Reply → Option δ}
    {resources : List (Guarded Op Reply ε × Observed δ)} {body : Fallible Op Reply ε α}
    (hresources : ∀ resource ∈ resources, resource.1.Shows allowed pre observe resource.2)
    (hbody : ∀ past, body.run.wp allowed pre past fun past' _ ↦
      past'.filterMap observe = past.filterMap observe) (past : List (Event Op Reply)) :
    (nest (resources.map Prod.fst) body).run.wp allowed pre past fun past' _ ↦
      ∃ seen, Unwound (resources.map Prod.snd) seen ∧
        past'.filterMap observe = past.filterMap observe ++ seen := by
  induction resources generalizing past with
  | nil => exact Program.wp_mono (fun _ _ h ↦ ⟨[], .body, by simpa using h⟩) (hbody past)
  | cons resource resources ih =>
    have hresource := hresources resource List.mem_cons_self
    have hrest := ih fun resource hmem ↦ hresources resource (List.mem_cons_of_mem _ hmem)
    refine Fallible.wp_run_bind_of _ (hresource.acquire past) ?_ ?_
    · rintro past' e ⟨refusal, hrefused, hseen⟩
      exact ⟨[refusal], .refused hrefused, hseen⟩
    · rintro past₁ _ ⟨first, hacquired, hfirst⟩
      apply Fallible.wp_run_defer_of _ (hrest past₁)
      rintro past₂ _ ⟨inner, hinner, hseen⟩
      refine Program.wp_mono ?_ (hresource.release past₂)
      rintro past₃ _ ⟨last, hreleased, hlast⟩
      refine ⟨first :: inner ++ [last], .released hacquired hreleased hinner, ?_⟩
      rw [hlast, hseen, hfirst]
      simp

end WeakestPrecondition

end Interaction
