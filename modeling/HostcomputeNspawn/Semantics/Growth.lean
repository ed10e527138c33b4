import HostcomputeNspawn.Semantics.Interaction
import Mathlib.Data.List.Forall2

/-!
# The past only grows

Whatever a program does, its events come behind the past.  What a computation establishes about the
past when it returns is therefore still there for everything that comes after it, and a computation
is described by what it establishes; nothing has to be said about the exceptions that it throws.
-/

namespace Interaction

variable {Op : Type} {Reply : Op → Type} {α β ε : Type}
  {allowed : (op : Op) → Reply op → Prop} {pre : List (Event Op Reply) → Op → Prop}
  {past : List (Event Op Reply)}

/-- A program extends its past. -/
theorem Program.wp_extends {p : Program Op Reply α} {post : List (Event Op Reply) → α → Prop}
    (hp : p.wp allowed pre past post) :
    p.wp allowed pre past fun past' a ↦ past <+: past' ∧ post past' a := by
  induction p generalizing past with
  | ret a => exact ⟨List.prefix_rfl, hp⟩
  | call op next ih =>
    refine ⟨hp.1, fun reply hreply ↦ ?_⟩
    apply Program.wp_mono _ (ih reply (hp.2 reply hreply))
    intro past' a h
    exact ⟨(List.prefix_append past _).trans h.1, h.2⟩

/-- Preconditions on the past relate every event of an execution to those behind it. -/
theorem Program.pairwise_of_leads {p q : Program Op Reply α} {events : List (Event Op Reply)}
    {post : List (Event Op Reply) → α → Prop} {R : Event Op Reply → Event Op Reply → Prop}
    (hleads : p.Leads events q) (hallowed : ∀ event ∈ events, allowed event.1 event.2)
    (hp : p.wp allowed pre [] post)
    (hR : ∀ past event, pre past event.1 → ∀ earlier ∈ past, R earlier event) :
    events.Pairwise R := by
  apply List.pairwise_iff_getElem.mpr
  intro i j hi hj hij
  have hpre := Program.pre_of_leads hleads hallowed hp (List.getElem?_eq_getElem hj)
  have hmem : events[i] ∈ events.take j := List.mem_take_iff_getElem.mpr ⟨i, by omega, rfl⟩
  rw [List.nil_append] at hpre
  exact hR _ _ hpre _ hmem

/-- Every program does what nothing forbids. -/
theorem Program.wp_true (p : Program Op Reply α) (past : List (Event Op Reply)) :
    p.wp allowed (fun _ _ ↦ True) past fun _ _ ↦ True := by
  induction p generalizing past with
  | ret a => trivial
  | call op next ih => exact ⟨trivial, fun reply _ ↦ ih reply _⟩

/-- More events do not change what is known. -/
def Lasting (mid : List (Event Op Reply) → α → Prop) : Prop :=
  ∀ ⦃past past' a⦄, past <+: past' → mid past a → mid past' a

/-- A loop of programs makes true of every result what one turn makes true of its own. -/
theorem Program.wp_mapM {f : α → Program Op Reply β} {P : List (Event Op Reply) → β → Prop}
    (hP : Lasting P) (hf : ∀ past' a, (f a).wp allowed pre past' P) (as : List α) :
    (as.mapM f).wp allowed pre past fun past' bs ↦
      bs.length = as.length ∧ ∀ b ∈ bs, P past' b := by
  induction as generalizing past with
  | nil => exact ⟨rfl, by simp⟩
  | cons a as ih =>
    rw [List.mapM_cons]
    apply (Program.wp_bind _ _).mpr
    apply Program.wp_mono _ (hf past a)
    intro past₁ b hb
    apply (Program.wp_bind _ _).mpr
    apply Program.wp_mono _ (Program.wp_extends ih)
    intro past₂ bs hbs
    refine ⟨by simp [hbs.2.1], fun b' hb' ↦ ?_⟩
    cases List.mem_cons.mp hb' with
    | inl hfirst => exact hfirst ▸ hP hbs.1 hb
    | inr hrest => exact hbs.2.2 b' hrest

namespace Fallible

/-- When the computation returns, its result and the past are related. -/
def Establishes (allowed : (op : Op) → Reply op → Prop) (pre : List (Event Op Reply) → Op → Prop)
    (past : List (Event Op Reply)) (m : Fallible Op Reply ε α)
    (mid : List (Event Op Reply) → α → Prop) : Prop :=
  m.run.wp allowed pre past fun past' result ↦ ∀ a, result = .ok a → mid past' a

variable {m : Fallible Op Reply ε α} {f : α → Fallible Op Reply ε β}
  {mid : List (Event Op Reply) → α → Prop} {mid' : List (Event Op Reply) → β → Prop}

theorem establishes_pure {a : α} (h : mid past a) :
    Establishes allowed pre past (pure a : Fallible Op Reply ε α) mid := by
  intro b hb
  cases hb
  exact h

/-- What is known before a computation is known behind it. -/
theorem establishes_known {P : List (Event Op Reply) → Prop}
    (hP : Lasting fun past (_ : α) ↦ P past) (h : P past) (m : Fallible Op Reply ε α) :
    Establishes allowed (fun _ _ ↦ True) past m fun past' _ ↦ P past' := by
  apply Program.wp_mono _ (Program.wp_extends (Program.wp_true m.run past))
  exact fun past' _ hpast' a _ ↦ hP (a := a) hpast'.1 h

theorem Establishes.mono {mid' : List (Event Op Reply) → α → Prop}
    (h : Establishes allowed pre past m mid) (hmid : ∀ past' a, mid past' a → mid' past' a) :
    Establishes allowed pre past m mid' :=
  Program.wp_mono (fun past' _ h a ha ↦ hmid past' a (h a ha)) h

theorem Establishes.bind (hm : Establishes allowed pre past m mid)
    (hf : ∀ past' a, past <+: past' → mid past' a → Establishes allowed pre past' (f a) mid') :
    Establishes allowed pre past (m >>= f) mid' := by
  apply (wp_run_bind m f).mpr
  apply Program.wp_mono _ (Program.wp_extends hm)
  intro past' result h
  cases result with
  | ok a => exact hf past' a h.1 (h.2 a rfl)
  | error e => exact fun _ hb ↦ nomatch hb

/-- The guard runs when the rest of its scope has returned or thrown. -/
theorem Establishes.defer {cleanup : Program Op Reply Unit} (hmid : Lasting mid)
    (hrest : Establishes allowed pre past m mid)
    (hcleanup : ∀ past', past <+: past' → cleanup.wp allowed pre past' fun _ _ ↦ True) :
    Establishes allowed pre past (Fallible.defer cleanup m) mid := by
  apply (wp_run_defer cleanup m).mpr
  apply Program.wp_mono _ (Program.wp_extends hrest)
  intro past' result h
  apply Program.wp_mono _ (Program.wp_extends (hcleanup past' h.1))
  exact fun past'' _ hextends a ha ↦ hmid hextends.1 (h.2 a ha)

/-- A loop establishes for every element what one turn establishes. -/
theorem establishes_mapM {P : List (Event Op Reply) → α → β → Prop}
    (hP : ∀ a, Lasting fun past b ↦ P past a b) {as : List α}
    (hf : ∀ past' a, a ∈ as → past <+: past' → Establishes allowed pre past' (f a)
      fun past'' b ↦ P past'' a b) :
    Establishes allowed pre past (as.mapM f) fun past' bs ↦ List.Forall₂ (P past') as bs := by
  induction as generalizing past with
  | nil => exact establishes_pure List.Forall₂.nil
  | cons a as ih =>
    rw [List.mapM_cons]
    apply (hf past a List.mem_cons_self List.prefix_rfl).bind
    intro past₁ b hpast₁ hb
    apply (ih fun past' a' ha' hpast' ↦
      hf past' a' (List.mem_cons_of_mem _ ha') (hpast₁.trans hpast')).bind
    intro past₂ bs hpast₂ hbs
    exact establishes_pure (List.Forall₂.cons (hP a hpast₂ hb) hbs)

end Fallible

end Interaction
