import Mathlib.Data.List.Basic
import Mathlib.Data.Set.Basic
import Mathlib.Tactic.Common

/-!
# Labelled transition systems and the traces they show

A system is a labelled step relation.  Runs carry the list of their labels, an observer sees
only the labels that its observation function keeps, and the traces of a state are the lists of
observations of its runs.  A weak simulation matches every step by a run that shows the same;
two systems that simulate each other through one relation have the same traces.

Invariants are proved once per step and hold along runs.  A history invariant relates the labels
of the run so far with the state it reached.
-/

namespace Transition

/-- A labelled transition system. -/
structure System (σ ι : Type*) where
  step : σ → ι → σ → Prop

variable {σ τ ι κ ε : Type*}

namespace System

/-- Finite runs together with the labels of their steps, in order. -/
inductive Run (S : System σ ι) : σ → List ι → σ → Prop
  | refl (s : σ) : Run S s [] s
  | snoc {s t u : σ} {labels : List ι} {label : ι} :
      Run S s labels t → S.step t label u → Run S s (labels ++ [label]) u

/-- `t` is reachable from `s`. -/
def Reachable (S : System σ ι) (s t : σ) : Prop := ∃ labels, S.Run s labels t

variable {S : System σ ι}

theorem Run.single {s t : σ} {label : ι} (hstep : S.step s label t) : S.Run s [label] t :=
  Run.snoc (Run.refl s) hstep

theorem Run.trans {s t u : σ} {first second : List ι}
    (hfirst : S.Run s first t) (hsecond : S.Run t second u) : S.Run s (first ++ second) u := by
  induction hsecond with
  | refl => simpa using hfirst
  | snoc _ hstep ih =>
    rw [← List.append_assoc]
    exact ih.snoc hstep

theorem Run.cons {s t u : σ} {label : ι} {labels : List ι}
    (hstep : S.step s label t) (hrun : S.Run t labels u) : S.Run s (label :: labels) u :=
  (Run.single hstep).trans hrun

/-- A run can be cut at any of its steps. -/
theorem Run.split {s u : σ} {before after : List ι} {label : ι}
    (hrun : S.Run s (before ++ label :: after) u) :
    ∃ t t', S.Run s before t ∧ S.step t label t' ∧ S.Run t' after u := by
  generalize hlabels : before ++ label :: after = labels at hrun
  induction hrun generalizing after with
  | refl => simp at hlabels
  | @snoc u v labels last hrun hstep ih =>
    rcases List.eq_nil_or_concat' after with rfl | ⟨after, last', rfl⟩
    · obtain ⟨rfl, hlast⟩ := List.append_inj' hlabels rfl
      obtain rfl : label = last := by simpa using hlast
      exact ⟨u, v, hrun, hstep, Run.refl v⟩
    · rw [← List.cons_append, ← List.append_assoc] at hlabels
      obtain ⟨hfront, hlast⟩ := List.append_inj' hlabels rfl
      obtain rfl : last' = last := by simpa using hlast
      obtain ⟨t, t', hbefore, hlabel, hafter⟩ := ih hfront
      exact ⟨t, t', hbefore, hlabel, hafter.snoc hstep⟩

/-- The beginnings of a run are runs. -/
theorem Run.take {s t : σ} {labels : List ι} (hrun : S.Run s labels t) (i : ℕ) :
    ∃ u, S.Run s (labels.take i) u := by
  induction hrun with
  | refl => exact ⟨s, by simpa using Run.refl s⟩
  | @snoc _ v labels label hrun hstep ih =>
    by_cases hi : i ≤ labels.length
    · rwa [List.take_append_of_le_length hi]
    · have hall : (labels ++ [label]).take i = labels ++ [label] :=
        List.take_of_length_le (by simp; omega)
      rw [hall]
      exact ⟨v, hrun.snoc hstep⟩

/-- Every step keeps `P`. -/
def Preserves (S : System σ ι) (P : σ → Prop) : Prop :=
  ∀ ⦃s label t⦄, S.step s label t → P s → P t

theorem Run.invariant {P : σ → Prop} (hstep : S.Preserves P) {s t : σ} {labels : List ι}
    (hrun : S.Run s labels t) (hstart : P s) : P t := by
  induction hrun with
  | refl => exact hstart
  | snoc _ hlast ih => exact hstep hlast ih

/-- A property of the labels so far and the state reached that every step keeps. -/
def PreservesHistory (S : System σ ι) (P : List ι → σ → Prop) : Prop :=
  ∀ ⦃labels s label t⦄, S.step s label t → P labels s → P (labels ++ [label]) t

theorem Run.historyInvariant {P : List ι → σ → Prop} (hstep : S.PreservesHistory P)
    {s t : σ} {labels : List ι} (hrun : S.Run s labels t) (hstart : P [] s) : P labels t := by
  induction hrun with
  | refl => exact hstart
  | snoc _ hlast ih => exact hstep hlast ih

/-- Replay the choices that a step function resolves, collecting the labels of the steps. -/
def replay (next : σ → κ → Option (ι × σ)) : σ → List κ → Option (List ι × σ)
  | s, [] => some ([], s)
  | s, choice :: choices => do
    let (label, t) ← next s choice
    let (labels, u) ← replay next t choices
    pure (label :: labels, u)

/-- What a sound step function replays is a run. -/
theorem run_of_replay {next : σ → κ → Option (ι × σ)}
    (hnext : ∀ s choice label t, next s choice = some (label, t) → S.step s label t)
    {s t : σ} {choices : List κ} {labels : List ι}
    (hreplay : replay next s choices = some (labels, t)) : S.Run s labels t := by
  induction choices generalizing s labels with
  | nil =>
    simp only [replay, Option.some.injEq, Prod.mk.injEq] at hreplay
    obtain ⟨rfl, rfl⟩ := hreplay
    exact Run.refl s
  | cons choice choices ih =>
    simp only [replay, Option.bind_eq_bind, Option.bind_eq_some_iff, Option.pure_def,
      Option.some.injEq, Prod.mk.injEq, Prod.exists] at hreplay
    obtain ⟨label, u, hfirst, rest, v, hrest, rfl, rfl⟩ := hreplay
    exact (ih hrest).cons (hnext s choice label u hfirst)

/-- A run that shows the given observations. -/
def Shows (S : System σ ι) (observe : ι → Option ε) (s : σ) (events : List ε) (t : σ) : Prop :=
  ∃ labels, S.Run s labels t ∧ labels.filterMap observe = events

/-- The finite lists of observations that an observer of the runs from `s` can see. -/
def traces (S : System σ ι) (observe : ι → Option ε) (s : σ) : Set (List ε) :=
  {events | ∃ t, S.Shows observe s events t}

variable {observe : ι → Option ε}

theorem Shows.refl (s : σ) : S.Shows observe s [] s := ⟨[], Run.refl s, rfl⟩

theorem Shows.single {s t : σ} {label : ι} (hstep : S.step s label t) :
    S.Shows observe s (observe label).toList t := by
  refine ⟨[label], Run.single hstep, ?_⟩
  cases hobserve : observe label <;> simp [hobserve]

theorem Shows.silent {s t : σ} {label : ι} (hstep : S.step s label t)
    (hlabel : observe label = none) : S.Shows observe s [] t := by
  have hsingle : S.Shows observe s _ t := Shows.single hstep
  rwa [hlabel] at hsingle

theorem Shows.visible {s t : σ} {label : ι} {event : ε} (hstep : S.step s label t)
    (hlabel : observe label = some event) : S.Shows observe s [event] t := by
  have hsingle : S.Shows observe s _ t := Shows.single hstep
  rwa [hlabel] at hsingle

theorem Shows.trans {s t u : σ} {first second : List ε} (hfirst : S.Shows observe s first t)
    (hsecond : S.Shows observe t second u) : S.Shows observe s (first ++ second) u := by
  obtain ⟨labels, hrun, rfl⟩ := hfirst
  obtain ⟨labels', hrun', rfl⟩ := hsecond
  exact ⟨labels ++ labels', hrun.trans hrun', by simp⟩

/-- A silent run in front of a run does not change what it shows. -/
theorem Shows.before {s t u : σ} {events : List ε} (hfirst : S.Shows observe s [] t)
    (hsecond : S.Shows observe t events u) : S.Shows observe s events u := by
  simpa using hfirst.trans hsecond

/-- `R` is a weak simulation: every step of `S` is matched by a run of `T` showing the same. -/
def Simulates (S : System σ ι) (observe : ι → Option ε) (T : System τ κ)
    (observe' : κ → Option ε) (R : σ → τ → Prop) : Prop :=
  ∀ ⦃s label s' t⦄, R s t → S.step s label s' →
    ∃ t', T.Shows observe' t (observe label).toList t' ∧ R s' t'

variable {T : System τ κ} {observe' : κ → Option ε} {R : σ → τ → Prop}

/-- A step that is seen, or nothing at all. -/
def StepOrStay (T : System τ ε) (t : τ) : Option ε → τ → Prop
  | none, t' => t' = t
  | some event, t' => T.step t event t'

theorem StepOrStay.shows {U : System τ ε} {t t' : τ} {event : Option ε}
    (hstep : U.StepOrStay t event t') : U.Shows some t event.toList t' := by
  cases event with
  | none =>
    cases hstep
    exact Shows.refl t
  | some event => exact Shows.visible hstep rfl

/-- A function of the states is a simulation if, as far as an invariant goes, every step that is
seen is a step of the other system and every other step keeps its value. -/
theorem simulates_of_map {U : System τ ε} {I : σ → Prop} {f : σ → τ} (hinv : S.Preserves I)
    (hstep : ∀ ⦃s label s'⦄, I s → S.step s label s' →
      U.StepOrStay (f s) (observe label) (f s')) :
    S.Simulates observe U some fun s t ↦ I s ∧ f s = t := by
  rintro s label s' t ⟨hs, rfl⟩ hlabel
  exact ⟨f s', (hstep hs hlabel).shows, hinv hlabel hs, rfl⟩

theorem Simulates.run (hsim : S.Simulates observe T observe' R) {s s' : σ} {t : τ}
    {labels : List ι} (hrun : S.Run s labels s') (hrel : R s t) :
    ∃ t', T.Shows observe' t (labels.filterMap observe) t' ∧ R s' t' := by
  induction hrun with
  | refl => exact ⟨t, Shows.refl t, hrel⟩
  | @snoc _ _ _ label _ hstep ih =>
    obtain ⟨t₁, hfront, hrel₁⟩ := ih
    obtain ⟨t₂, hlast, hrel₂⟩ := hsim hrel₁ hstep
    refine ⟨t₂, ?_, hrel₂⟩
    have hshown := hfront.trans hlast
    cases hobserve : observe label <;> simpa [hobserve] using hshown

theorem Simulates.traces_subset (hsim : S.Simulates observe T observe' R) {s : σ} {t : τ}
    (hrel : R s t) : S.traces observe s ⊆ T.traces observe' t := by
  rintro events ⟨s', labels, hrun, rfl⟩
  obtain ⟨t', hshows, _⟩ := hsim.run hrun hrel
  exact ⟨t', hshows⟩

/-- Two systems that simulate each other through one relation cannot be told apart. -/
theorem traces_eq_of_bisimulation (hforward : S.Simulates observe T observe' R)
    (hbackward : T.Simulates observe' S observe (fun t s ↦ R s t)) {s : σ} {t : τ}
    (hrel : R s t) : S.traces observe s = T.traces observe' t :=
  Set.Subset.antisymm (hforward.traces_subset hrel) (hbackward.traces_subset hrel)

end System

end Transition
