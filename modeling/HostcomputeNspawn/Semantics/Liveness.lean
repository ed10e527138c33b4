import HostcomputeNspawn.Semantics.Transition
import Mathlib.Order.WellFounded

/-!
# What happens in the end

Some labels of a system are external: they stand for what happens to the system and not for what
it does by itself.  A state terminates if the system cannot go on forever by itself from it.  A goal
is inevitable if every way of going on by itself leads to it, in finitely many steps and without
getting stuck before.  Termination together with an invariant under which the
system can always move before the goal gives inevitability.
-/

namespace Transition.System

variable {σ ι : Type*} (S : System σ ι) (external : ι → Prop)

/-- A step that the system takes by itself. -/
def Internal (s t : σ) : Prop := ∃ label, ¬ external label ∧ S.step s label t

/-- Left to itself, the system stops after finitely many steps. -/
def Terminates (s : σ) : Prop := Acc (fun t s ↦ S.Internal external s t) s

/-- Left to itself, the system reaches the goal on every way that it may take. -/
inductive Inevitable (goal : σ → Prop) : σ → Prop
  | now {s : σ} : goal s → Inevitable goal s
  | later {s : σ} : (∃ t, S.Internal external s t) →
      (∀ t, S.Internal external s t → Inevitable goal t) → Inevitable goal s

/-- The system with its steps restricted to some labels. -/
def restrict (allowed : ι → Prop) : System σ ι where
  step s label t := allowed label ∧ S.step s label t

/-- A run without an end. -/
structure InfiniteRun where
  state : ℕ → σ
  label : ℕ → ι
  step : ∀ i, S.step (state i) (label i) (state (i + 1))

variable {S external} {goal : σ → Prop} {allowed : ι → Prop} {s t : σ}

/-- The runs of the restricted system are the runs with restricted labels. -/
theorem run_restrict_iff {labels : List ι} : (S.restrict allowed).Run s labels t ↔
    S.Run s labels t ∧ ∀ label ∈ labels, allowed label := by
  constructor
  · intro hrun
    induction hrun with
    | refl => exact ⟨Run.refl s, by simp⟩
    | snoc _ hstep ih =>
      refine ⟨ih.1.snoc hstep.2, ?_⟩
      simpa [or_imp, forall_and] using And.intro ih.2 hstep.1
  · intro h
    obtain ⟨hrun, hlabels⟩ := h
    induction hrun with
    | refl => exact Run.refl s
    | snoc _ hstep ih =>
      have hfront := ih fun label hlabel ↦ hlabels label (List.mem_append_left _ hlabel)
      exact hfront.snoc ⟨hlabels _ (by simp), hstep⟩

/-- Fewer steps stop at least as soon. -/
theorem Terminates.restrict (hs : S.Terminates external s) :
    (S.restrict allowed).Terminates external s :=
  Subrelation.accessible (fun ⟨label, hlabel, hstep⟩ ↦ ⟨label, hlabel, hstep.2⟩) hs

/-- A system that always stops by itself is driven by infinitely many external steps in every
infinite run. -/
theorem InfiniteRun.external_infinitely_often (run : S.InfiniteRun)
    (hterminates : ∀ s, S.Terminates external s) (i : ℕ) :
    ∃ j, i ≤ j ∧ external (run.label j) := by
  generalize hs : run.state i = s
  have hacc : S.Terminates external s := hterminates s
  induction hacc generalizing i with
  | intro s _ ih =>
    by_cases hlabel : external (run.label i)
    · exact ⟨i, le_rfl, hlabel⟩
    · have hstep : S.Internal external s (run.state (i + 1)) :=
        ⟨run.label i, hlabel, hs ▸ run.step i⟩
      obtain ⟨j, hj, hexternal⟩ := ih _ hstep (i + 1) rfl
      exact ⟨j, by omega, hexternal⟩

/-- A system that stops, and does not stop before the goal, reaches the goal. -/
theorem inevitable_of_terminates {I : σ → Prop}
    (hinv : ∀ s t, I s → ¬ goal s → S.Internal external s t → I t)
    (hprogress : ∀ s, I s → ¬ goal s → ∃ t, S.Internal external s t)
    (hs : S.Terminates external s) (hstart : I s) : S.Inevitable external goal s := by
  induction hs with
  | intro s _ ih =>
    by_cases hgoal : goal s
    · exact Inevitable.now hgoal
    · apply Inevitable.later (hprogress s hstart hgoal)
      intro t hstep
      exact ih t hstep (hinv s t hstart hgoal hstep)

/-- What is inevitable is reached by some run of the system by itself. -/
theorem Inevitable.exists_run (hs : S.Inevitable external goal s) :
    ∃ labels t, S.Run s labels t ∧ (∀ label ∈ labels, ¬ external label) ∧ goal t := by
  induction hs with
  | @now s hgoal => exact ⟨[], s, Run.refl s, by simp, hgoal⟩
  | later hmove _ ih =>
    obtain ⟨t, label, hlabel, hstep⟩ := hmove
    obtain ⟨labels, u, hrun, hlabels, hgoal⟩ := ih t ⟨label, hlabel, hstep⟩
    refine ⟨label :: labels, u, hrun.cons hstep, ?_, hgoal⟩
    simpa using And.intro hlabel hlabels

end Transition.System
