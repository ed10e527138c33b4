import Mathlib.Logic.Basic
import Mathlib.Tactic.Common

/-!
# Computations that return or throw

When a sequence of fallible computations returns, and when it throws.  A fold over a list throws at
the first element that throws, with what has been accumulated before it.
-/

namespace Exceptions

variable {ε α β : Type}

theorem bind_eq_ok {m : Except ε α} {f : α → Except ε β} {b : β} :
    (m >>= f) = .ok b ↔ ∃ a, m = .ok a ∧ f a = .ok b := by
  cases m with
  | error e => exact ⟨fun h ↦ (nomatch h), fun ⟨_, h, _⟩ ↦ (nomatch h)⟩
  | ok a => exact ⟨fun h ↦ ⟨a, rfl, h⟩, fun ⟨_, ha, h⟩ ↦ Except.ok.inj ha ▸ h⟩

theorem pure_eq_ok {a b : α} : (pure a : Except ε α) = .ok b ↔ a = b :=
  ⟨fun h ↦ Except.ok.inj h, fun h ↦ congrArg Except.ok h⟩

theorem bind_eq_error {m : Except ε α} {f : α → Except ε β} {e : ε} :
    (m >>= f) = .error e ↔ m = .error e ∨ ∃ a, m = .ok a ∧ f a = .error e := by
  cases m with
  | error e' =>
    have hbind : ((Except.error e' : Except ε α) >>= f) = .error e' := rfl
    simp [hbind]
  | ok a =>
    have hbind : ((Except.ok a : Except ε α) >>= f) = f a := rfl
    simp [hbind]

theorem pure_ne_error {a : α} {e : ε} : (pure a : Except ε α) ≠ .error e := nofun

theorem throw_eq_error {e e' : ε} : (throw e' : Except ε α) = .error e ↔ e = e' :=
  ⟨fun h ↦ (Except.error.inj h).symm, fun h ↦ congrArg Except.error h.symm⟩

/-- A fold throws at the first element that throws. -/
theorem foldlM_eq_error {f : β → α → Except ε β} {as : List α} {b : β} {e : ε} :
    as.foldlM f b = .error e ↔ ∃ before a after b',
      as = before ++ a :: after ∧ before.foldlM f b = .ok b' ∧ f b' a = .error e := by
  induction as generalizing b with
  | nil => simp [pure_ne_error]
  | cons a as ih =>
    rw [List.foldlM_cons, bind_eq_error]
    constructor
    · intro h
      rcases h with hfirst | ⟨b', hfirst, hrest⟩
      · exact ⟨[], a, as, b, rfl, rfl, hfirst⟩
      · obtain ⟨before, a', after, b'', rfl, hbefore, ha'⟩ := ih.mp hrest
        refine ⟨a :: before, a', after, b'', rfl, ?_, ha'⟩
        rw [List.foldlM_cons, hfirst]
        exact hbefore
    · intro h
      obtain ⟨before, a', after, b', has, hbefore, ha'⟩ := h
      cases before with
      | nil =>
        obtain ⟨rfl, rfl⟩ := List.cons.inj has
        obtain rfl := Except.ok.inj hbefore
        exact Or.inl ha'
      | cons first before =>
        obtain ⟨rfl, rfl⟩ := List.cons.inj has
        rw [List.foldlM_cons] at hbefore
        obtain ⟨b'', hfirst, hrest⟩ := bind_eq_ok.mp hbefore
        exact Or.inr ⟨b'', hfirst, ih.mpr ⟨before, a', after, b', rfl, hrest, ha'⟩⟩

end Exceptions
