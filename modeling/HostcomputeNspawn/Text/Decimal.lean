import Mathlib.Algebra.Order.Group.Nat
import Mathlib.Algebra.Ring.Nat
import Mathlib.Data.Char
import Mathlib.Data.List.Lex
import Mathlib.Order.Lattice
import Mathlib.Tactic.Common

/-!
# Decimal numbers of a fixed width

Numbers that are written with the same number of digits are ordered as their texts are, and so are
the lists of numbers that are written one behind the other, each in the width of its place.
-/

namespace Decimal

/-- The last digits of a number, as many as are asked for. -/
def digits : ℕ → ℕ → List Char
  | 0, _ => []
  | width + 1, number => digits width (number / 10) ++ [Nat.digitChar (number % 10)]

/-- Numbers behind one another, each in its width. -/
def write (fields : List (ℕ × ℕ)) : List Char :=
  fields.flatMap fun field ↦ digits field.1 field.2

/-- The number can be written in the width. -/
def Fits (field : ℕ × ℕ) : Prop := field.2 < 10 ^ field.1

@[simp]
theorem length_digits (width number : ℕ) : (digits width number).length = width := by
  induction width generalizing number with
  | zero => rfl
  | succ width ih => simp [digits, ih]

theorem length_write (fields : List (ℕ × ℕ)) :
    (write fields).length = (fields.map Prod.fst).sum := by
  simp [write, List.length_flatMap]

theorem digitChar_lt_digitChar :
    ∀ m < 10, ∀ n < 10, Nat.digitChar m < Nat.digitChar n ↔ m < n := by
  decide

/-- The digits of a number are all its digits when it has as many. -/
theorem toDigits_eq_digits {width number : ℕ} (hlow : 10 ^ width ≤ number)
    (hhigh : number < 10 ^ (width + 1)) : Nat.toDigits 10 number = digits (width + 1) number := by
  induction width generalizing number with
  | zero =>
    rw [Nat.toDigits_of_lt_base (by omega)]
    simp [digits, Nat.mod_eq_of_lt (by omega : number < 10)]
  | succ width ih =>
    have hlow' : 10 ^ width ≤ number / 10 := by
      rw [Nat.pow_succ] at hlow
      omega
    have hhigh' : number / 10 < 10 ^ (width + 1) := by
      rw [Nat.pow_succ] at hhigh
      omega
    have hnumber : ¬ number < 10 := by
      have hpos : 0 < 10 ^ width := Nat.pow_pos (by decide)
      omega
    calc Nat.toDigits 10 number
      _ = Nat.toDigits 10 (number / 10) ++ [Nat.digitChar (number % 10)] := by
        rw [Nat.toDigits_eq_if (by decide), if_neg hnumber]
      _ = digits (width + 1) (number / 10) ++ [Nat.digitChar (number % 10)] := by
        rw [ih hlow' hhigh']

/-! ## The order of the texts -/

/-- Texts with beginnings of one length are compared there first. -/
theorem append_lt_append {α : Type} [LinearOrder α] {as as' bs bs' : List α}
    (h : as.length = as'.length) : as ++ bs < as' ++ bs' ↔ as < as' ∨ as = as' ∧ bs < bs' := by
  induction as generalizing as' with
  | nil =>
    obtain rfl := List.length_eq_zero_iff.mp h.symm
    simp
  | cons a as ih =>
    cases as' with
    | nil => simp at h
    | cons a' as' =>
      have hlength : as.length = as'.length := by simpa using h
      simp only [List.cons_append, List.cons_lt_cons_iff, ih hlength, List.cons.injEq]
      tauto

/-- What compares alike in both directions is equal alike. -/
theorem eq_iff_of_lt_iff {α β : Type} [LinearOrder α] [LinearOrder β] {a a' : α} {b b' : β}
    (hlt : a < a' ↔ b < b') (hgt : a' < a ↔ b' < b) : a = a' ↔ b = b' := by
  simp only [le_antisymm_iff, ← not_lt, hlt, hgt]

theorem digits_lt_digits {width m n : ℕ} (hm : m < 10 ^ width) (hn : n < 10 ^ width) :
    digits width m < digits width n ↔ m < n := by
  induction width generalizing m n with
  | zero =>
    rw [Nat.pow_zero] at hm hn
    have hmn : ¬ m < n := by omega
    simp [digits, hmn]
  | succ width ih =>
    rw [Nat.pow_succ] at hm hn
    have hhigh : m / 10 < 10 ^ width := by omega
    have hhigh' : n / 10 < 10 ^ width := by omega
    have heq : digits width (m / 10) = digits width (n / 10) ↔ m / 10 = n / 10 :=
      eq_iff_of_lt_iff (ih hhigh hhigh') (ih hhigh' hhigh)
    have hlast : [Nat.digitChar (m % 10)] < [Nat.digitChar (n % 10)] ↔ m % 10 < n % 10 := by
      rw [List.cons_lt_cons_iff, digitChar_lt_digitChar _ (by omega) _ (by omega)]
      simp
    have hlength : (digits width (m / 10)).length = (digits width (n / 10)).length := by simp
    rw [digits, digits, append_lt_append hlength, ih hhigh hhigh', heq, hlast]
    omega

theorem digits_inj {width m n : ℕ} (hm : m < 10 ^ width) (hn : n < 10 ^ width) :
    digits width m = digits width n ↔ m = n :=
  eq_iff_of_lt_iff (digits_lt_digits hm hn) (digits_lt_digits hn hm)

/-- Numbers in the same widths are ordered as what is written. -/
theorem write_lt_write {fields fields' : List (ℕ × ℕ)}
    (hwidths : fields.map Prod.fst = fields'.map Prod.fst) (hfits : ∀ field ∈ fields, Fits field)
    (hfits' : ∀ field ∈ fields', Fits field) :
    write fields < write fields' ↔ fields.map Prod.snd < fields'.map Prod.snd := by
  induction fields generalizing fields' with
  | nil =>
    have hempty : fields' = [] := List.map_eq_nil_iff.mp hwidths.symm
    simp [hempty, write]
  | cons field fields ih =>
    cases fields' with
    | nil => simp at hwidths
    | cons field' fields' =>
      have hwidth : field.1 = field'.1 := (List.cons.inj hwidths).1
      have hfield : field.2 < 10 ^ field.1 := hfits _ List.mem_cons_self
      have hfield' : field'.2 < 10 ^ field.1 := hwidth ▸ hfits' _ List.mem_cons_self
      have hrest := ih (List.cons.inj hwidths).2
        (fun field h ↦ hfits field (List.mem_cons_of_mem _ h))
        fun field h ↦ hfits' field (List.mem_cons_of_mem _ h)
      have hlength : (digits field.1 field.2).length = (digits field.1 field'.2).length := by simp
      calc write (field :: fields) < write (field' :: fields')
        _ ↔ digits field.1 field.2 ++ write fields < digits field.1 field'.2 ++ write fields' := by
          simp only [write, List.flatMap_cons, hwidth]
        _ ↔ digits field.1 field.2 < digits field.1 field'.2 ∨
            digits field.1 field.2 = digits field.1 field'.2 ∧ write fields < write fields' :=
          append_lt_append hlength
        _ ↔ field.2 < field'.2 ∨
            field.2 = field'.2 ∧ fields.map Prod.snd < fields'.map Prod.snd := by
          rw [digits_lt_digits hfield hfield', digits_inj hfield hfield', hrest]
        _ ↔ (field :: fields).map Prod.snd < (field' :: fields').map Prod.snd :=
          List.cons_lt_cons_iff.symm

end Decimal
