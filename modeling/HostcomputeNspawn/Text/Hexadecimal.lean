import Mathlib.Algebra.Order.Group.Nat
import Mathlib.Data.List.Basic
import Mathlib.Data.Option.Basic
import Mathlib.Tactic.Common

/-!
# Hexadecimal numbers

Numbers in lower-case hexadecimal digits, as many as are asked for or as many as are needed, and
bytes in two digits each.  Reading accepts digits of either case and gives the number back.
-/

namespace Hexadecimal

/-- The value of a digit of either case. -/
def digitValue? (c : Char) : Option ℕ :=
  if '0' ≤ c ∧ c ≤ '9' then some (c.toNat - '0'.toNat)
  else if 'a' ≤ c ∧ c ≤ 'f' then some (c.toNat - 'a'.toNat + 10)
  else if 'A' ≤ c ∧ c ≤ 'F' then some (c.toNat - 'A'.toNat + 10)
  else none

/-- The number that digits write, the most significant first. -/
def read (cs : List Char) : Option ℕ :=
  cs.foldlM (fun number c ↦ (digitValue? c).map (16 * number + ·)) 0

/-- The last digits of a number, as many as are asked for. -/
def digits : ℕ → ℕ → List Char
  | 0, _ => []
  | width + 1, number => digits width (number / 16) ++ [Nat.digitChar (number % 16)]

/-- Two digits for every byte. -/
def bytes (data : List UInt8) : List Char := data.flatMap fun byte ↦ digits 2 byte.toNat

/-- The bytes that pairs of digits write. -/
def readBytes : List Char → Option (List UInt8)
  | [] => some []
  | [_] => none
  | high :: low :: rest => do
    let byte ← read [high, low]
    let data ← readBytes rest
    return .ofNat byte :: data

/-- The character is a lower-case digit. -/
def IsDigit (c : Char) : Prop := ∃ digit < 16, c = Nat.digitChar digit

theorem digitValue?_digitChar : ∀ digit < 16, digitValue? (Nat.digitChar digit) = some digit := by
  decide

theorem IsDigit.ne {c d : Char} (hc : IsDigit c) (hd : digitValue? d = none) : c ≠ d := by
  obtain ⟨digit, hdigit, rfl⟩ := hc
  rintro rfl
  rw [digitValue?_digitChar digit hdigit] at hd
  exact nomatch hd

theorem IsDigit.notMem {cs : List Char} {d : Char} (hcs : ∀ c ∈ cs, IsDigit c)
    (hd : digitValue? d = none) : d ∉ cs := fun hmem ↦ (hcs d hmem).ne hd rfl

/-- The digits are the sixteen lower-case ones. -/
theorem IsDigit.mem {c : Char} (hc : IsDigit c) : c ∈ "0123456789abcdef".toList := by
  obtain ⟨digit, hdigit, rfl⟩ := hc
  revert digit
  decide

@[simp]
theorem length_digits (width number : ℕ) : (digits width number).length = width := by
  induction width generalizing number with
  | zero => rfl
  | succ width ih => simp [digits, ih]

theorem isDigit_of_mem_digits {width number : ℕ} : ∀ c ∈ digits width number, IsDigit c := by
  induction width generalizing number with
  | zero => simp [digits]
  | succ width ih =>
    simp only [digits, List.mem_append, List.mem_singleton]
    rintro c (hc | rfl)
    · exact ih c hc
    · exact ⟨_, Nat.mod_lt _ (by decide), rfl⟩

theorem isDigit_of_mem_toDigits {number : ℕ} : ∀ c ∈ Nat.toDigits 16 number, IsDigit c := by
  induction number using Nat.strongRecOn with
  | ind number ih =>
    rw [Nat.toDigits_eq_if (by decide)]
    split
    · next hlt =>
      simp only [List.mem_singleton]
      rintro c rfl
      exact ⟨number, hlt, rfl⟩
    · simp only [List.mem_append, List.mem_singleton]
      rintro c (hc | rfl)
      · exact ih (number / 16) (by omega) c hc
      · exact ⟨_, Nat.mod_lt _ (by decide), rfl⟩

/-! ## Reading back -/

theorem read_append_digitChar {cs : List Char} {number digit : ℕ} (hcs : read cs = some number)
    (hdigit : digit < 16) : read (cs ++ [Nat.digitChar digit]) = some (16 * number + digit) := by
  calc read (cs ++ [Nat.digitChar digit])
    _ = (read cs).bind fun number ↦
        (digitValue? (Nat.digitChar digit)).map (16 * number + ·) := by simp [read]
    _ = some (16 * number + digit) := by simp [hcs, digitValue?_digitChar digit hdigit]

theorem read_digits {width number : ℕ} (hnumber : number < 16 ^ width) :
    read (digits width number) = some number := by
  induction width generalizing number with
  | zero =>
    obtain rfl : number = 0 := by simpa using hnumber
    rfl
  | succ width ih =>
    have hhigh : number / 16 < 16 ^ width := by
      rw [Nat.pow_succ] at hnumber
      omega
    calc read (digits (width + 1) number)
      _ = some (16 * (number / 16) + number % 16) :=
        read_append_digitChar (ih hhigh) (Nat.mod_lt _ (by decide))
      _ = some number := by rw [Nat.div_add_mod]

theorem read_toDigits (number : ℕ) : read (Nat.toDigits 16 number) = some number := by
  induction number using Nat.strongRecOn with
  | ind number ih =>
    rw [Nat.toDigits_eq_if (by decide)]
    split
    · next hlt => simpa using read_append_digitChar (rfl : read [] = some 0) hlt
    · rw [read_append_digitChar (ih (number / 16) (by omega)) (Nat.mod_lt _ (by decide)),
        Nat.div_add_mod]

/-- Numbers with the same digits are equal. -/
theorem toDigits_injective : Function.Injective (Nat.toDigits 16) := by
  have hread : read ∘ Nat.toDigits 16 = some := funext read_toDigits
  apply Function.Injective.of_comp
  rw [hread]
  exact Option.some_injective ℕ

@[simp]
theorem length_bytes (data : List UInt8) : (bytes data).length = 2 * data.length := by
  simp [bytes, List.length_flatMap, Nat.mul_comm]

theorem bytes_append (front back : List UInt8) :
    bytes (front ++ back) = bytes front ++ bytes back := List.flatMap_append

theorem isDigit_of_mem_bytes {data : List UInt8} : ∀ c ∈ bytes data, IsDigit c := by
  intro c hc
  obtain ⟨byte, -, hc⟩ := List.mem_flatMap.mp hc
  exact isDigit_of_mem_digits c hc

theorem readBytes_bytes (data : List UInt8) : readBytes (bytes data) = some data := by
  induction data with
  | nil => rfl
  | cons byte data ih =>
    have hbyte : read (digits 2 byte.toNat) = some byte.toNat := read_digits byte.toNat_lt
    have hdata : bytes (byte :: data) = digits 2 byte.toNat ++ bytes data := List.flatMap_cons
    rw [hdata]
    simp only [digits, List.nil_append, List.cons_append] at hbyte ⊢
    rw [readBytes, hbyte, ih]
    simp

end Hexadecimal
