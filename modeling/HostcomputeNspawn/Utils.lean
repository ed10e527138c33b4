import HostcomputeNspawn.Text.Decimal
import Mathlib.Data.String.Basic

/-!
# The date in the name of a layer

`current_datetime` writes the local time in fourteen digits, the largest unit first.  So its texts
are ordered as the times are, as long as `localtime_s` gives times that a calendar has.
-/

namespace HostcomputeNspawn

/-- The members of `struct tm` that are written, in the ranges that `localtime_s` fills in: it
knows the years from 1970 to 3000. -/
structure Tm where
  tmSec : ℕ
  tmMin : ℕ
  tmHour : ℕ
  tmMday : ℕ
  tmMon : ℕ
  /-- Years since 1900. -/
  tmYear : ℕ
  tmSec_lt : tmSec < 60
  tmMin_lt : tmMin < 60
  tmHour_lt : tmHour < 24
  le_tmMday : 1 ≤ tmMday
  tmMday_le : tmMday ≤ 31
  tmMon_lt : tmMon < 12
  le_tmYear : 70 ≤ tmYear
  tmYear_le : tmYear ≤ 1100

namespace Tm

@[ext]
theorem ext {time time' : Tm} (hsec : time.tmSec = time'.tmSec) (hmin : time.tmMin = time'.tmMin)
    (hhour : time.tmHour = time'.tmHour) (hmday : time.tmMday = time'.tmMday)
    (hmon : time.tmMon = time'.tmMon) (hyear : time.tmYear = time'.tmYear) : time = time' := by
  cases time
  cases time'
  simp only at hsec hmin hhour hmday hmon hyear
  subst hsec hmin hhour hmday hmon hyear
  rfl

/-- The time from the year down to the second. -/
def calendar (time : Tm) : List ℕ :=
  [1900 + time.tmYear, time.tmMon + 1, time.tmMday, time.tmHour, time.tmMin, time.tmSec]

theorem calendar_inj {time time' : Tm} : time.calendar = time'.calendar ↔ time = time' := by
  constructor
  · intro h
    simp only [calendar, List.cons.injEq, Nat.add_left_cancel_iff, Nat.add_right_cancel_iff,
      and_true] at h
    ext <;> simp [h]
  · exact congrArg calendar

/-- Local times are ordered from the year down. -/
instance : LinearOrder Tm := LinearOrder.lift' calendar fun _ _ ↦ calendar_inj.mp

end Tm

/-- What a conversion of `strftime` writes; there are others. -/
def conversion (time : Tm) : Char → Option (List Char)
  | 'Y' => some (Nat.toDigits 10 (1900 + time.tmYear))
  | 'm' => some (Decimal.digits 2 (time.tmMon + 1))
  | 'd' => some (Decimal.digits 2 time.tmMday)
  | 'H' => some (Decimal.digits 2 time.tmHour)
  | 'M' => some (Decimal.digits 2 time.tmMin)
  | 'S' => some (Decimal.digits 2 time.tmSec)
  | _ => none

/-- The text that a format asks for. -/
def formatted (time : Tm) : List Char → Option (List Char)
  | [] => some []
  | '%' :: specifier :: format => do
    let field ← conversion time specifier
    let rest ← formatted time format
    return field ++ rest
  | c :: format => do
    let rest ← formatted time format
    return c :: rest

/-- `strftime` writes its text into a buffer that must have room for it and for the terminator. -/
def strftime (maxsize : ℕ) (format : String) (time : Tm) : Option String := do
  let text ← formatted time format.toList
  if text.length < maxsize then some (String.ofList text) else none

def currentDatetime (time : Tm) : Option String := strftime 128 "%Y%m%d%H%M%S" time

/-- What is written, each number in its width. -/
def Tm.stamp (time : Tm) : List (ℕ × ℕ) := [4, 2, 2, 2, 2, 2].zip time.calendar

theorem Tm.stamp_fits (time : Tm) : ∀ field ∈ time.stamp, Decimal.Fits field := by
  have hsec := time.tmSec_lt
  have hmin := time.tmMin_lt
  have hhour := time.tmHour_lt
  have hmday := time.tmMday_le
  have hmon := time.tmMon_lt
  have hyear := time.tmYear_le
  simp only [stamp, calendar, List.zip_cons_cons, List.zip_nil_left, List.mem_cons,
    List.not_mem_nil, or_false, forall_eq_or_imp, forall_eq, Decimal.Fits]
  omega

/-- The text has room in its buffer, and it is the stamp of the time. -/
theorem currentDatetime_eq (time : Tm) :
    currentDatetime time = some (String.ofList (Decimal.write time.stamp)) := by
  have hlow : 10 ^ 3 ≤ 1900 + time.tmYear := by omega
  have hhigh : 1900 + time.tmYear < 10 ^ 4 := by
    have hyear := time.tmYear_le
    omega
  have hyear := Decimal.toDigits_eq_digits hlow hhigh
  have hformat : formatted time "%Y%m%d%H%M%S".toList = some (Decimal.write time.stamp) := by
    simp [formatted, conversion, hyear, Decimal.write, Tm.stamp, Tm.calendar]
  have hlength : (Decimal.write time.stamp).length < 128 := by
    simp [Decimal.length_write, Tm.stamp, Tm.calendar]
  rw [currentDatetime, strftime, hformat]
  simp [hlength]

theorem length_of_currentDatetime {time : Tm} {datetime : String}
    (h : currentDatetime time = some datetime) : datetime.toList.length = 14 := by
  rw [currentDatetime_eq, Option.some.injEq] at h
  simp [← h, Decimal.length_write, Tm.stamp, Tm.calendar]

/-- The texts are ordered as the times are. -/
theorem currentDatetime_lt_iff {time time' : Tm} {datetime datetime' : String}
    (h : currentDatetime time = some datetime) (h' : currentDatetime time' = some datetime') :
    datetime < datetime' ↔ time < time' := by
  rw [currentDatetime_eq, Option.some.injEq] at h h'
  rw [String.lt_iff_toList_lt, ← h, ← h', String.toList_ofList, String.toList_ofList]
  exact Decimal.write_lt_write rfl time.stamp_fits time'.stamp_fits

theorem currentDatetime_inj {time time' : Tm} {datetime datetime' : String}
    (h : currentDatetime time = some datetime) (h' : currentDatetime time' = some datetime') :
    datetime = datetime' ↔ time = time' :=
  Decimal.eq_iff_of_lt_iff (currentDatetime_lt_iff h h') (currentDatetime_lt_iff h' h)

end HostcomputeNspawn
