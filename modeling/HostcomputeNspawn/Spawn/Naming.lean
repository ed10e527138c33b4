import HostcomputeNspawn.Spawn.Identity
import HostcomputeNspawn.Utils
import Mathlib.Data.Prod.Lex

/-!
# The order of the layers

The name of a sandbox layer begins with the local time of its run and ends with a random string.
In a list of the folders the layers of earlier runs come before those of later ones, and two runs
use the same folder only if they read the same second from the clock and drew the same string.
-/

namespace HostcomputeNspawn

open Transition World Identity

namespace Naming

/-- What the name of a layer is made of: the time, and then the random string. -/
abbrev Stamp := Tm ×ₗ String

/-- The clock shows the time of the stamp, and the random generator draws its string. -/
def agrees (stamp : Stamp) : World.Label → Bool
  | .call .currentDatetime datetime => currentDatetime (ofLex stamp).1 == some datetime
  | .call (.generate 26) suffix => suffix == (ofLex stamp).2
  | _ => true

/-- The names of a run are stamped with the time and the string. -/
def Stamped (stamp : Stamp) (labels : List World.Label) : Prop :=
  ∀ label ∈ labels, agrees stamp label = true

instance (stamp : Stamp) (labels : List World.Label) : Decidable (Stamped stamp labels) :=
  inferInstanceAs (Decidable (∀ label ∈ labels, agrees stamp label = true))

/-- The name that is made of a stamp. -/
def Makes (stamp : Stamp) (name : String) : Prop :=
  ∃ datetime, currentDatetime (ofLex stamp).1 = some datetime ∧
    name = "nspawn_" ++ datetime ++ "_" ++ (ofLex stamp).2

/-- The names are ordered as the stamps are. -/
theorem Makes.lt_iff {stamp stamp' : Stamp} {name name' : String} (h : Makes stamp name)
    (h' : Makes stamp' name') : name < name' ↔ stamp < stamp' := by
  obtain ⟨datetime, hdatetime, rfl⟩ := h
  obtain ⟨datetime', hdatetime', rfl⟩ := h'
  have hlength : datetime.toList.length = datetime'.toList.length := by
    rw [length_of_currentDatetime hdatetime, length_of_currentDatetime hdatetime']
  have htext (datetime suffix : String) : ("nspawn_" ++ datetime ++ "_" ++ suffix).toList =
      "nspawn_".toList ++ (datetime.toList ++ ("_".toList ++ suffix.toList)) := by
    simp only [String.toList_append, List.append_assoc]
  calc "nspawn_" ++ datetime ++ "_" ++ (ofLex stamp).2 <
      "nspawn_" ++ datetime' ++ "_" ++ (ofLex stamp').2
    _ ↔ datetime.toList < datetime'.toList ∨
        datetime.toList = datetime'.toList ∧ (ofLex stamp).2.toList < (ofLex stamp').2.toList := by
      rw [String.lt_iff_toList_lt, htext, htext, Decimal.append_lt_append rfl,
        Decimal.append_lt_append hlength, Decimal.append_lt_append rfl]
      simp only [lt_irrefl, true_and, false_or]
    _ ↔ (ofLex stamp).1 < (ofLex stamp').1 ∨
        (ofLex stamp).1 = (ofLex stamp').1 ∧ (ofLex stamp).2 < (ofLex stamp').2 := by
      rw [← String.lt_iff_toList_lt, ← String.lt_iff_toList_lt, String.toList_inj,
        currentDatetime_lt_iff hdatetime hdatetime', currentDatetime_inj hdatetime hdatetime']
    _ ↔ stamp < stamp' := Prod.Lex.lt_iff.symm

theorem makes_of_generatedName {stamp : Stamp} {labels : List World.Label} {name : String}
    (hstamp : Stamped stamp labels) (hname : generatedName (mainEvents labels) = some name) :
    Makes stamp name := by
  simp only [generatedName, Option.bind_eq_bind, Option.bind_eq_some_iff, Option.pure_def,
    Option.some.injEq] at hname
  obtain ⟨datetime, hdatetime, suffix, hsuffix, rfl⟩ := hname
  have hclock : World.Label.call .currentDatetime datetime ∈ labels := by
    obtain ⟨event, hmem, hevent⟩ := List.exists_of_findSome?_eq_some hdatetime
    unfold datetime? at hevent
    split at hevent
    · cases hevent
      exact (mem_mainEvents rfl).mp hmem
    · cases hevent
  have hdrawn : World.Label.call (.generate 26) suffix ∈ labels := by
    obtain ⟨event, hmem, hevent⟩ := List.exists_of_findSome?_eq_some hsuffix
    unfold suffix? at hevent
    split at hevent
    · cases hevent
      exact (mem_mainEvents rfl).mp hmem
    · cases hevent
  have htime : currentDatetime (ofLex stamp).1 = some datetime :=
    beq_iff_eq.mp (hstamp _ hclock)
  have hstring : suffix = (ofLex stamp).2 := beq_iff_eq.mp (hstamp _ hdrawn)
  exact ⟨datetime, htime, by rw [hstring]⟩

/-- A run calls a layer by the name that it has stamped. -/
theorem stamped_of_run {lib : Externals} {config : NspawnConfig} {labels : List World.Label}
    {w : World (Except StdException Unit)}
    (hrun : (system _).Run (start (spawnAndWait lib config).run) labels w) {stamp : Stamp}
    (hstamp : Stamped stamp labels) {call : ApiCall} {reply : ApiReply call}
    (hcall : World.Label.call (.api call) reply ∈ labels) {info : DriverInfo} {id : WString}
    (hlayer : layerArguments call = some (info, id)) :
    ∃ name, id = lib.widen name ∧ Makes stamp name := by
  obtain ⟨i, hi⟩ := List.getElem?_of_mem hcall
  obtain ⟨name, hname, hid, -⟩ := (rule_of_run hrun hi).layer hlayer
  exact ⟨name, hid, makes_of_generatedName hstamp (generatedName_of_take hname)⟩

/-- The layers of two runs are called by names that are ordered as the local times of the runs are,
with the random strings behind them, and by the same name only if both are the same. -/
theorem layers_in_order (lib : Externals) (config config' : NspawnConfig) (stamp stamp' : Stamp)
    {labels labels' : List World.Label} {w w' : World (Except StdException Unit)}
    (hrun : (system _).Run (start (spawnAndWait lib config).run) labels w)
    (hrun' : (system _).Run (start (spawnAndWait lib config').run) labels' w')
    (hstamp : Stamped stamp labels) (hstamp' : Stamped stamp' labels')
    {call call' : ApiCall} {reply : ApiReply call} {reply' : ApiReply call'}
    (hcall : World.Label.call (.api call) reply ∈ labels)
    (hcall' : World.Label.call (.api call') reply' ∈ labels') {info info' : DriverInfo}
    {id id' : WString} (hlayer : layerArguments call = some (info, id))
    (hlayer' : layerArguments call' = some (info', id')) :
    ∃ name name', (id = lib.widen name ∧ Makes stamp name) ∧
      (id' = lib.widen name' ∧ Makes stamp' name') ∧
      (name < name' ↔ stamp < stamp') ∧ (name = name' ↔ stamp = stamp') := by
  obtain ⟨name, hname⟩ := stamped_of_run hrun hstamp hcall hlayer
  obtain ⟨name', hname'⟩ := stamped_of_run hrun' hstamp' hcall' hlayer'
  have hlt := hname.2.lt_iff hname'.2
  have hgt := hname'.2.lt_iff hname.2
  exact ⟨name, name', hname, hname', hlt, Decimal.eq_iff_of_lt_iff hlt hgt⟩

/-- The evening of the clock in the schedules. -/
def evening (second : ℕ) (hsecond : second < 60) : Tm where
  tmSec := second
  tmMin := 0
  tmHour := 18
  tmMday := 24
  tmMon := 11
  tmYear := 116
  tmSec_lt := hsecond
  tmMin_lt := by decide
  tmHour_lt := by decide
  le_tmMday := by decide
  tmMday_le := by decide
  tmMon_lt := by decide
  le_tmYear := by decide
  tmYear_le := by decide

/-- The stamp of a schedule. -/
def eveningStamp (second : ℕ) (hsecond : second < 60) : Stamp :=
  toLex (evening second hsecond, .ofList (.replicate 26 '0'))

theorem layers_in_order_run : ∃ labels labels' w w' name name',
    (system _).Run (start (spawnAndWait Externals.ascii someConfig).run) labels w ∧
    (system _).Run (start (spawnAndWait Externals.ascii someConfig).run) labels' w' ∧
    (Makes (eveningStamp 0 (by decide)) name ∧ Makes (eveningStamp 1 (by decide)) name') ∧
    name < name' := by
  have hrun := run_of_choices (w := start (spawnAndWait Externals.ascii someConfig).run)
    Choice.untilLatch rfl
  have hrun' := run_of_choices (w := start (spawnAndWait Externals.ascii someConfig).run)
    (List.replicate 4 .succeed ++ later :: List.replicate 12 .succeed) rfl
  have horder : eveningStamp 0 (by decide) < eveningStamp 1 (by decide) :=
    Prod.Lex.lt_iff.mpr (Or.inl (by decide))
  obtain ⟨name, name', hname, hname', hlt, -⟩ := layers_in_order _ _ _
    (eveningStamp 0 (by decide)) (eveningStamp 1 (by decide)) hrun hrun' (by decide) (by decide)
    (List.mem_of_getElem? (i := 7) rfl) (List.mem_of_getElem? (i := 7) rfl)
    rfl rfl
  exact ⟨_, _, _, _, name, name', hrun, hrun', ⟨hname.2, hname'.2⟩, hlt.mpr horder⟩

end Naming

end HostcomputeNspawn
