import HostcomputeNspawn.ContainerLayer
import HostcomputeNspawn.Text.Hexadecimal

/-!
# The text of a layer id

`StringFromGUID2` writes the braced form of a GUID and counts its terminator.  Cutting one
character off the front and two off the back leaves exactly what is between the braces.  What is
left is the hexadecimal form of the GUID in lower case, from which the GUID can be read back.
-/

namespace HostcomputeNspawn

open Externals

/-- What the program relies on when it turns a GUID into text: `StringFromGUID2` writes the braced
form into a buffer that has room for it, and `narrow` keeps every ASCII character. -/
structure Externals.WritesGuids (lib : Externals) : Prop where
  stringFromGuid2 : ∀ guid size, 39 ≤ size → ∃ rest,
    lib.stringFromGuid2 guid size = (39, ofAscii (guidText guid) ++ rest)
  narrowLength : ∀ chars rest, (∀ c ∈ chars, c.toNat < 128) →
    lib.narrowLength (ofAscii chars ++ rest) chars.length = .ofList chars

theorem mem_intercalate_singleton {sep c : Char} {parts : List (List Char)}
    (hc : c ∈ [sep].intercalate parts) : c = sep ∨ ∃ part ∈ parts, c ∈ part := by
  induction parts with
  | nil => simp [List.intercalate] at hc
  | cons part parts ih =>
    cases parts with
    | nil => exact Or.inr ⟨part, List.mem_singleton.mpr rfl, by simpa using hc⟩
    | cons next rest =>
      rw [List.intercalate_cons_cons, List.append_assoc, List.mem_append, List.mem_append,
        List.mem_singleton] at hc
      rcases hc with hpart | hsep | hrest
      · exact Or.inr ⟨part, List.mem_cons_self, hpart⟩
      · exact Or.inl hsep
      · exact (ih hrest).imp_right fun ⟨part', hpart', hc⟩ ↦
          ⟨part', List.mem_cons_of_mem _ hpart', hc⟩

theorem isDigit_of_mem_guidParts {guid : Guid} :
    ∀ part ∈ guidParts guid, ∀ c ∈ part, Hexadecimal.IsDigit c := by
  simp only [guidParts, List.forall_mem_cons]
  exact ⟨Hexadecimal.isDigit_of_mem_digits, Hexadecimal.isDigit_of_mem_digits,
    Hexadecimal.isDigit_of_mem_digits, Hexadecimal.isDigit_of_mem_bytes,
    Hexadecimal.isDigit_of_mem_bytes, List.forall_mem_nil _⟩

/-- The text of a GUID is made of dashes and digits. -/
theorem mem_guidParts {guid : Guid} {c : Char} (hc : c ∈ ['-'].intercalate (guidParts guid)) :
    c = '-' ∨ Hexadecimal.IsDigit c :=
  (mem_intercalate_singleton hc).imp_right fun ⟨part, hpart, hc⟩ ↦
    isDigit_of_mem_guidParts part hpart c hc

@[simp]
theorem length_guidBody (guid : Guid) : (guidBody guid).length = 36 := by
  simp [guidBody, guidParts, List.intercalate, List.intersperse]

/-- The upper-case form is ASCII text, and lower case undoes it. -/
theorem toUpper_of_mem_guidParts {guid : Guid} {c : Char}
    (hc : c ∈ ['-'].intercalate (guidParts guid)) :
    c.toUpper.toNat < 128 ∧ c.toUpper.toLower = c := by
  have hdigits : ∀ digit < 16, (Nat.digitChar digit).toUpper.toNat < 128 ∧
      (Nat.digitChar digit).toUpper.toLower = Nat.digitChar digit := by decide
  obtain rfl | ⟨digit, hdigit, rfl⟩ := mem_guidParts hc
  · decide
  · exact hdigits digit hdigit

theorem ascii_guidText {guid : Guid} : ∀ c ∈ guidText guid, c.toNat < 128 := by
  simp only [guidText, guidBody, List.cons_append, List.forall_mem_append, List.forall_mem_cons,
    List.forall_mem_map]
  exact ⟨by decide, fun c hc ↦ (toUpper_of_mem_guidParts hc).1, by decide, by decide,
    List.forall_mem_nil _⟩

/-- The id text of a GUID: the form without braces, in lower case. -/
def guidId (guid : Guid) : String := .ofList ((guidBody guid).map Char.toLower)

/-- `to_id` cuts out exactly what is between the braces. -/
theorem ContainerId.idText_eq {lib : Externals} (hlib : lib.WritesGuids) (id : ContainerId)
    (guid : Guid) : id.idText lib guid = .ok (guidId guid) := by
  obtain ⟨rest, htext⟩ := hlib.stringFromGuid2 guid 40 (by decide)
  have hlength : (guidText guid).length = 39 := by simp [guidText]
  have hnarrow := hlib.narrowLength (guidText guid) rest ascii_guidText
  rw [hlength] at hnarrow
  have hcut : (((guidText guid).map Char.toLower).drop 1).take (sizeSub 39 3) =
      (guidBody guid).map Char.toLower :=
    calc (((guidText guid).map Char.toLower).drop 1).take (sizeSub 39 3)
      _ = ((guidBody guid).map Char.toLower ++ ['}', Char.ofNat 0].map Char.toLower).take
          (sizeSub 39 3) := by
        rw [guidText, List.cons_append, List.map_cons, List.drop_one, List.tail_cons,
          List.map_append]
      _ = (guidBody guid).map Char.toLower := List.take_left' (by simp [sizeSub])
  simp only [idText, htext, hnarrow, String.toList_ofList]
  rw [if_neg (by decide), substr, if_neg (by simp [hlength])]
  simp only [String.length_ofList, List.length_map, hlength, String.toList_ofList, hcut, guidId]

/-! ## Reading a GUID -/

/-- Reads the 8-4-4-4-12 hexadecimal form of a GUID. -/
def parseGuid (text : String) : Option Guid :=
  match text.toList.splitOn '-' with
  | [part1, part2, part3, part4, part5] =>
    if [part1, part2, part3, part4, part5].map List.length = [8, 4, 4, 4, 12] then do
      let data1 ← Hexadecimal.read part1
      let data2 ← Hexadecimal.read part2
      let data3 ← Hexadecimal.read part3
      let data4 ← Hexadecimal.readBytes (part4 ++ part5)
      if hdata4 : data4.length = 8 then
        some ⟨.ofNat data1, .ofNat data2, .ofNat data3, ⟨data4.toArray, hdata4⟩⟩
      else none
    else none
  | _ => none

theorem toList_guidId (guid : Guid) :
    (guidId guid).toList = ['-'].intercalate (guidParts guid) := by
  rw [guidId, String.toList_ofList, guidBody, List.map_map]
  calc (['-'].intercalate (guidParts guid)).map (Char.toLower ∘ Char.toUpper)
    _ = (['-'].intercalate (guidParts guid)).map id :=
      List.map_congr_left fun c hc ↦ (toUpper_of_mem_guidParts hc).2
    _ = ['-'].intercalate (guidParts guid) := List.map_id _

/-- The id text is made of dashes and lower-case digits. -/
theorem mem_guidId {guid : Guid} {c : Char} (hc : c ∈ (guidId guid).toList) :
    c = '-' ∨ c ∈ "0123456789abcdef".toList := by
  rw [toList_guidId] at hc
  exact (mem_guidParts hc).imp_right Hexadecimal.IsDigit.mem

theorem parseGuid_guidId (guid : Guid) : parseGuid (guidId guid) = some guid := by
  have hparts : (guidId guid).toList.splitOn '-' = guidParts guid := by
    rw [toList_guidId]
    apply List.splitOn_intercalate _ _ (by simp [guidParts])
    exact fun part hpart ↦ Hexadecimal.IsDigit.notMem (isDigit_of_mem_guidParts part hpart) rfl
  have hdata1 : Hexadecimal.read (Hexadecimal.digits 8 guid.data1.toNat) = some guid.data1.toNat :=
    Hexadecimal.read_digits guid.data1.toNat_lt
  have hdata2 : Hexadecimal.read (Hexadecimal.digits 4 guid.data2.toNat) = some guid.data2.toNat :=
    Hexadecimal.read_digits guid.data2.toNat_lt
  have hdata3 : Hexadecimal.read (Hexadecimal.digits 4 guid.data3.toNat) = some guid.data3.toNat :=
    Hexadecimal.read_digits guid.data3.toNat_lt
  have hdata4 : Hexadecimal.readBytes (Hexadecimal.bytes (guid.data4.toList.take 2) ++
      Hexadecimal.bytes (guid.data4.toList.drop 2)) = some guid.data4.toList := by
    rw [← Hexadecimal.bytes_append, List.take_append_drop, Hexadecimal.readBytes_bytes]
  have hlengths : (guidParts guid).map List.length = [8, 4, 4, 4, 12] := by simp [guidParts]
  have hlength : guid.data4.toList.length = 8 := Vector.length_toList
  rw [parseGuid, hparts]
  simp only [guidParts] at hlengths ⊢
  simp only [hlengths, if_true, hdata1, hdata2, hdata3, hdata4, Option.bind_eq_bind,
    Option.bind_some, hlength, dite_true, UInt32.ofNat_toNat, UInt16.ofNat_toNat]
  rfl

/-- The id text of a GUID determines it. -/
theorem guidId_injective : Function.Injective guidId := by
  have hread : parseGuid ∘ guidId = some := by
    funext guid
    rw [Function.comp_apply, parseGuid_guidId]
  apply Function.Injective.of_comp
  rw [hread]
  exact Option.some_injective Guid

theorem toAscii_ofAscii {chars : List Char} (hchars : ∀ c ∈ chars, c.toNat < 128) :
    toAscii (ofAscii chars) = .ofList chars := by
  have hchar : ∀ c ∈ chars, Char.ofNat (UInt16.ofNat c.toNat).toNat = c := by
    intro c hc
    have hsmall : c.toNat < 2 ^ 16 := (hchars c hc).trans (by decide)
    rw [UInt16.toNat_ofNat_of_lt' hsmall, Char.ofNat_toNat]
  calc toAscii (ofAscii chars)
    _ = .ofList (chars.map fun c ↦ Char.ofNat (UInt16.ofNat c.toNat).toNat) :=
      congrArg String.ofList List.map_map
    _ = .ofList (chars.map id) := congrArg String.ofList (List.map_congr_left hchar)
    _ = .ofList chars := congrArg String.ofList (List.map_id chars)

theorem Externals.ascii_writesGuids : Externals.ascii.WritesGuids where
  stringFromGuid2 guid size hsize := by
    refine ⟨[], ?_⟩
    simp only [ascii, if_neg (Nat.not_lt.mpr hsize), List.append_nil]
  narrowLength chars rest hchars := by
    have htake : (ofAscii chars ++ rest).take chars.length = ofAscii chars :=
      List.take_left' (by simp [ofAscii])
    simp only [ascii, htake, toAscii_ofAscii hchars]

end HostcomputeNspawn
