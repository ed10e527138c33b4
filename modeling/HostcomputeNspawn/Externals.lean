import HostcomputeNspawn.Text.Hexadecimal
import HostcomputeNspawn.Vmcompute
import Mathlib.Algebra.Group.Int.Defs
import Mathlib.Algebra.Group.Nat.Defs
import Mathlib.Data.Int.Notation
import Mathlib.Tactic.Common

/-!
# Functions outside the repository

JSON values and the third-party helpers that the program calls.  A helper without effects is a
parameter; what the program relies on is stated where it is used, except for the accessors of
JSON values, which carry their documented behaviour: an accessor returns exactly on a value of
its type and range, and a value that is not an object has no fields or cannot be asked for them.
The macro `TRACEMSG` of a third-party header is a parameter too, of which nothing is known: it
makes a text of the message that it is given and of the place where it stands.
-/

namespace HostcomputeNspawn

/-- `sl::json::value`.  No function here reads the digits of a real. -/
inductive Json
  | null
  | boolean (value : Bool)
  | integer (value : Int)
  | real (digits : String)
  | string (value : String)
  | array (elements : List Json)
  | object (fields : List (String × Json))

/-- `sl::json::field`, a name and a value. -/
abbrev Field := String × Json

/-- The field of an object with the given name. -/
def Json.field? (name : String) : Json → Option Json
  | object fields => fields.lookup name
  | _ => none

/-- The accessors of `sl::json::value`; the string argument is the context of their errors. -/
structure JsonAccess where
  asObject : Json → Except StdException (List Field)
  asArrayOrThrow : Json → String → Except StdException (List Json)
  asStringOrThrow : Json → String → Except StdException String
  asUint32OrThrow : Json → String → Except StdException UInt32
  asUint16OrThrow : Json → String → Except StdException UInt16
  asObject_object : ∀ fields, asObject (.object fields) = .ok fields
  asObject_other : ∀ json, (∀ fields, json ≠ .object fields) →
    asObject json = .ok [] ∨ ∃ e, asObject json = .error e
  asArrayOrThrow_eq_ok : ∀ json context elements,
    asArrayOrThrow json context = .ok elements ↔ json = .array elements
  asStringOrThrow_eq_ok : ∀ json context value,
    asStringOrThrow json context = .ok value ↔ json = .string value
  asUint32OrThrow_eq_ok : ∀ json context (value : UInt32),
    asUint32OrThrow json context = .ok value ↔ json = .integer value.toNat
  asUint16OrThrow_eq_ok : ∀ json context (value : UInt16),
    asUint16OrThrow json context = .ok value ↔ json = .integer value.toNat

/-- The places of `TRACEMSG` in the source. -/
inductive TraceSite
  | vmcomputelib
  | lookupfun
  | await
  | toGuid
  | toId
  | hcsCreateLayer
  | hcsActivateLayer
  | hcsPrepareLayer
  | hcsGetLayerMountPath
  | hcsCreateComputeSystem
  | hcsRegisterComputeSystemCallback
  | hcsStartComputeSystem
  | hcsEnumerateComputeSystems
  | hcsCreateProcess
  | hcsRegisterProcessCallback
  | nullConfigJson
  | invalidConfigJsonLen
  | exceptionRaised
  | unknownField
  | requiredField (name : String)
  | configReadError
deriving DecidableEq, Repr

/-- The helpers that neither touch the container service nor throw. -/
structure Externals where
  json : JsonAccess
  /-- `TRACEMSG`, which is expanded in its place. -/
  traceMsg : TraceSite → String → String
  widen : String → WString
  narrow : WString → String
  /-- `narrow` of a pointer and an explicit length. -/
  narrowLength : WString → Nat → String
  stripFilename : String → String
  stripParentDir : String → String
  errcodeToString : UInt32 → String
  /-- `StringFromGUID2` with the size of the buffer: the returned length and the buffer. -/
  stringFromGuid2 : Guid → Nat → Nat × WString
  isUint32Positive : Int32 → Bool

/-! ## Concrete helpers, for concrete runs -/

/-- Accessors that only accept what they are asked for. -/
def JsonAccess.byType : JsonAccess where
  asObject json := match json with
    | .object fields => .ok fields
    | _ => .ok []
  asArrayOrThrow json context := match json with
    | .array elements => .ok elements
    | _ => .error ⟨context⟩
  asStringOrThrow json context := match json with
    | .string value => .ok value
    | _ => .error ⟨context⟩
  asUint32OrThrow json context := match json with
    | .integer value =>
      if 0 ≤ value ∧ value < 2 ^ 32 then .ok (.ofNat value.toNat) else .error ⟨context⟩
    | _ => .error ⟨context⟩
  asUint16OrThrow json context := match json with
    | .integer value =>
      if 0 ≤ value ∧ value < 2 ^ 16 then .ok (.ofNat value.toNat) else .error ⟨context⟩
    | _ => .error ⟨context⟩
  asObject_object _ := rfl
  asObject_other json hjson := by
    cases json with
    | object fields => exact absurd rfl (hjson fields)
    | _ => exact Or.inl rfl
  asArrayOrThrow_eq_ok json context elements := by cases json <;> simp
  asStringOrThrow_eq_ok json context value := by cases json <;> simp
  asUint32OrThrow_eq_ok json context value := by
    cases json with
    | integer number =>
      have hvalue := value.toNat_lt
      dsimp only
      split
      · simp only [Except.ok.injEq, Json.integer.injEq, ← UInt32.toNat_inj, UInt32.toNat_ofNat']
        omega
      · simp only [reduceCtorEq, Json.integer.injEq, false_iff]
        omega
    | _ => simp
  asUint16OrThrow_eq_ok json context value := by
    cases json with
    | integer number =>
      have hvalue := value.toNat_lt
      dsimp only
      split
      · simp only [Except.ok.injEq, Json.integer.injEq, ← UInt16.toNat_inj, UInt16.toNat_ofNat']
        omega
      · simp only [reduceCtorEq, Json.integer.injEq, false_iff]
        omega
    | _ => simp

namespace Externals

/-- The last component of a path, if the path has a separator before it. -/
def splitPath (path : String) : List Char × List Char :=
  let isSeparator := fun c ↦ c = '/' ∨ c = '\\'
  let file := (path.toList.reverse.takeWhile fun c ↦ ¬ isSeparator c).reverse
  let dir := (path.toList.reverse.dropWhile fun c ↦ ¬ isSeparator c).reverse
  if file = [] ∨ dir = [] then (path.toList, path.toList) else (dir, file)

/-- The five parts of the text of a GUID. -/
def guidParts (guid : Guid) : List (List Char) :=
  [Hexadecimal.digits 8 guid.data1.toNat, Hexadecimal.digits 4 guid.data2.toNat,
    Hexadecimal.digits 4 guid.data3.toNat, Hexadecimal.bytes (guid.data4.toList.take 2),
    Hexadecimal.bytes (guid.data4.toList.drop 2)]

/-- The 8-4-4-4-12 form of a GUID, in upper case. -/
def guidBody (guid : Guid) : List Char := (['-'].intercalate (guidParts guid)).map Char.toUpper

/-- The braced form of a GUID with its terminator. -/
def guidText (guid : Guid) : List Char := '{' :: guidBody guid ++ ['}', Char.ofNat 0]

def ofAscii (chars : List Char) : WString := chars.map fun c ↦ .ofNat c.toNat

def toAscii (units : WString) : String := .ofList (units.map fun u ↦ .ofNat u.toNat)

/-- Helpers that behave as the real ones do on ASCII text; messages do not name their places. -/
def ascii : Externals where
  json := .byType
  traceMsg _ message := message
  widen str := ofAscii str.toList
  narrow := toAscii
  narrowLength units length := toAscii (units.take length)
  stripFilename path := .ofList (splitPath path).1
  stripParentDir path := .ofList (splitPath path).2
  errcodeToString code := toString code.toNat
  stringFromGuid2 guid size := if size < 39 then (0, []) else (39, ofAscii (guidText guid))
  isUint32Positive number := 0 < number

end Externals

end HostcomputeNspawn
