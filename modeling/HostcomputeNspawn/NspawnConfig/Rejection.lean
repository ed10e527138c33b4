import HostcomputeNspawn.NspawnConfig

/-!
# Why a configuration is rejected

The constructor stops at the first field that it does not know or whose value is not of its type,
and reports that field.  Only when all the fields are well formed it looks for the required
strings, and reports the first one that is missing or empty.  The order of fields with different
names matters for the report alone: the configuration that is returned does not depend on it.
-/

namespace HostcomputeNspawn

open Exceptions

namespace NspawnConfig

/-- What is thrown for a field by itself. -/
def Offends (lib : Externals) (field : Field) (e : StdException) : Prop :=
  match knownFields.lookup field.1 with
  | none => e = ⟨lib.traceMsg .unknownField ("Unknown configuration field: [" ++ field.1 ++ "]")⟩
  | some .string => lib.json.asStringOrThrow field.2 field.1 = .error e
  | some .uint32 => lib.json.asUint32OrThrow field.2 field.1 = .error e
  | some .uint16 => lib.json.asUint16OrThrow field.2 field.1 = .error e
  | some .arguments => lib.json.asArrayOrThrow field.2 field.1 = .error e ∨
    ∃ (strings : List String) (element : Json) (after : List Json),
      field.2 = .array (strings.map .string ++ element :: after) ∧
        lib.json.asStringOrThrow element field.1 = .error e

/-- The first field that is not well formed is the one that is reported. -/
def FirstOffense (lib : Externals) (fields : List Field) (e : StdException) : Prop :=
  ∃ before field after, fields = before ++ field :: after ∧
    (∀ other ∈ before, WellFormed other) ∧ Offends lib field e

/-- The first required string that is missing or empty. -/
def firstMissing (fields : List Field) : Option String :=
  requiredFields.find? fun name ↦ lastString name fields = ""

/-- The arguments are read up to the first that is not a string. -/
theorem mapM_asString_eq_error (lib : Externals) (context : String) (elements : List Json)
    (e : StdException) :
    elements.mapM (fun ar ↦ lib.json.asStringOrThrow ar context) = .error e ↔
      ∃ (strings : List String) (element : Json) (after : List Json),
        elements = strings.map .string ++ element :: after ∧
          lib.json.asStringOrThrow element context = .error e := by
  induction elements with
  | nil => simp [pure_ne_error]
  | cons first elements ih =>
    simp only [List.mapM_cons, bind_eq_error, pure_ne_error, and_false, exists_false, or_false, ih]
    constructor
    · intro h
      rcases h with hfirst | ⟨str, hfirst, strings, element, after, rfl, helement⟩
      · exact ⟨[], first, elements, rfl, hfirst⟩
      · obtain rfl := (lib.json.asStringOrThrow_eq_ok _ _ _).mp hfirst
        exact ⟨str :: strings, element, after, rfl, helement⟩
    · intro h
      obtain ⟨strings, element, after, hsplit, helement⟩ := h
      cases strings with
      | nil =>
        obtain ⟨rfl, rfl⟩ := List.cons.inj hsplit
        exact Or.inl helement
      | cons str strings =>
        obtain ⟨rfl, rfl⟩ := List.cons.inj hsplit
        exact Or.inr ⟨str, (lib.json.asStringOrThrow_eq_ok _ _ _).mpr rfl, strings, element, after,
          rfl, helement⟩

/-! ## The report of the constructor -/

/-- A turn of the loop throws what its field offends, whatever has been stored before. -/
theorem setField_eq_error (lib : Externals) (config : NspawnConfig) (field : Field)
    (e : StdException) : setField lib config field = .error e ↔ Offends lib field e := by
  obtain ⟨name, value⟩ := field
  by_cases hname : name ∈ knownFields.map Prod.fst
  · simp only [knownFields, List.map_cons, List.map_nil, List.mem_cons, List.not_mem_nil,
      or_false] at hname
    rcases hname with rfl | rfl | rfl | rfl | rfl | rfl | rfl | rfl | rfl | rfl | rfl | rfl
    all_goals
      simp only [setField, Offends, knownFields, List.lookup_cons, String.reduceEq,
        String.reduceBEq, if_false, reduceIte, bind_eq_error, pure_ne_error, and_false,
        exists_false, or_false, mapM_asString_eq_error, lib.json.asArrayOrThrow_eq_ok]
    -- the array, and its elements
    apply or_congr Iff.rfl
    constructor
    · intro h
      obtain ⟨elements, hvalue, strings, element, after, rfl, helement⟩ := h
      exact ⟨strings, element, after, hvalue, helement⟩
    · intro h
      obtain ⟨strings, element, after, hvalue, helement⟩ := h
      exact ⟨_, hvalue, strings, element, after, rfl, helement⟩
  · have hlookup : knownFields.lookup name = none := by
      refine List.lookup_eq_none_iff.mpr fun known hknown ↦ bne_iff_ne.mpr fun h ↦ hname ?_
      exact h ▸ List.mem_map_of_mem hknown
    simp only [knownFields, List.map_cons, List.map_nil, List.mem_cons, List.not_mem_nil, or_false,
      not_or] at hname
    obtain ⟨h1, h2, h3, h4, h5, h6, h7, h8, h9, h10, h11, h12⟩ := hname
    simp only [setField, Offends, hlookup, h1, h2, h3, h4, h5, h6, h7, h8, h9, h10, h11, h12,
      if_false, throw_eq_error]

theorem foldlM_setField_eq_error (lib : Externals) (fields : List Field) (e : StdException) :
    fields.foldlM (setField lib) {} = .error e ↔ FirstOffense lib fields e := by
  rw [foldlM_eq_error]
  constructor
  · intro h
    obtain ⟨before, field, after, config, hfields, hbefore, hfield⟩ := h
    exact ⟨before, field, after, hfields, ((foldlM_setField lib before config).mp hbefore).1,
      (setField_eq_error lib config field e).mp hfield⟩
  · intro h
    obtain ⟨before, field, after, hfields, hbefore, hfield⟩ := h
    exact ⟨before, field, after, meaning before, hfields,
      (foldlM_setField lib before _).mpr ⟨hbefore, rfl⟩,
      (setField_eq_error lib _ field e).mpr hfield⟩

theorem requireNonEmpty_eq_error {lib : Externals} {name value : String} {e : StdException} :
    requireNonEmpty lib name value = .error e ↔ value = "" ∧ e = emptyField lib name := by
  unfold requireNonEmpty
  split
  · next hvalue => simp only [hvalue, true_and, throw_eq_error]
  · next hvalue => simp only [hvalue, false_and, pure_ne_error]

theorem validate_meaning_eq_error (lib : Externals) (fields : List Field) (e : StdException) :
    validate lib (meaning fields) = .error e ↔ ∃ name, firstMissing fields = some name ∧
      e = emptyField lib name := by
  simp only [validate, bind_eq_error, requireNonEmpty_eq_ok, requireNonEmpty_eq_error, meaning,
    ne_eq, replaceSlashes_eq_empty, firstMissing, requiredFields, List.find?_cons]
  by_cases h1 : lastString "process_directory" fields = ""
  · simp [h1]
  by_cases h2 : lastString "process_executable" fields = ""
  · simp [h1, h2]
  by_cases h3 : lastString "mapped_directory" fields = ""
  · simp [h1, h2, h3]
  by_cases h4 : lastString "stdout_filename" fields = ""
  · simp [h1, h2, h3, h4]
  by_cases h5 : lastString "parent_layer_directory" fields = ""
  · simp [h1, h2, h3, h4, h5]
  · simp [h1, h2, h3, h4, h5]

/-- The constructor rejects an object for its first offending field, and if there is none, for the
first required string that is missing or empty. -/
theorem rejects_first_offense (lib : Externals) (fields : List Field) (e : StdException) :
    ofJson lib (.object fields) = .error e ↔ FirstOffense lib fields e ∨
      (∀ field ∈ fields, WellFormed field) ∧ ∃ name, firstMissing fields = some name ∧
        e = ⟨lib.traceMsg (.requiredField name)
          ("Invalid 'config.json' specified, '" ++ name ++ "' must be non-empty")⟩ := by
  simp only [ofJson, lib.json.asObject_object, bind_eq_error, reduceCtorEq, false_or,
    Except.ok.injEq, exists_eq_left', pure_ne_error, and_false, exists_false, or_false,
    foldlM_setField_eq_error, foldlM_setField]
  apply or_congr Iff.rfl
  constructor
  · intro h
    obtain ⟨config, ⟨hfields, rfl⟩, hvalidate⟩ := h
    exact ⟨hfields, (validate_meaning_eq_error lib fields e).mp hvalidate⟩
  · intro h
    exact ⟨meaning fields, ⟨h.1, rfl⟩, (validate_meaning_eq_error lib fields e).mpr h.2⟩

/-! ## The order of the fields -/

/-- The same fields of every name, in the same order. -/
def SameByName (fields fields' : List Field) : Prop :=
  ∀ name, (fields.filter fun field ↦ field.1 = name) = fields'.filter fun field ↦ field.1 = name

theorem SameByName.symm {fields fields' : List Field} (h : SameByName fields fields') :
    SameByName fields' fields := fun name ↦ (h name).symm

theorem SameByName.subset {fields fields' : List Field} (h : SameByName fields fields') :
    fields ⊆ fields' := by
  intro field hfield
  have hmem : field ∈ fields.filter fun other ↦ other.1 = field.1 :=
    List.mem_filter.mpr ⟨hfield, by simp⟩
  rw [h field.1] at hmem
  exact (List.mem_filter.mp hmem).1

theorem SameByName.meaning_eq {fields fields' : List Field} (h : SameByName fields fields') :
    meaning fields = meaning fields' := by
  have hlast : ∀ name, lastOccurrence name fields = lastOccurrence name fields' := by
    intro name
    unfold lastOccurrence
    rw [h name]
  have harguments : allArguments fields = allArguments fields' := by
    unfold allArguments
    rw [h "process_arguments"]
  simp only [meaning, lastString, lastInteger, hlast, harguments]

/-- Neighbours of different names change places. -/
theorem sameByName_swap (before after : List Field) {field field' : Field}
    (hname : field.1 ≠ field'.1) :
    SameByName (before ++ field :: field' :: after) (before ++ field' :: field :: after) := by
  intro name
  rw [List.filter_append, List.filter_append]
  apply congrArg
  by_cases hfield : field.1 = name
  · have hfield' : ¬ field'.1 = name := fun h ↦ hname (hfield.trans h.symm)
    simp [hfield, hfield']
  · by_cases hfield' : field'.1 = name <;> simp [hfield, hfield']

/-- Fields of different names may change places: the constructor returns the same configuration,
or none. -/
theorem field_order_irrelevant (lib : Externals) {fields fields' : List Field}
    (h : SameByName fields fields') (config : NspawnConfig) :
    ofJson lib (.object fields) = .ok config ↔ ofJson lib (.object fields') = .ok config := by
  have hone : ∀ {fields fields' : List Field}, SameByName fields fields' →
      ofJson lib (.object fields) = .ok config →
        ofJson lib (.object fields') = .ok config := by
    intro fields fields' h hconfig
    obtain ⟨_, hobject, hfields, hcomplete, rfl⟩ := (ofJson_eq_ok lib _ _).mp hconfig
    obtain rfl := Json.object.inj hobject
    refine (ofJson_eq_ok lib _ _).mpr ⟨fields', rfl, fun field hfield ↦ ?_, ?_, h.meaning_eq⟩
    · exact hfields field (h.symm.subset hfield)
    · rw [← validate_meaning lib, ← h.meaning_eq, validate_meaning]
      exact hcomplete
  exact ⟨hone h, hone h.symm⟩

theorem field_order_irrelevant_swapped : ∃ config, ofJson .ascii (.object
    [("process_executable", .string "app.exe"), ("process_directory", .string "C:/app"),
      ("mapped_directory", .string "C:/host"), ("stdout_filename", .string "out.txt"),
      ("parent_layer_directory", .string "C:/layers/base")]) = .ok config :=
  ⟨_, (field_order_irrelevant .ascii (sameByName_swap [] _ (by decide)) _).mp rfl⟩

end NspawnConfig

end HostcomputeNspawn
