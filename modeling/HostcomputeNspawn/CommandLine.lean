import HostcomputeNspawn.ContainerConfig
import HostcomputeNspawn.Text.Hexadecimal
import HostcomputeNspawn.Text.Words

/-!
# The command line of the process

The command line is a fixed launcher with the affinity mask, then the executable, its arguments and
the redirection of its output, joined with single spaces and without any quotes.  A reader that
splits the line into words again gets the executable and the arguments back if and only if they
were plain words to begin with and the file name of the redirection is one word.
-/

namespace HostcomputeNspawn

namespace CommandLine

/-- What the command line starts with, up to the affinity mask. -/
def launcher : String := "C:\\Windows\\System32\\cmd.exe /c start /b /wait /affinity 0x"

/-- The executable as the container sees it. -/
def executablePath (config : NspawnConfig) : String :=
  config.mappedDirectory ++ "\\" ++ config.processExecutable

/-- The arguments, with a space in front of each. -/
def argumentsText (arguments : List String) : List Char :=
  arguments.flatMap fun ar ↦ ' ' :: ar.toList

/-- The part of the command line made of the executable without its directory, the arguments and
the redirection. -/
def invocation (config : NspawnConfig) : List Char :=
  config.processExecutable.toList ++ argumentsText config.processArguments ++ " >> ".toList ++
    config.stdoutFilename.toList ++ " 2>&1".toList

/-! ## Reading a command line -/

/-- The line behind the affinity mask and its space. -/
def afterAffinity (line : String) : List Char :=
  ((line.toList.drop launcher.length).dropWhile (· ≠ ' ')).drop 1

/-- The words in front of a redirection to some file. -/
def dropRedirection (words : List (List Char)) : Option (List (List Char)) :=
  match words.reverse with
  | last :: _ :: first :: rest =>
    if first = ">>".toList ∧ last = "2>&1".toList then some rest.reverse else none
  | _ => none

/-- The command that a command line runs behind its launcher, word by word. -/
def readBack (line : String) : Option (List String) :=
  (dropRedirection (Words.words ' ' '"' (afterAffinity line))).map (·.map String.ofList)

/-- The command line tells the executable and the arguments. -/
def ReadsBack (config : NspawnConfig) : Prop :=
  ∃ line, (ProcessConfig.toJson ⟨config⟩).field? "CommandLine" = some (.string line) ∧
    readBack line = some (executablePath config :: config.processArguments)

/-- The configuration has nothing that would have to be quoted, or it has been quoted. -/
structure Readable (config : NspawnConfig) : Prop where
  executable : Words.Plain ' ' '"' (executablePath config).toList
  arguments : ∀ ar ∈ config.processArguments, Words.Plain ' ' '"' ar.toList
  stdout : Words.oneWord ' ' '"' false config.stdoutFilename.toList = true

theorem toList_foldl_arguments (arguments : List String) (start : String) :
    (arguments.foldl (fun cline ar ↦ cline ++ " " ++ ar) start).toList =
      start.toList ++ argumentsText arguments := by
  induction arguments generalizing start with
  | nil => simp [argumentsText]
  | cons ar arguments ih =>
    rw [List.foldl_cons, ih]
    simp [argumentsText]

/-- The parts of the command line. -/
theorem toList_commandLine (config : NspawnConfig) :
    (ProcessConfig.commandLine ⟨config⟩).toList =
      launcher.toList ++ config.cpuAffinityHexStr.toList ++
        ' ' :: (config.mappedDirectory.toList ++ '\\' :: invocation config) := by
  simp [ProcessConfig.commandLine, toList_foldl_arguments, invocation, launcher]

theorem space_notMem_cpuAffinityHexStr (config : NspawnConfig) :
    ' ' ∉ config.cpuAffinityHexStr.toList := by
  rw [NspawnConfig.cpuAffinityHexStr, String.toList_ofList]
  exact Hexadecimal.IsDigit.notMem Hexadecimal.isDigit_of_mem_toDigits rfl

theorem afterAffinity_commandLine (config : NspawnConfig) :
    afterAffinity (ProcessConfig.commandLine ⟨config⟩) =
      config.mappedDirectory.toList ++ '\\' :: invocation config := by
  have hhex : ∀ c ∈ config.cpuAffinityHexStr.toList, decide (c ≠ ' ') = true := fun c hc ↦
    decide_eq_true fun h ↦ space_notMem_cpuAffinityHexStr config (h ▸ hc)
  have hlauncher : launcher.toList.length = launcher.length := String.length_toList
  let rest := config.mappedDirectory.toList ++ '\\' :: invocation config
  calc afterAffinity (ProcessConfig.commandLine ⟨config⟩)
    _ = ((config.cpuAffinityHexStr.toList ++ ' ' :: rest).dropWhile (· ≠ ' ')).drop 1 := by
      rw [afterAffinity, toList_commandLine, List.append_assoc, List.drop_left' hlauncher]
    _ = ((' ' :: rest).dropWhile (· ≠ ' ')).drop 1 := by rw [List.dropWhile_append_of_pos hhex]
    _ = rest := by simp

/-! ## What is read back -/

theorem dropRedirection_eq_some {words front : List (List Char)} :
    dropRedirection words = some front ↔
      ∃ file, words = front ++ [">>".toList, file, "2>&1".toList] := by
  constructor
  · intro hdrop
    rw [dropRedirection] at hdrop
    split at hdrop
    · next last file first rest hwords =>
      rw [Option.ite_none_right_eq_some, Option.some.injEq] at hdrop
      obtain ⟨⟨rfl, rfl⟩, rfl⟩ := hdrop
      refine ⟨file, ?_⟩
      rw [← List.reverse_reverse words, hwords]
      simp
    · exact nomatch hdrop
  · rintro ⟨file, rfl⟩
    simp [dropRedirection]

/-- The words that the command line is made of, up to the file of the redirection. -/
def pieces (config : NspawnConfig) : List (List Char) :=
  (executablePath config :: config.processArguments).map String.toList ++ [">>".toList]

theorem argumentsText_append_space (arguments : List String) (back : List Char) :
    argumentsText arguments ++ ' ' :: back =
      ' ' :: Words.terminated ' ' (arguments.map String.toList) ++ back := by
  induction arguments with
  | nil => rfl
  | cons ar arguments ih =>
    calc argumentsText (ar :: arguments) ++ ' ' :: back
      _ = ' ' :: ar.toList ++ (argumentsText arguments ++ ' ' :: back) := by simp [argumentsText]
      _ = ' ' :: ar.toList ++
          (' ' :: Words.terminated ' ' (arguments.map String.toList) ++ back) := by rw [ih]
      _ = ' ' :: Words.terminated ' ' ((ar :: arguments).map String.toList) ++ back := by
        simp [Words.terminated]

theorem afterAffinity_eq_pieces (config : NspawnConfig) :
    afterAffinity (ProcessConfig.commandLine ⟨config⟩) = Words.terminated ' ' (pieces config) ++
      (config.stdoutFilename.toList ++ ' ' :: "2>&1".toList) := by
  have harguments := argumentsText_append_space config.processArguments
    ('>' :: '>' :: ' ' :: (config.stdoutFilename.toList ++ ' ' :: "2>&1".toList))
  rw [afterAffinity_commandLine]
  simpa [invocation, executablePath, pieces, Words.terminated] using harguments

theorem map_ofList_eq_iff {words : List (List Char)} {texts : List String} :
    words.map String.ofList = texts ↔ words = texts.map String.toList := by
  constructor
  · rintro rfl
    simp [Function.comp_def]
  · rintro rfl
    simp [Function.comp_def]

theorem readBack_eq_some {line : String} {texts : List String} :
    readBack line = some texts ↔
      dropRedirection (Words.words ' ' '"' (afterAffinity line)) =
        some (texts.map String.toList) := by
  simp [readBack, Option.map_eq_some_iff, map_ofList_eq_iff]

theorem plain_pieces {config : NspawnConfig} :
    (∀ piece ∈ pieces config, Words.Plain ' ' '"' piece) ↔
      Words.Plain ' ' '"' (executablePath config).toList ∧
        ∀ ar ∈ config.processArguments, Words.Plain ' ' '"' ar.toList := by
  have hredirect : Words.Plain ' ' '"' ">>".toList := by decide
  simp only [pieces, List.forall_mem_append, List.forall_mem_map, List.forall_mem_cons, hredirect,
    List.not_mem_nil, false_imp_iff, implies_true, and_true]

theorem field_commandLine (config : NspawnConfig) :
    (ProcessConfig.toJson ⟨config⟩).field? "CommandLine" =
      some (.string (ProcessConfig.commandLine ⟨config⟩)) := rfl

theorem readsBack_iff (config : NspawnConfig) : ReadsBack config ↔ Readable config := by
  have hstdout : (∃ file, Words.words ' ' '"' (config.stdoutFilename.toList ++
      ' ' :: "2>&1".toList) = [file, "2>&1".toList]) ↔
      Words.oneWord ' ' '"' false config.stdoutFilename.toList = true :=
    Words.scan_append_eq_pair (by decide) (by decide)
  calc ReadsBack config
    _ ↔ readBack (ProcessConfig.commandLine ⟨config⟩) =
        some (executablePath config :: config.processArguments) := by
      simp only [ReadsBack, field_commandLine, Option.some.injEq, Json.string.injEq,
        exists_eq_left']
    _ ↔ ∃ file, Words.words ' ' '"' (Words.terminated ' ' (pieces config) ++
          (config.stdoutFilename.toList ++ ' ' :: "2>&1".toList)) =
        pieces config ++ [file, "2>&1".toList] := by
      rw [readBack_eq_some, dropRedirection_eq_some, afterAffinity_eq_pieces]
      simp only [pieces, List.append_assoc, List.cons_append, List.nil_append]
    _ ↔ (∀ piece ∈ pieces config, Words.Plain ' ' '"' piece) ∧
        ∃ file, Words.words ' ' '"' (config.stdoutFilename.toList ++ ' ' :: "2>&1".toList) =
          [file, "2>&1".toList] := by
      have hne : ' ' ≠ '"' := by decide
      simp only [Words.words_terminated_append hne, exists_and_left]
    _ ↔ Readable config := by
      rw [plain_pieces, hstdout]
      constructor
      · intro h
        exact ⟨h.1.1, h.1.2, h.2⟩
      · intro h
        exact ⟨⟨h.executable, h.arguments⟩, h.stdout⟩

/-- The executable and the arguments are read back from the command line if and only if nothing in
them would have to be quoted and the redirection is to one word.  Such configurations have the same
command line only if they have the same executable and the same arguments. -/
theorem arguments_read_back_iff_readable (config : NspawnConfig) :
    (ReadsBack config ↔ Readable config) ∧
    ∀ config', Readable config → Readable config' →
      ProcessConfig.commandLine ⟨config⟩ = ProcessConfig.commandLine ⟨config'⟩ →
        executablePath config = executablePath config' ∧
          config.processArguments = config'.processArguments := by
  refine ⟨readsBack_iff config, fun config' hconfig hconfig' hline ↦ ?_⟩
  obtain ⟨line, hfield, hread⟩ := (readsBack_iff config).mpr hconfig
  obtain ⟨line', hfield', hread'⟩ := (readsBack_iff config').mpr hconfig'
  cases hfield
  cases hfield'
  rw [hline, hread'] at hread
  have hwords := List.cons.inj (Option.some.inj hread)
  exact ⟨hwords.1.symm, hwords.2.symm⟩

/-- A configuration with the given arguments, as JSON. -/
def jsonWithArguments (arguments : List Json) : Json := .object [
  ("process_directory", .string "C:/app"), ("process_executable", .string "app.exe"),
  ("process_arguments", .array arguments), ("mapped_directory", .string "C:/host"),
  ("stdout_filename", .string "out.txt"), ("parent_layer_directory", .string "C:/layers/base")]

theorem arguments_read_back_plain : ∃ config config',
    NspawnConfig.ofJson .ascii (jsonWithArguments [.string "foo", .string "bar"]) = .ok config ∧
    NspawnConfig.ofJson .ascii (jsonWithArguments [.string "foobar"]) = .ok config' ∧
    ReadsBack config ∧
    ProcessConfig.commandLine ⟨config⟩ ≠ ProcessConfig.commandLine ⟨config'⟩ := by
  refine ⟨_, _, rfl, rfl,
    (arguments_read_back_iff_readable _).1.mpr ⟨by decide, by decide, by decide⟩, fun hline ↦ ?_⟩
  have hwords := (arguments_read_back_iff_readable _).2 _ ⟨by decide, by decide, by decide⟩
    ⟨by decide, by decide, by decide⟩ hline
  exact absurd hwords.2 (by decide)

/-- An argument with a space in it becomes two. -/
theorem not_arguments_read_back : ∃ config config',
    NspawnConfig.ofJson .ascii (jsonWithArguments [.string "a b"]) = .ok config ∧
    NspawnConfig.ofJson .ascii (jsonWithArguments [.string "a", .string "b"]) = .ok config' ∧
    { config' with processArguments := config.processArguments } = config ∧
    config.processArguments ≠ config'.processArguments ∧
    (ProcessConfig.toJson ⟨config⟩).field? "CommandLine" =
      (ProcessConfig.toJson ⟨config'⟩).field? "CommandLine" ∧ ¬ ReadsBack config := by
  refine ⟨_, _, rfl, rfl, rfl, by decide, rfl, fun h ↦ ?_⟩
  have harguments := ((readsBack_iff _).mp h).arguments
  exact absurd harguments (by decide)

end CommandLine

end HostcomputeNspawn
