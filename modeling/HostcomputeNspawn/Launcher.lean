import HostcomputeNspawn.Semantics.Handler
import HostcomputeNspawn.Spawn.Complaints
import HostcomputeNspawn.Spawn.Outcome

/-!
# The launcher

`main.cpp`: the options, the configuration file and the call of the library.  The option parser is
popt; what it makes of the arguments of the process is a parameter.

An exit status is described together with everything that the launcher has done before it.  The
operations of the library happen in between, so that what is known of `hostcompute_nspawn` is known
of the process.
-/

namespace HostcomputeNspawn

open Interaction

namespace Launcher

/-- What popt makes of the arguments: what `poptGetNextOpt` returns from call to call, the option
that it complains about, the arguments that are left, and the targets of the option table. -/
structure PoptContext where
  values : List Int32
  ends : ∃ val ∈ values, val < 0
  badOption : String
  args : List String
  directoryOpt : Option String
  configOpt : Option String
  helpOpt : Int32

/-- The value that ends the loop over the options. -/
def PoptContext.lastValue (ctx : PoptContext) : Int32 :=
  (ctx.values.find? fun val ↦ val < 0).get (by simpa using ctx.ends)

/-- `help` has no value until it is set. -/
structure Options where
  parseError : String
  args : List String
  directory : String
  config : String
  help : Option Bool

/-- The constructor of `Options`. -/
def Options.make (poptStrerror : Int32 → String) : Option PoptContext → Options
  | none => ⟨"'poptGetContext' error", [], "", "", none⟩
  | some ctx =>
    let val := ctx.lastValue
    if val < -1 then
      ⟨poptStrerror val ++ ": " ++ ctx.badOption, [], "", "", none⟩
    else
      { parseError := if ctx.args.length > 0 then
          ctx.args.foldl (fun text st ↦ text ++ " " ++ st) "invalid arguments specified:" else ""
        args := ctx.args
        directory := ctx.directoryOpt.getD ""
        config := ctx.configOpt.getD ""
        help := some (ctx.helpOpt != 0) }

/-- The options have been read, no arguments are left, and no help is asked for. -/
def PoptContext.Accepted (ctx : PoptContext) : Prop :=
  ctx.lastValue = -1 ∧ ctx.args = [] ∧ ctx.helpOpt = 0

theorem PoptContext.lastValue_neg (ctx : PoptContext) : ctx.lastValue < 0 := by
  have hfound := List.find?_some (Option.some_get (x := ctx.values.find? fun val ↦ val < 0)
    (by simpa using ctx.ends)).symm
  exact of_decide_eq_true hfound

theorem foldl_ne_empty (args : List String) {text : String} (htext : text ≠ "") :
    args.foldl (fun text st ↦ text ++ " " ++ st) text ≠ "" := by
  induction args generalizing text with
  | nil => exact htext
  | cons st args ih =>
    apply ih
    simp

/-- The parse error is empty only if the options are accepted; their fields have been set then. -/
theorem accepted_of_make {poptStrerror : Int32 → String} {ctx : Option PoptContext}
    (hparse : (Options.make poptStrerror ctx).parseError = "")
    (hhelp : (Options.make poptStrerror ctx).help ≠ some true) :
    ∃ accepted, ctx = some accepted ∧ accepted.Accepted := by
  cases ctx with
  | none => simp [Options.make] at hparse
  | some ctx =>
    refine ⟨ctx, rfl, ?_⟩
    unfold Options.make at hparse hhelp
    dsimp only at hparse hhelp
    split at hparse
    · simp at hparse
    next hval =>
    rw [if_neg hval] at hhelp
    refine ⟨?_, ?_, by simpa using hhelp⟩
    · have hlower := Int32.lt_iff_toInt_lt.not.mp hval
      have hupper := Int32.lt_iff_toInt_lt.mp ctx.lastValue_neg
      have hminus : (-1 : Int32).toInt = -1 := rfl
      have hzero : (0 : Int32).toInt = 0 := rfl
      apply Int32.toInt_inj.mp
      omega
    · by_contra hargs
      dsimp only at hparse
      rw [if_pos (List.length_pos_iff.mpr hargs)] at hparse
      exact foldl_ne_empty _ (by simp) hparse

/-- The operations of the launcher, and those of the library. -/
inductive LauncherOp
  | nspawn (op : Op)
  | currentExecutablePath
  | readFile (path : String)
  | cerr (line : String)
  | cout (line : String)
  | poptPrintUsage
  | poptPrintHelp
  | hostcomputeNspawnFree (errMessage : String)

@[reducible]
def LauncherOp.Reply : LauncherOp → Type
  | nspawn op => op.Reply
  | currentExecutablePath => Except StdException String
  | readFile _ => Except StdException (List UInt8)
  | _ => Unit

abbrev LauncherEvent := Event LauncherOp LauncherOp.Reply

abbrev LauncherProg := Program LauncherOp LauncherOp.Reply

abbrev LauncherFallible := Fallible LauncherOp LauncherOp.Reply StdException

/-- The operations of the library are operations of the process. -/
def library : Handler Op Op.Reply LauncherOp LauncherOp.Reply Unit := fun op s ↦ do
  let reply ← Program.perform (.nspawn op)
  return (reply, s)

def cerr (line : String) : LauncherProg Unit := Program.perform (LauncherOp.cerr line)

def cout (line : String) : LauncherProg Unit := Program.perform (LauncherOp.cout line)

section

variable (lib : Externals)

def defaultConfigPath : LauncherFallible String := do
  let exepath ← ExceptT.mk (Program.perform LauncherOp.currentExecutablePath)
  let dirpath := lib.stripFilename exepath
  return dirpath ++ "config.json"

def readConfig (configPath : String) : LauncherFallible (List UInt8) :=
  ExceptT.mk (Program.perform (LauncherOp.readFile configPath))

/-- The part of `main` inside its `try`. -/
def readOptions (opts : Options) : LauncherFallible (List UInt8) := do
  let path ← if opts.config ≠ "" then pure opts.config else defaultConfigPath lib
  readConfig path

/-- The part of `main` behind its `try`. -/
def callLibrary (conf : List UInt8) : LauncherProg Int32 := do
  let result ← (hostcomputeNspawn lib (some conf) (.ofNat conf.length)).handle library ()
  match result.1 with
  | some err => do
    cerr ("ERROR: " ++ err)
    Program.perform (LauncherOp.hostcomputeNspawnFree err)
    return 1
  | none => return 0

/-- `main` behind the constructor of the options. -/
def runOptions (opts : Options) : LauncherProg Int32 := do
  if opts.parseError ≠ "" then
    cerr ("ERROR: " ++ opts.parseError)
    Program.perform LauncherOp.poptPrintUsage
    return 1
  else if opts.help = some true then
    cout "hostcompute_nspawn v1.3"
    Program.perform LauncherOp.poptPrintHelp
    return 0
  else
    match ← (readOptions lib opts).run with
    | .error e =>
      cerr ("ERROR: " ++ lib.traceMsg .configReadError (e.what ++ "\n Config read error"))
      return 1
    | .ok conf => callLibrary lib conf

/-- `main`; the result is the exit status. -/
def main (poptStrerror : Int32 → String) (ctx : Option PoptContext) : LauncherProg Int32 :=
  runOptions lib (.make poptStrerror ctx)

end

/-! ## What an exit status says -/

section Runs

variable (lib : Externals) (opts : Options)

/-- An event of the library, as one of the process. -/
def ofLibrary (event : MainEvent) : LauncherEvent := ⟨.nspawn event.1, event.2⟩

/-- The configuration has been read, or not. -/
def Reads (past : List LauncherEvent) (result : Except StdException (List UInt8)) : Prop :=
  (readOptions lib opts).run.Leads past (.ret result)

/-- The library has been called with the text of the configuration. -/
def Calls (conf : List UInt8) (events : List MainEvent) (p : Prog (Option String)) : Prop :=
  (hostcomputeNspawn lib (some conf) (.ofNat conf.length)).Leads events p

/-- A run up to its exit status. -/
inductive Exits : List LauncherEvent → Int32 → Prop
  | rejected (hparse : opts.parseError ≠ "") :
      Exits [⟨.cerr ("ERROR: " ++ opts.parseError), ()⟩, ⟨.poptPrintUsage, ()⟩] 1
  | helped (hparse : opts.parseError = "") (hhelp : opts.help = some true) :
      Exits [⟨.cout "hostcompute_nspawn v1.3", ()⟩, ⟨.poptPrintHelp, ()⟩] 0
  | unread {reads : List LauncherEvent} {e : StdException} (hparse : opts.parseError = "")
      (hhelp : opts.help ≠ some true) (hreads : Reads lib opts reads (.error e)) :
      Exits (reads ++ [⟨.cerr ("ERROR: " ++ lib.traceMsg .configReadError
        (e.what ++ "\n Config read error")), ()⟩]) 1
  | failed {reads : List LauncherEvent} {conf : List UInt8} {events : List MainEvent}
      {err : String} (hparse : opts.parseError = "") (hhelp : opts.help ≠ some true)
      (hreads : Reads lib opts reads (.ok conf))
      (hcalls : Calls lib conf events (.ret (some err))) :
      Exits (reads ++ events.map ofLibrary ++
        [⟨.cerr ("ERROR: " ++ err), ()⟩, ⟨.hostcomputeNspawnFree err, ()⟩]) 1
  | returned {reads : List LauncherEvent} {conf : List UInt8} {events : List MainEvent}
      (hparse : opts.parseError = "") (hhelp : opts.help ≠ some true)
      (hreads : Reads lib opts reads (.ok conf)) (hcalls : Calls lib conf events (.ret none)) :
      Exits (reads ++ events.map ofLibrary) 0

/-- The library goes on with what it is doing with the configuration. -/
def launcherPre (past : List LauncherEvent) : LauncherOp → Prop
  | .nspawn op => ∃ reads conf events next, Reads lib opts reads (.ok conf) ∧
    past = reads ++ events.map ofLibrary ∧ Calls lib conf events (.call op next)
  | _ => True

end Runs

variable {lib : Externals} {opts : Options}

/-- The operations that find and read the configuration. -/
def LauncherOp.Reading : LauncherOp → Prop
  | .currentExecutablePath | .readFile _ => True
  | _ => False

theorem only_readOptions : (readOptions lib opts).run.Only LauncherOp.Reading := by
  have hread : ∀ path, (readConfig path).run.Only LauncherOp.Reading :=
    fun _ ↦ ⟨trivial, fun _ ↦ trivial⟩
  have hdefault : (defaultConfigPath lib).run.Only LauncherOp.Reading := by
    apply Fallible.only_run_bind
    · exact ⟨trivial, fun _ ↦ trivial⟩
    · exact fun _ ↦ trivial
  unfold readOptions
  split
  · exact hread opts.config
  · exact Fallible.only_run_bind hdefault hread

theorem readOptions_reads (lib : Externals) (opts : Options) :
    (readOptions lib opts).run.wp (fun _ _ ↦ True) (launcherPre lib opts) [] (Reads lib opts) := by
  apply only_readOptions.wp_leads .refl
  intro past op hop
  cases op with
  | nspawn op => exact hop.elim
  | _ => trivial

theorem callLibrary_exits {reads : List LauncherEvent} {conf : List UInt8}
    (hparse : opts.parseError = "") (hhelp : opts.help ≠ some true)
    (hreads : Reads lib opts reads (.ok conf)) :
    (callLibrary lib conf).wp (fun _ _ ↦ True) (launcherPre lib opts) reads (Exits lib opts) := by
  have hcalls : (hostcomputeNspawn lib (some conf) (.ofNat conf.length)).wp (fun _ _ ↦ True)
      (fun events op ↦ ∃ next, Calls lib conf events (.call op next)) []
      fun events result ↦ Calls lib conf events (.ret result) := Program.wp_leads .refl
  apply (Program.wp_bind _ _).mpr
  apply Program.wp_mono _ (Program.wp_handle
    (R := fun events low _ ↦ low = reads ++ events.map ofLibrary) _ hcalls (by simp))
  · intro low result hresult
    obtain ⟨events, rfl, hcalls⟩ := hresult
    cases hresult : result.1 with
    | some err =>
      rw [hresult] at hcalls
      refine ⟨trivial, fun _ _ ↦ ⟨trivial, fun _ _ ↦ ?_⟩⟩
      rw [List.append_assoc]
      exact .failed hparse hhelp hreads hcalls
    | none =>
      rw [hresult] at hcalls
      exact .returned hparse hhelp hreads hcalls
  · intro events low _ op hlow hnext
    obtain ⟨next, hnext⟩ := hnext
    refine ⟨⟨reads, conf, events, next, hreads, hlow, hnext⟩, fun reply _ ↦ ⟨trivial, ?_⟩⟩
    simp [hlow, ofLibrary]

/-- Every run of the launcher ends in one of five ways. -/
theorem runOptions_exits (lib : Externals) (opts : Options) :
    (runOptions lib opts).wp (fun _ _ ↦ True) (launcherPre lib opts) [] (Exits lib opts) := by
  unfold runOptions
  split
  · next hparse => exact ⟨trivial, fun _ _ ↦ ⟨trivial, fun _ _ ↦ .rejected hparse⟩⟩
  next hparse =>
  have hparse : opts.parseError = "" := not_not.mp hparse
  split
  · next hhelp => exact ⟨trivial, fun _ _ ↦ ⟨trivial, fun _ _ ↦ .helped hparse hhelp⟩⟩
  next hhelp =>
  apply (Program.wp_bind _ _).mpr
  apply Program.wp_mono _ (readOptions_reads lib opts)
  intro reads result hreads
  cases result with
  | error e => exact ⟨trivial, fun _ _ ↦ .unread hparse hhelp hreads⟩
  | ok conf => exact callLibrary_exits hparse hhelp hreads

/-- What the process has done in the library. -/
def LauncherEvent.library? : LauncherEvent → Option MainEvent
  | ⟨.nspawn op, reply⟩ => some ⟨op, reply⟩
  | _ => none

def libraryEvents (past : List LauncherEvent) : List MainEvent :=
  past.filterMap LauncherEvent.library?

theorem libraryEvents_append (past past' : List LauncherEvent) :
    libraryEvents (past ++ past') = libraryEvents past ++ libraryEvents past' :=
  List.filterMap_append

theorem libraryEvents_reading {reads : List LauncherEvent}
    (hreads : ∀ event ∈ reads, event.1.Reading) : libraryEvents reads = [] := by
  apply List.filterMap_eq_nil_iff.mpr
  intro event hevent
  have hreading := hreads event hevent
  unfold LauncherEvent.library?
  split
  · exact hreading.elim
  · rfl

theorem libraryEvents_map (events : List MainEvent) :
    libraryEvents (events.map ofLibrary) = events := by
  rw [libraryEvents, List.filterMap_map]
  exact List.filterMap_some

/-- What the events of a run say about the exit status, and what has been written.  The lines of
the launcher and those of the library are different operations of the process. -/
structure Reported (lib : Externals) (past : List LauncherEvent) (events : List MainEvent)
    (status : Int32) : Prop where
  binary : status = 0 ∨ status = 1
  success : status = 0 ↔ ⟨.poptPrintHelp, ()⟩ ∈ past ∨ Outcome.Succeeded events
  failure : status = 1 ↔ ∃ line, ⟨.cerr line, ()⟩ ∈ past
  explained : ∀ event ∈ events, Reporting.fails event = true →
    ∃ e : StdException, Reporting.Explains lib event e ∧
      [⟨.cerr ("ERROR: " ++ raised lib e), ()⟩, ⟨.hostcomputeNspawnFree (raised lib e), ()⟩] <:+
        past
  complained : Complaints.Complained lib events

/-- Neither reading the configuration nor the library writes a line of the launcher. -/
theorem Reported.append (reads rest : List LauncherEvent) (events : List MainEvent) {status : Int32}
    (h : Reported lib rest events status) (hreads : ∀ event ∈ reads, event.1.Reading)
    (hrest : libraryEvents rest = []) :
    Reported lib (reads ++ events.map ofLibrary ++ rest)
      (libraryEvents (reads ++ events.map ofLibrary ++ rest)) status := by
  have hevents : libraryEvents (reads ++ events.map ofLibrary ++ rest) = events := by
    rw [libraryEvents_append, libraryEvents_append, libraryEvents_reading hreads, libraryEvents_map,
      hrest, List.nil_append, List.append_nil]
  have hmem : ∀ (op : LauncherOp) (reply : op.Reply), ¬ op.Reading → (∀ op', op ≠ .nspawn op') →
      ((⟨op, reply⟩ : LauncherEvent) ∈ reads ++ events.map ofLibrary ++ rest ↔
        ⟨op, reply⟩ ∈ rest) := by
    intro op reply hreading hnspawn
    have hread : (⟨op, reply⟩ : LauncherEvent) ∉ reads := fun hmem ↦ hreading (hreads _ hmem)
    have hlibrary : (⟨op, reply⟩ : LauncherEvent) ∉ events.map ofLibrary := by
      intro hmem
      obtain ⟨event, -, hevent⟩ := List.mem_map.mp hmem
      cases hevent
      exact hnspawn _ rfl
    simp [hread, hlibrary]
  rw [hevents]
  exact {
    binary := h.binary
    success := by rw [hmem .poptPrintHelp () id nofun, h.success]
    failure := by
      rw [h.failure]
      exact exists_congr fun line ↦ (hmem (.cerr line) () id nofun).symm
    explained := fun event hevent hfails ↦ by
      obtain ⟨e, hexplains, hsuffix⟩ := h.explained event hevent hfails
      exact ⟨e, hexplains, hsuffix.trans (List.suffix_append _ _)⟩
    complained := h.complained }

theorem not_succeeded_nil : ¬ Outcome.Succeeded [] := by
  rintro ⟨_, _, _, _, hregistered⟩
  exact nomatch hregistered

/-- What the library tells by its result. -/
theorem reported_of_calls {conf : List UInt8} {events : List MainEvent} {result : Option String}
    (hcalls : Calls lib conf events (.ret result)) :
    Reporting.Answered lib events result ∧ Outcome.ReportedNull events result ∧
      Complaints.Complained lib events := by
  have hreports : (hostcomputeNspawn lib (some conf) (.ofNat conf.length)).wp (fun _ _ ↦ True)
      Reporting.attemptPre [] (Reporting.Answered lib) := Reporting.hostcomputeNspawn_reports _ _
  have houtcome : (hostcomputeNspawn lib (some conf) (.ofNat conf.length)).wp (fun _ _ ↦ True)
      Outcome.notifiedPre [] Outcome.ReportedNull := Outcome.hostcomputeNspawn_outcome _ _
  have hcomplained : (hostcomputeNspawn lib (some conf) (.ofNat conf.length)).wp (fun _ _ ↦ True)
      Complaints.anything [] fun events _ ↦ Complaints.Complained lib events :=
    Complaints.hostcomputeNspawn_complained _ _
  exact ⟨Program.wp_of_leads hcalls (fun _ _ ↦ trivial) hreports,
    Program.wp_of_leads hcalls (fun _ _ ↦ trivial) houtcome,
    Program.wp_of_leads hcalls (fun _ _ ↦ trivial) hcomplained⟩

theorem complained_nil : Complaints.Complained lib [] := ⟨fun _ _ ↦ rfl, fun _ ↦ rfl⟩

theorem reported_of_exits {past : List LauncherEvent} {status : Int32}
    (hexits : Exits lib opts past status) : Reported lib past (libraryEvents past) status := by
  cases hexits with
  | rejected hparse =>
    apply Reported.append [] _ [] _ nofun rfl
    constructor <;> simp [not_succeeded_nil, complained_nil]
  | helped hparse hhelp =>
    apply Reported.append [] _ [] _ nofun rfl
    constructor <;> simp [not_succeeded_nil, complained_nil]
  | @unread reads e hparse hhelp hreads =>
    rw [← List.append_nil reads]
    apply Reported.append reads _ [] _ (only_readOptions.leads hreads) rfl
    constructor <;> simp [not_succeeded_nil, complained_nil]
  | @failed reads conf events err hparse hhelp hreads hcalls =>
    apply Reported.append reads _ events _ (only_readOptions.leads hreads) rfl
    obtain ⟨hanswered, hunfinished, hcomplained⟩ := reported_of_calls hcalls
    have hfailed : ¬ Outcome.Succeeded events := by
      rintro ⟨_, process, _, _, hregistered⟩
      exact hunfinished process hregistered
    refine ⟨Or.inr rfl, by simp [hfailed], by simp, ?_, hcomplained⟩
    intro event hevent hfails
    obtain ⟨e, hexplains, rfl⟩ := hanswered event hevent hfails
    exact ⟨e, hexplains, List.suffix_refl _⟩
  | @returned reads conf events hparse hhelp hreads hcalls =>
    rw [← List.append_nil (reads ++ _)]
    apply Reported.append reads _ events _ (only_readOptions.leads hreads) rfl
    obtain ⟨hclean, hsucceeded, hcomplained⟩ := reported_of_calls hcalls
    refine ⟨Or.inl rfl, iff_of_true rfl (Or.inr hsucceeded), by simp, ?_, hcomplained⟩
    intro event hevent hfails
    exact absurd ((hclean event hevent).symm.trans hfails) Bool.false_ne_true

/-- Without acceptable options nothing is read and the library is not called. -/
theorem accepted_of_exits {poptStrerror : Int32 → String} {ctx : Option PoptContext}
    {past : List LauncherEvent} {status : Int32}
    (hexits : Exits lib (.make poptStrerror ctx) past status) {event : LauncherEvent}
    (hevent : event ∈ past) (hop : event.1.Reading ∨ ∃ op, event.1 = .nspawn op) :
    ∃ accepted, ctx = some accepted ∧ accepted.Accepted := by
  have hwritten : ∀ events : List LauncherEvent, event ∈ events →
      (∀ event ∈ events, ¬ event.1.Reading ∧ ∀ op, event.1 ≠ .nspawn op) → False := by
    intro events hmem hwrites
    rcases hop with hreading | ⟨op, hop⟩
    · exact (hwrites event hmem).1 hreading
    · exact (hwrites event hmem).2 op hop
  cases hexits with
  | rejected => exact (hwritten _ hevent (by simp [LauncherOp.Reading])).elim
  | helped => exact (hwritten _ hevent (by simp [LauncherOp.Reading])).elim
  | unread hparse hhelp | failed hparse hhelp | returned hparse hhelp =>
    exact accepted_of_make hparse hhelp

/-- The layer cannot be destroyed. -/
def stuckCode : ApiCall → UInt32
  | .destroyLayer .. => 5
  | call => World.successCode call

/-- A configuration in the default file, and a container that runs and leaves its layer behind. -/
def found : (op : LauncherOp) → op.Reply
  | .nspawn (.load (.text _)) => .ok World.someJson
  | .nspawn op => World.answers stuckCode op
  | .currentExecutablePath => .ok "c:/bin/nspawn.exe"
  | .readFile _ => .ok [123, 125]
  | .cerr _ | .cout _ | .poptPrintUsage | .poptPrintHelp | .hostcomputeNspawnFree _ => ()

/-- No arguments. -/
def noArguments : PoptContext where
  values := [-1]
  ends := ⟨-1, List.mem_singleton.mpr rfl, by decide⟩
  badOption := ""
  args := []
  directoryOpt := none
  configOpt := none
  helpOpt := 0

/-- The exit status tells what has happened: zero is for the help text or for a container whose
process was created and watched, one is for an error line of the launcher.  The failure of a call to
the container service that is no cleanup ends the run with the line that explains it, and with the
memory of its message freed; the library writes one line for each cleanup that fails, and the exit
status does not depend on them.  Nothing of this is begun unless popt has read all the arguments. -/
theorem exit_status_reports (lib : Externals) (poptStrerror : Int32 → String)
    (ctx : Option PoptContext) {past : List LauncherEvent} {status : Int32}
    (hrun : (main lib poptStrerror ctx).Leads past (.ret status)) :
    Reported lib past (libraryEvents past) status ∧
      ∀ event ∈ past, (event.1.Reading ∨ ∃ op, event.1 = .nspawn op) →
        ∃ accepted, ctx = some accepted ∧ accepted.Accepted := by
  have hexits := Program.wp_of_leads hrun (fun _ _ ↦ trivial) (runOptions_exits lib _)
  exact ⟨reported_of_exits hexits, fun event hevent ↦ accepted_of_exits hexits hevent⟩

/-- The launcher exits with zero although the library has written an error line. -/
theorem exit_status_reports_run : ∃ past,
    (main .ascii (fun _ ↦ "") (some noArguments)).Leads past (.ret 0) ∧
      Reported .ascii past (libraryEvents past) 0 ∧
      Complaints.lines (libraryEvents past) = ["ERROR: 'DestroyLayer' failed, name: [" ++
        "nspawn_20161224180000_00000000000000000000000000" ++ "]" ++
        " error: [" ++ "5" ++ "]"] := by
  have hrun : (main .ascii (fun _ ↦ "") (some noArguments)).Leads _ (.ret 0) :=
    Program.leads_follow _ (List.replicate 41 found)
  exact ⟨_, hrun, (exit_status_reports _ _ _ hrun).1, rfl⟩

/-! ## The text that is parsed -/

/-- The path of the option, or the file next to the executable. -/
def ConfigPath (lib : Externals) (opts : Options) (past : List LauncherEvent) (path : String) :
    Prop :=
  (opts.config ≠ "" ∧ path = opts.config) ∨
    (opts.config = "" ∧ ∃ exepath : String, ⟨.currentExecutablePath, .ok exepath⟩ ∈ past ∧
      path = lib.stripFilename exepath ++ "config.json")

/-- The configuration comes from its file. -/
def FromFile (lib : Externals) (opts : Options) (past : List LauncherEvent) :
    Except StdException (List UInt8) → Prop
  | .ok conf => ∃ path, ConfigPath lib opts past path ∧ ⟨.readFile path, .ok conf⟩ ∈ past
  | .error _ => True

theorem fromFile_of_reads {reads : List LauncherEvent} {result : Except StdException (List UInt8)}
    (hreads : Reads lib opts reads result) : FromFile lib opts reads result := by
  have hread : ∀ past path, ConfigPath lib opts past path →
      (readConfig path).run.wp (fun _ _ ↦ True) (fun _ _ ↦ True) past (FromFile lib opts) := by
    refine fun past path hpath ↦ ⟨trivial, fun result _ ↦ ?_⟩
    cases result with
    | error e => trivial
    | ok conf =>
      refine ⟨path, hpath.imp_right fun h ↦ h.imp_right fun h ↦ ?_, by simp⟩
      exact h.imp fun exepath h ↦ h.imp_left (List.mem_append_left _)
  have hwp : (readOptions lib opts).run.wp (fun _ _ ↦ True) (fun _ _ ↦ True) []
      (FromFile lib opts) := by
    unfold readOptions
    split
    · next h => exact hread [] _ (Or.inl ⟨h, rfl⟩)
    · next h =>
      apply (Fallible.wp_run_bind _ _).mpr
      refine ⟨trivial, fun reply _ ↦ ?_⟩
      cases reply with
      | error e => trivial
      | ok exepath =>
        apply hread
        exact Or.inr ⟨not_not.mp h, exepath, List.mem_singleton.mpr rfl, rfl⟩
  exact Program.wp_of_leads hreads (fun _ _ ↦ trivial) hwp

/-- A positive length is the length of the text up to the range of the parameter. -/
theorem toInt_ofNat_of_pos {n : ℕ} (h : 0 < Int32.ofNat n) :
    (Int32.ofNat n).toInt = (n % 2 ^ 32 : ℕ) ∧ 0 < n % 2 ^ 32 ∧ n % 2 ^ 32 < 2 ^ 31 := by
  have hlt := Int32.lt_iff_toInt_lt.mp h
  rw [Int32.toInt_zero, Int32.toInt_ofNat', Int.bmod_def] at hlt
  rw [Int32.toInt_ofNat', Int.bmod_def]
  have hsize : Int32.size = 2 ^ 32 := rfl
  rw [hsize] at hlt ⊢
  split at hlt <;> omega

/-- The library starts with the text, as long as its length says. -/
theorem load_of_calls {conf : List UInt8} {events : List MainEvent} {op : Op}
    {next : op.Reply → Prog (Option String)} (hcalls : Calls lib conf events (.call op next))
    (reply : op.Reply) : lib.isUint32Positive (.ofNat conf.length) = true ∧ ∃ first rest,
      events ++ [⟨op, reply⟩] = (⟨.load (.text (conf.take (Int32.ofNat conf.length).toInt.toNat)),
        first⟩ : MainEvent) :: rest := by
  unfold Calls hostcomputeNspawn at hcalls
  dsimp only at hcalls
  split at hcalls
  · -- the length is refused before anything is done
    have hwp : (Program.call op next).wp (fun _ _ ↦ True) (fun _ _ ↦ False) ([] ++ events)
        fun _ _ ↦ True := Program.wp_of_leads hcalls (fun _ _ ↦ trivial) trivial
    exact hwp.1.elim
  · next hlength =>
    refine ⟨not_not.mp hlength, ?_⟩
    rcases (hcalls.snoc reply).head with ⟨hempty, -⟩ | hhead
    · simp at hempty
    · exact hhead

/-- The library parses what was read from the configuration file up to the range of the length
parameter: the whole file if it is smaller than 2³² bytes, and otherwise a part of it. -/
theorem parses_file_prefix (lib : Externals)
    (hpositive : ∀ number, lib.isUint32Positive number = true → 0 < number)
    (poptStrerror : Int32 → String) (ctx : Option PoptContext) {past : List LauncherEvent}
    {p : LauncherProg Int32} (hrun : (main lib poptStrerror ctx).Leads past p) {i : ℕ} {op : Op}
    {reply : op.Reply} (hi : past[i]? = some ⟨.nspawn op, reply⟩) :
    ∃ conf : List UInt8, FromFile lib (.make poptStrerror ctx) (past.take i) (.ok conf) ∧
      (∃ first, (libraryEvents past).head? =
        some ⟨.load (.text (conf.take (conf.length % 2 ^ 32))), first⟩) ∧
      0 < conf.length % 2 ^ 32 ∧ conf.length % 2 ^ 32 < 2 ^ 31 ∧
      (conf.take (conf.length % 2 ^ 32) = conf ↔ conf.length < 2 ^ 32) := by
  have hpre := Program.pre_of_leads hrun (fun _ _ ↦ trivial) (runOptions_exits lib _) hi
  obtain ⟨reads, conf, events, next, hreads, hpast, hcalls⟩ := hpre
  rw [List.nil_append] at hpast
  obtain ⟨hlength, first, rest, hload⟩ := load_of_calls hcalls reply
  obtain ⟨htoInt, hpos, hlt⟩ := toInt_ofNat_of_pos (hpositive _ hlength)
  rw [htoInt, Int.toNat_natCast] at hload
  refine ⟨conf, ?_, ⟨first, ?_⟩, hpos, hlt, ?_⟩
  · obtain ⟨path, hpath, hmem⟩ := fromFile_of_reads hreads
    have hsubset : reads ⊆ past.take i := hpast ▸ List.subset_append_left _ _
    exact ⟨path, hpath.imp_right fun h ↦ h.imp_right fun h ↦ h.imp fun _ h ↦
      h.imp_left fun h ↦ hsubset h, hsubset hmem⟩
  · obtain ⟨hbound, hget⟩ := List.getElem?_eq_some_iff.mp hi
    have hsplit : past = reads ++ events.map ofLibrary ++ [⟨.nspawn op, reply⟩] ++
        past.drop (i + 1) := by
      rw [← hpast, ← hget, List.append_assoc, List.singleton_append,
        ← List.drop_eq_getElem_cons hbound, List.take_append_drop]
    have hevents : libraryEvents (reads ++ events.map ofLibrary ++ [⟨.nspawn op, reply⟩]) =
        events ++ [⟨op, reply⟩] := by
      rw [libraryEvents_append, libraryEvents_append, libraryEvents_map,
        libraryEvents_reading (only_readOptions.leads hreads)]
      rfl
    rw [hsplit, libraryEvents_append, hevents, hload]
    rfl
  · constructor
    · intro htake
      have hle := List.length_take_le (conf.length % 2 ^ 32) conf
      rw [htake] at hle
      omega
    · intro hlt
      apply List.take_of_length_le
      omega

theorem parses_file_prefix_run : ∃ (past : List LauncherEvent) (p : _) (conf : List UInt8)
    (first : _), (main .ascii (fun _ ↦ "") (some noArguments)).Leads past p ∧
    (libraryEvents past).head? =
      some ⟨.load (.text (conf.take (conf.length % 2 ^ 32))), first⟩ := by
  have hrun : (main .ascii (fun _ ↦ "") (some noArguments)).Leads _ _ :=
    Program.leads_follow _ (List.replicate 3 found)
  obtain ⟨conf, -, ⟨first, hfirst⟩, -⟩ :=
    parses_file_prefix .ascii (fun _ ↦ of_decide_eq_true) _ _ hrun (i := 2) rfl
  exact ⟨_, _, conf, first, hrun, hfirst⟩

end Launcher

end HostcomputeNspawn
