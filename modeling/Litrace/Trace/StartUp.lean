import Litrace.Bpf.Loading
import Litrace.Trace.ExitStatus

/-!
# Before the loop of `Run`

`Run` checks its configuration, starts the child or looks for the processes to attach to, loads
the programs, and starts the monitors.  In launch mode the child is stopped by its `exec` from
the beginning, and starting the monitors resumes it.  Each operation of the system may fail, and
what it says is given (`StartAnswers`).

The child is resumed only when the programs are attached and have it among their targets
(`Tracing`), so no call of a launched program comes too early to be seen.  If anything fails
before, the child stays as it is, and what was loaded is given back as far as `NewHandle` does
(`startTrace_cases`).

`Run` up to its loop is a program in the monad of `Litrace.Lib.Fallible`, so what holds at its
end and what at each of its failures is proved along its text.  The deferred functions of the
source run on the way out (`onError`), which is how the handle is closed when the monitors
cannot be started.
-/

namespace Litrace.Trace

open GoString (ascii)
open Bpf Fallible

/-! ## Data -/

namespace WaitStatus

/-- `Stopped`. -/
def stopped (ws : WaitStatus) : Bool := ws &&& 0xFF == 0x7F

/-- `StopSignal`. -/
def stopSignal (ws : WaitStatus) : Int64 :=
  if stopped ws then ((ws >>> 8) &&& 0xFF).toUInt64.toInt64 else -1

end WaitStatus

/-- `SIGTRAP`. -/
def sigtrap : Int64 := 5

/-- The child was stopped by its `exec`. -/
def StoppedAtExec (ws : WaitStatus) : Prop := ws.stopped = true ∧ ws.stopSignal = sigtrap

instance (ws : WaitStatus) : Decidable (StoppedAtExec ws) := inferInstanceAs (Decidable (_ ∧ _))

/-- What `Run` has done with the child; `under` is the handle there was when it was resumed. -/
inductive Child where
  | none
  | started (pid : Int64)
  | resumed (pid : Int64) (under : Option Handle)

/-- What there is before the loop. -/
structure StartUp where
  child : Child
  handle : Option Handle
  stderr : List Notice

/-- The errors before the loop. -/
inductive StartError where
  | noTraceOutput
  | config (err : ConfigError)
  | accessPID (pid : Int64) (cause : GoString)
  | startProgram (name cause : GoString)
  | waitForStop (cause : GoString)
  | unexpectedStatus (ws : WaitStatus)
  | handle (err : HandleError)
  | resumeChild (cause : GoString)

def ConfigError.message : ConfigError → GoString
  | .mixedTargets =>
      ascii "trace run config cannot mix attach PIDs with a launched program"
  | .noTarget => ascii "trace run config requires a program path or attach PID"

/-- The text of an error; `quote` is the verb `%q`. -/
def StartError.message (quote : GoString → GoString) : StartError → GoString
  | .noTraceOutput => ascii "trace output writer is required"
  | .config err => err.message
  | .accessPID pid cause =>
      ascii "failed to access pid " ++ Strconv.decimal pid.toInt ++ ascii ": " ++ cause
  | .startProgram name cause => ascii "failed to start " ++ name ++ ascii ": " ++ cause
  | .waitForStop cause => ascii "failed to wait for child stop: " ++ cause
  | .unexpectedStatus ws => ascii "unexpected wait status: " ++ Strconv.decimal ws.toNat
  | .handle err => err.message quote
  | .resumeChild cause => ascii "failed to resume child: " ++ cause

/-- What the system says; `none` is no error. -/
structure StartAnswers where
  kill : Int64 → KillAnswer
  killError : Int64 → GoString
  start : Except GoString Int64
  wait4 : Except GoString WaitStatus
  handle : Answers
  closing : Resource → Option GoString
  ptraceDetach : Option GoString

/-! ## The set-up -/

section

variable (answers : StartAnswers)

def validateAttachTargets (pids : List Int64) : Fallible StartError StartUp PUnit :=
  each (fun pid => require ((answers.kill pid).alive = true)
    (.accessPID pid (answers.killError pid))) pids

def startLaunchTrace (cfg : TargetConfig) : Fallible StartError StartUp Int64 :=
  match answers.start with
  | .error cause => throw (.startProgram cfg.programName cause)
  | .ok pid => do
      modify fun s => { s with child := .started pid }
      match answers.wait4 with
      | .error cause => throw (.waitForStop cause)
      | .ok ws =>
          require (StoppedAtExec ws) (.unexpectedStatus ws)
          return pid

/-- `prepareTargetMode`: the mode, its `rootTGID` and its `targetTGIDs`. -/
def prepareTargetMode (cfg : TargetConfig) :
    Fallible StartError StartUp (TargetMode × UInt32 × List UInt32) :=
  if 0 < cfg.attachPIDs.length then do
    validateAttachTargets answers cfg.attachPIDs
    return (⟨0, cfg.attachPIDs⟩, rootTracePID cfg.attachPIDs 0, traceTargetTGIDs cfg.attachPIDs 0)
  else do
    let pid ← startLaunchTrace answers cfg
    return (⟨pid, []⟩, rootTracePID [] pid, traceTargetTGIDs [] pid)

/-- What `Run` asks of the programs. -/
def TargetConfig.handleConfig (cfg : TargetConfig) : HandleConfig :=
  ⟨cfg.followForks, handleTraceSyscallIDs cfg.toConfig⟩

/-- `NewHandle`, for `Run`; `ids` is the order of its loop over the syscalls. -/
def openHandle (ids : List Int64) (targetTGIDs : List UInt32) (cfg : TargetConfig) :
    Fallible StartError StartUp PUnit :=
  match newHandle answers.handle answers.closing ids targetTGIDs cfg.handleConfig with
  | (.ok _, handle) => modify fun s => { s with handle := some handle }
  | (.error err, handle) => do
      modify fun s => { s with handle := some handle }
      throw (.handle err)

/-- The deferred `Close`. -/
def StartUp.close (s : StartUp) : StartUp :=
  { s with handle := s.handle.map fun handle => (handle.close answers.closing).1 }

/-- `startTargetModeMonitors`, up to the goroutines. -/
def startTargetModeMonitors (mode : TargetMode) : Fallible StartError StartUp PUnit :=
  if mode.isAttach then return ⟨⟩
  else do
    attempt answers.ptraceDetach .resumeChild
    modify fun s => { s with child := .resumed mode.launchPID s.handle }

/-- `Run` up to its loop. -/
def startTrace (hasTraceOutput : Bool) (ids : List Int64) (cfg : TargetConfig) :
    Fallible StartError StartUp TargetMode := do
  require (hasTraceOutput = true) .noTraceOutput
  attempt cfg.check .config
  let (mode, _, targetTGIDs) ← prepareTargetMode answers cfg
  openHandle answers ids targetTGIDs cfg
  onError (StartUp.close answers) do
    let notices := if mode.isAttach then mode.attachPIDs.map .attached else []
    modify fun s => { s with stderr := s.stderr ++ notices }
    startTargetModeMonitors answers mode
  return mode

end

/-- Before `Run` has done anything. -/
def StartUp.new : StartUp := ⟨.none, none, []⟩

/-! ## What is there before the loop -/

/-- The targets, as the programs know them. -/
def TargetMode.targetTGIDs (mode : TargetMode) : List UInt32 :=
  mode.targets.map fun pid => pid.toUInt64.toUInt32

/-- The targets are there: the processes that `kill` finds, or the child, stopped. -/
def StartAnswers.Found (answers : StartAnswers) (mode : TargetMode) : Prop :=
  if mode.isAttach then ∀ pid ∈ mode.attachPIDs, (answers.kill pid).alive = true
  else answers.start = .ok mode.launchPID ∧ ∃ ws, answers.wait4 = .ok ws ∧ StoppedAtExec ws

/-- Everything is ready for the loop: the programs run for the configuration and have the
targets, and the child was resumed under them. -/
structure Tracing (answers : StartAnswers) (cfg : TargetConfig) (mode : TargetMode) (s : StartUp) :
    Prop where
  configured : mode = cfg.mode mode.launchPID
  found : answers.Found mode
  handle : ∃ handle, s.handle = some handle ∧
    handle.Runs cfg.handleConfig mode.targetTGIDs ∧ ∀ r, r ∈ handle.held
  child : s.child = if mode.isAttach then .none else .resumed mode.launchPID s.handle
  stderr : s.stderr = (Recorder.start cfg.toRunConfig mode).stderr

/-- The error comes when there is a child. -/
def StartError.leavesChild (cfg : TargetConfig) : StartError → Prop
  | .waitForStop _ => True
  | .unexpectedStatus _ => True
  | .handle _ => cfg.attachPIDs = []
  | .resumeChild _ => True
  | _ => False

/-- The error comes between loading the programs and holding them. -/
def StartError.populates : StartError → Bool
  | .handle err => err.populates
  | _ => false

/-- What the system said, or what is wrong with the configuration. -/
def StartError.Cause (answers : StartAnswers) (hasTraceOutput : Bool) (ids : List Int64)
    (cfg : TargetConfig) : StartError → Prop
  | .noTraceOutput => hasTraceOutput = false
  | .config err => cfg.check = some err
  | .accessPID pid cause =>
      pid ∈ cfg.attachPIDs ∧ (answers.kill pid).alive = false ∧ answers.killError pid = cause
  | .startProgram name cause => cfg.programName = name ∧ answers.start = .error cause
  | .waitForStop cause => answers.wait4 = .error cause
  | .unexpectedStatus ws =>
      answers.wait4 = .ok ws ∧ ¬ StoppedAtExec ws
  | .handle err => ∃ targets, err.Cause answers.handle ids targets
  | .resumeChild cause => answers.ptraceDetach = some cause

/-- What is there when the loop is not reached: a child only if the error came behind its start,
and it was not resumed, and no more of the programs than `NewHandle` leaves behind. -/
structure LeftBehind (answers : StartAnswers) (hasTraceOutput : Bool) (ids : List Int64)
    (cfg : TargetConfig) (err : StartError) (s : StartUp) : Prop where
  cause : err.Cause answers hasTraceOutput ids cfg
  child : (s.child = .none ∧ ¬ err.leavesChild cfg) ∨
    ∃ pid, s.child = .started pid ∧ answers.start = .ok pid ∧ err.leavesChild cfg
  handle : ∀ handle, s.handle = some handle →
    ∀ r, r ∈ handle.held ↔ r = .objects ∧ err.populates = true
  stderr : s.stderr = []

/-- The mode is prepared, and the child of launch mode is stopped. -/
structure Prepared (answers : StartAnswers) (cfg : TargetConfig)
    (prepared : TargetMode × UInt32 × List UInt32) (s : StartUp) : Prop where
  configured : prepared.1 = cfg.mode prepared.1.launchPID
  rootTGID : prepared.2.1 = prepared.1.rootTGID
  targetTGIDs : prepared.2.2 = prepared.1.targetTGIDs
  attach : prepared.1.isAttach = decide (0 < cfg.attachPIDs.length)
  child : s.child = if prepared.1.isAttach then .none else .started prepared.1.launchPID
  stderr : s.stderr = []
  found : answers.Found prepared.1

section

variable {answers : StartAnswers} {hasTraceOutput : Bool} {ids : List Int64} {cfg : TargetConfig}

/-- Nothing is left behind of what has not been done. -/
theorem LeftBehind.ofNew {err : StartError} (cause : err.Cause answers hasTraceOutput ids cfg)
    (early : ¬ err.leavesChild cfg) : LeftBehind answers hasTraceOutput ids cfg err .new :=
  ⟨cause, .inl ⟨rfl, early⟩, (fun _ none => nomatch none), rfl⟩

theorem validateAttachTargets_ends :
    Ends (validateAttachTargets answers cfg.attachPIDs) .new
      (fun _ s => s = StartUp.new ∧ ∀ pid ∈ cfg.attachPIDs, (answers.kill pid).alive = true)
      (LeftBehind answers hasTraceOutput ids cfg) := by
  refine ends_each
    (I := fun pre s => s = StartUp.new ∧ ∀ pid ∈ pre, (answers.kill pid).alive = true)
    (fun pre pid post s split ⟨start, alive⟩ => ?_) ⟨rfl, fun pid none => nomatch none⟩
  subst start
  rw [ends_require]
  refine ⟨fun here => ⟨rfl, List.forall_mem_append.mpr ⟨alive, ?_⟩⟩,
    fun gone => .ofNew ⟨?_, Bool.eq_false_iff.mpr gone, rfl⟩ id⟩
  · exact List.forall_mem_singleton.mpr here
  · rw [split]
    exact List.mem_append_right pre List.mem_cons_self

theorem startLaunchTrace_ends :
    Ends (startLaunchTrace answers cfg) .new
      (fun pid s => s = { StartUp.new with child := .started pid } ∧ answers.start = .ok pid ∧
        ∃ ws, answers.wait4 = .ok ws ∧ StoppedAtExec ws)
      (LeftBehind answers hasTraceOutput ids cfg) := by
  unfold startLaunchTrace
  split
  next cause failed => exact .ofNew ⟨rfl, failed⟩ id
  next pid started =>
    rw [ends_bind, ends_modify]
    split
    next cause failed =>
      exact ⟨failed, .inr ⟨pid, rfl, started, trivial⟩, (fun _ none => nomatch none), rfl⟩
    next ws waited =>
      rw [ends_bind, ends_require]
      exact ⟨fun stopped => ⟨rfl, started, ws, waited, stopped⟩, fun other =>
        ⟨⟨waited, other⟩, .inr ⟨pid, rfl, started, trivial⟩, (fun _ none => nomatch none), rfl⟩⟩

theorem prepareTargetMode_ends :
    Ends (prepareTargetMode answers cfg) .new (Prepared answers cfg)
      (LeftBehind answers hasTraceOutput ids cfg) := by
  unfold prepareTargetMode
  split
  next attach =>
    rw [ends_bind]
    refine validateAttachTargets_ends.mono (fun _ s ⟨start, alive⟩ => ?_) fun _ _ left => left
    subst start
    rw [ends_pure]
    have mode : (⟨0, cfg.attachPIDs⟩ : TargetMode).isAttach = true := decide_eq_true attach
    exact {
      configured := (if_pos attach).symm
      rootTGID := by rw [TargetMode.rootTGID, mode, if_pos rfl]
      targetTGIDs := by
        rw [TargetMode.targetTGIDs, TargetMode.targets, mode, if_pos rfl]
        exact if_pos attach
      attach := rfl
      child := (if_pos mode).symm
      stderr := rfl
      found := (if_pos mode).mpr alive }
  next launch =>
    rw [ends_bind]
    refine startLaunchTrace_ends.mono (fun pid s ⟨stopped, started⟩ => ?_) fun _ _ left => left
    rw [ends_pure]
    exact {
      configured := (if_neg launch).symm
      rootTGID := rfl
      targetTGIDs := rfl
      attach := (decide_eq_false launch).symm
      child := congrArg StartUp.child stopped
      stderr := congrArg StartUp.stderr stopped
      found := started }

/-- There is a child exactly in launch mode. -/
theorem Prepared.started_or_attached {prepared : TargetMode × UInt32 × List UInt32} {s : StartUp}
    (ready : Prepared answers cfg prepared s) :
    (s.child = .none ∧ cfg.attachPIDs ≠ []) ∨
      ∃ pid, s.child = .started pid ∧ answers.start = .ok pid ∧ cfg.attachPIDs = [] := by
  have mode := ready.attach
  rw [ready.child]
  cases attach : prepared.1.isAttach with
  | true =>
      rw [attach] at mode
      exact .inl ⟨rfl, List.ne_nil_of_length_pos (of_decide_eq_true mode.symm)⟩
  | false =>
      rw [attach] at mode
      have none := Nat.eq_zero_of_not_pos (of_decide_eq_false mode.symm)
      have found := ((if_neg (Bool.eq_false_iff.mp attach)).mp ready.found).1
      exact .inr ⟨_, rfl, found, List.eq_nil_of_length_eq_zero none⟩

/-- `NewHandle` loads the programs for the prepared targets, or leaves what it leaves. -/
theorem openHandle_ends {prepared : TargetMode × UInt32 × List UInt32} {s : StartUp}
    (visits : ids.toFinset = cfg.handleConfig.traceSyscallIds)
    (ready : Prepared answers cfg prepared s) :
    Ends (openHandle answers ids prepared.2.2 cfg) s
      (fun _ s' => ∃ handle, s' = { s with handle := some handle } ∧
        handle.Runs cfg.handleConfig prepared.1.targetTGIDs ∧ (∀ r, r ∈ handle.held) ∧
          (handle.close answers.closing).1.held = ∅)
      (LeftBehind answers hasTraceOutput ids cfg) := by
  rw [ready.targetTGIDs]
  unfold openHandle
  obtain ⟨handle, opened, runs, holds, closes⟩ | ⟨err, handle, failed, cause, left⟩ :=
    newHandle_cases answers.handle answers.closing prepared.1.targetTGIDs cfg.handleConfig visits
  · rw [opened]
    exact ⟨handle, rfl, runs, holds, closes⟩
  · rw [failed]
    rw [ends_bind, ends_modify, ends_throw]
    refine ⟨⟨_, cause⟩, ready.started_or_attached, fun handle' same => ?_, ?_⟩
    · cases same
      exact left
    · exact ready.stderr

theorem startTargetModeMonitors_ends {mode : TargetMode} {s : StartUp}
    {ok : PUnit → StartUp → Prop} {failed : StartError → StartUp → Prop}
    (attached : mode.isAttach = true → ok ⟨⟩ s)
    (resumed : mode.isAttach = false → ok ⟨⟩ { s with child := .resumed mode.launchPID s.handle })
    (refused : ∀ cause, mode.isAttach = false → answers.ptraceDetach = some cause →
      failed (.resumeChild cause) s) :
    Ends (startTargetModeMonitors answers mode) s ok failed := by
  unfold startTargetModeMonitors
  split
  next attach => exact attached attach
  next launch =>
    replace launch := Bool.eq_false_iff.mpr launch
    rw [ends_bind, ends_attempt]
    exact ⟨fun _ => resumed launch, fun cause => refused cause launch⟩

/-- **A launched program runs only under the tracer.**  Whatever the system says, `Run` reaches
its loop with the programs attached for its configuration, its targets among theirs, and the
child resumed under them; or it gives up with an error that names its cause, and then the child
has not been resumed, there is one exactly if the error came behind its start, and of the
programs no more is left than `NewHandle` leaves.

`Ends` says both in one statement: what holds when `Run` gets to its loop, and what holds when it
gives up, with the error it gives up with. -/
theorem startTrace_cases (answers : StartAnswers) (hasTraceOutput : Bool) (ids : List Int64)
    (cfg : TargetConfig) (visits : ids.toFinset = cfg.handleConfig.traceSyscallIds) :
    Ends (startTrace answers hasTraceOutput ids cfg) .new (Tracing answers cfg)
      (LeftBehind answers hasTraceOutput ids cfg) := by
  rw [startTrace, ends_bind, ends_require]
  refine ⟨fun _ => ?_, fun none => .ofNew (Bool.eq_false_iff.mpr none) id⟩
  rw [ends_bind, ends_attempt]
  refine ⟨fun _ => ?_, fun err wrong => .ofNew wrong id⟩
  rw [ends_bind]
  refine prepareTargetMode_ends.mono (fun prepared s ready => ?_) fun _ _ left => left
  obtain ⟨mode, rootTGID, targetTGIDs⟩ := prepared
  rw [ends_bind]
  refine (openHandle_ends visits ready).mono (fun _ s' opened => ?_) fun _ _ left => left
  obtain ⟨handle, rfl, runs, holds, closes⟩ := opened
  have attach := ready.attach
  rw [ends_bind, ends_onError, ends_bind, ends_modify]
  refine startTargetModeMonitors_ends (fun attached => ?_) (fun launched => ?_)
    fun cause launched refused => ?_
  · exact {
      configured := ready.configured
      found := ready.found
      handle := ⟨handle, rfl, runs, holds⟩
      child := (ready.child.trans (if_pos attached)).trans (if_pos attached).symm
      stderr := congrArg (· ++ _) ready.stderr }
  · exact {
      configured := ready.configured
      found := ready.found
      handle := ⟨handle, rfl, runs, holds⟩
      child := (if_neg (Bool.eq_false_iff.mp launched)).symm
      stderr := congrArg (· ++ _) ready.stderr }
  · exact {
      cause := refused
      child := .inr ⟨mode.launchPID, ready.child.trans (if_neg (Bool.eq_false_iff.mp launched)),
        ((if_neg (Bool.eq_false_iff.mp launched)).mp ready.found).1, trivial⟩
      handle := by
        intro left same r
        have same : (handle.close answers.closing).1 = left := Option.some.inj same
        rw [← same, closes]
        simp [StartError.populates]
      stderr := by
        show s.stderr ++ _ = []
        rw [if_neg (Bool.eq_false_iff.mp launched), ready.stderr]
        rfl }

end

/-- `litrace -e read /bin/true`, less the look for the path. -/
def traceTrue : TargetConfig :=
  ⟨⟨⟨false, {0}, []⟩, false⟩, ascii "true", ascii "/bin/true", [], []⟩

/-- The child 100 starts and stops, but the map of targets cannot be filled. -/
def untargeted : StartAnswers where
  kill _ := .delivered
  killError _ := []
  start := .ok 100
  wait4 := .ok 0x57F
  handle := targetsRefused
  closing _ := none
  ptraceDetach := none

theorem startTrace_cases_untargeted :
    LeftBehind untargeted true [0] traceTrue
      (.handle (.load (.populateTargets (ascii "update: permission denied"))))
      (startTrace untargeted true [0] traceTrue .new).2 :=
  startTrace_cases untargeted true [0] traceTrue (by decide)

end Litrace.Trace
