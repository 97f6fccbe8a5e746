import Litrace.Lib.ClosableQueue
import Litrace.Trace.PathFilter
import Litrace.Trace.Summary

/-!
# A run of the tracer

`Run` from the start of the monitors to its return, as a state machine.  The parties
are the traced processes, the ring buffer between them and the reader, the goroutines
that wait for the end of the trace, and the loop of `Run` itself.  Each action is one
step of one party; an action that its party cannot take leaves the world alone, so any
list of actions is an interleaving.

* Launch mode (`run_launch.go`) has two goroutines.  One waits for the child and then
  closes the reader; the other waits for one signal, forwards it, and closes the reader.
* Attach mode (`run_mode.go`) has one, which polls whether a process is alive, and ends
  the trace when none is or a signal comes.

Once the reader is closed, a read says so even if records are waiting.  What the
operating system answers is part of an action: the wait result, what `kill` says, what
`/proc` says to the filter.  Before the monitors start `Run` returns errors only.

Goroutines are explicit: each has a program counter (`Waiter`, `Monitor`, `Poller`,
`Main`), and what the source writes as one statement that blocks is an action that has
no effect until it can be taken.  Receiving a signal and forwarding it are two actions,
as are sending the result and closing the reader, because other parties can take a step
in between.  The result channels have room for one value and are received from once, so
each is an optional value.

The theorems are about lists of actions, that is, about every interleaving, and about
endless sequences where it matters that a party takes its steps again and again
(`Litrace.Trace.Returns`).
-/

namespace Litrace.Trace

open ClosableQueue

/-! ## The mode -/

/-- `targetMode`, without the command. -/
structure TargetMode where
  launchPID : Int64
  attachPIDs : List Int64

/-- `isAttach`. -/
def TargetMode.isAttach (mode : TargetMode) : Bool := decide (0 < mode.attachPIDs.length)

/-- The root process, or the attached ones. -/
def TargetMode.targets (mode : TargetMode) : List Int64 :=
  if mode.isAttach then mode.attachPIDs else [mode.launchPID]

/-- `rootTracePID`.

With several attached processes none is the root, and every line tells its process. -/
def rootTracePID (attachPIDs : List Int64) (launchPID : Int64) : UInt32 :=
  match attachPIDs with
  | [pid] => pid.toUInt64.toUInt32
  | _ :: _ :: _ => 0
  | [] => launchPID.toUInt64.toUInt32

/-- `traceTargetTGIDs`. -/
def traceTargetTGIDs (attachPIDs : List Int64) (launchPID : Int64) : List UInt32 :=
  if 0 < attachPIDs.length then attachPIDs.map fun pid => pid.toUInt64.toUInt32
  else [launchPID.toUInt64.toUInt32]

/-- The `rootTGID` that `prepareTargetMode` returns. -/
def TargetMode.rootTGID (mode : TargetMode) : UInt32 :=
  if mode.isAttach then rootTracePID mode.attachPIDs 0 else rootTracePID [] mode.launchPID

/-- The part of `Config` that `Run` reads itself, besides what the filter reads. -/
structure RunConfig extends Config where
  summaryOnly : Bool

/-- All of `Config`. -/
structure TargetConfig extends RunConfig where
  programName : GoString
  programPath : GoString
  programArgs : List GoString
  attachPIDs : List Int64

/-- Why `Run` refuses a configuration. -/
inductive ConfigError where
  | mixedTargets
  | noTarget
  deriving DecidableEq

/-- What `Run` checks first. -/
def TargetConfig.check (cfg : TargetConfig) : Option ConfigError :=
  if 0 < cfg.attachPIDs.length ∧ cfg.programPath ≠ [] then some .mixedTargets
  else if cfg.attachPIDs.length = 0 ∧ cfg.programPath = [] then some .noTarget
  else none

/-- The mode that `prepareTargetMode` returns; the child, if it starts one, is `launchPID`. -/
def TargetConfig.mode (cfg : TargetConfig) (launchPID : Int64) : TargetMode :=
  if 0 < cfg.attachPIDs.length then ⟨0, cfg.attachPIDs⟩ else ⟨launchPID, []⟩

/-! ## Results and outputs -/

/-- `syscall.WaitStatus`. -/
abbrev WaitStatus := UInt32

/-- What `cmd.Wait` fails with. -/
inductive WaitError where
  | exitError
  | other
  deriving DecidableEq

/-- `ChildWaitResult`; the status is `none` without `HasStatus`. -/
structure ChildWaitResult where
  err : Option WaitError
  status : Option WaitStatus

/-- What `Run` returns an error for. -/
inductive RunError where
  | waitForChild
  | waitStatus
  | closeHandle
  deriving DecidableEq

/-- The results of `Run`.

The errors are a list because that of the deferred `Close` is joined to whatever the run had. -/
structure RunResult where
  status : WaitStatus
  errs : List RunError
  deriving DecidableEq

/-- What `Run` writes to `TraceOutput`. -/
inductive Output where
  | line (ev : Event) (rootTGID : UInt32)
  | summary (summary : GoMap Int64 SyscallSummary)
  | exitLine (status : WaitStatus)

/-- What it writes to `Stderr`. -/
inductive Notice where
  | attached (pid : Int64)
  | readingEvent
  | decodingEvent

/-! ## Signals -/

/-- `os.Signal`: a `syscall.Signal`, or another implementation. -/
inductive OsSignal where
  | syscall (sig : Int64)
  | other

/-- `signalAsSyscall`. -/
def signalAsSyscall : OsSignal → Option Int64
  | .syscall sig => if sig = 0 then none else some sig
  | .other => none

/-- `forwardLaunchSignal`: what is sent to the process group of the child. -/
def forwardLaunchSignal (sig : OsSignal) : List Int64 := (signalAsSyscall sig).toList

/-- `signalWaitStatus`; `none` is a nil signal, or a closed channel. -/
def signalWaitStatus : Option OsSignal → WaitStatus
  | some (.syscall sig) => sig.toUInt64.toUInt32
  | some .other => 0
  | none => 0

/-- What `kill(pid, 0)` says.

A process that must not be signalled is there all the same. -/
inductive KillAnswer where
  | delivered
  | notPermitted
  | failed

/-- The process is there, as far as `kill` can tell. -/
def KillAnswer.alive : KillAnswer → Bool
  | .delivered => true
  | .notPermitted => true
  | .failed => false

/-- `anyProcessAlive`. -/
def anyProcessAlive (kill : Int64 → KillAnswer) (pids : List Int64) : Bool :=
  pids.any fun pid => (kill pid).alive

/-! ## The parties -/

/-- A sample in the ring buffer, and whether it was submitted before the last target
process exited.

The mark is for the theorems about lost records; no party looks at it. -/
structure Record where
  sample : List UInt8
  early : Bool

/-- The goroutine of `startLaunchWait`. -/
inductive Waiter where
  | waiting
  | closing
  | ended
  deriving DecidableEq

/-- The goroutine of `startLaunchMonitor`; `received none` is a nil signal, or a closed
channel. -/
inductive Monitor where
  | receiving
  | received (sig : Option OsSignal)
  | closing
  | ended

/-- The goroutine of `startAttachMonitor`. -/
inductive Poller where
  | polling
  | selecting
  | closing
  | ended
  deriving DecidableEq

/-- Where `Run` is: in its loop, behind it, or back at its caller. -/
inductive Main where
  | reading
  | receiving
  | returned (result : RunResult)
  deriving DecidableEq

/-- What `Run` builds up in its loop. -/
structure Recorder where
  filter : PathFilter
  summary : GoMap Int64 SyscallSummary
  traceOutput : List Output
  stderr : List Notice

/-- The world during a run. -/
structure World where
  exitStatus : Int64 → Option WaitStatus
  ring : Queue Record
  signals : List (Option OsSignal)
  signalsClosed : Bool
  forwarded : List Int64
  waiter : Waiter
  monitor : Monitor
  poller : Poller
  launchDone : Option ChildWaitResult
  attachDone : Option WaitStatus
  main : Main
  recorder : Recorder

/-- A step of one party. -/
inductive Act where
  | submit (sample : List UInt8)
  | exit (pid : Int64) (status : WaitStatus)
  | signal (sig : Option OsSignal)
  | closeSignals
  | waitReturns (result : ChildWaitResult)
  | waitCloses
  | monitorReceives
  | monitorForwards
  | monitorCloses
  | attachPolls (kill : Int64 → KillAnswer)
  | attachSelects
  | attachTicks
  | attachCloses
  | reads (proc : ProcCwd)
  | readFails
  | returns (closeFails : Bool)

/-! ## The loop of `Run` -/

section

variable (cfg : RunConfig) (mode : TargetMode)

/-- The variables before the loop. -/
def Recorder.start : Recorder where
  filter := newPathFilter cfg.toConfig
  summary := ∅
  traceOutput := []
  stderr := if mode.isAttach then mode.attachPIDs.map .attached else []

/-- What the loop does with a sample it has read. -/
def Recorder.handle (r : Recorder) (sample : List UInt8) (proc : ProcCwd) : Recorder :=
  match decodeEvent sample with
  | none => { r with stderr := r.stderr ++ [.decodingEvent] }
  | some ev =>
      let decided := r.filter.shouldOutput proc ev
      let r := { r with filter := decided.1 }
      if decided.2 = false then r
      else if cfg.summaryOnly then { r with summary := addSummaryEvent r.summary ev }
      else { r with traceOutput := r.traceOutput ++ [.line ev mode.rootTGID] }

/-- The end of `Run` in attach mode. -/
def Recorder.finishAttach (r : Recorder) (status : WaitStatus) : Recorder × RunResult :=
  if cfg.summaryOnly then
    ({ r with traceOutput := r.traceOutput ++ [.summary r.summary] }, ⟨status, []⟩)
  else (r, ⟨status, []⟩)

/-- The end of `Run` in launch mode. -/
def Recorder.finishLaunch (r : Recorder) (result : ChildWaitResult) : Recorder × RunResult :=
  if result.err = some .other then (r, ⟨0, [.waitForChild]⟩)
  else
    match result.status with
    | none => (r, ⟨0, [.waitStatus]⟩)
    | some status =>
        if cfg.summaryOnly then
          ({ r with traceOutput := r.traceOutput ++ [.summary r.summary] }, ⟨status, []⟩)
        else ({ r with traceOutput := r.traceOutput ++ [.exitLine status] }, ⟨status, []⟩)

/-- The deferred `handle.Close` may add an error. -/
def RunResult.deferClose (result : RunResult) (closeFails : Bool) : RunResult :=
  if closeFails then { result with errs := result.errs ++ [.closeHandle] } else result

/-! ## The steps -/

namespace World

/-- The world when the monitors are started. -/
def start : World where
  exitStatus _ := none
  ring := .empty
  signals := []
  signalsClosed := false
  forwarded := []
  waiter := if mode.isAttach then .ended else .waiting
  monitor := if mode.isAttach then .ended else .receiving
  poller := if mode.isAttach then .polling else .ended
  launchDone := none
  attachDone := none
  main := .reading
  recorder := .start cfg mode

/-- All target processes have exited. -/
def allExited (w : World) : Bool :=
  mode.targets.all fun pid => (w.exitStatus pid).isSome

/-- `CloseReader`. -/
def closeReader (w : World) : World := { w with ring := w.ring.step .close }

/-- A traced process submits a record. -/
def submit (w : World) (sample : List UInt8) : World :=
  { w with ring := w.ring.step (.put ⟨sample, !w.allExited mode⟩) }

/-- A process exits, once. -/
def exit (w : World) (pid : Int64) (status : WaitStatus) : World :=
  if (w.exitStatus pid).isSome then w
  else { w with exitStatus := Function.update w.exitStatus pid (some status) }

/-- `cmd.Wait` returns, and its result is sent; it knows the status of a child that has
exited. -/
def waitReturns (w : World) (result : ChildWaitResult) : World :=
  if w.waiter = .waiting ∧
      (result.status = none ∨ result.status = w.exitStatus mode.launchPID) then
    { w with launchDone := some result, waiter := .closing }
  else w

def waitCloses (w : World) : World :=
  if w.waiter = .closing then { w.closeReader with waiter := .ended } else w

def monitorReceives (w : World) : World :=
  match w.monitor with
  | .receiving =>
      match w.signals with
      | sig :: signals => { w with signals := signals, monitor := .received sig }
      | [] => if w.signalsClosed then { w with monitor := .received none } else w
  | _ => w

def monitorForwards (w : World) : World :=
  match w.monitor with
  | .received (some sig) =>
      { w with forwarded := w.forwarded ++ forwardLaunchSignal sig, monitor := .closing }
  | .received none => { w with monitor := .closing }
  | _ => w

def monitorCloses (w : World) : World :=
  match w.monitor with
  | .closing => { w.closeReader with monitor := .ended }
  | _ => w

/-- `anyProcessAlive` is asked; `kill` fails only for a process that has exited. -/
def attachPolls (w : World) (kill : Int64 → KillAnswer) : World :=
  if w.poller = .polling ∧
      (mode.attachPIDs.all fun pid => (kill pid).alive || (w.exitStatus pid).isSome) = true then
    if anyProcessAlive kill mode.attachPIDs then { w with poller := .selecting }
    else { w with attachDone := some 0, poller := .closing }
  else w

def attachSelects (w : World) : World :=
  if w.poller = .selecting then
    match w.signals with
    | sig :: signals =>
        { w with
          signals := signals
          attachDone := some (signalWaitStatus sig)
          poller := .closing }
    | [] =>
        if w.signalsClosed then
          { w with attachDone := some (signalWaitStatus none), poller := .closing }
        else w
  else w

def attachTicks (w : World) : World :=
  if w.poller = .selecting then { w with poller := .polling } else w

def attachCloses (w : World) : World :=
  if w.poller = .closing then { w.closeReader with poller := .ended } else w

/-- One round of the loop; it blocks while the ring buffer is empty. -/
def reads (w : World) (proc : ProcCwd) : World :=
  if w.main = .reading then
    -- Closed means over, also when records are waiting.
    if w.ring.closed then { w with main := .receiving }
    else
      match w.ring.items with
      | [] => w
      | record :: _ =>
          { w with
            ring := w.ring.step .take
            recorder := w.recorder.handle cfg mode record.sample proc }
  else w

/-- A round whose read fails, but not because the reader is closed. -/
def readFails (w : World) : World :=
  if w.main = .reading ∧ w.ring.closed = false then
    { w with recorder := { w.recorder with stderr := w.recorder.stderr ++ [.readingEvent] } }
  else w

/-- `Run` behind its loop; it blocks until there is a result. -/
def returns (w : World) (closeFails : Bool) : World :=
  if w.main = .receiving then
    let finished :=
      if mode.isAttach then w.attachDone.map (w.recorder.finishAttach cfg)
      else w.launchDone.map (w.recorder.finishLaunch cfg)
    match finished with
    | none => w
    | some (recorder, result) =>
        { w with recorder := recorder, main := .returned (result.deferClose closeFails) }
  else w

/-- `Run` has returned. -/
def isOver (w : World) : Bool :=
  match w.main with
  | .returned _ => true
  | _ => false

/-- The step of an action.  When `Run` has returned, its run is over.

Each action has a function of its own, to be compared with the statement of the source it stands
for.  An action that its party cannot take does nothing, so no condition says which lists of
actions are runs: all are, and each stands for the interleaving of those that could be taken. -/
def step (w : World) (a : Act) : World :=
  if w.isOver then w
  else
    match a with
    | .submit sample => w.submit mode sample
    | .exit pid status => w.exit pid status
    | .signal sig => { w with signals := w.signals ++ [sig] }
    | .closeSignals => { w with signalsClosed := true }
    | .waitReturns result => w.waitReturns mode result
    | .waitCloses => w.waitCloses
    | .monitorReceives => w.monitorReceives
    | .monitorForwards => w.monitorForwards
    | .monitorCloses => w.monitorCloses
    | .attachPolls kill => w.attachPolls mode kill
    | .attachSelects => w.attachSelects
    | .attachTicks => w.attachTicks
    | .attachCloses => w.attachCloses
    | .reads proc => w.reads cfg mode proc
    | .readFails => w.readFails
    | .returns closeFails => w.returns cfg mode closeFails

end World

end

end Litrace.Trace
