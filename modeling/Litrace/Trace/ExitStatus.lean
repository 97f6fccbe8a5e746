import Litrace.Lib.Strconv
import Litrace.Trace.Returns

/-!
# How litrace ends

`FormatExitLine` and `exitWithWaitStatus` read the wait status of the child, one for the
output and one for whoever has started litrace.  In launch mode the status that `Run`
returns is that of the child, in every order of steps; without `-c` the last line says it
(`exitLine_injective`), and litrace ends as its child did if it can (`ends_as_child`).  In
attach mode it ends well when the processes are gone, and of the signal when one comes
(`ends_of_signal`).

To end of a signal as its child did, litrace sends that signal to itself.  Whether it ends
then, and how, is not for `exitWithWaitStatus` to say: without a handler the runtime of Go
still catches most signals, so it is given what each does (`SelfSignal`).  What the
libraries call the signals is given as well.

A wait status is a word, and how a process can end is a type of its own (`ChildEnd`), with
the word the kernel makes of each end.  What the two functions read off the word is then
compared with the end it was made of.  Not every end can be passed on: a process cannot
make another believe that it was stopped by a signal which its own runtime catches, and
`passedOn_eq_processEnd_iff` says for which ends it works.
-/

namespace Litrace.Trace

open GoString (ascii)
open Transition

/-! ## Wait statuses -/

namespace WaitStatus

/-- `Exited`. -/
def exited (ws : WaitStatus) : Bool := ws &&& 0x7F == 0

/-- `Signaled`. -/
def signaled (ws : WaitStatus) : Bool := ws &&& 0x7F != 0x7F && ws &&& 0x7F != 0

/-- `CoreDump`. -/
def coreDump (ws : WaitStatus) : Bool := signaled ws && ws &&& 0x80 != 0

/-- `ExitStatus`. -/
def exitStatus (ws : WaitStatus) : Int64 :=
  if exited ws then ((ws >>> 8) &&& 0xFF).toUInt64.toInt64 else -1

/-- `Signal`. -/
def signal (ws : WaitStatus) : Int64 :=
  if signaled ws then (ws &&& 0x7F).toUInt64.toInt64 else -1

end WaitStatus

/-- How a process ends, as its parent sees it. -/
inductive ProcessEnd where
  | exits (code : Int64)
  | killed (sig : Int64)
  deriving DecidableEq

/-- What a signal does that litrace sends itself, when it does not handle it any more. -/
inductive SelfSignal where
  /-- It kills litrace: `SIGKILL`, or `SIGHUP`, `SIGINT` and `SIGTERM` if they are not
  ignored. -/
  | kills
  /-- The runtime writes its stacks and exits with 2: `SIGQUIT`, `SIGABRT`, and what the
  processor raises, as `SIGSEGV`. -/
  | dumps
  /-- It is ignored, or caught and nothing is done. -/
  | passes
  deriving DecidableEq

/-- `exitWithWaitStatus`; `onSelf` says what each signal does. -/
def exitWithWaitStatus (onSelf : Int64 → SelfSignal) (ws : WaitStatus) : ProcessEnd :=
  if ws.exited then .exits ws.exitStatus
  else if ws.signaled then
    match onSelf ws.signal with
    | .kills => .killed ws.signal
    | .dumps => .exits 2
    | .passes => .exits (128 + ws.signal)
  else .exits 1

/-- The end of `main`, behind `Run`. -/
def mainEnd (onSelf : Int64 → SelfSignal) (result : RunResult) : ProcessEnd :=
  if result.errs = [] then exitWithWaitStatus onSelf result.status else .exits 1

/-! ## The exit line -/

section

variable (unixSignalName : Int64 → GoString)

/-- `signalName`; `unix.SignalName` has an empty name for signals it does not know. -/
def signalName (sig : Int64) : GoString :=
  if unixSignalName sig ≠ [] then unixSignalName sig else ascii "SIG" ++ Strconv.decimal sig.toInt

/-- `FormatExitLine`. -/
def formatExitLine (ws : WaitStatus) : GoString :=
  if ws.exited then
    ascii "+++ exited with " ++ Strconv.decimal ws.exitStatus.toInt ++ ascii " +++"
  else if ws.signaled then
    ascii "+++ killed by " ++ signalName unixSignalName ws.signal ++
      (if ws.coreDump then ascii " (core dumped)" else []) ++ ascii " +++"
  else ascii "+++ exited with ? +++"

end

example : formatExitLine (fun _ => ascii "SIGSEGV") 0x8B =
    ascii "+++ killed by SIGSEGV (core dumped) +++" := by decide

/-! ## How children end -/

/-- How a child ends. -/
inductive ChildEnd where
  | exited (code : UInt8)
  | killed (sig : UInt8) (core : Bool)
  deriving DecidableEq

/-- There are signals 1 to 126. -/
def ChildEnd.Valid : ChildEnd → Prop
  | .exited _ => True
  | .killed sig _ => 0 < sig ∧ sig < 127

/-- The wait status of a child. -/
def ChildEnd.status : ChildEnd → WaitStatus
  | .exited code => code.toUInt32 <<< 8
  | .killed sig core => sig.toUInt32 ||| if core then 0x80 else 0

/-- How the parent of the child sees it. -/
def ChildEnd.processEnd : ChildEnd → ProcessEnd
  | .exited code => .exits code.toUInt64.toInt64
  | .killed sig _ => .killed sig.toUInt64.toInt64

/-- What litrace makes of it. -/
def ChildEnd.passedOn (onSelf : Int64 → SelfSignal) : ChildEnd → ProcessEnd
  | .exited code => .exits code.toUInt64.toInt64
  | .killed sig _ =>
      match onSelf sig.toUInt64.toInt64 with
      | .kills => .killed sig.toUInt64.toInt64
      | .dumps => .exits 2
      | .passes => .exits (128 + sig.toUInt64.toInt64)

/-- It is the same if the child has exited, or was killed by a signal that kills litrace. -/
theorem passedOn_eq_processEnd_iff (onSelf : Int64 → SelfSignal) (e : ChildEnd) :
    e.passedOn onSelf = e.processEnd ↔
      ∀ sig core, e = .killed sig core → onSelf sig.toUInt64.toInt64 = .kills := by
  cases e with
  | exited code => exact iff_of_true rfl nofun
  | killed sig core =>
      rw [ChildEnd.passedOn, ChildEnd.processEnd]
      cases h : onSelf sig.toUInt64.toInt64 with
      | kills => exact iff_of_true rfl fun sig' core' same => by cases same; exact h
      | dumps => exact iff_of_false nofun fun all => by cases h.symm.trans (all sig core rfl)
      | passes => exact iff_of_false nofun fun all => by cases h.symm.trans (all sig core rfl)

/-- Every byte is a member of `Fin 256`. -/
theorem forall_byte {P : UInt8 → Prop} (all : ∀ f : Fin 256, P (UInt8.ofFin f)) (b : UInt8) :
    P b :=
  all b.toFin

/-- The code is in the second byte of the word. -/
theorem status_exited (code : UInt8) :
    WaitStatus.exited (ChildEnd.exited code).status = true ∧
      WaitStatus.exitStatus (ChildEnd.exited code).status = code.toUInt64.toInt64 := by
  revert code
  exact forall_byte (by decide +kernel)

/-- The signal is in the first byte, with a bit for the core dump. -/
theorem status_killed {sig : UInt8} {core : Bool} (valid : (ChildEnd.killed sig core).Valid) :
    WaitStatus.exited (ChildEnd.killed sig core).status = false ∧
      WaitStatus.signaled (ChildEnd.killed sig core).status = true ∧
      WaitStatus.signal (ChildEnd.killed sig core).status = sig.toUInt64.toInt64 ∧
      WaitStatus.coreDump (ChildEnd.killed sig core).status = core := by
  have all : ∀ sig : UInt8, ∀ core : Bool, 0 < sig ∧ sig < 127 →
      WaitStatus.exited (ChildEnd.killed sig core).status = false ∧
        WaitStatus.signaled (ChildEnd.killed sig core).status = true ∧
        WaitStatus.signal (ChildEnd.killed sig core).status = sig.toUInt64.toInt64 ∧
        WaitStatus.coreDump (ChildEnd.killed sig core).status = core :=
    forall_byte (by decide +kernel)
  exact all sig core valid

/-- The end of a child is passed on. -/
theorem exitWithWaitStatus_status (onSelf : Int64 → SelfSignal) {e : ChildEnd}
    (valid : e.Valid) : exitWithWaitStatus onSelf e.status = e.passedOn onSelf := by
  cases e with
  | exited code =>
      obtain ⟨exited, status⟩ := status_exited code
      rw [exitWithWaitStatus, if_pos exited, status, ChildEnd.passedOn]
  | killed sig core =>
      obtain ⟨exited, signaled, signal, -⟩ := status_killed valid
      rw [exitWithWaitStatus, exited, if_neg Bool.false_ne_true, if_pos signaled, signal,
        ChildEnd.passedOn]

/-! ## What the exit line says -/

/-- What is documented of `unix.SignalName`: names are different, have no blank, and are none
of those that are made from numbers. -/
structure NamesSignals (unixSignalName : Int64 → GoString) : Prop where
  apart : ∀ sig sig', unixSignalName sig ≠ [] → unixSignalName sig = unixSignalName sig' →
    sig = sig'
  noBlank : ∀ sig, 32 ∉ unixSignalName sig
  noNumber : ∀ sig n, unixSignalName sig ≠ ascii "SIG" ++ Strconv.decimal n

section

variable {unixSignalName : Int64 → GoString}

theorem NamesSignals.blank_notMem (names : NamesSignals unixSignalName) (sig : Int64) :
    32 ∉ signalName unixSignalName sig := by
  unfold signalName
  split
  · exact names.noBlank sig
  · rw [List.mem_append, not_or]
    exact ⟨by decide, Strconv.notMem_decimal (by decide) (by decide) _⟩

/-- A signal without a name is called by its number, which no name looks like. -/
theorem NamesSignals.injective (names : NamesSignals unixSignalName) :
    Function.Injective (signalName unixSignalName) := by
  intro sig sig' same
  unfold signalName at same
  split at same <;> split at same
  next known _ => exact names.apart sig sig' known same
  next => exact absurd same (names.noNumber sig _)
  next => exact absurd same.symm (names.noNumber sig' _)
  next => exact Int64.toInt_inj.mp (Strconv.decimal_injective (List.append_cancel_left same))

theorem exitLine_exited (code : UInt8) :
    formatExitLine unixSignalName (ChildEnd.exited code).status =
      ascii "+++ exited with " ++ Strconv.decimal code.toUInt64.toInt64.toInt ++ ascii " +++" := by
  obtain ⟨exited, status⟩ := status_exited code
  rw [formatExitLine, if_pos exited, status]

/-- What comes behind the name of the signal. -/
def behindSignal (core : Bool) : GoString :=
  if core then ascii "(core dumped) +++" else ascii "+++"

theorem exitLine_killed {sig : UInt8} {core : Bool} (valid : (ChildEnd.killed sig core).Valid) :
    formatExitLine unixSignalName (ChildEnd.killed sig core).status =
      ascii "+++ killed by " ++ (signalName unixSignalName sig.toUInt64.toInt64 ++
        32 :: behindSignal core) := by
  obtain ⟨exited, signaled, signal, coreDump⟩ := status_killed valid
  rw [formatExitLine, exited, if_neg Bool.false_ne_true, if_pos signaled, signal, coreDump,
    List.append_assoc, List.append_assoc]
  cases core <;> rfl

/-- The lines differ in the word behind the plus signs. -/
theorem exitLine_exited_ne_killed {code sig : UInt8} {core : Bool}
    (valid : (ChildEnd.killed sig core).Valid) :
    formatExitLine unixSignalName (ChildEnd.exited code).status ≠
      formatExitLine unixSignalName (ChildEnd.killed sig core).status := by
  intro same
  rw [exitLine_exited, exitLine_killed valid, List.append_assoc] at same
  exact absurd (congrArg (List.take 5) same) (by simp [ascii])

theorem byte_of_toInt64 {b c : UInt8}
    (same : b.toUInt64.toInt64 = c.toUInt64.toInt64) : b = c := by
  have wide : b.toUInt64 = c.toUInt64 := by
    rw [← UInt64.toUInt64_toInt64 b.toUInt64, same, UInt64.toUInt64_toInt64]
  simpa using congrArg UInt64.toUInt8 wide

/-- **The exit line tells how the child has ended.**

The names of signals come from a library, of which it is assumed that different signals have
different names and that none looks like another part of the line. -/
theorem exitLine_injective (names : NamesSignals unixSignalName) {e e' : ChildEnd}
    (valid : e.Valid) (valid' : e'.Valid) :
    formatExitLine unixSignalName e.status = formatExitLine unixSignalName e'.status ↔ e = e' := by
  refine ⟨fun same => ?_, fun eq => by rw [eq]⟩
  cases e with
  | exited code =>
      cases e' with
      | exited code' =>
          rw [exitLine_exited, exitLine_exited, List.append_assoc, List.append_assoc] at same
          have number := List.append_cancel_right (List.append_cancel_left same)
          have code := byte_of_toInt64 (Int64.toInt_inj.mp (Strconv.decimal_injective number))
          rw [code]
      | killed sig core => exact absurd same (exitLine_exited_ne_killed valid')
  | killed sig core =>
      cases e' with
      | exited code => exact absurd same.symm (exitLine_exited_ne_killed valid)
      | killed sig' core' =>
          rw [exitLine_killed valid, exitLine_killed valid'] at same
          obtain ⟨signal, behind⟩ := Strconv.append_sep_inj (names.blank_notMem _)
            (names.blank_notMem _) (List.append_cancel_left same)
          have sig := byte_of_toInt64 (names.injective signal)
          have core : core = core' := by
            cases core <;> cases core' <;> first | rfl | exact absurd behind (by decide)
          rw [sig, core]

end

/-- A signal is known by name, and the others are not. -/
theorem namesSignals_sigkill :
    NamesSignals fun sig => if sig = 9 then ascii "SIGKILL" else [] where
  apart sig sig' known same := by
    by_cases h : sig = 9
    · by_cases h' : sig' = 9
      · rw [h, h']
      · simp [h, h', ascii] at same
    · simp [h] at known
  noBlank sig := by
    split <;> decide
  noNumber sig n same := by
    split at same
    · replace same : ascii "SIG" ++ ascii "KILL" = ascii "SIG" ++ Strconv.decimal n := same
      have letter : (75 : UInt8) ∈ Strconv.decimal n := by
        rw [← List.append_cancel_left same]
        decide
      exact absurd letter (Strconv.notMem_decimal (by decide) (by decide) n)
    · simp [ascii] at same

theorem exitLine_injective_sigkill :
    formatExitLine (fun sig => if sig = 9 then ascii "SIGKILL" else [])
        (ChildEnd.killed 9 true).status ≠
      formatExitLine (fun sig => if sig = 9 then ascii "SIGKILL" else [])
        (ChildEnd.killed 9 false).status :=
  have valid : ∀ core, (ChildEnd.killed 9 core).Valid := fun _ => ⟨by decide, by decide⟩
  mt (exitLine_injective namesSignals_sigkill (valid true) (valid false)).mp (by decide)

/-! ## What `Run` returns -/

section

variable {cfg : RunConfig} {mode : TargetMode} {w : World} {status : WaitStatus}

/-- Without an error the child has a status, and without a summary the exit line is last. -/
theorem finishLaunch_ok {r : Recorder} {result : ChildWaitResult}
    (ok : (r.finishLaunch cfg result).2 = ⟨status, []⟩) :
    result.status = some status ∧
      (cfg.summaryOnly = false →
        (r.finishLaunch cfg result).1.traceOutput = r.traceOutput ++ [.exitLine status]) := by
  unfold Recorder.finishLaunch at ok ⊢
  split at ok
  next => cases ok
  next waited =>
    rw [if_neg waited]
    split at ok
    next => cases ok
    next status' known =>
      split at ok
      next summary =>
        cases ok
        exact ⟨known, fun lines => absurd summary (by simp [lines])⟩
      next lines =>
        cases ok
        exact ⟨known, fun _ => by rw [if_neg lines]⟩

theorem finishAttach_ok {r : Recorder} {done : WaitStatus}
    (ok : (r.finishAttach cfg done).2 = ⟨status, []⟩) : done = status := by
  unfold Recorder.finishAttach at ok
  split at ok
  · cases ok
    rfl
  · cases ok
    rfl

namespace World

/-- Without an error the result had a status, and the last line is made of it. -/
theorem returns_ok_launch {closeFails : Bool} (launch : mode.isAttach = false)
    (receiving : w.main = .receiving)
    (ok : (w.returns cfg mode closeFails).main = .returned ⟨status, []⟩) :
    ∃ result, w.launchDone = some result ∧ result.status = some status ∧
      (cfg.summaryOnly = false →
        (w.returns cfg mode closeFails).recorder.traceOutput =
          w.recorder.traceOutput ++ [.exitLine status]) := by
  rw [returns, if_pos receiving] at ok ⊢
  simp only [launch, Bool.false_eq_true, ↓reduceIte] at ok ⊢
  cases done : w.launchDone with
  | none =>
      rw [done] at ok
      cases receiving.symm.trans ok
  | some result =>
      rw [done] at ok
      obtain ⟨known, last⟩ := finishLaunch_ok (RunResult.deferClose_eq (Main.returned.inj ok))
      exact ⟨result, rfl, known, last⟩

/-- In attach mode there is always a status, and never a line. -/
theorem returns_ok_attach {closeFails : Bool} (attach : mode.isAttach = true)
    (receiving : w.main = .receiving)
    (ok : (w.returns cfg mode closeFails).main = .returned ⟨status, []⟩) :
    w.attachDone = some status := by
  rw [returns, if_pos receiving] at ok
  simp only [attach, ↓reduceIte] at ok
  cases done : w.attachDone with
  | none =>
      rw [done] at ok
      cases receiving.symm.trans ok
  | some status' =>
      rw [done] at ok
      rw [finishAttach_ok (RunResult.deferClose_eq (Main.returned.inj ok))]

end World

/-! ## Launch mode -/

/-- What the goroutine, `Run` and the output say of the child is true. -/
structure KnowsChild (cfg : RunConfig) (mode : TargetMode) (w : World) : Prop where
  waited : ∀ result status, w.launchDone = some result → result.status = some status →
    w.exitStatus mode.launchPID = some status
  returned : ∀ status, w.main = .returned ⟨status, []⟩ →
    w.exitStatus mode.launchPID = some status ∧
      (cfg.summaryOnly = false → w.recorder.traceOutput.getLast? = some (.exitLine status))

theorem knowsChild_start : KnowsChild cfg mode (.start cfg mode) where
  waited _ _ done := by cases done
  returned _ returned := by cases returned

/-- The goroutine learns the status from the system, and `Run` from the goroutine. -/
theorem KnowsChild.step (launch : mode.isAttach = false) (knows : KnowsChild cfg mode w) (a : Act) :
    KnowsChild cfg mode (w.step cfg mode a) := by
  by_cases finished : w.isOver = true
  · rwa [World.step_of_isOver finished]
  · have notReturned : ∀ result, w.main ≠ .returned result :=
      fun result returned => finished (World.isOver_iff.mpr ⟨result, returned⟩)
    have keeps : ∀ {status}, w.exitStatus mode.launchPID = some status →
        (w.step cfg mode a).exitStatus mode.launchPID = some status :=
      fun known => World.exitStatus_step cfg mode a known
    -- Neither what the goroutine has found nor where `Run` is changes.
    have same : (w.step cfg mode a).launchDone = w.launchDone →
        (∀ result, (w.step cfg mode a).main ≠ .returned result) →
        KnowsChild cfg mode (w.step cfg mode a) := by
      intro launchDone main
      refine ⟨fun result status done known => ?_, fun status returned => ?_⟩
      · exact keeps (knows.waited result status (launchDone ▸ done) known)
      · exact absurd returned (main _)
    cases World.step_end cfg mode w a with
    | waitReturns result waiting known ending =>
        refine ⟨fun result' status done status' => keeps ?_, fun status returned => ?_⟩
        · obtain rfl : result = result' :=
            Option.some.inj ((congrArg Ending.launchDone ending).symm.trans done)
          rcases known with none | known
          · cases none.symm.trans status'
          · exact known.symm.trans status'
        · exact absurd ((congrArg Ending.main ending).symm.trans returned) (notReturned _)
    | returns closeFails result receiving done ending =>
        refine ⟨fun result status done known => ?_, fun status returned => ?_⟩
        · exact keeps (knows.waited result status
            ((congrArg Ending.launchDone ending).symm.trans done) known)
        · rw [World.step_returns (by simpa using finished)] at returned ⊢
          obtain ⟨result, done, known, last⟩ := World.returns_ok_launch launch receiving returned
          refine ⟨?_, fun lines => ?_⟩
          · rw [← World.step_returns (by simpa using finished)]
            exact keeps (knows.waited result status done known)
          · rw [last lines, List.getLast?_concat]
    | leaves proc reading closed ending =>
        refine same (congrArg Ending.launchDone ending) fun result returned => ?_
        exact absurd ((congrArg Ending.main ending).symm.trans returned) nofun
    | beside _ ending | waitCloses _ ending _ | pollsSome _ _ _ ending | pollsNone _ _ ending
    | attachSelects _ _ ending | attachTicks _ ending | attachCloses _ ending _ =>
        exact same (congrArg Ending.launchDone ending) fun result returned =>
          notReturned result ((congrArg Ending.main ending).symm.trans returned)

end

/-- **litrace ends as its child did, if it can.**  If `Run` returns without an error in launch
mode, the child has exited, and the status is its own; without `-c` the last line tells of it.
litrace exits with the code of the child; for a signal it is killed by the same, or exits with 2
if the runtime dumps its stacks, or with 128 and the signal if that passes.  So it ends in the
same way exactly if the child has exited or was killed by a signal that kills litrace. -/
theorem ends_as_child (cfg : RunConfig) (mode : TargetMode) (launch : mode.isAttach = false)
    (as : List Act) (status : WaitStatus)
    (ok : (run (World.step cfg mode) (.start cfg mode) as).main = .returned ⟨status, []⟩) :
    let w := run (World.step cfg mode) (.start cfg mode) as
    w.exitStatus mode.launchPID = some status ∧
      (cfg.summaryOnly = false → w.recorder.traceOutput.getLast? = some (.exitLine status)) ∧
      ∀ onSelf : Int64 → SelfSignal, ∀ e : ChildEnd, e.Valid → e.status = status →
        mainEnd onSelf ⟨status, []⟩ = e.passedOn onSelf ∧
          (mainEnd onSelf ⟨status, []⟩ = e.processEnd ↔
            ∀ sig core, e = .killed sig core → onSelf sig.toUInt64.toInt64 = .kills) := by
  have knows : KnowsChild cfg mode (run (World.step cfg mode) (.start cfg mode) as) :=
    AllSteps.invariant_run (Q := fun _ _ => True) (fun w a knows _ => knows.step launch a)
      knowsChild_start (allSteps_const.mpr fun _ _ => trivial)
  obtain ⟨exited, last⟩ := knows.returned status ok
  refine ⟨exited, last, fun onSelf e valid eq => ?_⟩
  have passed : mainEnd onSelf ⟨status, []⟩ = e.passedOn onSelf := by
    rw [← eq, mainEnd, if_pos rfl, exitWithWaitStatus_status onSelf valid]
  exact ⟨passed, by rw [passed, passedOn_eq_processEnd_iff]⟩

/-- The child is killed by a signal, and `Run` returns. -/
def killedChild (sig : UInt8) : List Act :=
  [.exit 100 (ChildEnd.killed sig false).status,
    .waitReturns ⟨some .exitError, some (ChildEnd.killed sig false).status⟩, .waitCloses,
    .reads fun _ _ => none, .returns false]

/-- As for the runtime: `SIGKILL` kills, and `SIGSEGV` makes it dump its stacks. -/
def killedOrDumped (sig : Int64) : SelfSignal :=
  if sig = 9 then .kills else if sig = 11 then .dumps else .passes

theorem ends_as_child_killedChild :
    mainEnd killedOrDumped ⟨9, []⟩ = .killed 9 ∧ mainEnd killedOrDumped ⟨11, []⟩ = .exits 2 :=
  ⟨((ends_as_child printAll launch100 rfl (killedChild 9) 9 rfl).2.2 killedOrDumped
      (.killed 9 false) ⟨by decide, by decide⟩ rfl).1,
    ((ends_as_child printAll launch100 rfl (killedChild 11) 11 rfl).2.2 killedOrDumped
      (.killed 11 false) ⟨by decide, by decide⟩ rfl).1⟩

/-! ## Attach mode -/

section

variable {cfg : RunConfig} {mode : TargetMode} {w : World} {came : Option OsSignal → Prop}
  {closed : Prop}

/-- Signals wait that have come. -/
structure HearsSignals (came : Option OsSignal → Prop) (closed : Prop) (w : World) : Prop where
  queued : ∀ sig ∈ w.signals, came sig
  ended : w.signalsClosed = true → closed

/-- An action delivers only signals of these. -/
structure Act.Delivers (came : Option OsSignal → Prop) (closed : Prop) (a : Act) : Prop where
  signal : ∀ sig, a = .signal sig → came sig
  closes : a = .closeSignals → closed

/-- Signals get into the channel by their own action only. -/
theorem HearsSignals.step (hears : HearsSignals came closed w) {a : Act}
    (delivers : a.Delivers came closed) : HearsSignals came closed (w.step cfg mode a) := by
  have tail : ∀ {sig signals}, w.signals = sig :: signals → ∀ s ∈ signals, came s :=
    fun eq s mem => hears.queued s (eq ▸ List.mem_cons_of_mem _ mem)
  unfold World.step
  split
  · exact hears
  · cases a with
    | signal sig =>
        refine ⟨fun s mem => ?_, hears.ended⟩
        rcases List.mem_append.mp mem with mem | mem
        · exact hears.queued s mem
        · exact delivers.signal s (by rw [List.mem_singleton.mp mem])
    | closeSignals => exact ⟨hears.queued, fun _ => delivers.closes rfl⟩
    | monitorReceives =>
        unfold World.monitorReceives
        dsimp only
        split
        · split
          next sig signals eq => exact ⟨tail eq, hears.ended⟩
          next => split <;> exact ⟨hears.queued, hears.ended⟩
        · exact hears
    | attachSelects =>
        unfold World.attachSelects
        dsimp only
        split
        · split
          next sig signals eq => exact ⟨tail eq, hears.ended⟩
          next => split <;> exact ⟨hears.queued, hears.ended⟩
        · exact hears
    | _ =>
        simp only [World.submit, World.exit, World.waitReturns, World.waitCloses,
          World.closeReader, World.monitorForwards, World.monitorCloses, World.attachPolls,
          World.attachTicks, World.attachCloses, World.reads, World.readFails, World.returns]
        repeat' split
        all_goals exact ⟨hears.queued, hears.ended⟩

/-- Why the trace ends with this status. -/
inductive Justified (mode : TargetMode) (came : Option OsSignal → Prop) (closed : Prop)
    (w : World) : WaitStatus → Prop
  | exited (all : ∀ pid ∈ mode.attachPIDs, (w.exitStatus pid).isSome = true) :
      Justified mode came closed w 0
  | closed (h : closed) : Justified mode came closed w 0
  | signal (sig : Option OsSignal) (h : came sig) :
      Justified mode came closed w (signalWaitStatus sig)

/-- What justifies a result stays true. -/
theorem Justified.step {status : WaitStatus} (justified : Justified mode came closed w status)
    (a : Act) : Justified mode came closed (w.step cfg mode a) status := by
  cases justified with
  | exited all => exact .exited fun pid mem => World.isSome_exitStatus_step a (all pid mem)
  | closed h => exact .closed h
  | signal sig h => exact .signal sig h

/-- A poll that finds no process ends the trace with 0, and `kill` fails only for processes that
have exited. -/
theorem attachPolls_justified {kill : Int64 → KillAnswer} {status : WaitStatus}
    (done : (w.attachPolls mode kill).attachDone = some status) :
    w.attachDone = some status ∨ Justified mode came closed w status := by
  unfold World.attachPolls at done
  split at done
  next may =>
    split at done
    next => exact .inl done
    next none =>
      cases done
      -- `kill` has failed for all of them, so they have exited.
      refine .inr (.exited fun pid mem => ?_)
      have answered := List.all_eq_true.mp may.2 pid mem
      have gone : (kill pid).alive = false :=
        Bool.eq_false_iff.mpr fun alive => none (List.any_eq_true.mpr ⟨pid, mem, alive⟩)
      rwa [gone, Bool.false_or] at answered
  next => exact .inl done

/-- Otherwise the result is the signal that was taken, or 0 from a closed channel. -/
theorem attachSelects_justified {status : WaitStatus} (hears : HearsSignals came closed w)
    (done : w.attachSelects.attachDone = some status) :
    w.attachDone = some status ∨ Justified mode came closed w status := by
  unfold World.attachSelects at done
  split at done
  · split at done
    next sig signals eq =>
      cases done
      exact .inr (.signal sig (hears.queued sig (eq ▸ List.mem_cons_self)))
    next =>
      split at done
      next isClosed =>
        cases done
        exact .inr (.closed (hears.ended isClosed))
      next => exact .inl done
  · exact .inl done

/-- What the goroutine has found and `Run` has returned is justified. -/
structure KnowsEnd (mode : TargetMode) (came : Option OsSignal → Prop) (closed : Prop)
    (w : World) : Prop where
  hears : HearsSignals came closed w
  found : ∀ status, w.attachDone = some status → Justified mode came closed w status
  returned : ∀ status, w.main = .returned ⟨status, []⟩ → Justified mode came closed w status

theorem knowsEnd_start : KnowsEnd mode came closed (.start cfg mode) where
  hears := ⟨fun _ mem => absurd mem List.not_mem_nil, fun isClosed => absurd isClosed nofun⟩
  found _ done := by cases done
  returned _ returned := by cases returned

/-- By cases on what the step does to the end of the run. -/
theorem KnowsEnd.step (attach : mode.isAttach = true) (knows : KnowsEnd mode came closed w)
    {a : Act} (delivers : a.Delivers came closed) :
    KnowsEnd mode came closed (w.step cfg mode a) := by
  by_cases finished : w.isOver = true
  · rwa [World.step_of_isOver finished]
  · have notReturned : ∀ result, w.main ≠ .returned result :=
      fun result returned => finished (World.isOver_iff.mpr ⟨result, returned⟩)
    -- The goroutine finds nothing that is not justified, and `Run` does not return.
    have found : (∀ status, (w.step cfg mode a).attachDone = some status →
          w.attachDone = some status ∨ Justified mode came closed w status) →
        (∀ result, (w.step cfg mode a).main ≠ .returned result) →
        KnowsEnd mode came closed (w.step cfg mode a) := by
      intro attachDone main
      refine ⟨knows.hears.step delivers, fun status done => ?_,
        fun status returned => absurd returned (main _)⟩
      rcases attachDone status done with done | justified
      · exact (knows.found status done).step a
      · exact justified.step a
    cases World.step_end cfg mode w a with
    | pollsNone kill polling ending =>
        refine found (fun status done => ?_) fun result returned =>
          notReturned result ((congrArg Ending.main ending).symm.trans returned)
        have step : w.step cfg mode (.attachPolls kill) = w.attachPolls mode kill := if_neg finished
        exact attachPolls_justified (step ▸ done)
    | attachSelects status selecting ending =>
        refine found (fun status done => ?_) fun result returned =>
          notReturned result ((congrArg Ending.main ending).symm.trans returned)
        have step : w.step cfg mode .attachSelects = w.attachSelects := if_neg finished
        exact attachSelects_justified knows.hears (step ▸ done)
    | returns closeFails result receiving done ending =>
        refine ⟨knows.hears.step delivers, fun status done => ?_, fun status returned => ?_⟩
        · exact (knows.found status
            ((congrArg Ending.attachDone ending).symm.trans done)).step _
        · rw [World.step_returns (by simpa using finished)] at returned
          exact (knows.found status (World.returns_ok_attach attach receiving returned)).step _
    | leaves proc reading isClosed ending =>
        refine found (fun status done => .inl ((congrArg Ending.attachDone ending).symm.trans done))
          fun result returned => ?_
        exact absurd ((congrArg Ending.main ending).symm.trans returned) nofun
    | beside _ ending | waitReturns _ _ _ ending | waitCloses _ ending _ | pollsSome _ _ _ ending
    | attachTicks _ ending | attachCloses _ ending _ =>
        exact found
          (fun status done => .inl ((congrArg Ending.attachDone ending).symm.trans done))
          fun result returned => notReturned result
            ((congrArg Ending.main ending).symm.trans returned)

/-- A signal ends litrace as it ends a child. -/
theorem mainEnd_signal (onSelf : Int64 → SelfSignal) {sig : UInt8}
    (small : 0 < sig ∧ sig < 127) :
    mainEnd onSelf ⟨signalWaitStatus (some (.syscall sig.toUInt64.toInt64)), []⟩ =
      (ChildEnd.killed sig false).passedOn onSelf := by
  have status : signalWaitStatus (some (.syscall sig.toUInt64.toInt64)) =
      (ChildEnd.killed sig false).status := by
    simp [signalWaitStatus, ChildEnd.status]
  have valid : (ChildEnd.killed sig false).Valid := small
  rw [status, mainEnd, if_pos rfl]
  exact exitWithWaitStatus_status onSelf valid

end

/-- `SIGINT` and `SIGTERM`, the signals that `main` asks for. -/
def notifiedSignals : List UInt8 := [2, 15]

/-- **How litrace ends in attach mode.**  If no other signals come than `main` asks for, and
`Run` returns without an error, then all attached processes have exited and litrace exits with
0, or litrace ends of a signal that has come, as for a child that it has killed. -/
theorem ends_of_signal (cfg : RunConfig) (mode : TargetMode) (attach : mode.isAttach = true)
    (as : List Act) (opened : .closeSignals ∉ as)
    (signals : ∀ sig, .signal sig ∈ as → ∃ n ∈ notifiedSignals,
      sig = some (.syscall n.toUInt64.toInt64))
    (status : WaitStatus)
    (ok : (run (World.step cfg mode) (.start cfg mode) as).main = .returned ⟨status, []⟩)
    (onSelf : Int64 → SelfSignal) :
    (mainEnd onSelf ⟨status, []⟩ = .exits 0 ∧ ∀ pid ∈ mode.attachPIDs,
        ((run (World.step cfg mode) (.start cfg mode) as).exitStatus pid).isSome = true) ∨
      ∃ n ∈ notifiedSignals, .signal (some (.syscall n.toUInt64.toInt64)) ∈ as ∧
        mainEnd onSelf ⟨status, []⟩ = (ChildEnd.killed n false).passedOn onSelf := by
  have knows : KnowsEnd mode (fun sig => .signal sig ∈ as) (.closeSignals ∈ as)
      (run (World.step cfg mode) (.start cfg mode) as) := by
    refine AllSteps.invariant_run (Q := fun _ a => a ∈ as) (fun w a knows mem => ?_)
      knowsEnd_start (allSteps_const.mpr fun _ mem => mem)
    exact knows.step attach ⟨fun sig eq => eq ▸ mem, fun eq => eq ▸ mem⟩
  cases knows.returned status ok with
  | exited all => exact .inl ⟨rfl, all⟩
  | closed h => exact absurd h opened
  | signal sig came =>
      obtain ⟨n, notified, rfl⟩ := signals sig came
      have small : 0 < n ∧ n < 127 := by
        rcases List.mem_pair.mp notified with rfl | rfl
        · decide
        · decide
      exact .inr ⟨n, notified, came, mainEnd_signal onSelf small⟩

/-- The process 100 is traced until `SIGINT` comes. -/
def interrupted : List Act :=
  [.attachPolls fun _ => .delivered, .signal (some (.syscall 2)), .attachSelects, .attachCloses,
    .reads fun _ _ => none, .returns false]

theorem ends_of_signal_interrupted :
    ∃ n ∈ notifiedSignals, .signal (some (.syscall n.toUInt64.toInt64)) ∈ interrupted ∧
      mainEnd (fun _ => .kills) ⟨2, []⟩ =
        (ChildEnd.killed n false).passedOn fun _ => .kills := by
  refine (ends_of_signal printAll ⟨0, [100]⟩ rfl interrupted ?_ ?_ 2 rfl
    fun _ => .kills).resolve_left fun h => absurd h.1 (by decide)
  · simp [interrupted]
  · intro sig mem
    have : sig = some (.syscall 2) := by simpa [interrupted] using mem
    exact ⟨2, List.mem_cons_self, this⟩

end Litrace.Trace
