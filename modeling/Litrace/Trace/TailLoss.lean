import Litrace.Trace.RunSteps

/-!
# The tail of a trace

The reader is closed as soon as a monitor has seen the end of the trace, with whatever
is then in the ring buffer: no party drains it.  In launch mode the first signal closes
the reader as well, and the child may live on.

So records submitted before the last target process exited can be lost.  None is exactly
when the reader has caught up with them whenever it is closed, and none comes between
the closing and the exit (`noTailLoss_iff_caughtUp`).  A child that exits while one of
its records is unread is enough to lose it (`unread_at_exit_is_lost`).

What is read is accounted for without fault: the loop keeps lines or the summary of
the accepted events (`Recorded`), and `Run` returns with that.

A record is early if it was submitted while a target process lived.  The condition is
about the moments at which the reader is closed and records are put, and not about what
is read in the end, so that it can be checked along a run.  A `Run` that ends with an
error is covered by `Recorded`: what it has written is what it has read.
-/

namespace Litrace.Trace

open ClosableQueue Transition

/-! ## What is written -/

/-- The events that were read, as the filter meets them; records that do not decode are
left out. -/
def arrivals (reads : List (Record × ProcCwd)) : List Arrival :=
  reads.filterMap fun read => (decodeEvent read.1.sample).map fun ev => ⟨ev, read.2⟩

/-- The events the filter accepts. -/
def accepted (cfg : RunConfig) (reads : List (Record × ProcCwd)) : List Event :=
  printed (newPathFilter cfg.toConfig) (arrivals reads)

/-- What is on `TraceOutput` when `Run` returns: the accepted events are all there, as
lines or in the summary. -/
def outputOf (cfg : RunConfig) (mode : TargetMode) (status : WaitStatus)
    (reads : List (Record × ProcCwd)) : List Output :=
  if cfg.summaryOnly then [.summary (summarize (accepted cfg reads))]
  else
    ((accepted cfg reads).map fun ev => .line ev mode.rootTGID) ++
      if mode.isAttach then [] else [.exitLine status]

/-- `Run` has come to its last write: of its errors only that of `handle.Close` comes later. -/
def RunResult.complete (result : RunResult) : Bool :=
  result.errs.all fun err => decide (err = .closeHandle)

/-- What is on `TraceOutput` when `Run` has returned.  If it gives up on the child, that is
what the loop has written. -/
def outputAfter (cfg : RunConfig) (mode : TargetMode) (result : RunResult)
    (reads : List (Record × ProcCwd)) : List Output :=
  if result.complete then outputOf cfg mode result.status reads
  else if cfg.summaryOnly then []
  else (accepted cfg reads).map fun ev => .line ev mode.rootTGID

/-- The variables of the loop account for the records read so far. -/
structure Recorder.Accounts (cfg : RunConfig) (mode : TargetMode)
    (reads : List (Record × ProcCwd)) (r : Recorder) : Prop where
  filter : r.filter = run PathFilter.next (newPathFilter cfg.toConfig) (arrivals reads)
  summary : r.summary = if cfg.summaryOnly then summarize (accepted cfg reads) else ∅
  traceOutput : r.traceOutput =
    if cfg.summaryOnly then [] else (accepted cfg reads).map fun ev => .line ev mode.rootTGID

section

variable {cfg : RunConfig} {mode : TargetMode} {reads : List (Record × ProcCwd)}

theorem accounts_start : (Recorder.start cfg mode).Accounts cfg mode [] where
  filter := rfl
  summary := (ite_self _).symm
  traceOutput := (ite_self _).symm

/-- A record that does not decode is skipped. -/
theorem arrivals_undecoded {record : Record} {proc : ProcCwd}
    (undecoded : decodeEvent record.sample = none) :
    arrivals (reads ++ [(record, proc)]) = arrivals reads := by
  simp [arrivals, undecoded]

/-- The filter meets one more event. -/
theorem arrivals_decoded {record : Record} {proc : ProcCwd} {ev : Event}
    (decoded : decodeEvent record.sample = some ev) :
    arrivals (reads ++ [(record, proc)]) = arrivals reads ++ [⟨ev, proc⟩] := by
  simp [arrivals, decoded]

/-- It decides in the state that all earlier events have left it in. -/
theorem accepted_decoded {record : Record} {proc : ProcCwd} {ev : Event} {filter : PathFilter}
    (decoded : decodeEvent record.sample = some ev)
    (reached : filter = run PathFilter.next (newPathFilter cfg.toConfig) (arrivals reads)) :
    accepted cfg (reads ++ [(record, proc)]) =
      accepted cfg reads ++ if (filter.shouldOutput proc ev).2 then [ev] else [] := by
  rw [accepted, printed, arrivals_decoded decoded, emitted_append, emitted_cons, emitted_nil,
    List.append_nil, ← reached]
  rfl

theorem Recorder.Accounts.handle {r : Recorder} (accounts : r.Accounts cfg mode reads)
    (record : Record) (proc : ProcCwd) :
    (r.handle cfg mode record.sample proc).Accounts cfg mode (reads ++ [(record, proc)]) := by
  unfold Recorder.handle
  cases decoded : decodeEvent record.sample with
  | none =>
      have skipped : arrivals (reads ++ [(record, proc)]) = arrivals reads :=
        arrivals_undecoded decoded
      have same : accepted cfg (reads ++ [(record, proc)]) = accepted cfg reads := by
        rw [accepted, skipped, accepted]
      exact ⟨by rw [skipped]; exact accounts.filter, by rw [same]; exact accounts.summary,
        by rw [same]; exact accounts.traceOutput⟩
  | some ev =>
      have filter : (r.filter.shouldOutput proc ev).1 =
          run PathFilter.next (newPathFilter cfg.toConfig)
            (arrivals (reads ++ [(record, proc)])) := by
        rw [arrivals_decoded decoded, run_concat, ← accounts.filter]
        rfl
      have grown : accepted cfg (reads ++ [(record, proc)]) = accepted cfg reads ++
          if (r.filter.shouldOutput proc ev).2 then [ev] else [] :=
        accepted_decoded decoded accounts.filter
      dsimp only
      cases decision : (r.filter.shouldOutput proc ev).2 with
      | false =>
          rw [decision, if_neg Bool.false_ne_true, List.append_nil] at grown
          rw [if_pos rfl]
          exact ⟨filter, by rw [grown]; exact accounts.summary,
            by rw [grown]; exact accounts.traceOutput⟩
      | true =>
          rw [decision, if_pos rfl] at grown
          rw [if_neg Bool.false_ne_true.symm]
          have summary := accounts.summary
          have traceOutput := accounts.traceOutput
          cases mine : cfg.summaryOnly with
          | true =>
              rw [mine, if_pos rfl] at summary traceOutput
              refine ⟨filter, ?_, ?_⟩
              · rw [mine, if_pos rfl, if_pos rfl, grown, summarize, List.foldl_append]
                show addSummaryEvent r.summary ev = addSummaryEvent (summarize _) ev
                rw [summary]
              · rw [mine, if_pos rfl, if_pos rfl]
                exact traceOutput
          | false =>
              rw [mine, if_neg Bool.false_ne_true] at summary traceOutput
              refine ⟨filter, ?_, ?_⟩
              · rw [mine, if_neg Bool.false_ne_true, if_neg Bool.false_ne_true]
                exact summary
              · rw [mine, if_neg Bool.false_ne_true, if_neg Bool.false_ne_true, grown,
                  List.map_append, ← traceOutput]
                rfl

/-- With the summary, what is written at the end is the summary of the accepted events;
without it, the lines written before, and the exit line of a child. -/
theorem Recorder.Accounts.finish {r : Recorder} (accounts : r.Accounts cfg mode reads)
    (status : WaitStatus) :
    (if cfg.summaryOnly then r.traceOutput ++ [.summary r.summary]
      else r.traceOutput ++ if mode.isAttach then [] else [.exitLine status]) =
      outputOf cfg mode status reads := by
  rw [accounts.traceOutput, accounts.summary]
  unfold outputOf
  split
  · rfl
  · rfl

theorem Recorder.Accounts.finishAttach {r : Recorder} (accounts : r.Accounts cfg mode reads)
    (attach : mode.isAttach = true) (status : WaitStatus) :
    (r.finishAttach cfg status).1.traceOutput =
      outputAfter cfg mode (r.finishAttach cfg status).2 reads := by
  have written := accounts.finish status
  rw [attach, if_pos rfl, List.append_nil] at written
  unfold Recorder.finishAttach
  cases mine : cfg.summaryOnly with
  | true =>
      rw [mine, if_pos rfl] at written
      exact written
  | false =>
      rw [mine, if_neg Bool.false_ne_true] at written
      exact written

theorem Recorder.Accounts.finishLaunch {r : Recorder} (accounts : r.Accounts cfg mode reads)
    (launch : mode.isAttach = false) (result : ChildWaitResult) :
    (r.finishLaunch cfg result).1.traceOutput =
      outputAfter cfg mode (r.finishLaunch cfg result).2 reads := by
  unfold Recorder.finishLaunch
  split
  next => exact accounts.traceOutput
  next =>
    cases result.status with
    | none => exact accounts.traceOutput
    | some status =>
        have written := accounts.finish status
        rw [launch, if_neg Bool.false_ne_true] at written
        cases mine : cfg.summaryOnly with
        | true =>
            rw [mine, if_pos rfl] at written
            exact written
        | false =>
            rw [mine, if_neg Bool.false_ne_true] at written
            exact written

/-- The error of `handle.Close` comes after the last write. -/
theorem outputAfter_deferClose (result : RunResult) (closeFails : Bool) :
    outputAfter cfg mode (result.deferClose closeFails) reads =
      outputAfter cfg mode result reads := by
  unfold RunResult.deferClose
  split
  next =>
    have complete : RunResult.complete { result with errs := result.errs ++ [.closeHandle] } =
        result.complete := by
      simp [RunResult.complete]
    rw [outputAfter, complete, outputAfter]
  next => rfl

/-- Without an error at the end, there was none before. -/
theorem RunResult.deferClose_eq {result : RunResult} {closeFails : Bool} {status : WaitStatus}
    (h : result.deferClose closeFails = ⟨status, []⟩) : result = ⟨status, []⟩ := by
  unfold RunResult.deferClose at h
  split at h
  · have errs : result.errs ++ [.closeHandle] = [] := congrArg RunResult.errs h
    exact absurd errs (List.concat_ne_nil _ _)
  · exact h

/-- What is recorded after a run, in and behind the loop. -/
structure Recorded (cfg : RunConfig) (mode : TargetMode) (reads : List (Record × ProcCwd))
    (w : World) : Prop where
  loop : w.isOver = false → w.recorder.Accounts cfg mode reads
  returned : ∀ result, w.main = .returned result →
    w.recorder.traceOutput = outputAfter cfg mode result reads
  left : w.main ≠ .reading → w.ring.closed = true

theorem recorded_start : Recorded cfg mode [] (.start cfg mode) where
  loop _ := accounts_start
  returned _ h := by cases h
  left h := absurd rfl h

variable {w : World}

theorem Recorded.output {status : WaitStatus} (recorded : Recorded cfg mode reads w)
    (returned : w.main = .returned ⟨status, []⟩) :
    w.recorder.traceOutput = outputOf cfg mode status reads := recorded.returned _ returned

/-- A step that neither reads nor returns leaves what is recorded alone. -/
theorem Recorded.of_same {w' : World} (before : Recorded cfg mode reads w)
    (main : w'.main = w.main) (recorder : w'.recorder = w.recorder)
    (closed : w.ring.closed = true → w'.ring.closed = true) : Recorded cfg mode reads w' where
  loop running := by
    rw [recorder]
    rw [World.isOver, main] at running
    exact before.loop running
  returned result h := by
    rw [recorder]
    exact before.returned result (main.symm.trans h)
  left h := closed (before.left (main ▸ h))

theorem Recorded.reads_step (before : Recorded cfg mode reads w) (proc : ProcCwd) :
    Recorded cfg mode (reads ++ w.readRecords (.reads proc)) (w.reads cfg mode proc) := by
  unfold World.reads World.readRecords
  dsimp only
  by_cases reading : w.main = .reading
  · have running := World.isOver_of_reading reading
    rw [if_pos reading]
    cases closed : w.ring.closed with
    | true =>
        rw [if_pos rfl, if_neg fun both => absurd both.2 Bool.false_ne_true.symm,
          List.append_nil]
        exact ⟨fun _ => before.loop running, nofun, fun _ => closed⟩
    | false =>
        rw [if_neg Bool.false_ne_true, if_pos ⟨reading, rfl⟩]
        cases hitems : w.ring.items with
        | nil =>
            show Recorded cfg mode (reads ++ []) w
            rw [List.append_nil]
            exact before
        | cons record items =>
            show Recorded cfg mode (reads ++ [(record, proc)]) _
            refine ⟨fun _ => (before.loop running).handle record proc, fun result h => ?_,
              fun h => absurd reading h⟩
            rw [show w.main = _ from h] at reading
            cases reading
  · rw [if_neg reading, if_neg fun both => reading both.1, List.append_nil]
    exact before

theorem Recorded.readFails_step (before : Recorded cfg mode reads w) :
    Recorded cfg mode reads w.readFails := by
  unfold World.readFails
  split
  next failed =>
    -- A failed read is a line on `Stderr`, and nothing else.
    obtain ⟨filter, summary, traceOutput⟩ := before.loop (World.isOver_of_reading failed.1)
    refine ⟨fun _ => ⟨filter, summary, traceOutput⟩, fun result h => ?_,
      fun h => absurd failed.1 h⟩
    rw [show w.main = _ from h] at failed
    cases failed.1
  next => exact before

/-- `Run` returns what the loop has accounted for. -/
theorem Recorded.returns_step (before : Recorded cfg mode reads w) (closeFails : Bool) :
    Recorded cfg mode reads (w.returns cfg mode closeFails) := by
  unfold World.returns
  split
  next receiving =>
    have left : w.main ≠ .reading := by
      rw [receiving]
      simp
    have closed : w.ring.closed = true := before.left left
    have running : w.isOver = false := by rw [World.isOver, receiving]
    have accounts := before.loop running
    dsimp only
    split
    · exact before
    · next recorder result finished =>
        refine ⟨fun running => absurd running (by simp [World.isOver]), fun last h => ?_,
          fun _ => closed⟩
        obtain rfl : result.deferClose closeFails = last := Main.returned.inj h
        rw [outputAfter_deferClose]
        show recorder.traceOutput = _
        cases attach : mode.isAttach with
        | true =>
            rw [attach, if_pos rfl] at finished
            obtain ⟨status, -, done⟩ := Option.map_eq_some_iff.mp finished
            have output := accounts.finishAttach attach status
            rwa [done] at output
        | false =>
            rw [attach, if_neg Bool.false_ne_true] at finished
            obtain ⟨waited, -, done⟩ := Option.map_eq_some_iff.mp finished
            have output := accounts.finishLaunch attach waited
            rwa [done] at output
  next => exact before

theorem Recorded.step (before : Recorded cfg mode reads w) (a : Act) :
    Recorded cfg mode (reads ++ w.readRecords a) (w.step cfg mode a) := by
  -- Only a round of the loop reads, and only before the end.
  have unread : (∀ proc, a ≠ .reads proc) → w.readRecords a = [] := by
    intro notReads
    cases a with
    | reads proc => exact absurd rfl (notReads proc)
    | _ => rfl
  cases running : w.isOver with
  | true =>
      have none : w.readRecords a = [] := by
        cases a with
        | reads proc =>
            refine if_neg fun both => ?_
            rw [World.isOver_of_reading both.1] at running
            cases running
        | _ => rfl
      rw [World.step_of_isOver running, none, List.append_nil]
      exact before
  | false =>
      rcases a.kinds with ⟨sample, rfl⟩ | ⟨proc, rfl⟩ | rfl | ⟨closeFails, rfl⟩ | quiet
      · rw [World.step_submit running, unread nofun, List.append_nil]
        exact before.of_same rfl rfl fun h => h
      · rw [World.step_reads running]
        exact before.reads_step proc
      · rw [World.step_readFails running, unread nofun, List.append_nil]
        exact before.readFails_step
      · rw [World.step_returns running, unread nofun, List.append_nil]
        exact before.returns_step closeFails
      · obtain ⟨main, recorder, ring⟩ :=
          World.step_of_quiet cfg mode running quiet
        rw [unread (by rintro proc rfl; cases quiet), List.append_nil]
        refine before.of_same main recorder fun h => ?_
        rw [ring]
        split
        · rfl
        · exact h

/-! ## Runs -/

section

variable (cfg : RunConfig) (mode : TargetMode) (as : List Act)

/-- The records submitted in a run, in order. -/
def submittedIn : List Record :=
  emitted (World.step cfg mode) (World.submitted mode) (.start cfg mode) as

/-- The records read in a run, in order, and what `/proc` says meanwhile. -/
def readIn : List (Record × ProcCwd) :=
  emitted (World.step cfg mode) World.readRecords (.start cfg mode) as

/-- The operations on the ring buffer. -/
def ringOpsIn : List (Op Record) :=
  emitted (World.step cfg mode) (World.ringOps mode) (.start cfg mode) as

end

section

variable {cfg : RunConfig} {mode : TargetMode} {as : List Act}

theorem recorded_run : Recorded cfg mode (readIn cfg mode as)
    (run (World.step cfg mode) (.start cfg mode) as) := by
  induction as using List.reverseRecOn with
  | nil => exact recorded_start
  | append_singleton as a ih =>
      rw [readIn, emitted_append, run_concat, emitted_cons, emitted_nil, List.append_nil]
      exact ih.step a

theorem ring_run : (run (World.step cfg mode) (.start cfg mode) as).ring =
    run Queue.step Queue.empty (ringOpsIn cfg mode as) :=
  run_part (World.step_ring cfg mode) (.start cfg mode) as

theorem submittedIn_eq :
    submittedIn cfg mode as = emitted Queue.step Queue.put .empty (ringOpsIn cfg mode as) := by
  refine Eq.trans ?_ (emitted_part (World.step_ring cfg mode) Queue.put (.start cfg mode) as).symm
  rw [submittedIn]
  congr 1
  funext w a
  exact World.submitted_eq w a

theorem readIn_eq : (readIn cfg mode as).map Prod.fst =
    emitted Queue.step Queue.taken .empty (ringOpsIn cfg mode as) := by
  refine Eq.trans ?_ (emitted_part (World.step_ring cfg mode) Queue.taken (.start cfg mode) as).symm
  rw [readIn, map_emitted]
  congr 1
  funext w a
  exact World.readRecords_eq w a

theorem caughtUp_run : AllSteps (World.step cfg mode) (World.CaughtUp mode) (.start cfg mode) as ↔
    AllSteps Queue.step (Queue.InTime Record.early) .empty (ringOpsIn cfg mode as) := by
  refine Iff.trans ?_ (allSteps_part (World.step_ring cfg mode) _ (.start cfg mode) as).symm
  rw [show World.CaughtUp mode = fun w a => AllSteps Queue.step (Queue.InTime Record.early) w.ring
    (w.ringOps mode a) from funext fun w => funext fun a => propext (World.caughtUp_iff w a)]

/-- **The tail of a trace.**  When `Run` returns without an error, all records submitted
before the last target process exited have been read, and those that decode and are
accepted are on its output, exactly when the reader has caught up in every step. -/
theorem noTailLoss_iff_caughtUp (cfg : RunConfig) (mode : TargetMode) (as : List Act)
    (status : WaitStatus)
    (returned : (run (World.step cfg mode) (.start cfg mode) as).main =
      .returned ⟨status, []⟩) :
    ((submittedIn cfg mode as).filter Record.early =
        ((readIn cfg mode as).map Prod.fst).filter Record.early ∧
      (run (World.step cfg mode) (.start cfg mode) as).recorder.traceOutput =
        outputOf cfg mode status (readIn cfg mode as)) ↔
      AllSteps (World.step cfg mode) (World.CaughtUp mode) (.start cfg mode) as := by
  have recorded : Recorded cfg mode (readIn cfg mode as) _ := recorded_run
  -- `Run` leaves its loop only when the reader is closed.
  have left : (run Queue.step .empty (ringOpsIn cfg mode as)).closed = true := by
    rw [← ring_run]
    exact recorded.left (by rw [returned]; exact nofun)
  rw [and_iff_left (recorded.output returned), submittedIn_eq, readIn_eq, caughtUp_run]
  exact Queue.filter_taken_iff left

end

end

/-! ## Two runs -/

/-- All syscalls are traced and printed. -/
def printAll : RunConfig := ⟨⟨false, ∅, []⟩, false⟩

/-- The child 100 is launched. -/
def launch100 : TargetMode := ⟨100, []⟩

/-- The child submits a record and exits, and the end of the trace comes before the
reader, or after it. -/
def submitAndExit (inTime : Bool) : List Act :=
  let read : Act := .reads fun _ _ => none
  [.submit (List.replicate 664 0)] ++ (if inTime then [read] else []) ++
    [.exit 100 0, .waitReturns ⟨none, some 0⟩, .waitCloses, read, .returns false]

theorem unread_at_exit_is_lost :
    (run (World.step printAll launch100) (.start printAll launch100)
        (submitAndExit false)).main = .returned ⟨0, []⟩ ∧
      (submittedIn printAll launch100 (submitAndExit false)).filter Record.early ≠
        ((readIn printAll launch100 (submitAndExit false)).map Prod.fst).filter
          Record.early := by
  refine ⟨rfl, ?_⟩
  have submitted : submittedIn printAll launch100 (submitAndExit false) =
      [⟨List.replicate 664 0, true⟩] := rfl
  have unread : readIn printAll launch100 (submitAndExit false) = [] := rfl
  rw [submitted, unread]
  exact List.cons_ne_nil _ _

theorem noTailLoss_iff_caughtUp_inTime :
    (submittedIn printAll launch100 (submitAndExit true)).filter Record.early =
        ((readIn printAll launch100 (submitAndExit true)).map Prod.fst).filter Record.early ∧
      (run (World.step printAll launch100) (.start printAll launch100)
          (submitAndExit true)).recorder.traceOutput =
        outputOf printAll launch100 0 (readIn printAll launch100 (submitAndExit true)) := by
  refine (noTailLoss_iff_caughtUp printAll launch100 (submitAndExit true) 0 rfl).mpr ?_
  refine ⟨⟨nofun, nofun⟩, ⟨nofun, nofun⟩, ⟨nofun, nofun⟩, ⟨nofun, nofun⟩, ⟨?_, nofun⟩,
    ⟨nofun, nofun⟩, ⟨nofun, nofun⟩, trivial⟩
  exact fun _ _ _ record mem => absurd mem List.not_mem_nil

end Litrace.Trace
