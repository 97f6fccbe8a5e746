import Litrace.Trace.Pipeline

/-!
# With and without `-c`

With `-c` the loop keeps a table in place of its lines, and nothing else is different:
under the same moves the two runs have the same maps, the same parties, the same reads
and the same filter (`Twins`).  So the table counts exactly the calls for which the other
run has lines (`summary_counts_lines`).

The simulation is in lock step.  As the loop without `-c` writes while the loop with it
counts, the table can be compared with the lines at every moment, and not only at the
end.  A run that gives up on the child writes no table, although the lines are there.
-/

namespace Litrace.Trace

open Bpf Transition

/-- The configuration with and without `-c`. -/
def RunConfig.withSummary (cfg : RunConfig) (summaryOnly : Bool) : RunConfig :=
  { cfg with summaryOnly }

/-- The events of the lines on the output. -/
def lineEvents (outputs : List Output) : List Event :=
  outputs.filterMap fun output =>
    match output with
    | .line ev _ => some ev
    | _ => none

/-! ## Worlds that differ in what is recorded -/

namespace World

/-- The worlds are the same but for what the loop has recorded, and have the same filter. -/
structure Twins (w w' : World) : Prop where
  world : w' = { w with recorder := w'.recorder }
  filter : w'.recorder.filter = w.recorder.filter

/-- Before the loop nothing has been recorded. -/
theorem twins_start (cfg : RunConfig) (mode : TargetMode) (b b' : Bool) :
    Twins (.start (cfg.withSummary b) mode) (.start (cfg.withSummary b') mode) :=
  ⟨rfl, rfl⟩

section

variable {cfg cfg' : RunConfig} {mode : TargetMode} {w w' : World}

/-- The steps beside the loop do not look at what is recorded. -/
theorem step_quiet_recorder {a : Act} (quiet : a.quiet = true) (r : Recorder) :
    ({ w with recorder := r } : World).step cfg' mode a =
      { w.step cfg mode a with recorder := r } := by
  by_cases running : w.isOver = true
  · rw [step_of_isOver running]
    exact step_of_isOver (w := { w with recorder := r }) running
  · have running' : ¬ ({ w with recorder := r } : World).isOver = true := running
    unfold step
    rw [if_neg running, if_neg running']
    cases a with
    | submit => cases quiet
    | reads => cases quiet
    | readFails => cases quiet
    | returns => cases quiet
    | exit =>
        unfold exit
        dsimp only
        split <;> rfl
    | signal => rfl
    | closeSignals => rfl
    | waitReturns =>
        unfold waitReturns
        dsimp only
        split <;> rfl
    | waitCloses =>
        unfold waitCloses
        dsimp only
        split <;> rfl
    | monitorReceives =>
        unfold monitorReceives
        dsimp only
        split
        · split
          · rfl
          · split <;> rfl
        · rfl
    | monitorForwards =>
        unfold monitorForwards
        dsimp only
        split <;> rfl
    | monitorCloses =>
        unfold monitorCloses
        dsimp only
        split <;> rfl
    | attachPolls =>
        unfold attachPolls
        dsimp only
        split
        · split <;> rfl
        · rfl
    | attachSelects =>
        unfold attachSelects
        dsimp only
        split
        · split
          · rfl
          · split <;> rfl
        · rfl
    | attachTicks =>
        unfold attachTicks
        dsimp only
        split <;> rfl
    | attachCloses =>
        unfold attachCloses
        dsimp only
        split <;> rfl

end

end World

/-! ## The loop -/

section

variable {cfg cfg' : RunConfig} {mode : TargetMode} {r r' : Recorder}

/-- The filter decides before it matters what is done with the event. -/
theorem Recorder.handle_filter (sample : List UInt8) (proc : ProcCwd)
    (same : r'.filter = r.filter) :
    (r'.handle cfg' mode sample proc).filter = (r.handle cfg mode sample proc).filter := by
  have filter : ∀ (cfg : RunConfig) (r : Recorder), (r.handle cfg mode sample proc).filter =
      (decodeEvent sample).elim r.filter fun ev => (r.filter.shouldOutput proc ev).1 := by
    intro cfg r
    unfold Recorder.handle
    cases decodeEvent sample with
    | none => rfl
    | some ev =>
        dsimp only
        split
        · rfl
        · split <;> rfl
  rw [filter, filter, same]

/-- What `Run` returns does not depend on what it has recorded. -/
theorem Recorder.finishAttach_snd (status : WaitStatus) :
    (r.finishAttach cfg status).2 = ⟨status, []⟩ := by
  unfold Recorder.finishAttach
  split <;> rfl

theorem Recorder.finishAttach_filter (status : WaitStatus) :
    (r.finishAttach cfg status).1.filter = r.filter := by
  unfold Recorder.finishAttach
  split <;> rfl

/-- Neither does it in launch mode. -/
theorem Recorder.finishLaunch_snd (cfg cfg' : RunConfig) (r r' : Recorder)
    (result : ChildWaitResult) :
    (r'.finishLaunch cfg' result).2 = (r.finishLaunch cfg result).2 := by
  unfold Recorder.finishLaunch
  by_cases failed : result.err = some .other
  · rw [if_pos failed, if_pos failed]
  · rw [if_neg failed, if_neg failed]
    cases result.status with
    | none => rfl
    | some status =>
        dsimp only
        split <;> split <;> rfl

theorem Recorder.finishLaunch_filter (result : ChildWaitResult) :
    (r.finishLaunch cfg result).1.filter = r.filter := by
  unfold Recorder.finishLaunch
  split
  · rfl
  · split
    · rfl
    · split <;> rfl

end

namespace World

section

variable {cfg cfg' : RunConfig} {mode : TargetMode} {w w' : World}

/-- Both loops read the same record, and their filters decide alike. -/
theorem Twins.reads (twins : Twins w w') (proc : ProcCwd) :
    Twins (w.reads cfg mode proc) (w'.reads cfg' mode proc) := by
  obtain ⟨world, filter⟩ := twins
  generalize w'.recorder = r at world filter
  subst world
  unfold World.reads
  dsimp only
  split
  · split
    · exact ⟨rfl, filter⟩
    · split
      · exact ⟨rfl, filter⟩
      · exact ⟨rfl, Recorder.handle_filter _ proc filter⟩
  · exact ⟨rfl, filter⟩

theorem Twins.readFails (twins : Twins w w') : Twins w.readFails w'.readFails := by
  obtain ⟨world, filter⟩ := twins
  generalize w'.recorder = r at world filter
  subst world
  unfold World.readFails
  dsimp only
  split
  · exact ⟨rfl, filter⟩
  · exact ⟨rfl, filter⟩

/-- Both return at the same moment and with the same result. -/
theorem Twins.returns (twins : Twins w w') (closeFails : Bool) :
    Twins (w.returns cfg mode closeFails) (w'.returns cfg' mode closeFails) := by
  obtain ⟨world, filter⟩ := twins
  generalize w'.recorder = r at world filter
  subst world
  unfold World.returns
  dsimp only
  split
  · cases mode.isAttach with
    | true =>
        cases done : w.attachDone with
        | none => exact ⟨by simp [done], by simpa using filter⟩
        | some status =>
            refine ⟨?_, ?_⟩
            · simp [Recorder.finishAttach_snd]
            · simp [Recorder.finishAttach_filter, filter]
    | false =>
        cases done : w.launchDone with
        | none => exact ⟨by simp [done], by simpa using filter⟩
        | some result =>
            refine ⟨?_, ?_⟩
            · simp [Recorder.finishLaunch_snd cfg cfg' w.recorder r]
            · simp [Recorder.finishLaunch_filter, filter]
  · exact ⟨rfl, filter⟩

variable (cfg cfg' mode) in
/-- The twins take every step together, and read the same. -/
theorem Twins.step (twins : Twins w w') (a : Act) :
    w'.readRecords a = w.readRecords a ∧
      Twins (w.step cfg mode a) (w'.step cfg' mode a) := by
  have main : w'.main = w.main := by rw [twins.world]
  have ring : w'.ring = w.ring := by rw [twins.world]
  refine ⟨by cases a <;> simp [readRecords, main, ring], ?_⟩
  have finished : w'.isOver = w.isOver := by rw [isOver, main, isOver]
  cases running : w.isOver with
  | true =>
      rw [step_of_isOver running, step_of_isOver (finished.trans running)]
      exact twins
  | false =>
      have running' := finished.trans running
      rcases a.kinds with ⟨sample, rfl⟩ | ⟨proc, rfl⟩ | rfl | ⟨closeFails, rfl⟩ | quiet
      · rw [step_submit running, step_submit running']
        obtain ⟨world, filter⟩ := twins
        generalize w'.recorder = r at world filter
        subst world
        exact ⟨rfl, filter⟩
      · rw [step_reads running, step_reads running']
        exact twins.reads proc
      · rw [step_readFails running, step_readFails running']
        exact twins.readFails
      · rw [step_returns running, step_returns running']
        exact twins.returns closeFails
      · obtain ⟨world, filter⟩ := twins
        generalize w'.recorder = r at world filter
        subst world
        rw [step_quiet_recorder quiet r]
        refine ⟨rfl, filter.trans ?_⟩
        rw [(step_of_quiet cfg mode running quiet).recorder]

variable (cfg cfg' mode) in
/-- By induction on the actions: the twins read the same all along. -/
theorem Twins.run (twins : Twins w w') (as : List Act) :
    emitted (World.step cfg' mode) readRecords w' as =
        emitted (World.step cfg mode) readRecords w as ∧
      Twins (Transition.run (World.step cfg mode) w as)
        (Transition.run (World.step cfg' mode) w' as) := by
  induction as generalizing w w' with
  | nil => exact ⟨rfl, twins⟩
  | cons a as ih =>
      obtain ⟨read, next⟩ := twins.step cfg cfg' mode a
      obtain ⟨reads, last⟩ := ih next
      exact ⟨by rw [emitted_cons, emitted_cons, read, reads], last⟩

end

end World

/-! ## The two systems -/

section

variable {bpf : Bpf.Config} {cfg cfg' : RunConfig} {mode : TargetMode} {s s' : System}

variable (bpf) in
/-- The programs do not know of `-c`, so the same hits put the same records into both queues. -/
theorem twins_run (maps : s'.maps = s.maps) (twins : s.world.Twins s'.world)
    (moves : List Move) :
    emitted (System.step bpf cfg' mode) (System.readRecords bpf cfg' mode) s' moves =
        emitted (System.step bpf cfg mode) (System.readRecords bpf cfg mode) s moves ∧
      (run (System.step bpf cfg mode) s moves).world.Twins
        (run (System.step bpf cfg' mode) s' moves).world := by
  induction moves generalizing s s' with
  | nil => exact ⟨rfl, twins⟩
  | cons move moves ih =>
      have acts : s'.worldActs bpf move = s.worldActs bpf move := by
        cases move with
        | hit h padding => rw [System.worldActs, System.worldActs, maps]
        | act a => cases a <;> rfl
      obtain ⟨read, world⟩ := twins.run cfg cfg' mode (s.worldActs bpf move)
      have maps : (s'.step bpf cfg' mode move).maps = (s.step bpf cfg mode move).maps := by
        rw [step_maps, step_maps, maps]
      have world : (s.step bpf cfg mode move).world.Twins (s'.step bpf cfg' mode move).world := by
        rw [step_world, step_world, acts]
        exact world
      obtain ⟨reads, last⟩ := ih maps world
      refine ⟨?_, last⟩
      rw [emitted_cons, emitted_cons, reads, System.readRecords, System.readRecords, acts, read]

end

theorem lineEvents_lines (events : List Event) (rootTGID : UInt32) :
    lineEvents (events.map fun ev => .line ev rootTGID) = events := by
  rw [lineEvents, List.filterMap_map]
  simp

/-- Without `-c` the lines are there however `Run` returns. -/
theorem lineEvents_outputAfter (cfg : RunConfig) (mode : TargetMode) (result : RunResult)
    (reads : List (Record × ProcCwd)) :
    lineEvents (outputAfter (cfg.withSummary false) mode result reads) =
      accepted (cfg.withSummary false) reads := by
  have lines := lineEvents_lines (accepted (cfg.withSummary false) reads) mode.rootTGID
  have exitLine : lineEvents (if mode.isAttach then [] else [.exitLine result.status]) = [] := by
    cases mode.isAttach <;> rfl
  unfold outputAfter
  split
  next =>
    show lineEvents (List.map _ _ ++ _) = _
    rw [lineEvents, List.filterMap_append, ← lineEvents, ← lineEvents, lines, exitLine,
      List.append_nil]
  next => exact lines

/-- **The table counts the lines.**  Under the same moves `Run` returns the same with `-c`
as without it.  Until then it writes nothing with `-c`, and its table is at every moment
that of the calls for which it has written lines without it; then it writes this table,
unless it gives up on the child. -/
theorem summary_counts_lines (bpf : Bpf.Config) (cfg : RunConfig) (mode : TargetMode)
    (targets : TargetPids) (moves : List Move) :
    let table := (systemAfter bpf (cfg.withSummary true) mode targets moves).world
    let lines := (systemAfter bpf (cfg.withSummary false) mode targets moves).world
    table.main = lines.main ∧
      (lines.isOver = false → table.recorder.traceOutput = [] ∧
        table.recorder.summary = summarize (lineEvents lines.recorder.traceOutput)) ∧
      ∀ result, lines.main = .returned result → table.recorder.traceOutput =
        if result.complete then [.summary (summarize (lineEvents lines.recorder.traceOutput))]
        else [] := by
  intro table lines
  have maps : (System.start (cfg.withSummary true) mode targets).maps =
      (System.start (cfg.withSummary false) mode targets).maps := rfl
  have start : (System.start (cfg.withSummary false) mode targets).world.Twins
      (System.start (cfg.withSummary true) mode targets).world :=
    World.twins_start cfg mode false true
  obtain ⟨reads, twins⟩ := twins_run bpf maps start moves
  replace reads : recordsIn bpf (cfg.withSummary true) mode targets moves =
      recordsIn bpf (cfg.withSummary false) mode targets moves := reads
  have world : table = { lines with recorder := table.recorder } := twins.world
  have main : table.main = lines.main := by rw [world]
  have recorded : Recorded (cfg.withSummary false) mode _ lines := recorded_system
  have recorded' : Recorded (cfg.withSummary true) mode _ table := recorded_system
  rw [reads] at recorded'
  refine ⟨main, fun running => ?_, fun result returned => ?_⟩
  · obtain ⟨-, -, written⟩ := recorded.loop running
    have running' : table.isOver = false := by
      rw [World.isOver, main]
      exact running
    obtain ⟨-, summary, unwritten⟩ := recorded'.loop running'
    refine ⟨unwritten, summary.trans ?_⟩
    rw [written]
    -- What is accepted does not depend on `-c`.
    exact congrArg summarize (lineEvents_lines (accepted (cfg.withSummary false) _) _).symm
  · rw [recorded.returned result returned, recorded'.returned result (main.trans returned),
      lineEvents_outputAfter]
    rfl

end Litrace.Trace
