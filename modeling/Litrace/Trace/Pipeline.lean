import Litrace.Bpf.FilteredEvents
import Litrace.Trace.TailLoss
import Litrace.WireFormat

/-!
# From the kernel to the output

The BPF programs and `Run` as one machine.  A program that is hit works on its maps, and
the event it submits lies in the ring buffer as the compiler lays out `struct event`; all
other steps are those of the parties of a run.  Hits and steps come in any order.

A system step makes steps of the world (`worldActs`) and of the maps (`Move.hits`), so
what is known about either holds here.  Between them nothing is made up, changed,
doubled or swapped: what the loop has read and what still waits is what the programs
submitted, field by field and in order (`submitted_accounted`).
-/

namespace Litrace.Trace

open Bpf ClosableQueue Transition

/-! ## The system -/

/-- A hit of a BPF program, with what the padding of `struct event` holds, or a step of
another party. -/
inductive Move where
  | hit (h : Hit) (padding : ℕ → UInt8)
  | act (a : Act)

/-- The maps of the programs and the world of `Run`. -/
structure System where
  maps : Maps
  world : World

/-- The hits among the moves. -/
def Move.hits : Move → List Hit
  | .hit h _ => [h]
  | .act _ => []

def hitsIn (moves : List Move) : List Hit := moves.flatMap Move.hits

/-- The bytes of an event in the ring buffer. -/
def sampleOf (padding : ℕ → UInt8) (ev : Event) : List UInt8 := eventLayout.encode padding 0 ev

namespace System

section

variable (bpf : Bpf.Config) (cfg : RunConfig) (mode : TargetMode)

def start (targets : TargetPids) : System := ⟨.load targets, .start cfg mode⟩

/-- What a move is for `Run`.  Records come from the programs alone. -/
def worldActs (s : System) : Move → List Act
  | .hit h padding =>
      (submitted bpf s.maps h).toList.map fun ev => .submit (sampleOf padding ev)
  | .act (.submit _) => []
  | .act a => [a]

def step (s : System) (move : Move) : System where
  maps := run (Bpf.step bpf) s.maps move.hits
  world := run (World.step cfg mode) s.world (s.worldActs bpf move)

/-- The record a move reads, and what `/proc` says meanwhile. -/
def readRecords (s : System) (move : Move) : List (Record × ProcCwd) :=
  emitted (World.step cfg mode) World.readRecords s.world (s.worldActs bpf move)

/-- The events that wait in the ring buffer. -/
def waiting (s : System) : List Event :=
  s.world.ring.items.filterMap fun record => decodeEvent record.sample

end

end System

section

variable (bpf : Bpf.Config) (cfg : RunConfig) (mode : TargetMode) (targets : TargetPids)
  (moves : List Move)

/-- The system after a run. -/
def systemAfter : System := run (System.step bpf cfg mode) (.start cfg mode targets) moves

/-- The steps of the world in a run of the system. -/
def actsIn : List Act :=
  emitted (System.step bpf cfg mode) (System.worldActs bpf) (.start cfg mode targets) moves

/-- The records the loop reads in a run, in order. -/
def recordsIn : List (Record × ProcCwd) :=
  emitted (System.step bpf cfg mode) (System.readRecords bpf cfg mode)
    (.start cfg mode targets) moves

/-- The events the loop meets. -/
def seenIn : List Arrival := arrivals (recordsIn bpf cfg mode targets moves)

end

/-! ## Its parts -/

section

variable {bpf : Bpf.Config} {cfg : RunConfig} {mode : TargetMode} {targets : TargetPids}
  {moves : List Move}

theorem step_maps (bpf : Bpf.Config) (cfg : RunConfig) (mode : TargetMode) (s : System)
    (move : Move) : (s.step bpf cfg mode move).maps = run (Bpf.step bpf) s.maps move.hits :=
  rfl

theorem step_world (bpf : Bpf.Config) (cfg : RunConfig) (mode : TargetMode) (s : System)
    (move : Move) : (s.step bpf cfg mode move).world =
      run (World.step cfg mode) s.world (s.worldActs bpf move) :=
  rfl

theorem systemAfter_world : (systemAfter bpf cfg mode targets moves).world =
    run (World.step cfg mode) (.start cfg mode) (actsIn bpf cfg mode targets moves) :=
  run_part (step_world bpf cfg mode) (.start cfg mode targets) moves

theorem recordsIn_eq : recordsIn bpf cfg mode targets moves =
    readIn cfg mode (actsIn bpf cfg mode targets moves) :=
  (emitted_part (step_world bpf cfg mode) World.readRecords (.start cfg mode targets)
    moves).symm

/-- What the programs submit, move by move. -/
theorem submittedEvents_eq : submittedEvents bpf (.load targets) (hitsIn moves) =
    emitted (System.step bpf cfg mode)
      (fun s move => submittedEvents bpf s.maps move.hits) (.start cfg mode targets) moves := by
  have parts := emitted_part (step_maps bpf cfg mode)
    (fun m h => (submitted bpf m h).toList) (.start cfg mode targets) moves
  rwa [emitted_const] at parts

/-! ## What is submitted reaches the loop -/

/-- What lies in the ring buffer is what was submitted. -/
theorem decodeEvent_sampleOf (padding : ℕ → UInt8) (ev : Event) :
    decodeEvent (sampleOf padding ev) = some ev := by
  rw [decodeEvent_eq_some_iff, sampleOf, decodeEventResult, readEvent_encode]

theorem World.isOver_step {w : World} (a : Act) (finished : w.isOver = true) :
    (w.step cfg mode a).isOver = true := by
  rwa [step_of_isOver finished]

theorem isOver_run {w : World} (as : List Act) (finished : w.isOver = true) :
    (run (World.step cfg mode) w as).isOver = true := by
  induction as generalizing w with
  | nil => exact finished
  | cons a as ih => exact ih (World.isOver_step a finished)

theorem isOver_step (bpf : Bpf.Config) (cfg : RunConfig) (mode : TargetMode) (s : System)
    (move : Move) (finished : s.world.isOver = true) :
    (s.step bpf cfg mode move).world.isOver = true :=
  isOver_run (s.worldActs bpf move) finished

/-- The records a move puts into the ring buffer. -/
def System.putRecords (s : System) (bpf : Bpf.Config) (cfg : RunConfig) (mode : TargetMode)
    (move : Move) : List Record :=
  emitted (World.step cfg mode) (World.submitted mode) s.world (s.worldActs bpf move)

/-- The records of a move decode to what the programs submit in it. -/
theorem decode_putRecords (s : System) (move : Move) :
    (s.putRecords bpf cfg mode move).map (fun record => decodeEvent record.sample) =
      if s.world.isOver then [] else (submittedEvents bpf s.maps move.hits).map some := by
  cases move with
  | hit h padding =>
      rw [System.putRecords, System.worldActs, Move.hits, submittedEvents, emitted_cons,
        emitted_nil, List.append_nil]
      cases event : submitted bpf s.maps h with
      | none => simp
      | some ev =>
          cases finished : s.world.isOver with
          | true => simp [World.submitted, finished]
          | false => simp [World.submitted, finished, decodeEvent_sampleOf]
  | act a =>
      have silent : s.putRecords bpf cfg mode (.act a) = [] := by
        cases a with
        | submit sample => rfl
        | _ =>
            rw [System.putRecords]
            exact List.append_eq_nil_iff.mpr ⟨ite_self _, rfl⟩
      rw [silent]
      simp [Move.hits, submittedEvents]

/-- What is submitted in a run, move by move. -/
theorem submittedIn_actsIn : submittedIn cfg mode (actsIn bpf cfg mode targets moves) =
    emitted (System.step bpf cfg mode) (fun s move => s.putRecords bpf cfg mode move)
      (.start cfg mode targets) moves :=
  emitted_part (step_world bpf cfg mode) (World.submitted mode) (.start cfg mode targets) moves

/-- What lies in the ring buffer decodes. -/
theorem exists_decodeEvent {record : Record}
    (h : record ∈ submittedIn cfg mode (actsIn bpf cfg mode targets moves)) :
    ∃ ev, decodeEvent record.sample = some ev := by
  rw [submittedIn_actsIn] at h
  obtain ⟨pre, move, post, -, hput⟩ := mem_emitted h
  have decoded := List.mem_map_of_mem (f := fun record => decodeEvent record.sample) hput
  rw [decode_putRecords] at decoded
  split at decoded
  · cases decoded
  · obtain ⟨ev, -, hev⟩ := List.mem_map.mp decoded
    exact ⟨ev, hev.symm⟩

/-- The records that were put are read, in order, up to those that wait. -/
theorem submittedIn_split (as : List Act) : submittedIn cfg mode as =
    (readIn cfg mode as).map Prod.fst ++
      (run (World.step cfg mode) (.start cfg mode) as).ring.items := by
  rw [submittedIn_eq, readIn_eq, ring_run]
  exact Queue.conservation .empty (ringOpsIn cfg mode as)

theorem arrivals_map_ev (reads : List (Record × ProcCwd)) :
    (arrivals reads).map Arrival.ev =
      (reads.map Prod.fst).filterMap fun record => decodeEvent record.sample := by
  induction reads with
  | nil => rfl
  | cons read reads ih =>
      cases h : decodeEvent read.1.sample <;> simpa [arrivals, h] using ih

variable (bpf cfg mode targets moves) in
/-- What the programs submit is what the loop has seen and what waits, and no more unless
`Run` has returned. -/
theorem submitted_accounted :
    ∃ late, (seenIn bpf cfg mode targets moves).map Arrival.ev ++
          (systemAfter bpf cfg mode targets moves).waiting ++ late =
        submittedEvents bpf (.load targets) (hitsIn moves) ∧
      ((systemAfter bpf cfg mode targets moves).world.isOver = false → late = []) := by
  obtain ⟨late, split, all⟩ := emitted_of_stops (isOver_step bpf cfg mode)
    decode_putRecords (.start cfg mode targets) moves
  have decoded := congrArg (List.filterMap id) split
  rw [← map_emitted, ← map_emitted, ← submittedIn_actsIn, ← submittedEvents_eq,
    List.filterMap_append, List.filterMap_map, List.filterMap_map, submittedIn_split,
    List.filterMap_append] at decoded
  refine ⟨late.filterMap id, ?_, fun running => by rw [all running, List.filterMap_nil]⟩
  rw [seenIn, arrivals_map_ev, recordsIn_eq, System.waiting, systemAfter_world]
  simpa using decoded

/-! ## What the loop makes of it -/

theorem finishAttach_stderr (cfg : RunConfig) (r : Recorder) (status : WaitStatus) :
    (r.finishAttach cfg status).1.stderr = r.stderr := by
  unfold Recorder.finishAttach
  split <;> rfl

theorem finishLaunch_stderr (cfg : RunConfig) (r : Recorder) (result : ChildWaitResult) :
    (r.finishLaunch cfg result).1.stderr = r.stderr := by
  unfold Recorder.finishLaunch
  split
  · rfl
  · split
    · rfl
    · split <;> rfl

theorem returns_stderr (w : World) (closeFails : Bool) :
    (w.returns cfg mode closeFails).recorder.stderr = w.recorder.stderr := by
  unfold World.returns
  split
  next =>
    dsimp only
    split
    next => rfl
    next recorder result finished =>
      show recorder.stderr = _
      cases attach : mode.isAttach with
      | true =>
          rw [attach, if_pos rfl] at finished
          obtain ⟨status, -, done⟩ := Option.map_eq_some_iff.mp finished
          have same := finishAttach_stderr cfg w.recorder status
          rwa [done] at same
      | false =>
          rw [attach, if_neg Bool.false_ne_true] at finished
          obtain ⟨waited, -, done⟩ := Option.map_eq_some_iff.mp finished
          have same := finishLaunch_stderr cfg w.recorder waited
          rwa [done] at same
  next => rfl

/-- A record that decodes gives no complaint. -/
theorem handle_stderr {r : Recorder} {sample : List UInt8} (proc : ProcCwd) {ev : Event}
    (h : decodeEvent sample = some ev) : (r.handle cfg mode sample proc).stderr = r.stderr := by
  unfold Recorder.handle
  rw [h]
  dsimp only
  split
  · rfl
  · split <;> rfl

theorem decodingEvent_reads {w : World} {proc : ProcCwd}
    (h : .decodingEvent ∈ (w.reads cfg mode proc).recorder.stderr) :
    .decodingEvent ∈ w.recorder.stderr ∨
      ∃ read ∈ w.readRecords (.reads proc), decodeEvent read.1.sample = none := by
  by_cases reading : w.main = .reading
  · rw [World.reads, if_pos reading] at h
    cases closed : w.ring.closed with
    | true =>
        rw [closed, if_pos rfl] at h
        exact .inl h
    | false =>
        rw [closed, if_neg Bool.false_ne_true] at h
        cases items : w.ring.items with
        | nil =>
            rw [items] at h
            exact .inl h
        | cons record rest =>
            rw [items] at h
            have read : w.readRecords (.reads proc) = [(record, proc)] := by
              simp [World.readRecords, reading, closed, items]
            cases decoded : decodeEvent record.sample with
            | none => exact .inr ⟨(record, proc), by simp [read], decoded⟩
            | some ev => exact .inl (by rwa [← handle_stderr proc decoded])
  · rw [World.reads, if_neg reading] at h
    exact .inl h

/-- `Run` complains about a record only when it does not decode. -/
theorem decodingEvent_step {w : World} {a : Act}
    (h : .decodingEvent ∈ (w.step cfg mode a).recorder.stderr) :
    .decodingEvent ∈ w.recorder.stderr ∨
      ∃ read ∈ w.readRecords a, decodeEvent read.1.sample = none := by
  cases running : w.isOver with
  | true =>
      rw [World.step_of_isOver running] at h
      exact .inl h
  | false =>
      rcases a.kinds with ⟨sample, rfl⟩ | ⟨proc, rfl⟩ | rfl | ⟨closeFails, rfl⟩ | quiet
      · exact .inl (by rwa [World.step_submit running] at h)
      · rw [World.step_reads running] at h
        exact decodingEvent_reads h
      · rw [World.step_readFails running, World.readFails] at h
        split at h
        · exact .inl (by simpa using h)
        · exact .inl h
      · rw [World.step_returns running, returns_stderr] at h
        exact .inl h
      · rw [(World.step_of_quiet cfg mode running quiet).recorder] at h
        exact .inl h

theorem decodingEvent_run {as : List Act}
    (h : .decodingEvent ∈ (run (World.step cfg mode) (.start cfg mode) as).recorder.stderr) :
    ∃ read ∈ readIn cfg mode as, decodeEvent read.1.sample = none := by
  induction as using List.reverseRecOn with
  | nil =>
      rw [run_nil, World.start, Recorder.start] at h
      split at h <;> simp at h
  | append_singleton as a ih =>
      rw [readIn, emitted_append, emitted_cons, emitted_nil, List.append_nil]
      rw [run_concat] at h
      rcases decodingEvent_step h with before | ⟨read, now, fails⟩
      · obtain ⟨read, earlier, fails⟩ := ih before
        exact ⟨read, List.mem_append_left _ earlier, fails⟩
      · exact ⟨read, List.mem_append_right _ now, fails⟩

/-- What is recorded is that of the records that were read. -/
theorem recorded_system : Recorded cfg mode (recordsIn bpf cfg mode targets moves)
    (systemAfter bpf cfg mode targets moves).world := by
  rw [systemAfter_world, recordsIn_eq]
  exact recorded_run

/-- What is on the output when `Run` has returned. -/
theorem output_of_returned {status : WaitStatus}
    (returned : (systemAfter bpf cfg mode targets moves).world.main = .returned ⟨status, []⟩) :
    (systemAfter bpf cfg mode targets moves).world.recorder.traceOutput =
      outputOf cfg mode status (recordsIn bpf cfg mode targets moves) :=
  recorded_system.output returned

/-- **The pipeline is faithful.**  For every order of hits and steps: what the loop has
read and what still waits are the events that the programs submitted, in order and bit
for bit, and all of them until `Run` has returned; no record fails to decode; and the
output is made from exactly the events that were read, before `Run` returns and however
it does. -/
theorem pipeline_faithful (bpf : Bpf.Config) (cfg : RunConfig) (mode : TargetMode)
    (targets : TargetPids) (moves : List Move) :
    (∃ late, (seenIn bpf cfg mode targets moves).map Arrival.ev ++
          (systemAfter bpf cfg mode targets moves).waiting ++ late =
        submittedEvents bpf (.load targets) (hitsIn moves) ∧
      ((systemAfter bpf cfg mode targets moves).world.isOver = false → late = [])) ∧
    .decodingEvent ∉ (systemAfter bpf cfg mode targets moves).world.recorder.stderr ∧
    ((systemAfter bpf cfg mode targets moves).world.isOver = false →
      (systemAfter bpf cfg mode targets moves).world.recorder.Accounts cfg mode
        (recordsIn bpf cfg mode targets moves)) ∧
    ∀ result, (systemAfter bpf cfg mode targets moves).world.main = .returned result →
      (systemAfter bpf cfg mode targets moves).world.recorder.traceOutput =
        outputAfter cfg mode result (recordsIn bpf cfg mode targets moves) := by
  refine ⟨submitted_accounted bpf cfg mode targets moves, fun complaint => ?_,
    recorded_system.loop, recorded_system.returned⟩
  rw [systemAfter_world] at complaint
  obtain ⟨read, hread, fails⟩ := decodingEvent_run complaint
  have put : read.1 ∈ submittedIn cfg mode (actsIn bpf cfg mode targets moves) := by
    rw [submittedIn_split]
    exact List.mem_append_left _ (List.mem_map_of_mem hread)
  obtain ⟨ev, decodes⟩ := exists_decodeEvent put
  rw [fails] at decodes
  cases decodes

end

end Litrace.Trace
