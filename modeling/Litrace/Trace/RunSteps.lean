import Litrace.Trace.Run

/-!
# The steps of a run

What a step can do, said once.  Four kinds of actions change the loop of `Run` or put
records into the ring buffer (`Act.kinds`); all others are *quiet*, they leave the loop
alone and at most close the reader (`World.step_of_quiet`).

The ring buffer is a closable queue, and every action makes an operation on it, or none
(`World.step_ring`).  So what is submitted and read in a run is what is put and taken
there.

With this no later proof unfolds `World.step`: a property of the loop looks at the four
kinds of actions, a property of the queue at the operations.
-/

namespace Litrace.Trace

open ClosableQueue Transition

/-- A step of the processes or of a monitor, other than submitting a record. -/
def Act.quiet : Act → Bool
  | .submit _ => false
  | .reads _ => false
  | .readFails => false
  | .returns _ => false
  | _ => true

/-- Four kinds of actions touch the loop or put records, and the others are quiet.  Proofs about the
loop go by these cases. -/
theorem Act.kinds (a : Act) :
    (∃ sample, a = .submit sample) ∨ (∃ proc, a = .reads proc) ∨ a = .readFails ∨
      (∃ closeFails, a = .returns closeFails) ∨ a.quiet = true := by
  cases a with
  | submit sample => exact .inl ⟨sample, rfl⟩
  | reads proc => exact .inr (.inl ⟨proc, rfl⟩)
  | readFails => exact .inr (.inr (.inl rfl))
  | returns closeFails => exact .inr (.inr (.inr (.inl ⟨closeFails, rfl⟩)))
  | _ => exact .inr (.inr (.inr (.inr rfl)))

/-! ## The ring buffer -/

namespace World

/-- The action closes the reader, which may be closed already. -/
def closesReader (w : World) : Act → Bool
  | .waitCloses => decide (w.waiter = .closing)
  | .monitorCloses =>
      match w.monitor with
      | .closing => true
      | _ => false
  | .attachCloses => decide (w.poller = .closing)
  | _ => false

section

variable (cfg : RunConfig) (mode : TargetMode)

/-- The operation of an action on the ring buffer. -/
def ringOps (w : World) (a : Act) : List (Op Record) :=
  if w.isOver then []
  else
    match a with
    | .submit sample => [.put ⟨sample, !w.allExited mode⟩]
    | .reads _ => if w.main = .reading then [.take] else []
    | a => if w.closesReader a then [.close] else []

/-- The record an action submits. -/
def submitted (w : World) (a : Act) : List Record :=
  if w.isOver then []
  else
    match a with
    | .submit sample => [⟨sample, !w.allExited mode⟩]
    | _ => []

/-- The record an action reads, and what `/proc` says meanwhile. -/
def readRecords (w : World) (a : Act) : List (Record × ProcCwd) :=
  match a with
  | .reads proc =>
      if w.main = .reading ∧ w.ring.closed = false then
        (w.ring.items.head?.map fun record => (record, proc)).toList
      else []
  | _ => []

/-- The reader has caught up: no record from before the last exit waits when the reader
is closed, and none is submitted afterwards. -/
structure CaughtUp (w : World) (a : Act) : Prop where
  atClose : w.isOver = false → w.closesReader a = true → w.ring.closed = false →
    ∀ record ∈ w.ring.items, record.early = false
  afterClose : w.isOver = false → w.ring.closed = true → ∀ sample, a = .submit sample →
    w.allExited mode = true

end

section

variable {cfg : RunConfig} {mode : TargetMode} {w : World} {a : Act}

/-- While the loop reads, `Run` has not returned. -/
theorem isOver_of_reading (h : w.main = .reading) : w.isOver = false := by
  rw [isOver, h]

theorem step_of_isOver (h : w.isOver = true) : w.step cfg mode a = w :=
  if_pos h

theorem not_isOver (running : w.isOver = false) : ¬ w.isOver = true := by
  rw [running]
  exact Bool.false_ne_true

theorem step_submit (running : w.isOver = false) (sample : List UInt8) :
    w.step cfg mode (.submit sample) = w.submit mode sample :=
  if_neg (not_isOver running)

theorem step_reads (running : w.isOver = false) (proc : ProcCwd) :
    w.step cfg mode (.reads proc) = w.reads cfg mode proc :=
  if_neg (not_isOver running)

theorem step_readFails (running : w.isOver = false) :
    w.step cfg mode .readFails = w.readFails :=
  if_neg (not_isOver running)

theorem step_returns (running : w.isOver = false) (closeFails : Bool) :
    w.step cfg mode (.returns closeFails) = w.returns cfg mode closeFails :=
  if_neg (not_isOver running)

/-! ### Steps beside the loop -/

/-- The step leaves the loop alone, and the ring buffer unless it closes the reader. -/
structure Beside (w w' : World) (closes : Bool) : Prop where
  main : w'.main = w.main
  recorder : w'.recorder = w.recorder
  ring : w'.ring = if closes then w.ring.step .close else w.ring

theorem beside_exit (pid : Int64) (status : WaitStatus) : w.Beside (w.exit pid status) false := by
  unfold exit
  split
  · exact ⟨rfl, rfl, rfl⟩
  · exact ⟨rfl, rfl, rfl⟩

theorem beside_waitReturns (result : ChildWaitResult) :
    w.Beside (w.waitReturns mode result) false := by
  unfold waitReturns
  split
  · exact ⟨rfl, rfl, rfl⟩
  · exact ⟨rfl, rfl, rfl⟩

/-- The goroutine that waits closes the reader in its second step only. -/
theorem beside_waitCloses : w.Beside w.waitCloses (decide (w.waiter = .closing)) := by
  unfold waitCloses
  by_cases closing : w.waiter = .closing
  · rw [if_pos closing, decide_eq_true closing]
    exact ⟨rfl, rfl, rfl⟩
  · rw [if_neg closing, decide_eq_false closing]
    exact ⟨rfl, rfl, rfl⟩

theorem beside_monitorReceives : w.Beside w.monitorReceives false := by
  unfold monitorReceives
  split
  · split
    · exact ⟨rfl, rfl, rfl⟩
    · split
      · exact ⟨rfl, rfl, rfl⟩
      · exact ⟨rfl, rfl, rfl⟩
  · exact ⟨rfl, rfl, rfl⟩

/-- Forwarding and closing are two steps, so a child may get the signal while the reader is open. -/
theorem beside_monitorForwards : w.Beside w.monitorForwards false := by
  unfold monitorForwards
  split
  · exact ⟨rfl, rfl, rfl⟩
  · exact ⟨rfl, rfl, rfl⟩
  · exact ⟨rfl, rfl, rfl⟩

/-- The goroutine closes the reader whether or not the signal could be forwarded. -/
theorem beside_monitorCloses : w.Beside w.monitorCloses (w.closesReader .monitorCloses) := by
  unfold monitorCloses closesReader
  cases w.monitor with
  | receiving => exact ⟨rfl, rfl, rfl⟩
  | received sig => exact ⟨rfl, rfl, rfl⟩
  | closing => exact ⟨rfl, rfl, rfl⟩
  | ended => exact ⟨rfl, rfl, rfl⟩

theorem beside_attachPolls (kill : Int64 → KillAnswer) :
    w.Beside (w.attachPolls mode kill) false := by
  unfold attachPolls
  split
  · split
    · exact ⟨rfl, rfl, rfl⟩
    · exact ⟨rfl, rfl, rfl⟩
  · exact ⟨rfl, rfl, rfl⟩

/-- Taking a signal from the channel leaves the ring buffer and the loop alone. -/
theorem beside_attachSelects : w.Beside w.attachSelects false := by
  unfold attachSelects
  split
  · split
    · exact ⟨rfl, rfl, rfl⟩
    · split
      · exact ⟨rfl, rfl, rfl⟩
      · exact ⟨rfl, rfl, rfl⟩
  · exact ⟨rfl, rfl, rfl⟩

theorem beside_attachTicks : w.Beside w.attachTicks false := by
  unfold attachTicks
  split
  · exact ⟨rfl, rfl, rfl⟩
  · exact ⟨rfl, rfl, rfl⟩

theorem beside_attachCloses : w.Beside w.attachCloses (decide (w.poller = .closing)) := by
  unfold attachCloses
  by_cases closing : w.poller = .closing
  · rw [if_pos closing, decide_eq_true closing]
    exact ⟨rfl, rfl, rfl⟩
  · rw [if_neg closing, decide_eq_false closing]
    exact ⟨rfl, rfl, rfl⟩

/-- A step of the processes or of a monitor at most closes the reader. -/
theorem step_of_quiet (cfg : RunConfig) (mode : TargetMode) (running : w.isOver = false)
    (quiet : a.quiet = true) : w.Beside (w.step cfg mode a) (w.closesReader a) := by
  unfold step
  rw [if_neg (not_isOver running)]
  cases a with
  | submit sample => cases quiet
  | reads proc => cases quiet
  | readFails => cases quiet
  | returns closeFails => cases quiet
  | signal sig => exact ⟨rfl, rfl, rfl⟩
  | closeSignals => exact ⟨rfl, rfl, rfl⟩
  | exit pid status => exact beside_exit pid status
  | waitReturns result => exact beside_waitReturns result
  | waitCloses => exact beside_waitCloses
  | monitorReceives => exact beside_monitorReceives
  | monitorForwards => exact beside_monitorForwards
  | monitorCloses => exact beside_monitorCloses
  | attachPolls kill => exact beside_attachPolls kill
  | attachSelects => exact beside_attachSelects
  | attachTicks => exact beside_attachTicks
  | attachCloses => exact beside_attachCloses

/-! ### Operations on the ring buffer -/

theorem ringOps_of_isOver (h : w.isOver = true) : w.ringOps mode a = [] :=
  if_pos h

theorem ringOps_submit (running : w.isOver = false) (sample : List UInt8) :
    w.ringOps mode (.submit sample) = [.put ⟨sample, !w.allExited mode⟩] :=
  if_neg (not_isOver running)

theorem ringOps_reads (proc : ProcCwd) :
    w.ringOps mode (.reads proc) = if w.main = .reading then [.take] else [] := by
  unfold ringOps
  dsimp only
  by_cases reading : w.main = .reading
  · rw [isOver_of_reading reading, if_neg Bool.false_ne_true]
  · rw [if_neg reading, ite_self]

theorem ringOps_readFails : w.ringOps mode .readFails = [] :=
  ite_self _

theorem ringOps_returns (closeFails : Bool) : w.ringOps mode (.returns closeFails) = [] :=
  ite_self _

/-- A quiet action closes the queue or leaves it alone. -/
theorem ringOps_of_quiet (running : w.isOver = false) (quiet : a.quiet = true) :
    w.ringOps mode a = if w.closesReader a then [.close] else [] := by
  unfold ringOps
  rw [if_neg (not_isOver running)]
  cases a with
  | submit sample => cases quiet
  | reads proc => cases quiet
  | readFails => cases quiet
  | returns closeFails => cases quiet
  | _ => rfl

/-- A round of the loop takes the next record, if it may and there is one. -/
theorem reads_ring (proc : ProcCwd) (reading : w.main = .reading) :
    (w.reads cfg mode proc).ring = w.ring.step .take := by
  unfold reads
  rw [if_pos reading]
  show _ = if w.ring.closed then w.ring else { w.ring with items := w.ring.items.tail }
  split
  · rfl
  next opened =>
    split
    -- The read blocks, and taking from an empty queue changes nothing.
    next hitems => rw [hitems, List.tail_nil, ← hitems]
    next =>
      show (if w.ring.closed then w.ring else { w.ring with items := w.ring.items.tail }) = _
      rw [if_neg opened]

/-- The actions make operations on the ring buffer. -/
theorem step_ring (cfg : RunConfig) (mode : TargetMode) (w : World) (a : Act) :
    (w.step cfg mode a).ring = run Queue.step w.ring (w.ringOps mode a) := by
  cases running : w.isOver with
  | true => rw [step_of_isOver running, ringOps_of_isOver running, run_nil]
  | false =>
      rcases a.kinds with ⟨sample, rfl⟩ | ⟨proc, rfl⟩ | rfl | ⟨closeFails, rfl⟩ | quiet
      · rw [step_submit running, ringOps_submit running]
        rfl
      · rw [step_reads running, ringOps_reads]
        split
        next reading => exact reads_ring proc reading
        next notReading => rw [reads, if_neg notReading, run_nil]
      · rw [step_readFails running, ringOps_readFails, run_nil]
        unfold readFails
        split
        · rfl
        · rfl
      · rw [step_returns running, ringOps_returns, run_nil]
        unfold returns
        split
        · dsimp only
          split
          · rfl
          · rfl
        · rfl
      · rw [(step_of_quiet cfg mode running quiet).ring, ringOps_of_quiet running quiet]
        split
        · rfl
        · rfl

/-- What is submitted is put. -/
theorem submitted_eq (w : World) (a : Act) :
    w.submitted mode a = emitted Queue.step Queue.put w.ring (w.ringOps mode a) := by
  cases running : w.isOver with
  | true =>
      rw [ringOps_of_isOver running]
      exact if_pos running
  | false =>
      unfold submitted
      rw [if_neg (not_isOver running)]
      rcases a.kinds with ⟨sample, rfl⟩ | ⟨proc, rfl⟩ | rfl | ⟨closeFails, rfl⟩ | quiet
      · rw [ringOps_submit running]
        rfl
      · rw [ringOps_reads]
        dsimp only
        split
        · rfl
        · rfl
      · rw [ringOps_readFails]
        rfl
      · rw [ringOps_returns]
        rfl
      · rw [ringOps_of_quiet running quiet]
        split
        · cases quiet
        · split
          · rfl
          · rfl

/-- What is read is taken. -/
theorem readRecords_eq (w : World) (a : Act) :
    (w.readRecords a).map Prod.fst = emitted Queue.step Queue.taken w.ring (w.ringOps mode a) := by
  rcases a.kinds with ⟨sample, rfl⟩ | ⟨proc, rfl⟩ | rfl | ⟨closeFails, rfl⟩ | quiet
  · show [] = _
    unfold ringOps
    split
    · rfl
    · rfl
  · rw [ringOps_reads]
    unfold readRecords
    dsimp only
    by_cases reading : w.main = .reading
    · rw [if_pos reading, emitted_cons, emitted_nil, List.append_nil]
      show _ = if w.ring.closed then [] else w.ring.items.head?.toList
      cases w.ring.closed with
      | true => rw [if_neg fun both => absurd both.2 Bool.false_ne_true.symm, if_pos rfl]; rfl
      | false =>
          rw [if_pos ⟨reading, rfl⟩, if_neg Bool.false_ne_true]
          cases w.ring.items with
          | nil => rfl
          | cons record items => rfl
    · rw [if_neg reading, if_neg fun both => reading both.1]
      rfl
  · rw [ringOps_readFails]
    rfl
  · rw [ringOps_returns]
    rfl
  · have unread : w.readRecords a = [] := by
      cases a with
      | reads proc => cases quiet
      | _ => rfl
    rw [unread]
    cases running : w.isOver with
    | true =>
        rw [ringOps_of_isOver running]
        rfl
    | false =>
        rw [ringOps_of_quiet running quiet]
        split
        · rfl
        · rfl

/-- The reader has caught up when the operation on the ring buffer is in time. -/
theorem caughtUp_iff (w : World) (a : Act) :
    w.CaughtUp mode a ↔
      AllSteps Queue.step (Queue.InTime Record.early) w.ring (w.ringOps mode a) := by
  cases running : w.isOver with
  | true =>
      rw [ringOps_of_isOver running]
      refine iff_of_true ⟨fun h => ?_, fun h => ?_⟩ trivial
      · rw [running] at h
        cases h
      · rw [running] at h
        cases h
  | false =>
      rcases a.kinds with ⟨sample, rfl⟩ | ⟨proc, rfl⟩ | rfl | ⟨closeFails, rfl⟩ | quiet
      · rw [ringOps_submit running, allSteps_cons, and_iff_left (allSteps_nil _)]
        show _ ↔ (w.ring.closed = true → (!w.allExited mode) = false)
        rw [Bool.not_eq_false']
        exact ⟨fun h closed => h.afterClose running closed sample rfl,
          fun h => ⟨fun _ closes => (by cases closes), fun _ closed _ _ => h closed⟩⟩
      · refine iff_of_true ⟨fun _ closes => (by cases closes), fun _ _ _ h => (by cases h)⟩ ?_
        rw [ringOps_reads]
        split
        · exact ⟨trivial, trivial⟩
        · trivial
      · rw [ringOps_readFails]
        exact iff_of_true ⟨fun _ closes => (by cases closes), fun _ _ _ h => (by cases h)⟩
          trivial
      · rw [ringOps_returns]
        exact iff_of_true ⟨fun _ closes => (by cases closes), fun _ _ _ h => (by cases h)⟩
          trivial
      -- A monitor's step submits nothing, and matters only if it closes the reader.
      · have unsubmitted : ∀ sample, a ≠ .submit sample := by
          rintro sample rfl
          cases quiet
        rw [ringOps_of_quiet running quiet]
        split
        next closes =>
          rw [allSteps_cons, and_iff_left (allSteps_nil _)]
          show _ ↔ (w.ring.closed = false → ∀ record ∈ w.ring.items, record.early = false)
          exact ⟨fun h => h.atClose running closes,
            fun h => ⟨fun _ _ => h, fun _ _ sample h => absurd h (unsubmitted sample)⟩⟩
        next stays =>
          exact iff_of_true ⟨fun _ closes => absurd closes stays,
            fun _ _ sample h => absurd h (unsubmitted sample)⟩ trivial

end

end World

end Litrace.Trace
