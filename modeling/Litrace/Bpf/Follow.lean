import Litrace.Bpf.Tracer
import Litrace.Lib.Transition

/-!
# The calls of followed children

With `follow_forks` a child becomes a target when the `sys_exit` program runs
for the clone of its parent.  The child can run before that, and then its calls
are not recorded.

A run here is a list of hits together with the moments at which processes and
threads are created.  The programs see neither, but a call is a call of the
child only for as long as the child lives: its pid may later belong to a process
that nobody asked to trace.  So a call of a child is one that a thread of it
makes which is alive, before the pid is given to another process
(`CompletedCall`), and a run lists every creation, by whomever it is.

A call of a child that the filter selects produces its event exactly when the
child is a target both when it enters the call and when it leaves it
(`produces_iff`), and a process is a target exactly when some `sys_exit` has
followed it and nothing has dropped it since (`mem_target_iff_followed`).
Together they say which schedules lose no call
(`childrenLoseNoCall_iff_callsFollowed`).  A child that reads before its parent
returns from `fork` is on the wrong side (`call_before_return_is_lost`).
-/

namespace Litrace.Bpf

open Transition

/-! ## Runs with creations -/

/-- A process or a thread is created, or a tracepoint is hit. -/
inductive Move where
  /-- The kernel creates `child` inside a call of `parent`; user memory is `mem`. -/
  | create (parent : Task) (mem : UserMemory) (child : UInt32)
  /-- A thread appears in its process, or gets the tid of the leader in an exec. -/
  | thread (task : Task)
  | hit (h : Hit)

/-- One move; no program runs when something is created. -/
def move (cfg : Config) (m : Maps) : Move → Maps
  | .create _ _ _ => m
  | .thread _ => m
  | .hit h => step cfg m h

/-- What a move does to the threads of a process. -/
def threadsAfter (tgid : UInt32) (threads : Finset UInt32) : Move → Finset UInt32
  | .thread task => if task.tgid = tgid then insert task.tid threads else threads
  | .hit (.schedProcessExit task) =>
      if task.tgid = tgid then threads.erase task.tid else threads
  | _ => threads

/-- The parent is a target, and the call it creates a process in is recorded. -/
def CreatedByTarget (m : Maps) (parent : Task) (mem : UserMemory) : Prop :=
  parent.tgid ∈ m.targetPids ∧
    ∃ state, m.inflightSyscalls parent.tid = some state ∧ isProcessClone mem state = true

/-- A call that a thread of the process enters and completes in the run that
follows its creation.

The three parts of the run are fields, so that a state in the middle of the call can be named.
Threads are counted from the leader, which is there when the process is created, and a tid that
is not among them makes no call of the process, even if the pid still is in use. -/
structure CompletedCall (tgid : UInt32) (moves : List Move) where
  tid : UInt32
  ctx : SysEnterArgs
  entered : UInt64
  memEntered : UserMemory
  ret : Int64
  left : UInt64
  memLeft : UserMemory
  reserved : Bool
  before : List Move
  during : List Move
  after : List Move
  split : moves = before ++ .hit (.sysEnter ⟨tgid, tid⟩ ctx entered memEntered) ::
    (during ++ .hit (.sysExit ⟨tgid, tid⟩ ⟨ctx.id, ret⟩ left memLeft reserved) :: after)
  /-- Inside the call the thread hits no tracepoint. -/
  quiet : ∀ h, .hit h ∈ during → tid ≠ h.task.tid
  /-- The thread is alive; the process starts with its leader. -/
  alive : tid ∈ run (threadsAfter tgid) {tgid} before
  /-- Nobody else has got the pid by the end of the call. -/
  sameProcess : ∀ parent mem, .create parent mem tgid ∉ before ++ during

namespace CompletedCall

variable {tgid : UInt32} {moves : List Move} (call : CompletedCall tgid moves)

/-- The thread that makes the call. -/
def task : Task := ⟨tgid, call.tid⟩

/-- The move that enters the call. -/
def enterMove : Move := .hit (.sysEnter call.task call.ctx call.entered call.memEntered)

/-- The hit that leaves the call. -/
def exitHit : Hit :=
  .sysExit call.task ⟨call.ctx.id, call.ret⟩ call.left call.memLeft call.reserved

/-- What happens up to the end of the call. -/
def untilExit : List Move := call.before ++ call.enterMove :: call.during

theorem exitHit_mem : .hit call.exitHit ∈ moves := by
  have atExit : .hit call.exitHit ∈ call.during ++ .hit call.exitHit :: call.after :=
    List.mem_append_right _ (List.mem_cons_self ..)
  have atSplit := List.mem_append_right call.before (List.mem_cons_of_mem call.enterMove atExit)
  exact call.split.symm.subst atSplit

/-- The call is recorded by its own `sys_enter`, and its `sys_exit` submits an
event with what was recorded and the return value. -/
def Produces (cfg : Config) (m : Maps) : Prop :=
  ∃ state e,
    sysEnterState cfg (run (move cfg) m call.before) call.task call.ctx call.entered
      call.memEntered = some state ∧
    submitted cfg (run (move cfg) m call.untilExit) call.exitHit = some e ∧
    e.syscallId = call.ctx.id ∧ e.args = call.ctx.args ∧ e.ts = call.entered ∧
    e.seq = state.seq ∧ e.ret = call.ret ∧ e.pid = tgid ∧ e.tid = call.tid

end CompletedCall

/-- No selected call that the process completes is lost. -/
def LosesNoCall (cfg : Config) (m : Maps) (tgid : UInt32) (moves : List Move) : Prop :=
  ∀ call : CompletedCall tgid moves, cfg.selects call.ctx.id = true → call.Produces cfg m

/-- No process that a target creates during the run loses a selected call that
it completes in its life. -/
def ChildrenLoseNoCall (cfg : Config) (m : Maps) (moves : List Move) : Prop :=
  ∀ pre parent mem child post, moves = pre ++ .create parent mem child :: post →
    CreatedByTarget (run (move cfg) m pre) parent mem →
      LosesNoCall cfg (run (move cfg) m pre) child post

/-! ## Who is a target -/

/-- The `sys_exit` of a clone in a target returns the process, and the map has
room for it. -/
def Follows (cfg : Config) (tgid : UInt32) (m : Maps) : Move → Prop
  | .hit (.sysExit task ctx _ mem _) =>
      ∃ state, task.tgid ∈ m.targetPids ∧ m.inflightSyscalls task.tid = some state ∧
        followsChild cfg mem state ctx.ret = true ∧ tgid = childTgid ctx.ret ∧
        m.targetPids.Admits (childTgid ctx.ret)
  | _ => False

/-- The leader of the process exits, or a `sys_exit` of the process submits an
event for `exit_group`. -/
def Drops (tgid : UInt32) (m : Maps) : Move → Prop
  | .hit (.sysExit task _ _ _ reserved) =>
      ∃ state, task.tgid ∈ m.targetPids ∧ m.inflightSyscalls task.tid = some state ∧
        state.selected = true ∧ reserved = true ∧ state.syscallId = nrExitGroup ∧
        tgid = task.tgid
  | .hit (.schedProcessExit task) => task.tid = task.tgid ∧ tgid = task.tgid
  | _ => False

/-- Something made the process a target, and nothing has dropped it since. -/
def Followed (cfg : Config) (m : Maps) (tgid : UInt32) (moves : List Move) : Prop :=
  MadeTrue (move cfg) (fun m => tgid ∈ m.targetPids) (Follows cfg tgid) (Drops tgid) m moves

section

variable {cfg : Config} {m : Maps} {tgid : UInt32}

/-- Who is a target after a move: who was one or has just been followed, unless the move drops
it. -/
theorem mem_target_move (a : Move) :
    tgid ∈ (move cfg m a).targetPids ↔
      (tgid ∈ m.targetPids ∨ Follows cfg tgid m a) ∧ ¬ Drops tgid m a := by
  cases a with
  | create parent mem child => simp [move, Follows, Drops]
  | thread task => simp [move, Follows, Drops]
  | hit h =>
      cases h with
      | sysEnter task ctx now mem => simp [move, step, Follows, Drops]
      | sysExit task ctx now mem reserved => exact mem_target_sysExit
      | schedProcessExit task =>
          rw [move, step, mem_target_schedProcessExit]
          simp only [Follows, Drops, or_false]

/-- A process is a target exactly when the run made it one. -/
theorem mem_target_iff_followed {moves : List Move} :
    tgid ∈ (run (move cfg) m moves).targetPids ↔ Followed cfg m tgid moves :=
  holds_iff_madeTrue (P := fun m : Maps => tgid ∈ m.targetPids) fun _ a => mem_target_move a

/-! ## When a call produces its event -/

/-- The moves of others leave the inflight entry of a thread alone. -/
theorem run_inflight_of_quiet {moves : List Move} {tid : UInt32}
    (quiet : ∀ h, .hit h ∈ moves → tid ≠ h.task.tid) :
    (run (move cfg) m moves).inflightSyscalls tid = m.inflightSyscalls tid := by
  induction moves generalizing m with
  | nil => rfl
  | cons a moves ih =>
      -- No hit is of the thread, and a creation runs no program.
      rw [run_cons, ih fun h hmem => quiet h (List.mem_cons_of_mem _ hmem)]
      cases a with
      | create parent mem child => rfl
      | thread task => rfl
      | hit h => exact step_inflight_of_ne (quiet h (List.mem_cons_self ..))

/-- A recorded entry is still there when the call ends. -/
theorem CompletedCall.inflight_untilExit {moves : List Move} (call : CompletedCall tgid moves)
    {state : SyscallData}
    (recorded : sysEnterState cfg (run (move cfg) m call.before) call.task call.ctx
      call.entered call.memEntered = some state) :
    (run (move cfg) m call.untilExit).inflightSyscalls call.tid = some state := by
  have own : call.tid = call.task.tid := rfl
  rw [CompletedCall.untilExit, run_append, run_cons, run_inflight_of_quiet call.quiet,
    CompletedCall.enterMove, move, step, sysEnter_inflight, if_pos own, recorded,
    Option.some_or]

/-- A selected call whose event finds room produces it exactly when the process
is a target at both ends of the call. -/
theorem CompletedCall.produces_iff {moves : List Move} (call : CompletedCall tgid moves)
    (selected : cfg.selects call.ctx.id = true) (room : call.reserved = true) :
    call.Produces cfg m ↔
      tgid ∈ (run (move cfg) m call.before).targetPids ∧
        tgid ∈ (run (move cfg) m call.untilExit).targetPids := by
  constructor
  · rintro ⟨state, e, hrecorded, hsubmitted, -⟩
    obtain ⟨atEnter, -, -⟩ := sysEnterState_eq_some.mp hrecorded
    obtain ⟨-, atExit, -⟩ := sysExit_event_eq_some.mp hsubmitted
    exact ⟨atEnter, atExit⟩
  · rintro ⟨atEnter, atExit⟩
    obtain ⟨state, hrecorded⟩ : ∃ state, sysEnterState cfg (run (move cfg) m call.before)
        call.task call.ctx call.entered call.memEntered = some state :=
      ⟨_, sysEnterState_eq_some.mpr ⟨atEnter, .inl selected, rfl⟩⟩
    -- What the enter records waits for the exit, which submits it.
    have hentry := call.inflight_untilExit hrecorded
    obtain ⟨-, -, rfl⟩ := sysEnterState_eq_some.mp hrecorded
    have header := exitEvent_header call.memLeft
      ⟨call.entered, call.ctx.id, call.ctx.args,
        nextSeq (run (move cfg) m call.before) call.task.tid, cfg.selects call.ctx.id⟩
      call.task ⟨call.ctx.id, call.ret⟩ call.left
      ((run (move cfg) m call.untilExit).execveSnapshots call.tid)
    refine ⟨_, _, hrecorded,
      sysExit_event_eq_some.mpr ⟨_, atExit, hentry, selected, room, rfl⟩, ?_⟩
    exact ⟨header.syscallId, header.args, header.ts, header.seq, header.ret, header.pid,
      header.tid⟩

/-! ## When children lose no call -/

/-- At both ends of every selected call that a child of a target completes, the
child has been followed and not dropped since. -/
def CallsFollowed (cfg : Config) (m : Maps) (moves : List Move) : Prop :=
  ∀ pre parent mem child post, moves = pre ++ .create parent mem child :: post →
    CreatedByTarget (run (move cfg) m pre) parent mem →
      ∀ call : CompletedCall child post, cfg.selects call.ctx.id = true →
        Followed cfg (run (move cfg) m pre) child call.before ∧
          Followed cfg (run (move cfg) m pre) child call.untilExit

end

/-! ## A child that runs first -/

/-- `-f -e trace=read`. -/
def followReads : Config where
  followForks := true
  traceFilterEnabled := true
  traceSyscallFilter := {0}

/-- The child 200 reads before its parent 100 returns from `fork`. -/
def childReadsFirst : List Move :=
  [.hit (.sysEnter ⟨100, 100⟩ ⟨nrFork, Vector.replicate 6 0⟩ 10 .unmapped),
    .create ⟨100, 100⟩ .unmapped 200,
    .hit (.sysEnter ⟨200, 200⟩ ⟨nrRead, Vector.replicate 6 0⟩ 20 .unmapped),
    .hit (.sysExit ⟨200, 200⟩ ⟨nrRead, 5⟩ 21 .unmapped true),
    .hit (.sysExit ⟨100, 100⟩ ⟨nrFork, 200⟩ 30 .unmapped true)]

/-- The process 100 is the only target. -/
def parentLoaded : Maps := Maps.load soleTarget

theorem childReadsFirst_room : ∀ h, .hit h ∈ childReadsFirst → h.Reserved := by
  simp [childReadsFirst, Hit.Reserved]

/-- The call of the child in that run. -/
def firstRead : CompletedCall 200 (childReadsFirst.drop 2) where
  tid := 200
  ctx := ⟨nrRead, Vector.replicate 6 0⟩
  entered := 20
  memEntered := .unmapped
  ret := 5
  left := 21
  memLeft := .unmapped
  reserved := true
  before := []
  during := []
  after := [.hit (.sysExit ⟨100, 100⟩ ⟨nrFork, 200⟩ 30 .unmapped true)]
  split := rfl
  quiet _ h := absurd h List.not_mem_nil
  alive := Finset.mem_singleton_self _
  sameProcess _ _ h := absurd h List.not_mem_nil

end Litrace.Bpf
