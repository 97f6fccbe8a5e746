import Litrace.Bpf.Capture
import Litrace.Lib.HashTable

/-!
# The tracepoint programs

`tracer.c`: the maps the programs share, the three programs
`trace_sys_enter`, `trace_sys_exit` and `trace_sched_process_exit`, and one
step of the whole component, `step`, which runs the program of one tracepoint
hit.  A hit carries everything a program reads from outside the maps: the
current task, the tracepoint arguments, the clock, user memory, and whether the
ring buffer has room.

A program runs as one atomic step.  The LRU maps are total maps that never
evict; `target_pids` keeps its capacity.

Proofs about runs do not unfold the programs.  They use what a step does to
each map (`step_inflight_of_ne`, `sysEnter_inflight`, `mem_target_step`, …) and
the five outcomes of `trace_sys_exit` (`sysExit_cases`).

All maps but `target_pids` are keyed by the tid of the current task, and a
thread runs one program at a time, so programs of different threads meet in
`target_pids` only, where each operation concerns one key and is atomic.  With
programs as single steps an interleaving of hits is a list, and a run is
`Transition.run` over it; that a process becomes a target, or is dropped,
between the lookup and the end of another program is the one interleaving that
is left out.

`submitted` is separate from `step` although one program does both.  What a run
submits is then a list made along it (`Transition.emitted`), and the maps can
be reasoned about without it.
-/

namespace Litrace.Bpf

/-! ## Data -/

/-- The runtime constants `follow_forks` and `trace_filter_enabled`, and the
map `trace_syscall_filter`, none of which changes during a run. -/
structure Config where
  followForks : Bool
  traceFilterEnabled : Bool
  traceSyscallFilter : Finset UInt32

/-- `struct syscall_data`. -/
structure SyscallData where
  ts : UInt64
  syscallId : Int64
  args : Vector UInt64 6
  seq : UInt32
  selected : Bool
  deriving DecidableEq

/-- The current task, as `bpf_get_current_pid_tgid` packs it. -/
structure Task where
  tgid : UInt32
  tid : UInt32
  deriving DecidableEq

/-- `struct sys_enter_args`. -/
structure SysEnterArgs where
  id : Int64
  args : Vector UInt64 6
  deriving DecidableEq

/-- `struct sys_exit_args`. -/
structure SysExitArgs where
  id : Int64
  ret : Int64
  deriving DecidableEq

/-- `max_entries` of `target_pids`. -/
def targetPidsMaxEntries : ℕ := 16384

/-- The set of traced thread groups. -/
abbrev TargetPids := BoundedSet UInt32 targetPidsMaxEntries

/-- The thread group 100 as the only target. -/
def soleTarget : TargetPids := ⟨{100}, by decide⟩

/-- The maps the programs read and write.

A map is a function to options, which is extensional and total; deleting and updating are
`Function.update`.  Only `target_pids` can be full, and has a type that knows it. -/
@[ext] structure Maps where
  targetPids : TargetPids
  inflightSyscalls : UInt32 → Option SyscallData
  execveSnapshots : UInt32 → Option ExecveSnapshot
  tidSequences : UInt32 → Option UInt32

/-- The maps right after loading: the targets are there, nothing else. -/
def Maps.load (targets : TargetPids) : Maps where
  targetPids := targets
  inflightSyscalls _ := none
  execveSnapshots _ := none
  tidSequences _ := none

/-! ## Helpers -/

/-- `CLONE_THREAD`. -/
def cloneThread : UInt64 := 0x10000

/-- `is_process_clone`.

A `clone3` whose flags cannot be read counts as one that creates a process, so that a child is
rather followed too often than lost. -/
def isProcessClone (mem : UserMemory) (state : SyscallData) : Bool :=
  if state.syscallId = nrFork ∨ state.syscallId = nrVfork then true
  else if state.syscallId = nrClone then state.args.get 0 &&& cloneThread == 0
  else if state.syscallId = nrClone3 then
    match mem.readU64 (state.args.get 0) with
    | none => true
    | some flags => flags &&& cloneThread == 0
  else false

/-- `should_track_unselected_syscall`: `is_process_clone` of a zeroed state.

The arguments are not looked at yet: a `clone` passes as one without flags, and a `clone3` looks
for its flags at address zero.  So all four calls are recorded, unless something is mapped there. -/
def shouldTrackUnselectedSyscall (cfg : Config) (mem : UserMemory) (syscallId : Int64) :
    Bool :=
  let state : SyscallData :=
    { ts := 0, syscallId, args := Vector.replicate 6 0, seq := 0, selected := false }
  if !cfg.followForks then false else isProcessClone mem state

/-- Whether `track_child_process` gets to its map update.

A definition of its own, because theorems ask when a child is followed and not what the map looks
like then. -/
def followsChild (cfg : Config) (mem : UserMemory) (state : SyscallData) (ret : Int64) :
    Bool :=
  !decide (ret ≤ 0) && isProcessClone mem state && cfg.followForks

/-- The tgid `track_child_process` stores: `(__u32) ret`.

A pid has room in the lower half; the narrowing matters where a left-over entry takes the result
of another call for a pid. -/
def childTgid (ret : Int64) : UInt32 := ret.toUInt64.toUInt32

/-- `track_child_process`.

A full map refuses the update, and the program does not look at the answer. -/
def trackChildProcess (cfg : Config) (mem : UserMemory) (state : SyscallData)
    (ret : Int64) (m : Maps) : Maps :=
  if followsChild cfg mem state ret then
    { m with targetPids := m.targetPids.update (childTgid ret) }
  else m

/-- `cleanup_tid_state`. -/
def cleanupTidState (tid : UInt32) (m : Maps) : Maps :=
  { m with
    inflightSyscalls := Function.update m.inflightSyscalls tid none
    execveSnapshots := Function.update m.execveSnapshots tid none
    tidSequences := Function.update m.tidSequences tid none }

/-- Delete the entry of `inflight_syscalls`. -/
def deleteInflight (tid : UInt32) (m : Maps) : Maps :=
  { m with inflightSyscalls := Function.update m.inflightSyscalls tid none }

/-- Delete the entry of `execve_snapshots`. -/
def deleteSnapshot (tid : UInt32) (m : Maps) : Maps :=
  { m with execveSnapshots := Function.update m.execveSnapshots tid none }

/-- Delete the entry of `target_pids`. -/
def deleteTarget (tgid : UInt32) (m : Maps) : Maps :=
  { m with targetPids := m.targetPids.delete tgid }

/-! ## `trace_sys_enter` -/

/-- The lookup in `trace_syscall_filter`, which is made only when the filter is
enabled; the key is the low half of the number. -/
def Config.selects (cfg : Config) (id : Int64) : Bool :=
  !cfg.traceFilterEnabled || decide (id.toUInt64.toUInt32 ∈ cfg.traceSyscallFilter)

/-- The next sequence number of a thread.

Numbers start at one, and the counter wraps. -/
def nextSeq (m : Maps) (tid : UInt32) : UInt32 :=
  match m.tidSequences tid with
  | some prevSeq => prevSeq + 1
  | none => 1

/-- The state `trace_sys_enter` records, or `none` where it returns early. -/
def sysEnterState (cfg : Config) (m : Maps) (task : Task) (ctx : SysEnterArgs)
    (now : UInt64) (mem : UserMemory) : Option SyscallData :=
  if task.tgid ∉ m.targetPids then none
  -- An unselected clone is recorded all the same, to follow its child.
  else if !cfg.selects ctx.id && !shouldTrackUnselectedSyscall cfg mem ctx.id then none
  else
    some
      { ts := now
        syscallId := ctx.id
        args := ctx.args
        seq := nextSeq m task.tid
        selected := cfg.selects ctx.id }

/-- `trace_sys_enter`. -/
def traceSysEnter (cfg : Config) (m : Maps) (task : Task) (ctx : SysEnterArgs)
    (now : UInt64) (mem : UserMemory) : Maps :=
  match sysEnterState cfg m task ctx now mem with
  | none => m
  | some state =>
      { m with
        tidSequences := Function.update m.tidSequences task.tid (some state.seq)
        execveSnapshots :=
          if ctx.id = nrExecve then
            Function.update m.execveSnapshots task.tid (some (captureExecve mem ctx.args))
          else m.execveSnapshots
        inflightSyscalls := Function.update m.inflightSyscalls task.tid (some state) }

/-! ## `trace_sys_exit` -/

/-- The event before its variables are captured. -/
def eventHeader (mem : UserMemory) (task : Task) (state : SyscallData)
    (ctx : SysExitArgs) (now : UInt64) : Event where
  ts := state.ts
  dur := now - state.ts
  syscallId := state.syscallId
  ret := ctx.ret
  args := state.args
  varDesc := Vector.replicate 6 VarArgDesc.zero
  payload := Vector.replicate 512 0
  pid := task.tgid
  tid := task.tid
  seq := state.seq
  payloadLen := 0
  argCount := 0
  varCount := 0
  argTypes := Vector.replicate 6 ArgType.none
  eventFlags := if 0 < ctx.ret ∧ isProcessClone mem state = true then eventFlagProcessClone else 0

/-- The event `trace_sys_exit` submits. -/
def exitEvent (mem : UserMemory) (task : Task) (state : SyscallData) (ctx : SysExitArgs)
    (now : UInt64) (snapshot : Option ExecveSnapshot) : Event :=
  captureVars mem state.syscallId ctx.ret state.args snapshot
    (setSyscallArgSchema state.syscallId (eventHeader mem task state ctx now))

/-- The deletions after the event is submitted. -/
def afterSubmit (task : Task) (state : SyscallData) (m : Maps) : Maps :=
  let m := if state.syscallId = nrExecve then deleteSnapshot task.tid m else m
  let m := deleteInflight task.tid m
  if state.syscallId = nrExit ∨ state.syscallId = nrExitGroup then
    let m := cleanupTidState task.tid m
    if state.syscallId = nrExitGroup then deleteTarget task.tgid m else m
  else m

/-- `trace_sys_exit`; `reserved` is whether `bpf_ringbuf_reserve` succeeds.

The order of the tests is that of the source, and two theorems about runs hang on it: a child is
followed even if its clone is not reported, and an entry survives a failed reservation. -/
def traceSysExit (cfg : Config) (m : Maps) (task : Task) (ctx : SysExitArgs)
    (now : UInt64) (mem : UserMemory) (reserved : Bool) : Maps × Option Event :=
  if task.tgid ∉ m.targetPids then (m, none)
  else
    match m.inflightSyscalls task.tid with
    | none => (m, none)
    | some state =>
        -- The child is followed first, whether or not the call is selected or there is room.
        let m := trackChildProcess cfg mem state ctx.ret m
        if !state.selected then (deleteInflight task.tid m, none)
        -- Without room the entry stays where it is.
        else if !reserved then (m, none)
        else
          (afterSubmit task state m,
            some (exitEvent mem task state ctx now (m.execveSnapshots task.tid)))

/-! ## `trace_sched_process_exit` -/

/-- `trace_sched_process_exit`. -/
def traceSchedProcessExit (m : Maps) (task : Task) : Maps :=
  if task.tgid ∉ m.targetPids then m
  else
    let m := cleanupTidState task.tid m
    if task.tid = task.tgid then deleteTarget task.tgid m else m

/-! ## One hit -/

/-- A tracepoint hit with all that its program reads.

What a program reads from outside the maps is in the hit, and nothing else is.  A run is then
determined by its hits, and a theorem about all runs is one about all lists of them. -/
inductive Hit where
  | sysEnter (task : Task) (ctx : SysEnterArgs) (now : UInt64) (mem : UserMemory)
  | sysExit (task : Task) (ctx : SysExitArgs) (now : UInt64) (mem : UserMemory)
      (reserved : Bool)
  | schedProcessExit (task : Task)

/-- The task that hits. -/
def Hit.task : Hit → Task
  | .sysEnter task .. => task
  | .sysExit task .. => task
  | .schedProcessExit task => task

/-- The ring buffer has room at the hit. -/
def Hit.Reserved : Hit → Prop
  | .sysExit _ _ _ _ reserved => reserved = true
  | _ => True

/-- Run the program of one hit. -/
def step (cfg : Config) (m : Maps) : Hit → Maps
  | .sysEnter task ctx now mem => traceSysEnter cfg m task ctx now mem
  | .sysExit task ctx now mem reserved => (traceSysExit cfg m task ctx now mem reserved).1
  | .schedProcessExit task => traceSchedProcessExit m task

/-- The event a hit submits. -/
def submitted (cfg : Config) (m : Maps) : Hit → Option Event
  | .sysExit task ctx now mem reserved => (traceSysExit cfg m task ctx now mem reserved).2
  | _ => none

/-! ## What the helpers do to each map -/

section Helpers

variable (cfg : Config) (mem : UserMemory) (state : SyscallData) (ret : Int64) (m : Maps)
  (tid tgid : UInt32) (task : Task)

@[simp] theorem trackChildProcess_inflight :
    (trackChildProcess cfg mem state ret m).inflightSyscalls = m.inflightSyscalls := by
  unfold trackChildProcess
  split <;> rfl

@[simp] theorem trackChildProcess_sequences :
    (trackChildProcess cfg mem state ret m).tidSequences = m.tidSequences := by
  unfold trackChildProcess
  split <;> rfl

@[simp] theorem trackChildProcess_snapshots :
    (trackChildProcess cfg mem state ret m).execveSnapshots = m.execveSnapshots := by
  unfold trackChildProcess
  split <;> rfl

/-- Who is a target after a return: who was one, and the child if the call is followed and the map
has room. -/
theorem mem_trackChildProcess {t : UInt32} :
    t ∈ (trackChildProcess cfg mem state ret m).targetPids ↔
      t ∈ m.targetPids ∨
        (followsChild cfg mem state ret = true ∧ t = childTgid ret ∧
          m.targetPids.Admits (childTgid ret)) := by
  unfold trackChildProcess
  split
  next h => simp [h, BoundedSet.mem_update]
  next h => simp [h]

@[simp] theorem cleanupTidState_targets :
    (cleanupTidState tid m).targetPids = m.targetPids := rfl

@[simp] theorem cleanupTidState_inflight :
    (cleanupTidState tid m).inflightSyscalls =
      Function.update m.inflightSyscalls tid none := rfl

@[simp] theorem cleanupTidState_sequences :
    (cleanupTidState tid m).tidSequences = Function.update m.tidSequences tid none := rfl

@[simp] theorem deleteInflight_targets :
    (deleteInflight tid m).targetPids = m.targetPids := rfl

@[simp] theorem deleteInflight_inflight :
    (deleteInflight tid m).inflightSyscalls =
      Function.update m.inflightSyscalls tid none := rfl

@[simp] theorem deleteInflight_sequences :
    (deleteInflight tid m).tidSequences = m.tidSequences := rfl

@[simp] theorem deleteSnapshot_targets :
    (deleteSnapshot tid m).targetPids = m.targetPids := rfl

@[simp] theorem deleteSnapshot_inflight :
    (deleteSnapshot tid m).inflightSyscalls = m.inflightSyscalls := rfl

@[simp] theorem deleteSnapshot_sequences :
    (deleteSnapshot tid m).tidSequences = m.tidSequences := rfl

@[simp] theorem deleteTarget_targets :
    (deleteTarget tgid m).targetPids = m.targetPids.delete tgid := rfl

@[simp] theorem deleteTarget_inflight :
    (deleteTarget tgid m).inflightSyscalls = m.inflightSyscalls := rfl

@[simp] theorem deleteTarget_sequences :
    (deleteTarget tgid m).tidSequences = m.tidSequences := rfl

@[simp] theorem afterSubmit_inflight :
    (afterSubmit task state m).inflightSyscalls =
      Function.update m.inflightSyscalls task.tid none := by
  unfold afterSubmit
  dsimp only
  split <;> split <;> (try split) <;> simp

/-- After the submission of an `exit_group` its group is a target no longer. -/
theorem mem_afterSubmit {t : UInt32} :
    t ∈ (afterSubmit task state m).targetPids ↔
      t ∈ m.targetPids ∧ ¬ (state.syscallId = nrExitGroup ∧ t = task.tgid) := by
  by_cases hgroup : state.syscallId = nrExitGroup
  · have hexecve : nrExitGroup ≠ nrExecve := by decide
    simp [afterSubmit, hgroup, hexecve, and_comm]
  · unfold afterSubmit
    dsimp only
    split <;> split <;> simp [hgroup]

/-- The sequence number of a thread survives a submission unless the call was
`exit` or `exit_group`. -/
theorem afterSubmit_sequences :
    (afterSubmit task state m).tidSequences =
      if state.syscallId = nrExit ∨ state.syscallId = nrExitGroup then
        Function.update m.tidSequences task.tid none
      else m.tidSequences := by
  unfold afterSubmit
  dsimp only
  split <;> split <;> (try split) <;> simp

/-- The captures leave the header of the event as it was made. -/
theorem exitEvent_header (ctx : SysExitArgs) (now : UInt64)
    (snapshot : Option ExecveSnapshot) :
    SameHeader (eventHeader mem task state ctx now)
      (exitEvent mem task state ctx now snapshot) :=
  (setSyscallArgSchema_header _ _).trans (captureVars_header _ _ _ _ _ _)

end Helpers

/-! ## Recognising clones -/

/-- The call creates processes, or threads. -/
def Clones (id : Int64) : Prop :=
  id = nrFork ∨ id = nrVfork ∨ id = nrClone ∨ id = nrClone3

instance (id : Int64) : Decidable (Clones id) := by
  unfold Clones
  infer_instance

/-- Only the calls that create processes pass the test of `trackChildProcess`. -/
theorem isProcessClone_clones {mem : UserMemory} {state : SyscallData}
    (h : isProcessClone mem state = true) : Clones state.syscallId := by
  by_contra none
  simp only [Clones, not_or] at none
  obtain ⟨hfork, hvfork, hclone, hclone3⟩ := none
  simp [isProcessClone, hfork, hvfork, hclone, hclone3] at h

/-- The test looks at the number and the arguments of the entry only. -/
theorem isProcessClone_congr {mem : UserMemory} {state state' : SyscallData}
    (hid : state'.syscallId = state.syscallId) (hargs : state'.args = state.args) :
    isProcessClone mem state' = isProcessClone mem state := by
  rw [isProcessClone, hid, hargs, isProcessClone]

/-- A followed child is that of a call that succeeded in the parent. -/
theorem clones_of_followsChild {cfg : Config} {mem : UserMemory} {state : SyscallData}
    {ret : Int64} (follows : followsChild cfg mem state ret = true) :
    0 < ret ∧ Clones state.syscallId := by
  simp only [followsChild, Bool.and_eq_true, Bool.not_eq_true', decide_eq_false_iff_not,
    Int64.not_le] at follows
  exact ⟨follows.1.1, isProcessClone_clones follows.1.2⟩

/-- Following a child and acting on an `exit_group` entry exclude each other. -/
theorem followsChild_ne_exitGroup {cfg : Config} {mem : UserMemory} {state : SyscallData}
    {ret : Int64} (follows : followsChild cfg mem state ret = true) :
    state.syscallId ≠ nrExitGroup := by
  intro hgroup
  have clones : Clones state.syscallId := (clones_of_followsChild follows).2
  rw [hgroup] at clones
  revert clones
  decide

/-! ## The outcomes of the programs -/

section Outcomes

variable {cfg : Config} {m : Maps} {task : Task} {now : UInt64} {mem : UserMemory}

/-- When an enter is recorded, and as what. -/
theorem sysEnterState_eq_some {ctx : SysEnterArgs} {state : SyscallData} :
    sysEnterState cfg m task ctx now mem = some state ↔
      task.tgid ∈ m.targetPids ∧
      (cfg.selects ctx.id = true ∨
        shouldTrackUnselectedSyscall cfg mem ctx.id = true) ∧
      state = ⟨now, ctx.id, ctx.args, nextSeq m task.tid, cfg.selects ctx.id⟩ := by
  unfold sysEnterState
  split
  next h => simp [h]
  next h =>
    rw [not_not] at h
    split
    next hskip =>
      simp only [Bool.and_eq_true, Bool.not_eq_true'] at hskip
      simp [hskip.1, hskip.2]
    next hkeep =>
      simp only [Bool.and_eq_true, Bool.not_eq_true', not_and_or, Bool.not_eq_false]
        at hkeep
      simp only [h, hkeep, Option.some.injEq, true_and]
      exact eq_comm

/-- What `sys_enter` does to the entries: it overwrites that of its own thread, if it records
anything at all. -/
theorem sysEnter_inflight {ctx : SysEnterArgs} {t : UInt32} :
    (traceSysEnter cfg m task ctx now mem).inflightSyscalls t =
      if t = task.tid then
        (sysEnterState cfg m task ctx now mem).or (m.inflightSyscalls t)
      else m.inflightSyscalls t := by
  unfold traceSysEnter
  split
  next h => simp [h]
  next state h => simp [h, Function.update_apply]

/-- What `sys_enter` does to the numbers: that of its own thread goes up with every recorded
entry. -/
theorem sysEnter_sequences {ctx : SysEnterArgs} {t : UInt32} :
    (traceSysEnter cfg m task ctx now mem).tidSequences t =
      if t = task.tid ∧ (sysEnterState cfg m task ctx now mem).isSome = true then
        some (nextSeq m task.tid)
      else m.tidSequences t := by
  unfold traceSysEnter
  split
  next h => simp [h]
  next state h =>
    obtain ⟨-, -, rfl⟩ := sysEnterState_eq_some.mp h
    simp [h, Function.update_apply]

@[simp] theorem sysEnter_targets {ctx : SysEnterArgs} :
    (traceSysEnter cfg m task ctx now mem).targetPids = m.targetPids := by
  unfold traceSysEnter
  split <;> rfl

/-- The five outcomes of `trace_sys_exit`. -/
theorem sysExit_cases (cfg : Config) (m : Maps) (task : Task) (ctx : SysExitArgs)
    (now : UInt64) (mem : UserMemory) (reserved : Bool) :
    (task.tgid ∉ m.targetPids ∧
      traceSysExit cfg m task ctx now mem reserved = (m, none)) ∨
    (task.tgid ∈ m.targetPids ∧ m.inflightSyscalls task.tid = none ∧
      traceSysExit cfg m task ctx now mem reserved = (m, none)) ∨
    ∃ state, task.tgid ∈ m.targetPids ∧ m.inflightSyscalls task.tid = some state ∧
      ((state.selected = false ∧
          traceSysExit cfg m task ctx now mem reserved =
            (deleteInflight task.tid (trackChildProcess cfg mem state ctx.ret m), none)) ∨
        (state.selected = true ∧ reserved = false ∧
          traceSysExit cfg m task ctx now mem reserved =
            (trackChildProcess cfg mem state ctx.ret m, none)) ∨
        (state.selected = true ∧ reserved = true ∧
          traceSysExit cfg m task ctx now mem reserved =
            (afterSubmit task state (trackChildProcess cfg mem state ctx.ret m),
              some (exitEvent mem task state ctx now (m.execveSnapshots task.tid))))) := by
  by_cases htarget : task.tgid ∈ m.targetPids
  · cases hentry : m.inflightSyscalls task.tid with
    | none => exact .inr (.inl ⟨htarget, rfl, by simp [traceSysExit, htarget, hentry]⟩)
    | some state =>
        refine .inr (.inr ⟨state, htarget, rfl, ?_⟩)
        cases hsel : state.selected with
        | false => exact .inl ⟨rfl, by simp [traceSysExit, htarget, hentry, hsel]⟩
        | true =>
            cases reserved with
            | false =>
                exact .inr (.inl ⟨rfl, rfl, by simp [traceSysExit, htarget, hentry, hsel]⟩)
            | true =>
                exact .inr (.inr ⟨rfl, rfl, by simp [traceSysExit, htarget, hentry, hsel]⟩)
  · exact .inl ⟨htarget, by simp [traceSysExit, htarget]⟩

/-- When an exit submits an event, and which. -/
theorem sysExit_event_eq_some {ctx : SysExitArgs} {reserved : Bool} {e : Event} :
    (traceSysExit cfg m task ctx now mem reserved).2 = some e ↔
      ∃ state, task.tgid ∈ m.targetPids ∧ m.inflightSyscalls task.tid = some state ∧
        state.selected = true ∧ reserved = true ∧
        e = exitEvent mem task state ctx now (m.execveSnapshots task.tid) := by
  rcases sysExit_cases cfg m task ctx now mem reserved with
    ⟨hn, h⟩ | ⟨-, hn, h⟩ | ⟨state, ht, hs, ⟨hsel, h⟩ | ⟨hsel, hr, h⟩ | ⟨hsel, hr, h⟩⟩
  · simp [h, hn]
  · simp [h, hn]
  · simp [h, hs, hsel]
  · rw [h]
    simp [hs, hr]
  · rw [h]
    simp only [hs, ht, hsel, hr, Option.some.injEq, true_and, exists_eq_left']
    exact eq_comm

/-- The target set after `trace_sys_exit`: the followed child is added, and the
own group removed on an `exit_group` entry. -/
theorem mem_target_sysExit {ctx : SysExitArgs} {reserved : Bool} {t : UInt32} :
    t ∈ (traceSysExit cfg m task ctx now mem reserved).1.targetPids ↔
      (t ∈ m.targetPids ∨
        ∃ state, task.tgid ∈ m.targetPids ∧ m.inflightSyscalls task.tid = some state ∧
          followsChild cfg mem state ctx.ret = true ∧ t = childTgid ctx.ret ∧
          m.targetPids.Admits (childTgid ctx.ret)) ∧
      ¬ ∃ state, task.tgid ∈ m.targetPids ∧ m.inflightSyscalls task.tid = some state ∧
          state.selected = true ∧ reserved = true ∧ state.syscallId = nrExitGroup ∧
          t = task.tgid := by
  rcases sysExit_cases cfg m task ctx now mem reserved with
    ⟨hn, h⟩ | ⟨-, hn, h⟩ | ⟨state, ht, hs, ⟨hsel, h⟩ | ⟨hsel, hr, h⟩ | ⟨hsel, hr, h⟩⟩
  · simp [h, hn]
  · simp [h, hn]
  · simp [h, hs, ht, hsel, mem_trackChildProcess]
  · rw [h]
    simp [hs, ht, hr, mem_trackChildProcess]
  · rw [h]
    simp [hs, ht, hsel, hr, mem_trackChildProcess, mem_afterSubmit]

/-- The end of a thread group's leader, and of no other thread, drops the group. -/
theorem mem_target_schedProcessExit {t : UInt32} :
    t ∈ (traceSchedProcessExit m task).targetPids ↔
      t ∈ m.targetPids ∧ ¬ (task.tid = task.tgid ∧ t = task.tgid) := by
  unfold traceSchedProcessExit
  split
  next h =>
    refine ⟨fun mem => ⟨mem, ?_⟩, And.left⟩
    rintro ⟨-, rfl⟩
    exact h mem
  next h =>
    dsimp only
    split
    next heq => simp [heq, and_comm]
    next hne => simp [hne]

end Outcomes

/-! ## A step, map by map -/

section Step

variable {cfg : Config} {m : Maps}

/-- The programs do nothing for a task that is no target. -/
theorem step_of_not_target {h : Hit} (out : h.task.tgid ∉ m.targetPids) :
    step cfg m h = m := by
  cases h with
  | sysEnter task ctx now mem =>
      have early : sysEnterState cfg m task ctx now mem = none := if_pos out
      rw [step, traceSysEnter, early]
  | sysExit task ctx now mem reserved =>
      have early : traceSysExit cfg m task ctx now mem reserved = (m, none) := if_pos out
      rw [step, early]
  | schedProcessExit task => exact if_pos out

/-- A hit touches the inflight entry of its own thread only. -/
theorem step_inflight_of_ne {h : Hit} {t : UInt32} (ne : t ≠ h.task.tid) :
    (step cfg m h).inflightSyscalls t = m.inflightSyscalls t := by
  cases h with
  | sysEnter task ctx now mem =>
      rw [step, sysEnter_inflight, if_neg (by exact ne)]
  | sysExit task ctx now mem reserved =>
      replace ne : t ≠ task.tid := ne
      rw [step]
      rcases sysExit_cases cfg m task ctx now mem reserved with
        ⟨-, h⟩ | ⟨-, -, h⟩ | ⟨state, -, -, ⟨-, h⟩ | ⟨-, -, h⟩ | ⟨-, -, h⟩⟩ <;>
        simp [h, Function.update_of_ne ne]
  | schedProcessExit task =>
      replace ne : t ≠ task.tid := ne
      rw [step, traceSchedProcessExit]
      split
      · rfl
      · dsimp only
        split <;> simp [Function.update_of_ne ne]

/-- A hit touches the sequence number of its own thread only. -/
theorem step_sequences_of_ne {h : Hit} {t : UInt32} (ne : t ≠ h.task.tid) :
    (step cfg m h).tidSequences t = m.tidSequences t := by
  cases h with
  | sysEnter task ctx now mem =>
      replace ne : t ≠ task.tid := ne
      rw [step, sysEnter_sequences, if_neg fun both => ne both.1]
  | sysExit task ctx now mem reserved =>
      replace ne : t ≠ task.tid := ne
      rw [step]
      rcases sysExit_cases cfg m task ctx now mem reserved with
        ⟨-, h⟩ | ⟨-, -, h⟩ | ⟨state, -, -, ⟨-, h⟩ | ⟨-, -, h⟩ | ⟨-, -, h⟩⟩
      all_goals simp only [h, deleteInflight_sequences, trackChildProcess_sequences,
        afterSubmit_sequences]
      split
      · rw [Function.update_of_ne ne]
      · rfl
  | schedProcessExit task =>
      replace ne : t ≠ task.tid := ne
      rw [step, traceSchedProcessExit]
      split
      · rfl
      · dsimp only
        split <;> simp [Function.update_of_ne ne]

end Step

end Litrace.Bpf
