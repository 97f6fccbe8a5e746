import Litrace.Bpf.Entries
import Litrace.Bpf.FilterIndependence
import Litrace.Bpf.Pairing

/-!
# The family of the targets

The programs should trace no process but the targets they are given and, with `follow_forks`,
those that come from these by calls that create processes.  A thread is never taken for a
process, neither with `clone` nor, as far as user memory says so when the call returns, with
`clone3`.

`trace_sys_exit` takes the child from the call that is ending, and whether that is a clone from
the entry of its thread.  When the entry is not of this call but left over from a clone before
it, whose reservation failed, the result of another call becomes a target: after a `fork` that
is left over, the return of `getppid` makes the parent one.  The runs here are those in which no
`sys_exit` follows a left-over entry (`FollowsOwn`), and in them only the family is traced
(`events_of_family`).  The calls themselves are watched as in `Litrace.Bpf.Pairing`.
-/

namespace Litrace.Bpf

open Transition

/-- The call creates a process, not a thread.  The flags of `clone3` are in user memory, where
they are looked up when the call has returned; what cannot be read is no flag. -/
def CreatesProcess (ctx : SysEnterArgs) (mem : UserMemory) : Prop :=
  ctx.id = nrFork ∨ ctx.id = nrVfork ∨
    (ctx.id = nrClone ∧ ctx.args.get 0 &&& cloneThread = 0) ∨
    (ctx.id = nrClone3 ∧
      ∀ flags, mem.readU64 (ctx.args.get 0) = some flags → flags &&& cloneThread = 0)

/-- The targets, and the processes that members of the family have created: a thread of the
member enters a call that creates processes, and the next that it does is to return from it with
the process. -/
inductive Family (targets : TargetPids) : List Hit → UInt32 → Prop
  | target {tgid : UInt32} (before : List Hit) (mem : tgid ∈ targets) : Family targets before tgid
  | child (pre mid post : List Hit) (parent parent' : Task) (ctx : SysEnterArgs)
      (ctx' : SysExitArgs) (entered left : UInt64) (mem mem' : UserMemory) (reserved : Bool)
      (member : Family targets pre parent.tgid) (thread : parent'.tid = parent.tid)
      (inCall : ∀ h ∈ mid, h.task.tid ≠ parent.tid) (sameCall : ctx'.id = ctx.id)
      (creates : CreatesProcess ctx mem') (created : 0 < ctx'.ret) :
      Family targets
        (pre ++ .sysEnter parent ctx entered mem ::
          mid ++ .sysExit parent' ctx' left mem' reserved :: post)
        (childTgid ctx'.ret)

/-- The exit of a call that was not recorded follows no entry that is left over. -/
def FollowsOwn (cfg : Config) (s : Watched) : Hit → Prop
  | .sysExit task ctx _ mem _ =>
      Unrecorded s task.tid → task.tgid ∈ s.maps.targetPids →
        ∀ state, s.maps.inflightSyscalls task.tid = some state →
          followsChild cfg mem state ctx.ret = false
  | _ => True

section

variable {cfg : Config} {targets : TargetPids}

/-- Who has joined the family stays in it, whatever happens later. -/
theorem Family.append {before : List Hit} {tgid : UInt32} (member : Family targets before tgid)
    (later : List Hit) : Family targets (before ++ later) tgid := by
  cases member with
  | target _ mem => exact .target _ mem
  | child pre mid post parent parent' ctx ctx' entered left mem mem' reserved member thread
      inCall sameCall creates created =>
      have split : pre ++ .sysEnter parent ctx entered mem ::
            mid ++ .sysExit parent' ctx' left mem' reserved :: post ++ later =
          pre ++ .sysEnter parent ctx entered mem ::
            mid ++ .sysExit parent' ctx' left mem' reserved :: (post ++ later) := by simp
      rw [split]
      exact .child pre mid (post ++ later) parent parent' ctx ctx' entered left mem mem' reserved
        member thread inCall sameCall creates created

/-- The test the tracer makes at the return, on the entry it kept, is the test on the call that was
entered: an entry keeps the call's number and arguments. -/
theorem createsProcess_of_isProcessClone {mem : UserMemory} {state : SyscallData}
    {ctx : SysEnterArgs} (id : state.syscallId = ctx.id) (args : state.args = ctx.args)
    (clone : isProcessClone mem state = true) : CreatesProcess ctx mem := by
  unfold isProcessClone at clone
  rw [id, args] at clone
  split at clone
  next forks => exact forks.imp_right .inl
  next =>
    split at clone
    next id => exact .inr (.inr (.inl ⟨id, by simpa using clone⟩))
    next =>
      split at clone
      next id =>
        refine .inr (.inr (.inr ⟨id, fun flags known => ?_⟩))
        rw [known] at clone
        simpa using clone
      next => cases clone

/-- A new target comes from one that has been there. -/
theorem mem_target_step {m : Maps} {h : Hit} {tgid : UInt32}
    (mem : tgid ∈ (step cfg m h).targetPids) :
    tgid ∈ m.targetPids ∨ ∃ task ctx now user reserved state,
      h = .sysExit task ctx now user reserved ∧ task.tgid ∈ m.targetPids ∧
        m.inflightSyscalls task.tid = some state ∧
          followsChild cfg user state ctx.ret = true ∧ tgid = childTgid ctx.ret := by
  cases h with
  | sysEnter task ctx now user => exact .inl (sysEnter_targets ▸ mem)
  | schedProcessExit task => exact .inl (mem_target_schedProcessExit.mp mem).1
  | sysExit task ctx now user reserved =>
      rcases (mem_target_sysExit.mp mem).1 with old | ⟨state, target, entry, follows, eq, -⟩
      · exact .inl old
      · exact .inr ⟨task, ctx, now, user, reserved, state, rfl, target, entry, follows, eq⟩

/-- Without `follow_forks` there are no new targets. -/
theorem mem_targets_of_unfollowed (off : cfg.followForks = false) {hits : List Hit}
    {tgid : UInt32} (mem : tgid ∈ (run (step cfg) (Maps.load targets) hits).targetPids) :
    tgid ∈ targets := by
  induction hits using List.reverseRecOn with
  | nil => exact mem
  | append_singleton hits h ih =>
      rw [run_concat] at mem
      rcases mem_target_step mem with old | ⟨_, _, _, _, _, _, -, -, -, follows, -⟩
      · exact ih old
      · simp [followsChild, off] at follows

/-! ## The call a thread is in -/

/-- The watcher looks on: the maps of a watched run are those of the run. -/
theorem watch_maps_run (hits : List Hit) :
    (run (watch cfg) (Watched.start targets) hits).maps =
      run (step cfg) (Maps.load targets) hits := by
  induction hits using List.reverseRecOn with
  | nil => rfl
  | append_singleton hits h ih => rw [run_concat, run_concat, watch, ih]

/-- The thread has entered it, and has not hit a tracepoint since. -/
theorem pending_entered {hits : List Hit} {tid : UInt32} {call : Pending}
    (pending : (run (watch cfg) (Watched.start targets) hits).pending tid = some call) :
    ∃ pre task ctx now mem mid, hits = pre ++ .sysEnter task ctx now mem :: mid ∧
      task.tid = tid ∧ (∀ h ∈ mid, h.task.tid ≠ tid) ∧
      call = ⟨ctx.id,
        sysEnterState cfg (run (step cfg) (Maps.load targets) pre) task ctx now mem⟩ := by
  -- From the back: the last hit is of the thread, and then it is the enter, or of another one.
  induction hits using List.reverseRecOn with
  | nil => cases pending
  | append_singleton hits h ih =>
      rw [run_concat] at pending
      by_cases own : tid = h.task.tid
      · cases h with
        | sysEnter task ctx now mem =>
            obtain rfl : tid = task.tid := own
            refine ⟨hits, task, ctx, now, mem, [], rfl, rfl, by simp, ?_⟩
            rw [← watch_maps_run]
            simpa [watch, watchPending] using pending.symm
        | sysExit task ctx now mem reserved =>
            obtain rfl : tid = task.tid := own
            simp [watch, watchPending] at pending
        | schedProcessExit task =>
            obtain rfl : tid = task.tid := own
            simp [watch, watchPending] at pending
      · obtain ⟨pre, task, ctx, now, mem, mid, rfl, thread, inCall, rfl⟩ :=
          ih ((watchPending_of_ne own).symm.trans pending)
        refine ⟨pre, task, ctx, now, mem, mid ++ [h], by simp, thread, ?_, rfl⟩
        intro h' mem'
        rcases List.mem_append.mp mem' with mem' | mem'
        · exact inCall h' mem'
        · rw [List.mem_singleton.mp mem']
          exact Ne.symm own

/-- What is followed was recorded for the call that ends. -/
theorem pending_of_followed {s : Watched} {task : Task} {ctx : SysExitArgs} {now : UInt64}
    {mem : UserMemory} {reserved : Bool} {state : SyscallData} (inv : EntryRecorded s)
    (own : FollowsOwn cfg s (.sysExit task ctx now mem reserved))
    (target : task.tgid ∈ s.maps.targetPids)
    (entry : s.maps.inflightSyscalls task.tid = some state)
    (follows : followsChild cfg mem state ctx.ret = true) :
    ∃ call, s.pending task.tid = some call ∧ call.recorded = some state := by
  have recorded : ¬ Unrecorded s task.tid := by
    intro unrecorded
    rw [own unrecorded target state entry] at follows
    cases follows
  simp only [Unrecorded, not_forall] at recorded
  obtain ⟨call, pending, some⟩ := recorded
  obtain ⟨recorded, hrecorded⟩ := Option.ne_none_iff_exists'.mp some
  obtain ⟨inflight, -⟩ := inv task.tid call recorded pending hrecorded
  obtain rfl : recorded = state := Option.some.inj (inflight.symm.trans entry)
  exact ⟨call, pending, hrecorded⟩

/-- **All targets are of the family.** -/
theorem family_of_mem_target {hits : List Hit}
    (alternates : AllSteps (watch cfg) Alternates (Watched.start targets) hits)
    (own : AllSteps (watch cfg) (FollowsOwn cfg) (Watched.start targets) hits)
    {tgid : UInt32} (mem : tgid ∈ (run (step cfg) (Maps.load targets) hits).targetPids) :
    Family targets hits tgid := by
  -- The parent was a target when it entered the call, which is any time before.
  induction length : hits.length using Nat.strong_induction_on generalizing hits tgid with
  | _ n ih =>
      rcases List.eq_nil_or_concat hits with rfl | ⟨hits, h, rfl⟩
      · exact .target [] mem
      · rw [List.concat_eq_append] at *
        rw [List.length_append, List.length_singleton] at length
        obtain ⟨before, alternate, -⟩ := allSteps_append.mp alternates
        obtain ⟨ownBefore, followsOwn, -⟩ := allSteps_append.mp own
        rw [run_concat] at mem
        rcases mem_target_step mem with
          old | ⟨task, ctx, now, user, reserved, state, rfl, target, entry, follows, rfl⟩
        · exact (ih hits.length (by omega) before ownBefore old rfl).append [h]
        · rw [← watch_maps_run] at target entry
          have inv : EntryRecorded (run (watch cfg) (Watched.start targets) hits) :=
            AllSteps.invariant_run (I := EntryRecorded) (fun _ h inv _ => entryRecorded_watch inv h)
              (entryRecorded_start targets) before
          obtain ⟨call, pending, recorded⟩ :=
            pending_of_followed inv followsOwn target entry follows
          have sameCall := alternate call pending
          obtain ⟨pre, parent, ctx', entered, user', mid, rfl, thread, inCall, rfl⟩ :=
            pending_entered pending
          obtain ⟨member, -, rfl⟩ := sysEnterState_eq_some.mp recorded
          have shorter : pre.length < n := by simp at length; omega
          obtain ⟨created, -⟩ := clones_of_followsChild follows
          simp only [followsChild, Bool.and_eq_true] at follows
          refine .child pre mid [] parent task ctx' ctx entered now user' user reserved
            (ih pre.length shorter (allSteps_append.mp before).1 (allSteps_append.mp ownBefore).1
              member rfl) thread.symm ?_ sameCall
            (createsProcess_of_isProcessClone rfl rfl follows.1.2) created
          rw [thread]
          exact inCall

end

/-- **Only the family is traced.**  Whatever the filter, the schedule and the failures of the
ring buffer, if no `sys_exit` follows a left-over entry of another call, the process of an event
is a target from the start or comes from one by calls that create processes.  Without
`follow_forks` it is a target from the start in any case. -/
theorem events_of_family (cfg : Config) (targets : TargetPids) (before : List Hit) (h : Hit)
    (e : Event) (sub : submitted cfg (run (step cfg) (Maps.load targets) before) h = some e) :
    (AllSteps (watch cfg) Alternates (Watched.start targets) before →
      AllSteps (watch cfg) (FollowsOwn cfg) (Watched.start targets) before →
        Family targets before e.pid) ∧
      (cfg.followForks = false → e.pid ∈ targets) := by
  obtain ⟨task, ctx, now, mem, state, rfl, member, -, -, rfl⟩ := submitted_eq_some.mp sub
  have pid : (exitEvent mem task state ctx now
      ((run (step cfg) (Maps.load targets) before).execveSnapshots task.tid)).pid = task.tgid :=
    (exitEvent_header ..).pid
  rw [pid]
  exact ⟨fun alternates own => family_of_mem_target alternates own member,
    fun off => mem_targets_of_unfollowed off member⟩

/-- The child that process 100 forks is of the family when it reads. -/
theorem events_of_family_forkThenRead : Family soleTarget (forkThenRead.take 3) 200 := by
  refine (events_of_family ⟨true, true, {0}⟩ soleTarget (forkThenRead.take 3)
    (.sysExit ⟨200, 200⟩ ⟨nrRead, 5⟩ 40 .unmapped true) _ rfl).1 ⟨rfl, ?_, rfl, trivial⟩
    ⟨trivial, ?_, trivial, trivial⟩
  · intro call pending
    cases pending
    rfl
  · -- The `fork` is recorded.
    intro unrecorded
    cases unrecorded _ rfl

/-- The `fork` of process 100 finds the ring buffer full, and then it asks for its parent. -/
def getppidAfterFork : List Hit :=
  [.sysEnter ⟨100, 100⟩ ⟨nrFork, Vector.replicate 6 0⟩ 10 .unmapped,
    .sysExit ⟨100, 100⟩ ⟨nrFork, 200⟩ 20 .unmapped false,
    .sysEnter ⟨100, 100⟩ ⟨110, Vector.replicate 6 0⟩ 30 .unmapped,
    .sysExit ⟨100, 100⟩ ⟨110, 1⟩ 40 .unmapped true]

/-- Without a record of its own the `getppid` makes the parent a target. -/
example : (1 : UInt32) ∈ (run (step ⟨true, true, {57}⟩) (Maps.load soleTarget)
    getppidAfterFork).targetPids := by decide

end Litrace.Bpf
