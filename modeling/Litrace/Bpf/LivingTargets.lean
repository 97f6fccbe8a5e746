import Litrace.Bpf.Targets

/-!
# Targets that stand for living processes

A target should be a process that has not exited, so that whoever gets its pid
afterwards is not traced.  That is not a statement about pids: a pid that is a
target may well be in use while the process it was put there for is dead, and
then a stranger is traced.  So the world of `Litrace.Bpf.Targets` is given an
account of which process is which, beside the maps and read by no program:

* `births` counts the processes that have had a pid.  A process is a pid with
  the number it had when it was created, and only the latest can be alive, since
  the kernel gives a pid again when no thread of its process is left;
* `created` says which processes the call of a thread has created;
* `meant` says which process a target was put there for.

A `sys_exit` that inserts a pid means the process that its own call has created
under it.  There need not be one: a left-over entry can make a `sys_exit` insert
what another call returns, and then the process is meant that got the pid last.
A pid that is a target already keeps its meaning, as the insertion changes
nothing.

Two things can go wrong.  `trace_sys_exit` adds the child when the parent
returns from the clone, and the child may be gone by then, always so after a
`vfork` whose child exits.  And `trace_sched_process_exit` waits for the leader,
which may have exited before the process became a target.  The targets stand for
living processes exactly as long as neither happens
(`targets_live_iff_addsLiving`).
-/

namespace Litrace.Bpf

open Transition

/-! ## Processes that share a pid -/

/-- The world, with the identity of its processes. -/
structure Census where
  world : World
  /-- How many processes have had the pid. -/
  births : UInt32 → Nat
  /-- Which process the call that a thread is in has created under a pid. -/
  created : UInt32 → UInt32 → Option Nat
  /-- Which process a target stands for. -/
  meant : UInt32 → Nat

/-- A process or a thread is created, an exec leaves one thread, or a tracepoint
is hit. -/
inductive Happening where
  /-- In a call of the thread `parent` a process is created with the pid `child`. -/
  | fork (parent child : UInt32)
  /-- A thread appears in its process. -/
  | thread (task : Task)
  /-- The thread that execs takes the tid of its leader, which has exited. -/
  | takeOver (task : Task)
  | hit (h : Hit)

/-- A call that a thread enters has created nothing. -/
def createdAfter (s : Census) : Hit → UInt32 → UInt32 → Option Nat
  | .sysEnter task _ _ _ => Function.update s.created task.tid fun _ => none
  | _ => s.created

/-- The process that a `sys_exit` of the thread means by a pid: the one its call
has created, or else the one that got the pid last. -/
def meantBy (s : Census) (tid pid : UInt32) : Nat := (s.created tid pid).getD (s.births pid)

/-- A pid that is no target yet is given its meaning by the `sys_exit` that
inserts it. -/
def meantAfter (s : Census) : Hit → UInt32 → Nat
  | .sysExit task _ _ _ _ => fun pid =>
      if pid ∈ s.world.maps.targetPids then s.meant pid else meantBy s task.tid pid
  | _ => s.meant

/-- One step. -/
def happen (cfg : Config) (s : Census) : Happening → Census
  | .fork parent child =>
      let number := s.births child + 1
      { s with
        world := act cfg s.world (.spawn ⟨child, child⟩)
        births := Function.update s.births child number
        created := Function.update s.created parent
          (Function.update (s.created parent) child (some number)) }
  | .thread task => { s with world := act cfg s.world (.spawn task) }
  | .takeOver task =>
      let others := Function.update s.world.live task.tid none
      { s with world.live := Function.update others task.tgid (some task.tgid) }
  | .hit h =>
      { s with
        world := act cfg s.world (.hit h)
        created := createdAfter s h
        meant := meantAfter s h }

/-- The kernel's promise: a process gets a pid under which no thread is alive, a
thread appears in a living process and takes a free tid, and hits come from
threads that exist. -/
def Possible (s : Census) : Happening → Prop
  | .fork _ child => s.world.live child = none ∧ ¬ LiveGroup s.world child
  | .thread task => s.world.live task.tid = none ∧ LiveGroup s.world task.tgid
  | .takeOver task =>
      s.world.live task.tid = some task.tgid ∧ s.world.live task.tgid = none
  | .hit h => s.world.live h.task.tid = some h.task.tgid

/-- The process is alive: it is the one that got the pid last, and a thread is
left. -/
def Alive (s : Census) (pid : UInt32) (number : Nat) : Prop :=
  LiveGroup s.world pid ∧ number = s.births pid

/-- The process that each target stands for is alive.  Whoever hits a tracepoint
under the pid is then this process, and no other that has the pid. -/
def TargetsLive (s : Census) : Prop :=
  ∀ pid, pid ∈ s.world.maps.targetPids → Alive s pid (s.meant pid)

/-- A process that is added is alive, and the last thread of a target to exit is
its leader. -/
def AddsLiving (cfg : Config) (s : Census) : Happening → Prop
  | .hit (.sysExit task ctx _ mem _) =>
      task.tgid ∈ s.world.maps.targetPids →
        ∀ state, s.world.maps.inflightSyscalls task.tid = some state →
          followsChild cfg mem state ctx.ret = true →
            childTgid ctx.ret ∉ s.world.maps.targetPids →
              s.world.maps.targetPids.Admits (childTgid ctx.ret) →
                Alive s (childTgid ctx.ret) (meantBy s task.tid (childTgid ctx.ret))
  | .hit (.schedProcessExit task) =>
      task.tgid ∈ s.world.maps.targetPids →
        (∀ tid, s.world.live tid = some task.tgid → tid = task.tid) → task.tid = task.tgid
  | _ => True

section

variable {cfg : Config} {s : Census}

/-! ## One step -/

/-- A thread that takes the number of its leader keeps every group alive: its own now lives under
the leader's number. -/
theorem liveGroup_takeOver {task : Task} {tgid : UInt32} (vacant : s.world.live task.tgid = none)
    (own : s.world.live task.tid = some task.tgid) (alive : LiveGroup s.world tgid) :
    LiveGroup (happen cfg s (.takeOver task)).world tgid := by
  obtain ⟨tid, htid⟩ := alive
  by_cases hown : tid = task.tid
  · -- The thread itself goes on under the tid of the leader.
    subst hown
    obtain rfl : task.tgid = tgid := Option.some.inj (own.symm.trans htid)
    exact ⟨task.tgid, Function.update_self ..⟩
  · have hleader : tid ≠ task.tgid := by
      rintro rfl
      rw [vacant] at htid
      cases htid
    refine ⟨tid, (Function.update_of_ne hleader _ _).trans ?_⟩
    exact (Function.update_of_ne hown _ _).trans htid

/-- A process that is created has a pid that stands for nobody. -/
theorem targetsLive_fork {parent child : UInt32} (live : TargetsLive s)
    (possible : Possible s (.fork parent child)) :
    TargetsLive (happen cfg s (.fork parent child)) := by
  intro pid htarget
  obtain ⟨alive, latest⟩ := live pid htarget
  have ne : pid ≠ child := by
    rintro rfl
    exact possible.2 alive
  have kept : LiveGroup (act cfg s.world (.spawn ⟨child, child⟩)) pid :=
    liveGroup_spawn possible.1 alive
  exact ⟨kept, latest.trans (Function.update_of_ne ne _ _).symm⟩

/-- A `sys_exit` leads to living targets exactly when the process it adds, if it
adds one, is alive. -/
theorem targetsLive_sysExit_iff {task : Task} {ctx : SysExitArgs} {now : UInt64}
    {mem : UserMemory} {reserved : Bool} (live : TargetsLive s) :
    TargetsLive (happen cfg s (.hit (.sysExit task ctx now mem reserved))) ↔
      AddsLiving cfg s (.hit (.sysExit task ctx now mem reserved)) := by
  constructor
  · intro next htarget state hentry hfollows hnew hadmits
    have added : childTgid ctx.ret ∈
        (traceSysExit cfg s.world.maps task ctx now mem reserved).1.targetPids := by
      refine mem_target_sysExit.mpr
        ⟨.inr ⟨state, htarget, hentry, hfollows, rfl, hadmits⟩, ?_⟩
      -- The entry is of a clone, so the same `sys_exit` does not drop anybody.
      rintro ⟨state', -, hentry', -, -, hgroup, -⟩
      obtain rfl : state = state' := Option.some.inj (hentry.symm.trans hentry')
      exact followsChild_ne_exitGroup hfollows hgroup
    obtain ⟨alive, latest⟩ := next _ added
    exact ⟨alive, (if_neg hnew).symm.trans latest⟩
  · intro adds pid hmem
    by_cases hold : pid ∈ s.world.maps.targetPids
    · obtain ⟨alive, latest⟩ := live pid hold
      exact ⟨alive, (if_pos hold).trans latest⟩
    · rcases (mem_target_sysExit.mp hmem).1 with
        old | ⟨state, htarget, hentry, hfollows, rfl, hadmits⟩
      · exact absurd old hold
      · obtain ⟨alive, latest⟩ := adds htarget state hentry hfollows hold hadmits
        exact ⟨alive, (if_neg hold).trans latest⟩

/-- The exit of a thread leads to living targets exactly when it is not the last
of a target, or is its leader. -/
theorem targetsLive_schedProcessExit_iff {task : Task} (live : TargetsLive s)
    (possible : Possible s (.hit (.schedProcessExit task))) :
    TargetsLive (happen cfg s (.hit (.schedProcessExit task))) ↔
      AddsLiving cfg s (.hit (.schedProcessExit task)) := by
  constructor
  · intro next htarget last
    by_contra hleader
    have kept := mem_target_schedProcessExit.mpr
      ⟨htarget, fun both => hleader both.1⟩
    obtain ⟨tid, hlive, ne⟩ := liveGroup_schedProcessExit.mp (next _ kept).1
    exact ne (last tid hlive)
  · intro leaderLast pid hmem
    obtain ⟨htarget, keeps⟩ := mem_target_schedProcessExit.mp hmem
    obtain ⟨⟨tid, htid⟩, latest⟩ := live pid htarget
    refine ⟨liveGroup_schedProcessExit.mpr ?_, latest⟩
    -- Otherwise the thread that exits is the last of the group, hence its leader.
    by_contra none
    simp only [not_exists, not_and, not_not] at none
    have hown : task.tgid = pid := by
      have possible : s.world.live task.tid = some task.tgid := possible
      rw [none tid htid, possible] at htid
      exact Option.some.inj htid
    subst hown
    exact keeps ⟨leaderLast htarget none, rfl⟩

/-- From targets that stand for living processes, a step leads to such targets
exactly when what it adds is alive and the last thread it removes from a target
is the leader. -/
theorem targetsLive_step_iff {a : Happening} (live : TargetsLive s) (possible : Possible s a) :
    TargetsLive (happen cfg s a) ↔ AddsLiving cfg s a := by
  cases a with
  | fork parent child => exact iff_of_true (targetsLive_fork live possible) trivial
  | thread task =>
      refine iff_of_true (fun pid htarget => ?_) trivial
      obtain ⟨alive, latest⟩ := live pid htarget
      have kept : LiveGroup (act cfg s.world (.spawn task)) pid :=
        liveGroup_spawn possible.1 alive
      exact ⟨kept, latest⟩
  | takeOver task =>
      refine iff_of_true (fun pid htarget => ?_) trivial
      obtain ⟨alive, latest⟩ := live pid htarget
      exact ⟨liveGroup_takeOver possible.2 possible.1 alive, latest⟩
  | hit h =>
      cases h with
      | sysEnter task ctx now mem =>
          refine iff_of_true (fun pid htarget => ?_) trivial
          rw [happen, act, step, sysEnter_targets] at htarget
          exact live pid htarget
      | sysExit task ctx now mem reserved => exact targetsLive_sysExit_iff live
      | schedProcessExit task => exact targetsLive_schedProcessExit_iff live possible

/-- **When all targets are alive.**  From targets that stand for living
processes, a run stays among such states exactly when, at every step, the
process that a `sys_exit` adds is still alive (itself, not another that has got
its pid) and the last thread of a target to exit is its leader.

The condition asks of the child at the moment of the parent's return only, and of a target's last
thread, whatever happened before.  It is exact at each step, so the run lemma is that for
equivalences, `allStates_iff_allSteps`. -/
theorem targets_live_iff_addsLiving (cfg : Config) (s : Census) (run : List Happening)
    (live : TargetsLive s) (possible : AllSteps (happen cfg) Possible s run) :
    AllStates (happen cfg) TargetsLive s run ↔ AllSteps (happen cfg) (AddsLiving cfg) s run :=
  allStates_iff_allSteps (fun _ _ hI hs => targetsLive_step_iff hI hs) live possible

end

/-! ## Children that are gone -/

/-- The first process 100, alive and the only target. -/
def leaderCounted : Census where
  world := leaderAlive
  births := Function.update (fun _ => 0) 100 1
  created := fun _ _ => none
  meant := fun _ => 1

theorem leaderCounted_live : TargetsLive leaderCounted := by
  intro pid htarget
  obtain rfl : pid = 100 := Finset.mem_singleton.mp htarget
  exact ⟨⟨100, rfl⟩, rfl⟩

/-- A `vfork` whose child exits at once, as the parent waits for it to. -/
def vforkChildExits : List Happening :=
  [.hit (.sysEnter ⟨100, 100⟩ ⟨nrVfork, Vector.replicate 6 0⟩ 10 .unmapped),
    .fork 100 200,
    .hit (.schedProcessExit ⟨200, 200⟩),
    .hit (.sysExit ⟨100, 100⟩ ⟨nrVfork, 200⟩ 20 .unmapped true)]

/-- Before the child there is one thread, which is of another process. -/
theorem unborn (tid : UInt32) : leaderAlive.live tid ≠ some 200 := by
  intro htid
  have leader : leaderAlive.live tid = if tid = 100 then some 100 else none :=
    Function.update_apply (fun _ => none) 100 (some 100) tid
  rw [leader] at htid
  split at htid
  next => cases htid
  next => cases htid

/-- After its exit no thread is the child's. -/
theorem childGone : ¬ LiveGroup
    (run (happen followAll) leaderCounted (vforkChildExits.take 3)).world 200 := by
  rintro ⟨tid, htid⟩
  have exited : (run (happen followAll) leaderCounted (vforkChildExits.take 3)).world.live =
      Function.update leaderAlive.live 200 none := Function.update_idem ..
  rw [exited, Function.update_apply] at htid
  split at htid
  next => cases htid
  next => exact unborn tid htid

theorem vforkChildExits_possible :
    AllSteps (happen followAll) Possible leaderCounted vforkChildExits :=
  ⟨rfl, ⟨rfl, fun ⟨tid, htid⟩ => unborn tid htid⟩, rfl, rfl, trivial⟩

/-- Process 200 has exited and is a target. -/
theorem dead_child_is_target :
    ¬ ∀ (cfg : Config) (s : Census) (run : List Happening), cfg.followForks = true →
      TargetsLive s → AllSteps (happen cfg) Possible s run →
        AllStates (happen cfg) TargetsLive s run := by
  intro always
  have states := always followAll leaderCounted vforkChildExits rfl leaderCounted_live
    vforkChildExits_possible
  obtain ⟨-, -, -, -, last⟩ := states
  have added : (200 : UInt32) ∈
      (run (happen followAll) leaderCounted vforkChildExits).world.maps.targetPids := by decide
  exact childGone (last 200 added).1

/-- Before the `vfork` returns, thread 1 creates another process with the pid of
its child. -/
def pidIsTaken : List Happening :=
  vforkChildExits.take 3 ++ .fork 1 200 :: vforkChildExits.drop 3

theorem pidIsTaken_possible :
    AllSteps (happen followAll) Possible leaderCounted pidIsTaken :=
  ⟨rfl, ⟨rfl, fun ⟨tid, htid⟩ => unborn tid htid⟩, rfl, ⟨rfl, childGone⟩, rfl, trivial⟩

/-- The other process lives under the pid, and it is not the one that is added. -/
theorem targets_live_iff_addsLiving_pidIsTaken :
    ¬ AllSteps (happen followAll) (AddsLiving followAll) leaderCounted pidIsTaken := by
  intro adds
  have states := (targets_live_iff_addsLiving followAll leaderCounted pidIsTaken
    leaderCounted_live pidIsTaken_possible).mpr adds
  obtain ⟨-, -, -, -, -, last⟩ := states
  have added : (200 : UInt32) ∈
      (run (happen followAll) leaderCounted pidIsTaken).world.maps.targetPids := by decide
  obtain ⟨-, latest⟩ := last 200 added
  revert latest
  decide

end Litrace.Bpf
