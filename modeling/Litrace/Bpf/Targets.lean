import Litrace.Bpf.Tracer
import Litrace.Lib.Transition

/-!
# The targets and the processes that are alive

`target_pids` is meant to hold the traced processes that are alive.  To compare
it with the processes that are, the maps are run together with the kernel's
view, `live`: which threads exist, and to which thread group each belongs.
Threads appear by `spawn` and disappear with their `sched_process_exit` hit.

The maps alone could not say it: no program of `tracer.c` runs when a thread is
created, and none asks whether a thread group has threads left.  The kernel's
view is therefore a second component of the state that no program reads.  What
the kernel promises about it (a new thread takes a free tid, hits come from
threads that exist) is a condition on the steps of a run (`Scheduled`), so that
every result here is about all runs the kernel can produce.

A live target is dropped in two ways.  `trace_sched_process_exit` takes the exit
of the group leader for the exit of the process, so a process whose leader exits
first is dropped while its other threads run; and a `sys_exit` that submits an
event for an `exit_group` entry drops its process at once.  A target stays as
long as it is alive exactly when neither happens (`target_stays_iff_leaderLast`).
That targets are alive is the subject of `Litrace.Bpf.LivingTargets`.
-/

namespace Litrace.Bpf

open Transition

/-! ## Maps and threads -/

/-- The maps, and the thread group of each thread that exists.

The threads are not part of the maps because the programs do not know them: no tracepoint is hit
when a thread appears. -/
structure World where
  maps : Maps
  live : UInt32 → Option UInt32

/-- A thread appears, or a tracepoint is hit. -/
inductive Act where
  | spawn (task : Task)
  | hit (h : Hit)

/-- What a hit does to the threads: only `sched_process_exit` removes one. -/
def liveAfter (live : UInt32 → Option UInt32) : Hit → UInt32 → Option UInt32
  | .schedProcessExit task => Function.update live task.tid none
  | _ => live

/-- One action. -/
def act (cfg : Config) (w : World) : Act → World
  | .spawn task => { w with live := Function.update w.live task.tid (some task.tgid) }
  | .hit h => { maps := step cfg w.maps h, live := liveAfter w.live h }

/-- The kernel's promise: a new thread takes a free tid, and hits come from
threads that exist. -/
def Scheduled (w : World) : Act → Prop
  | .spawn task => w.live task.tid = none
  | .hit h => w.live h.task.tid = some h.task.tgid

/-- The process has a thread that is alive. -/
def LiveGroup (w : World) (tgid : UInt32) : Prop := ∃ tid, w.live tid = some tgid

section

variable {cfg : Config} {w : World}

/-- A new thread ends no group. -/
theorem liveGroup_spawn {task : Task} {tgid : UInt32} (free : w.live task.tid = none)
    (alive : LiveGroup w tgid) : LiveGroup (act cfg w (.spawn task)) tgid := by
  obtain ⟨tid, htid⟩ := alive
  have ne : tid ≠ task.tid := by
    rintro rfl
    rw [free] at htid
    cases htid
  exact ⟨tid, (Function.update_of_ne ne _ _).trans htid⟩

/-- A process outlives the exit of a thread if another one is left. -/
theorem liveGroup_schedProcessExit {task : Task} {tgid : UInt32} :
    LiveGroup (act cfg w (.hit (.schedProcessExit task))) tgid ↔
      ∃ tid, w.live tid = some tgid ∧ tid ≠ task.tid := by
  refine exists_congr fun tid => ?_
  by_cases own : tid = task.tid
  · simp [act, liveAfter, own]
  · simp [act, liveAfter, own]

/-! ## Targets that stay -/

/-- Among the live threads of a target the leader exits last, and no
`sys_exit` submits an event for an `exit_group` entry. -/
def LeaderLast (w : World) : Act → Prop
  | .spawn _ => True
  | .hit (.sysEnter _ _ _ _) => True
  | .hit (.sysExit task _ _ _ reserved) =>
      task.tgid ∈ w.maps.targetPids → reserved = true →
        ∀ state, w.maps.inflightSyscalls task.tid = some state → state.selected = true →
          state.syscallId ≠ nrExitGroup
  | .hit (.schedProcessExit task) =>
      task.tgid ∈ w.maps.targetPids → task.tid = task.tgid →
        ∀ tid, w.live tid = some task.tgid → tid = task.tid

/-- One action keeps the live targets exactly when it is not the exit of a
leader that leaves threads behind, nor a submission for an `exit_group`. -/
theorem stays_step_iff {a : Act} (scheduled : Scheduled w a) :
    (∀ tgid, tgid ∈ w.maps.targetPids → LiveGroup w tgid →
      LiveGroup (act cfg w a) tgid → tgid ∈ (act cfg w a).maps.targetPids) ↔
      LeaderLast w a := by
  cases a with
  | spawn task => exact iff_of_true (fun _ htarget _ _ => htarget) trivial
  | hit h =>
      cases h with
      | sysEnter task ctx now mem =>
          refine iff_of_true (fun tgid htarget _ _ => ?_) trivial
          rw [act, step, sysEnter_targets]
          exact htarget
      | sysExit task ctx now mem reserved =>
          constructor
          · intro stays htarget hreserved state hentry hsel hgroup
            -- The thread that hits is alive before and after, so its group is to be kept.
            have alive : LiveGroup w task.tgid := ⟨task.tid, scheduled⟩
            have kept := stays task.tgid htarget alive alive
            exact (mem_target_sysExit.mp kept).2
              ⟨state, htarget, hentry, hsel, hreserved, hgroup, rfl⟩
          · intro last tgid htarget _ _
            refine mem_target_sysExit.mpr ⟨.inl htarget, ?_⟩
            rintro ⟨state, hown, hentry, hsel, hreserved, hgroup, -⟩
            exact last hown hreserved state hentry hsel hgroup
      | schedProcessExit task =>
          constructor
          · intro stays htarget hleader tid hlive
            by_contra ne
            have kept := stays task.tgid htarget ⟨tid, hlive⟩
              (liveGroup_schedProcessExit.mpr ⟨tid, hlive, ne⟩)
            exact (mem_target_schedProcessExit.mp kept).2 ⟨hleader, rfl⟩
          · intro last tgid htarget _ left
            refine mem_target_schedProcessExit.mpr ⟨htarget, ?_⟩
            rintro ⟨hleader, rfl⟩
            -- A thread is left, so the leader was not the last.
            obtain ⟨tid, hlive, ne⟩ := liveGroup_schedProcessExit.mp left
            exact ne (last htarget hleader tid hlive)

/-- A target is kept for as long as a thread of its process is alive. -/
def TargetStays (cfg : Config) (w : World) (acts : List Act) : Prop :=
  ∀ tgid, StaysWhile (act cfg) (fun w => tgid ∈ w.maps.targetPids)
    (fun w => LiveGroup w tgid) w acts

/-- **When live targets stay.**  In any run, from any state: no target is
dropped before its last thread has exited exactly when, at every step, a
leader that exits is the last thread of its group and no `sys_exit` submits an
event for an `exit_group` entry.

The state at the start is arbitrary, so nothing is said of how the targets came to be there.
Both directions go step by step: a step that breaks the condition drops a target with a thread
left, and from a step that meets it no such target is missing. -/
theorem target_stays_iff_leaderLast (cfg : Config) (w : World) (acts : List Act)
    (scheduled : AllSteps (act cfg) Scheduled w acts) :
    TargetStays cfg w acts ↔ AllSteps (act cfg) LeaderLast w acts := by
  have perStep : TargetStays cfg w acts ↔
      AllSteps (act cfg) (fun w a => ∀ tgid, tgid ∈ w.maps.targetPids → LiveGroup w tgid →
        LiveGroup (act cfg w a) tgid → tgid ∈ (act cfg w a).maps.targetPids) w acts := by
    simp only [TargetStays, staysWhile_iff_allSteps, allSteps_iff_splits]
    exact ⟨fun h pre a post split tgid => h tgid pre a post split,
      fun h tgid pre a post split => h pre a post split tgid⟩
  rw [perStep]
  exact allSteps_congr_of_invariant (fun _ _ _ _ => trivial)
    (fun _ _ _ hs => stays_step_iff hs) (I := fun _ => True) trivial scheduled

end

/-! ## A run in which one is dropped -/

/-- Following forks, without a filter. -/
def followAll : Config where
  followForks := true
  traceFilterEnabled := false
  traceSyscallFilter := ∅

/-- The leader 100 of the only target, alive. -/
def leaderAlive : World where
  maps := Maps.load soleTarget
  live := Function.update (fun _ => none) 100 (some 100)

/-- A second thread starts and the leader exits. -/
def leaderExitsFirst : List Act :=
  [.spawn ⟨100, 101⟩, .hit (.schedProcessExit ⟨100, 100⟩)]

theorem leaderExitsFirst_scheduled :
    AllSteps (act followAll) Scheduled leaderAlive leaderExitsFirst :=
  ⟨rfl, rfl, trivial⟩

theorem target_stays_iff_leaderLast_leaderExitsFirst :
    TargetStays followAll leaderAlive leaderExitsFirst ↔
      AllSteps (act followAll) LeaderLast leaderAlive leaderExitsFirst :=
  target_stays_iff_leaderLast _ _ _ leaderExitsFirst_scheduled

/-- Thread 101 is alive and its process is no target any more. -/
theorem live_target_is_dropped :
    ¬ ∀ (cfg : Config) (w : World) (acts : List Act),
      AllSteps (act cfg) Scheduled w acts → TargetStays cfg w acts := by
  intro always
  have stays := always followAll leaderAlive leaderExitsFirst leaderExitsFirst_scheduled
  have kept := stays 100 [] leaderExitsFirst [] rfl (Finset.mem_singleton_self _)
    ⟨⟨100, rfl⟩, ⟨100, rfl⟩, ⟨101, rfl⟩⟩
  revert kept
  decide

end Litrace.Bpf
