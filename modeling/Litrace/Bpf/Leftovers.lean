import Litrace.Bpf.SubmittedVars
import Litrace.Bpf.Targets

/-!
# What threads leave behind

The maps `inflight_syscalls`, `execve_snapshots` and `tid_sequences` are keyed by tids, which
the kernel uses again.  `cleanup_tid_state` should leave nothing of a thread that has exited,
and it runs only for threads of targets.  So a thread leaves something behind exactly when it
exits after its process has been dropped (`noLeftovers_iff_exitsClean`), and none does if
leaders exit last (`noLeftovers_of_leaderLast`).

A leftover is harmless until the tid is given to a thread of a target.  Then that thread
continues the numbers of another, and an exit that finds the old entry submits it.  So the
states of interest are those in which the maps know existing threads only (`NoLeftovers`),
and the theorem says which exits keep them.

The world is that of `Litrace.Bpf.Targets`, as a map cannot tell whether a thread exists.  The
first result is an equivalence for one step, carried along the run; the second needs an
invariant of its own, `OfTargets`, because a target that is dropped too early leaves entries
behind which no later step removes.
-/

namespace Litrace.Bpf

open Transition

/-- The maps have nothing for the thread. -/
structure Clean (m : Maps) (tid : UInt32) : Prop where
  inflight : m.inflightSyscalls tid = none
  snapshot : m.execveSnapshots tid = none
  sequence : m.tidSequences tid = none

/-- The maps have something for threads that exist only. -/
def NoLeftovers (w : World) : Prop := ∀ tid, w.live tid = none → Clean w.maps tid

/-- A thread that exits is of a target, or there is nothing to leave behind. -/
def ExitsClean (w : World) : Act → Prop
  | .hit (.schedProcessExit task) => task.tgid ∈ w.maps.targetPids ∨ Clean w.maps task.tid
  | _ => True

section

variable {cfg : Config} {w : World} {m : Maps} {tid : UInt32}

theorem clean_load (targets : TargetPids) : Clean (Maps.load targets) tid := ⟨rfl, rfl, rfl⟩

/-- A hit leaves the other threads alone. -/
theorem clean_step_of_ne {h : Hit} (ne : tid ≠ h.task.tid) :
    Clean (step cfg m h) tid ↔ Clean m tid := by
  have inflight : (step cfg m h).inflightSyscalls tid = _ := step_inflight_of_ne ne
  have snapshot : (step cfg m h).execveSnapshots tid = _ := step_snapshots_of_ne ne
  have sequence : (step cfg m h).tidSequences tid = _ := step_sequences_of_ne ne
  constructor
  · intro clean
    exact ⟨inflight ▸ clean.inflight, snapshot ▸ clean.snapshot, sequence ▸ clean.sequence⟩
  · intro clean
    exact ⟨inflight.trans clean.inflight, snapshot.trans clean.snapshot,
      sequence.trans clean.sequence⟩

/-- The clean-up of a thread leaves nothing of it in any map. -/
theorem clean_cleanupTidState : Clean (cleanupTidState tid m) tid := by
  constructor <;> simp [cleanupTidState]

/-- The exit of a thread of a target cleans up. -/
theorem clean_schedProcessExit {task : Task} (target : task.tgid ∈ m.targetPids) :
    Clean (traceSchedProcessExit m task) task.tid := by
  unfold traceSchedProcessExit
  rw [if_neg (not_not.mpr target)]
  dsimp only
  split
  · exact ⟨clean_cleanupTidState.inflight, clean_cleanupTidState.snapshot,
      clean_cleanupTidState.sequence⟩
  · exact clean_cleanupTidState

/-- The end of a process that is no target changes nothing, since the handler looks at the targets
first. -/
theorem schedProcessExit_of_not_target {task : Task} (out : task.tgid ∉ m.targetPids) :
    traceSchedProcessExit m task = m :=
  if_pos out

/-- One action leaves nothing behind exactly when an exit is clean. -/
theorem noLeftovers_step_iff {a : Act} (clean : NoLeftovers w) (scheduled : Scheduled w a) :
    NoLeftovers (act cfg w a) ↔ ExitsClean w a := by
  -- The thread that hits exists, and it still does unless it exits.
  have others : ∀ h : Hit, w.live h.task.tid = some h.task.tgid → ∀ tid,
      w.live tid = none → Clean (step cfg w.maps h) tid := by
    intro h alive tid dead
    have ne : tid ≠ h.task.tid := by
      rintro rfl
      rw [alive] at dead
      cases dead
    exact (clean_step_of_ne ne).mpr (clean tid dead)
  cases a with
  | spawn task =>
      refine iff_of_true (fun tid dead => ?_) trivial
      by_cases own : tid = task.tid
      · simp [act, own] at dead
      · exact clean tid (by simpa [act, own] using dead)
  | hit h =>
      cases h with
      | sysEnter task ctx now mem =>
          exact iff_of_true (fun tid dead => others _ scheduled tid dead) trivial
      | sysExit task ctx now mem reserved =>
          exact iff_of_true (fun tid dead => others _ scheduled tid dead) trivial
      | schedProcessExit task =>
          constructor
          · intro next
            by_contra unclean
            simp only [ExitsClean, not_or] at unclean
            have after := next task.tid (by simp [act, liveAfter])
            rw [act, step, schedProcessExit_of_not_target unclean.1] at after
            exact unclean.2 after
          · intro exits tid dead
            by_cases own : tid = task.tid
            · subst own
              rcases exits with target | clean
              · exact clean_schedProcessExit target
              · by_cases target : task.tgid ∈ w.maps.targetPids
                · exact clean_schedProcessExit target
                · rw [act, step, schedProcessExit_of_not_target target]
                  exact clean
            · refine others _ scheduled tid ?_
              simpa [act, liveAfter, Function.update_of_ne own] using dead

/-- **When threads leave nothing behind.**  From maps that have something for existing threads
only, a run stays among such states exactly when every thread that exits is of a target or has
nothing in the maps. -/
theorem noLeftovers_iff_exitsClean (cfg : Config) (w : World) (acts : List Act)
    (clean : NoLeftovers w) (scheduled : AllSteps (act cfg) Scheduled w acts) :
    AllStates (act cfg) NoLeftovers w acts ↔ AllSteps (act cfg) ExitsClean w acts :=
  allStates_iff_allSteps (fun _ _ clean scheduled => noLeftovers_step_iff clean scheduled) clean
    scheduled

/-! ## Leaders that exit last -/

/-- The maps have something for existing threads of targets only. -/
def OfTargets (w : World) : Prop :=
  ∀ tid, ¬ Clean w.maps tid → ∃ tgid, w.live tid = some tgid ∧ tgid ∈ w.maps.targetPids

/-- If whatever has entries belongs to a target that is alive, nothing is left over. -/
theorem OfTargets.noLeftovers (inv : OfTargets w) : NoLeftovers w := by
  intro tid dead
  by_contra unclean
  obtain ⟨tgid, alive, -⟩ := inv tid unclean
  rw [dead] at alive
  cases alive

/-- A thread that has something after an action exists before and after it, and its process
was a target. -/
theorem OfTargets.of_step {a : Act} (inv : OfTargets w) (scheduled : Scheduled w a)
    (unclean : ¬ Clean (act cfg w a).maps tid) :
    ∃ tgid, tgid ∈ w.maps.targetPids ∧ w.live tid = some tgid ∧
      (act cfg w a).live tid = some tgid := by
  cases a with
  | spawn task =>
      obtain ⟨tgid, alive, target⟩ := inv tid unclean
      have ne : tid ≠ task.tid := by
        rintro rfl
        rw [show w.live task.tid = none from scheduled] at alive
        cases alive
      exact ⟨tgid, target, alive, by simpa [act, Function.update_of_ne ne] using alive⟩
  | hit h =>
      have exists_own : w.live h.task.tid = some h.task.tgid := scheduled
      by_cases own : tid = h.task.tid
      · subst own
        by_cases target : h.task.tgid ∈ w.maps.targetPids
        · cases h with
          | sysEnter task ctx now mem => exact ⟨task.tgid, target, exists_own, exists_own⟩
          | sysExit task ctx now mem reserved => exact ⟨task.tgid, target, exists_own, exists_own⟩
          | schedProcessExit task => exact absurd (clean_schedProcessExit target) unclean
        · have same : (act cfg w (.hit h)).maps = w.maps := step_of_not_target target
          obtain ⟨tgid, alive, target'⟩ := inv h.task.tid (same ▸ unclean)
          obtain rfl := Option.some.inj (exists_own.symm.trans alive)
          exact absurd target' target
      · obtain ⟨tgid, alive, target⟩ := inv tid (mt (clean_step_of_ne own).mpr unclean)
        refine ⟨tgid, target, alive, ?_⟩
        cases h with
        | sysEnter task ctx now mem => exact alive
        | sysExit task ctx now mem reserved => exact alive
        | schedProcessExit task =>
            replace own : tid ≠ task.tid := own
            simpa [act, liveAfter, Function.update_of_ne own] using alive

/-- The step lemma.  The end of a leader takes its group from the targets, and only when it is the
last to go are the entries of the group gone by then. -/
theorem OfTargets.step {a : Act} (inv : OfTargets w) (scheduled : Scheduled w a)
    (last : LeaderLast w a) : OfTargets (act cfg w a) := by
  intro tid unclean
  obtain ⟨tgid, target, before, after⟩ := inv.of_step scheduled unclean
  exact ⟨tgid, after, (stays_step_iff scheduled).mpr last tgid target ⟨tid, before⟩ ⟨tid, after⟩⟩

/-- **If leaders exit last, nothing is left behind.**  In any run from freshly loaded maps in
which the leader of a target exits last and no `sys_exit` acts on an `exit_group` entry, the
maps have something for existing threads only, in every state.

The condition on leaders is that of `target_stays_iff_leaderLast`.  So one and the same mistake,
to take the exit of the leader for the exit of the process, loses calls and leaves entries
behind. -/
theorem noLeftovers_of_leaderLast (cfg : Config) (targets : TargetPids)
    (live : UInt32 → Option UInt32) (acts : List Act)
    (scheduled : AllSteps (act cfg) Scheduled ⟨Maps.load targets, live⟩ acts)
    (last : AllSteps (act cfg) LeaderLast ⟨Maps.load targets, live⟩ acts) :
    AllStates (act cfg) NoLeftovers ⟨Maps.load targets, live⟩ acts := by
  have start : OfTargets ⟨Maps.load targets, live⟩ :=
    fun _ unclean => absurd (clean_load targets) unclean
  refine (allStates_iff_allSteps_of_invariant (J := OfTargets) (fun _ inv => inv.noLeftovers)
    (fun w a inv steps => ?_) (fun w a inv steps _ => inv.step steps.1 steps.2) start
    (scheduled.and last)).mpr (allSteps_const.mpr fun _ _ => trivial)
  exact iff_of_true (inv.step steps.1 steps.2).noLeftovers trivial

end

/-! ## Runs with and without leftovers -/

/-- A thread starts and enters a `read`, and exits when its leader has exited. -/
def leaderLeavesReader : List Act :=
  [.spawn ⟨100, 101⟩,
    .hit (.sysEnter ⟨100, 101⟩ ⟨nrRead, Vector.replicate 6 0⟩ 10 .unmapped),
    .hit (.schedProcessExit ⟨100, 100⟩),
    .hit (.schedProcessExit ⟨100, 101⟩)]

/-- The entry of the `read` outlives its thread. -/
theorem noLeftovers_iff_exitsClean_leaderLeavesReader :
    ¬ AllStates (act followAll) NoLeftovers leaderAlive leaderLeavesReader := by
  refine mt (noLeftovers_iff_exitsClean followAll leaderAlive leaderLeavesReader
    (fun _ _ => clean_load soleTarget) ⟨rfl, rfl, rfl, rfl, trivial⟩).mp ?_
  rintro ⟨-, -, -, dropped | ⟨inflight, -, -⟩, -⟩
  · exact absurd dropped (by decide)
  · exact absurd inflight (by decide)

/-- The thread exits first. -/
def readerExitsFirst : List Act :=
  [.spawn ⟨100, 101⟩,
    .hit (.sysEnter ⟨100, 101⟩ ⟨nrRead, Vector.replicate 6 0⟩ 10 .unmapped),
    .hit (.schedProcessExit ⟨100, 101⟩)]

theorem noLeftovers_of_leaderLast_readerExitsFirst :
    AllStates (act followAll) NoLeftovers leaderAlive readerExitsFirst :=
  noLeftovers_of_leaderLast followAll soleTarget _ readerExitsFirst ⟨rfl, rfl, rfl, trivial⟩
    ⟨trivial, trivial, fun _ leader => absurd leader (by decide), trivial⟩

end Litrace.Bpf
