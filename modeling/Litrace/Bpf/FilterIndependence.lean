import Litrace.Bpf.Tracer
import Litrace.Lib.Transition

/-!
# The filter does not decide who is followed

With `follow_forks` the programs must recognise every clone of a target, also
one that the filter does not select.  Here the programs run twice over the same
hits, with the filter and without it, and both runs have the same targets all
along (`targets_independent_of_filter`).

The unfiltered run records every call, the filtered run only some.  The
invariant `Agree` says how far they may differ: a thread of a target is in a
call that both recorded with the same number and arguments, or that neither
did, or that only the unfiltered run recorded, and then the call does not create
processes.

What the kernel promises is a machine of its own, `Threads`, which knows the
call each thread is in and the processes there have been.  A process that is
not a target may be in any state, since it can never become one: a process is
added when a clone returns it, and what a clone returns is new.

Without such a promise the targets could differ: if a clone returned the pid of
an old process, that process might have entries which only one of the runs
knows, and an `exit_group` among them drops it in this run alone.  `Promised` is
stated for hits alone and mentions neither the maps nor the filter, so it cannot
favour one of the runs.
-/

namespace Litrace.Bpf

open Transition

/-! ## What the kernel promises -/

/-- The call each thread is in, and the processes known so far: the first
targets, and what clones have returned. -/
structure Threads where
  pending : UInt32 → Option Int64
  known : Finset UInt32

/-- Right after loading no call has been seen to start. -/
def Threads.start (targets : TargetPids) : Threads where
  pending _ := none
  known := targets.keys

/-- What a hit says about the threads. -/
def Threads.next (k : Threads) : Hit → Threads
  | .sysEnter task ctx _ _ =>
      { k with pending := Function.update k.pending task.tid (some ctx.id) }
  | .sysExit task ctx _ _ _ =>
      { pending := Function.update k.pending task.tid none
        known :=
          if 0 < ctx.ret ∧ Clones ctx.id then insert (childTgid ctx.ret) k.known
          else k.known }
  | .schedProcessExit task => { k with pending := Function.update k.pending task.tid none }

/-- The kernel's promise.  Every tid belongs to one process.  A thread enters a
call only when it is in none, an exit belongs to the call the thread is in, and
`exit_group` does not return.  A clone returns a new process.  User address zero
cannot be read, and the ring buffer has room. -/
def Promised (tgidOf : UInt32 → UInt32) (k : Threads) (h : Hit) : Prop :=
  h.task.tgid = tgidOf h.task.tid ∧
    match h with
    | .sysEnter task _ _ mem => k.pending task.tid = none ∧ mem.readU64 0 = none
    | .sysExit task ctx _ _ reserved =>
        k.pending task.tid = some ctx.id ∧ ctx.id ≠ nrExitGroup ∧
          (0 < ctx.ret → Clones ctx.id → childTgid ctx.ret ∉ k.known) ∧ reserved = true
    | .schedProcessExit _ => True

/-! ## Recognising clones -/

/-- Zeroed arguments pass for those of a process clone, since address zero
cannot be read. -/
theorem shouldTrack_of_clones {cfg : Config} {mem : UserMemory} {id : Int64}
    (follow : cfg.followForks = true) (unmapped : mem.readU64 0 = none) (h : Clones id) :
    shouldTrackUnselectedSyscall cfg mem id = true := by
  have zeroed : (Vector.replicate 6 (0 : UInt64)).get 0 = 0 := rfl
  rcases h with rfl | rfl | rfl | rfl
  · simp [shouldTrackUnselectedSyscall, follow, isProcessClone]
  · simp [shouldTrackUnselectedSyscall, follow, isProcessClone]
  · have hfork : nrClone ≠ nrFork := by decide
    have hvfork : nrClone ≠ nrVfork := by decide
    simp [shouldTrackUnselectedSyscall, follow, isProcessClone, hfork, hvfork, zeroed]
  · have hfork : nrClone3 ≠ nrFork := by decide
    have hvfork : nrClone3 ≠ nrVfork := by decide
    have hclone : nrClone3 ≠ nrClone := by decide
    simp [shouldTrackUnselectedSyscall, follow, isProcessClone, hfork, hvfork, hclone,
      unmapped, zeroed]

/-! ## Two runs that agree -/

/-- How the entries of the unfiltered and the filtered run may differ for a
thread, given the call it is in. -/
inductive SameCall : Option Int64 → Option SyscallData → Option SyscallData → Prop
  | unrecorded (pending : Option Int64) : SameCall pending none none
  | recorded (state state' : SyscallData) (hid : state'.syscallId = state.syscallId)
      (hargs : state'.args = state.args) :
      SameCall (some state.syscallId) (some state) (some state')
  | skipped (state : SyscallData) (plain : ¬ Clones state.syscallId) :
      SameCall (some state.syscallId) (some state) none

/-- Nothing is recorded for a thread that is in no call. -/
theorem SameCall.idle {entry entry' : Option SyscallData} (same : SameCall none entry entry') :
    entry = none ∧ entry' = none := by
  cases same
  exact ⟨rfl, rfl⟩

/-- Two entries for the call of one number have this number. -/
theorem SameCall.syscallId {id : Int64} {entry entry' : Option SyscallData}
    (same : SameCall (some id) entry entry') :
    (∀ state, entry = some state → state.syscallId = id) ∧
      ∀ state, entry' = some state → state.syscallId = id := by
  cases same with
  | unrecorded => simp
  | recorded state state' hid hargs => simp [hid]
  | skipped state plain => simp

/-- The targets are the same and known.  Processes not yet known have nothing
recorded, and the threads of targets are in the same call. -/
structure Agree (tgidOf : UInt32 → UInt32) (m n : Maps) (k : Threads) : Prop where
  targets : n.targetPids = m.targetPids
  known : ∀ tgid, tgid ∈ m.targetPids → tgid ∈ k.known
  blank : ∀ tid, tgidOf tid ∉ k.known →
    m.inflightSyscalls tid = none ∧ n.inflightSyscalls tid = none
  calls : ∀ tid, tgidOf tid ∈ m.targetPids →
    SameCall (k.pending tid) (m.inflightSyscalls tid) (n.inflightSyscalls tid)

section

variable {cfg cfg' : Config} {tgidOf : UInt32 → UInt32} {m n : Maps} {k : Threads}

theorem agree_start (targets : TargetPids) :
    Agree tgidOf (Maps.load targets) (Maps.load targets) (Threads.start targets) where
  targets := rfl
  known _ h := h
  blank _ _ := ⟨rfl, rfl⟩
  calls _ _ := .unrecorded _

/-- A hit of one thread leaves the pending calls of the others alone. -/
theorem Threads.next_pending_of_ne {h : Hit} {tid : UInt32} (ne : tid ≠ h.task.tid) :
    (k.next h).pending tid = k.pending tid := by
  cases h with
  | sysEnter task ctx now mem => exact Function.update_of_ne ne _ _
  | sysExit task ctx now mem reserved => exact Function.update_of_ne ne _ _
  | schedProcessExit task => exact Function.update_of_ne ne _ _

/-- A process once known stays known. -/
theorem Threads.known_subset_next (k : Threads) (h : Hit) : k.known ⊆ (k.next h).known := by
  cases h with
  | sysEnter task ctx now mem => exact Finset.Subset.refl _
  | sysExit task ctx now mem reserved =>
      rw [Threads.next]
      split
      · exact Finset.subset_insert _ _
      · exact Finset.Subset.refl _
  | schedProcessExit task => exact Finset.Subset.refl _

/-- A process that is not known yet is no target, and its threads record
nothing. -/
theorem Agree.blank_step {h : Hit} {tid : UInt32} (inv : Agree tgidOf m n k)
    (tid_fixed : h.task.tgid = tgidOf h.task.tid) (unknown : tgidOf tid ∉ k.known) :
    (step cfg m h).inflightSyscalls tid = none ∧
      (step cfg' n h).inflightSyscalls tid = none := by
  by_cases mine : tid = h.task.tid
  -- Whoever is not known is no target, and the programs do nothing for it.
  · have out : h.task.tgid ∉ m.targetPids := by
      rw [tid_fixed, ← mine]
      exact fun htarget => unknown (inv.known _ htarget)
    have out' : h.task.tgid ∉ n.targetPids := by rwa [inv.targets]
    rw [step_of_not_target out, step_of_not_target out']
    exact inv.blank tid unknown
  · rw [step_inflight_of_ne mine, step_inflight_of_ne mine]
    exact inv.blank tid unknown

/-- It is enough to look at the targets and at the thread that hits: a new
target was not known, so its threads have nothing recorded. -/
theorem Agree.step_of {h : Hit} (inv : Agree tgidOf m n k)
    (tid_fixed : h.task.tgid = tgidOf h.task.tid)
    (same : (step cfg' n h).targetPids = (step cfg m h).targetPids)
    (added : ∀ tgid, tgid ∈ (step cfg m h).targetPids →
      tgid ∈ m.targetPids ∨ tgid ∉ k.known ∧ tgid ∈ (k.next h).known)
    (own : h.task.tgid ∈ m.targetPids →
      SameCall ((k.next h).pending h.task.tid) ((step cfg m h).inflightSyscalls h.task.tid)
        ((step cfg' n h).inflightSyscalls h.task.tid)) :
    Agree tgidOf (step cfg m h) (step cfg' n h) (k.next h) where
  targets := same
  known tgid htarget := by
    rcases added tgid htarget with old | ⟨-, new⟩
    · exact k.known_subset_next h (inv.known tgid old)
    · exact new
  blank tid unknown :=
    inv.blank_step tid_fixed fun before => unknown (k.known_subset_next h before)
  calls tid htarget := by
    rcases added _ htarget with old | ⟨unknown, -⟩
    · by_cases mine : tid = h.task.tid
      · subst mine
        rw [← tid_fixed] at old
        exact own old
      · rw [Threads.next_pending_of_ne mine, step_inflight_of_ne mine,
          step_inflight_of_ne mine]
        exact inv.calls tid old
    · obtain ⟨hm, hn⟩ : (step cfg m h).inflightSyscalls tid = none ∧
          (step cfg' n h).inflightSyscalls tid = none := inv.blank_step tid_fixed unknown
      rw [hm, hn]
      exact .unrecorded _

/-! ## One hit in both runs -/

/-- Without the filter every enter of a target is recorded as it is; with it
the enter is recorded too, or is not a clone. -/
theorem Agree.sysEnter {task : Task} {ctx : SysEnterArgs} {now : UInt64} {mem : UserMemory}
    (inv : Agree tgidOf m n k) (off : cfg.traceFilterEnabled = false)
    (follow : cfg'.followForks = true) (promised : Promised tgidOf k (.sysEnter task ctx now mem)) :
    Agree tgidOf (step cfg m (.sysEnter task ctx now mem))
      (step cfg' n (.sysEnter task ctx now mem)) (k.next (.sysEnter task ctx now mem)) := by
  obtain ⟨tid_fixed, idle, unmapped⟩ := promised
  replace tid_fixed : task.tgid = tgidOf task.tid := tid_fixed
  refine inv.step_of tid_fixed ?_ ?_ ?_
  · rw [step, step, sysEnter_targets, sysEnter_targets, inv.targets]
  · intro tgid htarget
    rw [step, sysEnter_targets] at htarget
    exact .inl htarget
  · intro htarget
    replace htarget : task.tgid ∈ m.targetPids := htarget
    have htarget' : task.tgid ∈ n.targetPids := by rwa [inv.targets]
    have selects : cfg.selects ctx.id = true := by simp [Config.selects, off]
    obtain ⟨state, recorded, hid, hargs⟩ : ∃ state, sysEnterState cfg m task ctx now mem =
        some state ∧ state.syscallId = ctx.id ∧ state.args = ctx.args :=
      ⟨_, sysEnterState_eq_some.mpr ⟨htarget, .inl selects, rfl⟩, rfl, rfl⟩
    have pending : (k.next (.sysEnter task ctx now mem)).pending task.tid = some ctx.id :=
      Function.update_self _ _ _
    -- The thread is in no call, so the filtered run has nothing from before.
    have free : n.inflightSyscalls task.tid = none := by
      have before := inv.calls task.tid (by rwa [← tid_fixed])
      rw [idle] at before
      exact before.idle.2
    show SameCall ((k.next _).pending task.tid) ((step cfg m _).inflightSyscalls task.tid)
      ((step cfg' n _).inflightSyscalls task.tid)
    rw [pending, step, step, sysEnter_inflight, sysEnter_inflight, if_pos rfl, if_pos rfl,
      recorded, free, Option.some_or, Option.or_none, ← hid]
    cases hstate : sysEnterState cfg' n task ctx now mem with
    | none =>
        -- A clone is tracked even when it is not selected, so only other calls are skipped.
        refine .skipped state fun clones => ?_
        rw [hid] at clones
        have tracked := shouldTrack_of_clones follow unmapped clones
        rw [sysEnterState_eq_some.mpr ⟨htarget', .inr tracked, rfl⟩] at hstate
        cases hstate
    | some state' =>
        obtain ⟨-, -, rfl⟩ := sysEnterState_eq_some.mp hstate
        exact .recorded state _ hid.symm hargs.symm

/-- After an exit with room the thread of a target has no entry. -/
theorem sysExit_inflight_self {task : Task} {ctx : SysExitArgs} {now : UInt64}
    {mem : UserMemory} (htarget : task.tgid ∈ m.targetPids) :
    (traceSysExit cfg m task ctx now mem true).1.inflightSyscalls task.tid = none := by
  rcases sysExit_cases cfg m task ctx now mem true with
    ⟨out, h⟩ | ⟨-, hnone, h⟩ | ⟨state, -, -, ⟨-, h⟩ | ⟨-, hr, h⟩ | ⟨-, -, h⟩⟩
  · exact absurd htarget out
  · rw [h]
    exact hnone
  · rw [h]
    simp
  · cases hr
  · rw [h]
    simp

/-- The child an exit adds, if the call was recorded, is the same in both
runs. -/
theorem SameCall.follows_iff {mem : UserMemory} {ret id : Int64}
    {entry entry' : Option SyscallData} (same : SameCall (some id) entry entry')
    (follow : cfg'.followForks = cfg.followForks) :
    (∃ state, entry' = some state ∧ followsChild cfg' mem state ret = true) ↔
      ∃ state, entry = some state ∧ followsChild cfg mem state ret = true := by
  cases same with
  | unrecorded => simp
  | recorded state state' hid hargs =>
      have : followsChild cfg' mem state' ret = followsChild cfg mem state ret := by
        rw [followsChild, isProcessClone_congr hid hargs, follow, followsChild]
      simp [this]
  | skipped state plain =>
      have : followsChild cfg mem state ret = false := by
        have notClone : isProcessClone mem state = false := by
          by_contra clone
          exact plain (isProcessClone_clones (by simpa using clone))
        simp [followsChild, notClone]
      simp [this]

/-- An exit that is not of `exit_group` only adds the child it follows. -/
theorem mem_target_sysExit_plain {task : Task} {ctx : SysExitArgs} {now : UInt64}
    {mem : UserMemory} {reserved : Bool} {tgid : UInt32}
    (plain : task.tgid ∈ m.targetPids → ∀ state, m.inflightSyscalls task.tid = some state →
      state.syscallId ≠ nrExitGroup) :
    tgid ∈ (traceSysExit cfg m task ctx now mem reserved).1.targetPids ↔
      tgid ∈ m.targetPids ∨
        (task.tgid ∈ m.targetPids ∧
          (∃ state, m.inflightSyscalls task.tid = some state ∧
            followsChild cfg mem state ctx.ret = true) ∧
          tgid = childTgid ctx.ret ∧ m.targetPids.Admits (childTgid ctx.ret)) := by
  rw [mem_target_sysExit, and_iff_left]
  · refine or_congr_right ⟨?_, ?_⟩
    · rintro ⟨state, htarget, hentry, hfollows, hchild, hroom⟩
      exact ⟨htarget, ⟨state, hentry, hfollows⟩, hchild, hroom⟩
    · rintro ⟨htarget, ⟨state, hentry, hfollows⟩, hchild, hroom⟩
      exact ⟨state, htarget, hentry, hfollows, hchild, hroom⟩
  · rintro ⟨state, htarget, hentry, -, -, hgroup, -⟩
    exact plain htarget state hentry hgroup

/-- Both runs follow the same child, and neither keeps the entry. -/
theorem Agree.sysExit {task : Task} {ctx : SysExitArgs} {now : UInt64} {mem : UserMemory}
    {reserved : Bool} (inv : Agree tgidOf m n k) (follow : cfg'.followForks = cfg.followForks)
    (promised : Promised tgidOf k (.sysExit task ctx now mem reserved)) :
    Agree tgidOf (step cfg m (.sysExit task ctx now mem reserved))
      (step cfg' n (.sysExit task ctx now mem reserved))
      (k.next (.sysExit task ctx now mem reserved)) := by
  obtain ⟨tid_fixed, inCall, notGroup, newChild, rfl⟩ := promised
  replace tid_fixed : task.tgid = tgidOf task.tid := tid_fixed
  -- A target returns from the call both runs know it to be in.
  have call : task.tgid ∈ m.targetPids → SameCall (some ctx.id)
      (m.inflightSyscalls task.tid) (n.inflightSyscalls task.tid) := by
    intro htarget
    have htarget' : tgidOf task.tid ∈ m.targetPids := by rwa [← tid_fixed]
    rw [← inCall]
    exact inv.calls task.tid htarget'
  have plain : task.tgid ∈ m.targetPids → ∀ state,
      m.inflightSyscalls task.tid = some state → state.syscallId ≠ nrExitGroup := by
    intro htarget state hentry
    rw [(call htarget).syscallId.1 state hentry]
    exact notGroup
  have plain' : task.tgid ∈ n.targetPids → ∀ state,
      n.inflightSyscalls task.tid = some state → state.syscallId ≠ nrExitGroup := by
    intro htarget state hentry
    rw [inv.targets] at htarget
    rw [(call htarget).syscallId.2 state hentry]
    exact notGroup
  refine inv.step_of tid_fixed ?_ ?_ ?_
  · ext tgid
    rw [step, step, mem_target_sysExit_plain plain, mem_target_sysExit_plain plain',
      inv.targets]
    -- The two runs may differ in the entry, but not in what it follows.
    refine or_congr_right (and_congr_right fun htarget => ?_)
    rw [(call htarget).follows_iff follow]
  · intro tgid hmem
    rcases (mem_target_sysExit_plain plain).mp hmem with
      old | ⟨htarget, ⟨state, hentry, hfollows⟩, rfl, -⟩
    · exact .inl old
    · -- A followed call is a clone that returns a child, and what a clone returns is new.
      obtain ⟨returns, clones⟩ := clones_of_followsChild hfollows
      rw [(call htarget).syscallId.1 state hentry] at clones
      refine .inr ⟨newChild returns clones, ?_⟩
      rw [Threads.next, if_pos ⟨returns, clones⟩]
      exact Finset.mem_insert_self _ _
  · intro htarget
    have htarget' : task.tgid ∈ n.targetPids := by
      rw [inv.targets]
      exact htarget
    -- There is room, so neither run keeps the entry.
    have left : (step cfg m (.sysExit task ctx now mem true)).inflightSyscalls task.tid = none :=
      sysExit_inflight_self htarget
    have left' : (step cfg' n (.sysExit task ctx now mem true)).inflightSyscalls task.tid
        = none :=
      sysExit_inflight_self htarget'
    show SameCall _ ((step cfg m _).inflightSyscalls task.tid)
      ((step cfg' n _).inflightSyscalls task.tid)
    rw [left, left']
    exact .unrecorded _

/-- The thread of a target leaves nothing behind when it exits. -/
theorem schedProcessExit_inflight_self {task : Task} (htarget : task.tgid ∈ m.targetPids) :
    (traceSchedProcessExit m task).inflightSyscalls task.tid = none := by
  rw [traceSchedProcessExit, if_neg (not_not.mpr htarget)]
  dsimp only
  split
  · simp
  · simp

/-- Both runs drop the same process. -/
theorem Agree.schedProcessExit {task : Task} (inv : Agree tgidOf m n k)
    (tid_fixed : task.tgid = tgidOf task.tid) :
    Agree tgidOf (step cfg m (.schedProcessExit task)) (step cfg' n (.schedProcessExit task))
      (k.next (.schedProcessExit task)) := by
  refine inv.step_of tid_fixed ?_ ?_ ?_
  · ext tgid
    rw [step, step, mem_target_schedProcessExit, mem_target_schedProcessExit, inv.targets]
  · intro tgid htarget
    exact .inl (mem_target_schedProcessExit.mp htarget).1
  · intro htarget
    have htarget' : task.tgid ∈ n.targetPids := by
      rw [inv.targets]
      exact htarget
    have left : (step cfg m (.schedProcessExit task)).inflightSyscalls task.tid = none :=
      schedProcessExit_inflight_self htarget
    have left' : (step cfg' n (.schedProcessExit task)).inflightSyscalls task.tid = none :=
      schedProcessExit_inflight_self htarget'
    show SameCall _ ((step cfg m _).inflightSyscalls task.tid)
      ((step cfg' n _).inflightSyscalls task.tid)
    rw [left, left']
    exact .unrecorded _

/-- The step lemma of the simulation: what either run knows of targets and of pending calls still
agrees after one hit that keeps the promise. -/
theorem Agree.step (off : cfg.traceFilterEnabled = false) (follow : cfg.followForks = true)
    (follow' : cfg'.followForks = true) (h : Hit) (inv : Agree tgidOf m n k)
    (promised : Promised tgidOf k h) :
    Agree tgidOf (Bpf.step cfg m h) (Bpf.step cfg' n h) (k.next h) := by
  cases h with
  | sysEnter task ctx now mem => exact inv.sysEnter off follow' promised
  | sysExit task ctx now mem reserved => exact inv.sysExit (follow'.trans follow.symm) promised
  | schedProcessExit task => exact inv.schedProcessExit promised.1

end

/-! ## The targets of the two runs -/

/-- **Following does not depend on the filter.**  With `follow_forks` on, for
every filter and every sequence of hits the kernel can produce, the programs
have the same `target_pids` with the filter as without it, after every hit.

Equality after every hit, and not at the end only, is what the consumer needs: which events there
are depends on the targets in between. -/
theorem targets_independent_of_filter (filter : Finset UInt32) (targets : TargetPids)
    (tgidOf : UInt32 → UInt32) (hits : List Hit)
    (promised : AllSteps Threads.next (Promised tgidOf) (Threads.start targets) hits) :
    ∀ pre, pre <+: hits →
      (run (step ⟨true, true, filter⟩) (Maps.load targets) pre).targetPids =
        (run (step ⟨true, false, filter⟩) (Maps.load targets) pre).targetPids := by
  rintro pre ⟨post, rfl⟩
  have untilPre := (allSteps_append.mp promised).1
  have agree : Agree tgidOf (run (step ⟨true, false, filter⟩) _ pre)
      (run (step ⟨true, true, filter⟩) _ pre) _ :=
    run_rel (Agree tgidOf) (fun _ _ _ h inv hp => inv.step rfl rfl rfl h hp)
      (agree_start targets) untilPre
  exact agree.targets

/-- A target 100 forks 200 with only `read` selected, and the child reads. -/
def forkThenRead : List Hit :=
  [.sysEnter ⟨100, 100⟩ ⟨nrFork, Vector.replicate 6 0⟩ 10 .unmapped,
    .sysExit ⟨100, 100⟩ ⟨nrFork, 200⟩ 20 .unmapped true,
    .sysEnter ⟨200, 200⟩ ⟨nrRead, Vector.replicate 6 0⟩ 30 .unmapped,
    .sysExit ⟨200, 200⟩ ⟨nrRead, 5⟩ 40 .unmapped true,
    .schedProcessExit ⟨200, 200⟩]

theorem targets_independent_of_filter_forkThenRead :
    (run (step ⟨true, true, {0}⟩) (Maps.load soleTarget) forkThenRead).targetPids =
      (run (step ⟨true, false, {0}⟩) (Maps.load soleTarget) forkThenRead).targetPids := by
  refine targets_independent_of_filter {0} soleTarget id forkThenRead ?_ forkThenRead
    List.prefix_rfl
  refine ⟨⟨rfl, rfl, rfl⟩, ⟨rfl, rfl, by decide, fun _ _ => by decide, rfl⟩,
    ⟨rfl, rfl, rfl⟩, ⟨rfl, rfl, by decide, fun _ _ => by decide, rfl⟩,
    ⟨rfl, trivial⟩, trivial⟩

end Litrace.Bpf
