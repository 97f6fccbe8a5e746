import Litrace.Trace.CloneDelivery
import Litrace.Trace.Naming

/-!
# Duplicating with `fcntl`

`dup` and the duplicating commands of `fcntl` do the same, and `observeDupRet` and
`observeFcntl` do nearly the same.  `observeFcntl` returns early unless the source is
tracked, so the copy of a directory that is known but not traced stays unknown
(`fcntl_agrees_with_dup_iff`).  It also is the only place where an argument that the kernel
reads as 32 bits is read as 64 (`shouldOutput_withArgs_iff`).

Each condition is exact in both directions.  Where the early return is taken nothing is
copied, and the states agree only because there is nothing to copy or the copy is there
already; these cases cannot be left out, since a filter can be in such a state without any
fault.
-/

namespace Litrace.Trace

open Filepath Transition

/-! ## The observation of a duplicate -/

/-- The command of a `fcntl`, as `observeFcntl` reads it, duplicates. -/
def DupCommand (ev : Event) : Prop :=
  (ev.args.get 1).toInt64 ∈ [Unix.fDupfd, Unix.fDupfdCloexec]

instance (ev : Event) : Decidable (DupCommand ev) := by
  unfold DupCommand
  infer_instance

section

variable {ev : Event}

/-- The command is compared with all its 64 bits. -/
theorem observation_fcntl_dupCommand (call : ev.syscallId = Unix.sysFcntl) :
    observation ev =
      if ev.ret < 0 then .ignored
      else if 2 ≤ ev.argCount.toNat ∧ isFDArg ev 0 = true ∧ DupCommand ev then
        .duplicatedTracked (fdArg ev 0) ev.ret.toUInt64
      else .ignored :=
  observation_fcntl call

/-- The schema of `dup` has one argument. -/
theorem TypedBySchema.argCount_dup (typed : TypedBySchema ev)
    (call : ev.syscallId = Unix.sysDup) : ¬ ev.argCount.toNat < 1 := by
  obtain ⟨count, -⟩ := typed.codes (.entry 32 [ArgType.fd]) (by rw [call]; decide)
  rw [count]
  decide

/-- The first of the three arguments of `fcntl` is a descriptor. -/
theorem TypedBySchema.isFDArg_fcntl (typed : TypedBySchema ev)
    (call : ev.syscallId = Unix.sysFcntl) : 2 ≤ ev.argCount.toNat ∧ isFDArg ev 0 = true := by
  obtain ⟨count, types⟩ := typed.codes (.entry 72 [ArgType.fd, ArgType.uint, ArgType.uint])
    (by rw [call]; decide)
  unfold isFDArg
  rw [count, types]
  decide

end

/-! ## Two events, seen by one state -/

/-- Two observations of one process that create the same child lead to the same state when
they lead to the same view. -/
theorem PathStates.Consistent.observe_eq_iff {s : PathStates} (hs : s.Consistent)
    {proc proc' : ProcCwd} {ev ev' : Event} (own : ev'.pid = ev.pid)
    (child : processCloneChildPID ev' = processCloneChildPID ev) :
    s.observe proc ev = s.observe proc' ev' ↔
      (s.view ev.pid).observe s.paths (fun site => proc site ev.pid) ev =
        (s.view ev.pid).observe s.paths (fun site => proc' site ev.pid) ev' := by
  obtain ⟨paths, view⟩ := s.view_observe proc ev
  obtain ⟨paths', view'⟩ := s.view_observe proc' ev'
  have fork : forkViews s.view ev' = forkViews s.view ev := by
    unfold forkViews
    rw [child, own]
  rw [own, fork] at view'
  constructor
  · intro same
    have views := congrFun (congrArg PathStates.view same) ev.pid
    rwa [view, view', Function.update_self, Function.update_self] at views
  · intro same
    refine (hs.observe proc ev).ext (hs.observe proc' ev') (paths.trans paths'.symm) ?_
    rw [view, view', same]

/-- Observing a `fcntl` copies the path of its source if all of the guards let it. -/
theorem View.Synced.observe_fcntl {v : View} {paths : Finset GoString} {ev : Event}
    (synced : v.Synced paths) (call : ev.syscallId = Unix.sysFcntl)
    (answers : ReadSite → Option GoString) :
    v.observe paths answers ev =
      if (0 ≤ ev.ret ∧ 2 ≤ ev.argCount.toNat ∧ isFDArg ev 0 = true ∧
          v.tracked (fdArg ev 0) = true) ∧ DupCommand ev then
        v.copyPath paths (fdArg ev 0) ev.ret.toUInt64
      else v := by
  rw [View.observe, observation_fcntl_dupCommand call]
  by_cases failed : ev.ret < 0
  · rw [if_pos failed, if_neg fun h => Int64.not_lt.mpr h.1.1 failed]
    rfl
  · rw [if_neg failed]
    by_cases read : 2 ≤ ev.argCount.toNat ∧ isFDArg ev 0 = true ∧ DupCommand ev
    · rw [if_pos read, synced.apply_duplicatedTracked]
      simp only [read, Int64.not_lt.mp failed, true_and, and_true]
    · rw [if_neg read, if_neg fun h => read ⟨h.1.2.1, h.1.2.2.1, h.2⟩]
      rfl

/-! ## `dup` and `fcntl` -/

/-- A `dup` of `src` by `pid` that returns `n`. -/
structure Dups (pid : UInt32) (src : UInt64) (n : Int64) (ev : Event) : Prop where
  call : ev.syscallId = Unix.sysDup
  typed : TypedBySchema ev
  noClone : eventCreatesProcess ev = false
  own : ev.pid = pid
  source : fdArg ev 0 = src
  ret : ev.ret = n

/-- A `fcntl` that does the same; the kernel reads 32 bits of the command. -/
structure DupsByFcntl (pid : UInt32) (src : UInt64) (n : Int64) (ev : Event) : Prop where
  call : ev.syscallId = Unix.sysFcntl
  typed : TypedBySchema ev
  noClone : eventCreatesProcess ev = false
  own : ev.pid = pid
  source : fdArg ev 0 = src
  command : (ev.args.get 1).toUInt32.toInt32.toInt64 ∈ [Unix.fDupfd, Unix.fDupfdCloexec]
  ret : ev.ret = n

theorem processCloneChildPID_of_noClone {ev : Event} (noClone : eventCreatesProcess ev = false) :
    processCloneChildPID ev = none :=
  if_pos (.inr noClone)

/-- **`fcntl` agrees with `dup`** on what it duplicates exactly when its command has nothing in
the upper half and the source is tracked, or there is nothing to copy: the source has no
path, or the result has it already.

The two events have the same process, source and result, and may differ in everything else.
`Reachable` is needed because the cache and the paths have to agree for the source. -/
theorem fcntl_agrees_with_dup_iff {f : PathFilter} {pid : UInt32} {src : UInt64} {n : Int64}
    {dup fcntl : Event} (proc proc' : ProcCwd) (hf : f.Reachable) (ok : 0 ≤ n)
    (hdup : Dups pid src n dup) (hfcntl : DupsByFcntl pid src n fcntl) :
    f.observe proc fcntl = f.observe proc' dup ↔
      DupCommand fcntl ∧ f.fdTracked pid src = true ∨ f.fdPath pid src = none ∨
        f.fdPath pid n.toUInt64 = f.fdPath pid src := by
  have notNegative : ¬ n < 0 := Int64.not_lt.mpr ok
  have synced := hf.consistent.synced pid
  have child : processCloneChildPID dup = processCloneChildPID fcntl := by
    rw [processCloneChildPID_of_noClone hdup.noClone,
      processCloneChildPID_of_noClone hfcntl.noClone]
  have counted := hdup.typed.argCount_dup hdup.call
  obtain ⟨enough, fcntlFD⟩ := hfcntl.typed.isFDArg_fcntl hfcntl.call
  have copied : (f.view pid).observe f.paths (fun site => proc' site pid) dup =
      (f.view pid).copyPath f.paths src n.toUInt64 := by
    rw [View.observe, observation_dup hdup.call, hdup.ret, hdup.source,
      if_neg (not_or.mpr ⟨notNegative, counted⟩), synced.apply_duplicated]
  have guarded : (f.view pid).observe f.paths (fun site => proc site pid) fcntl =
      if DupCommand fcntl ∧ (f.view pid).tracked src = true then
        (f.view pid).copyPath f.paths src n.toUInt64
      else f.view pid := by
    rw [synced.observe_fcntl hfcntl.call, hfcntl.ret, hfcntl.source]
    simp only [ok, enough, fcntlFD, true_and, and_comm]
  rw [hf.consistent.observe_eq_iff (hdup.own.trans hfcntl.own.symm) child, hfcntl.own, copied,
    guarded, PathStates.fdTracked_eq, PathStates.fdPath_eq, PathStates.fdPath_eq]
  split
  next both => exact iff_of_true rfl (.inl both)
  next early =>
    rw [eq_comm, View.copyPath_eq_self_iff synced, or_iff_right early]
    tauto

/-- Process 100 opens the directory `/d` as descriptor 3. -/
def openDir : Arrival := openAs3 VarFlag.none (GoString.ascii "/d")

/-- `dup(3) = 5` by process 100. -/
def dupOf3 : Event :=
  Bpf.setSyscallArgSchema Unix.sysDup
    { Event.zero with
      syscallId := Unix.sysDup, ret := 5, pid := 100, args := #v[3, 0, 0, 0, 0, 0] }

/-- `fcntl(3, cmd, 0) = 5` by process 100. -/
def fcntlOf3 (cmd : UInt64) : Event :=
  Bpf.setSyscallArgSchema Unix.sysFcntl
    { Event.zero with
      syscallId := Unix.sysFcntl, ret := 5, pid := 100, args := #v[3, cmd, 0, 0, 0, 0] }

theorem dups_dupOf3 : Dups 100 3 5 dupOf3 :=
  ⟨rfl, rfl, rfl, rfl, rfl, rfl⟩

theorem dupsByFcntl_fcntlOf3 : DupsByFcntl 100 3 5 (fcntlOf3 0) :=
  ⟨rfl, rfl, rfl, rfl, rfl, by decide, rfl⟩

theorem fcntl_agrees_with_dup_iff_openDir :
    let f := beforeOpen.next openDir
    f.observe openDir.proc (fcntlOf3 0) = f.observe openDir.proc dupOf3 ↔
      DupCommand (fcntlOf3 0) ∧ f.fdTracked 100 3 = true ∨ f.fdPath 100 3 = none ∨
        f.fdPath 100 (5 : Int64).toUInt64 = f.fdPath 100 3 :=
  fcntl_agrees_with_dup_iff _ _ ⟨_, [openDir], rfl⟩ (by decide) dups_dupOf3 dupsByFcntl_fcntlOf3

/-- A directory that is not traced is known after a `dup` of its descriptor, and unknown
after a `fcntl`. -/
theorem fcntl_forgets_directory :
    let f := beforeOpen.next openDir
    f.Reachable ∧ Dups 100 3 5 dupOf3 ∧ DupsByFcntl 100 3 5 (fcntlOf3 0) ∧
      f.observe openDir.proc (fcntlOf3 0) ≠ f.observe openDir.proc dupOf3 := by
  refine ⟨⟨_, [openDir], rfl⟩, dups_dupOf3, dupsByFcntl_fcntlOf3, ?_⟩
  intro same
  have path := congrArg (fun s : PathStates => s.fdPath 100 5) same
  revert path
  decide +kernel

/-! ## Arguments read as 32 bits -/

/-- The event with other arguments. -/
def withArgs (ev : Event) (args : Vector UInt64 6) : Event := { ev with args := args }

section

variable {ev : Event} {args : Vector UInt64 6}
  (low : ∀ i, (args.get i).toUInt32 = (ev.args.get i).toUInt32)

include low

/-- A descriptor is read with its low 32 bits. -/
theorem fdArg_withArgs : fdArg (withArgs ev args) = fdArg ev := by
  funext i
  show ((args.get i).toUInt32).toUInt64 = _
  rw [low]
  rfl

theorem fdArgs_withArgs : fdArgs (withArgs ev args) = fdArgs ev := by
  unfold fdArgs
  rw [fdArg_withArgs low]
  rfl

/-- A path is captured and not read from the arguments, and its base is a descriptor. -/
theorem pathArg_withArgs : pathArg (withArgs ev args) = pathArg ev := by
  funext i
  have dirfd : ∀ j, ((withArgs ev args).args.get j).toUInt32 = (ev.args.get j).toUInt32 := low
  unfold pathArg
  simp only [fdArg_withArgs low, dirfd]
  rfl

/-- The observation is the same unless it is that of a `fcntl` whose command differs. -/
theorem observation_withArgs
    (command : ev.syscallId = Unix.sysFcntl → (DupCommand (withArgs ev args) ↔ DupCommand ev)) :
    observation (withArgs ev args) = observation ev := by
  by_cases call : ev.syscallId = Unix.sysFcntl
  · have call' : (withArgs ev args).syscallId = Unix.sysFcntl := call
    rw [observation_fcntl_dupCommand call, observation_fcntl_dupCommand call',
      fdArg_withArgs low]
    simp only [command call]
    rfl
  · have call' : ¬ (withArgs ev args).syscallId = Unix.sysFcntl := call
    unfold observation
    simp only [if_neg call, if_neg call', fdArg_withArgs low]
    rfl

/-- The decision and its reads are the same. -/
theorem print_withArgs (v : View) (paths : Finset GoString) (answers : ReadSite → Option GoString)
    (allowed : Bool) :
    v.print paths answers allowed (withArgs ev args) = v.print paths answers allowed ev := by
  have matched : ∀ (is : List (Fin 6)) (v : View),
      v.matchArgs paths answers (withArgs ev args) is = v.matchArgs paths answers ev is := by
    intro is
    induction is with
    | nil => exact fun _ => rfl
    | cons i is ih =>
        intro v
        simp only [View.matchArgs, pathArg_withArgs low, ih]
  unfold View.print
  rw [matched, fdArgs_withArgs low]
  rfl

/-- So is what an observation does. -/
theorem apply_withArgs (v : View) (paths : Finset GoString) (answers : ReadSite → Option GoString)
    (observed : Observation) :
    v.apply paths answers (withArgs ev args) observed = v.apply paths answers ev observed := by
  have arg := fun i => congrFun (pathArg_withArgs low) i
  cases observed
  all_goals simp only [View.apply, arg]

/-- Observing does the same but for a `fcntl` that gets as far as to its command. -/
theorem View.Synced.observe_withArgs_iff {v : View} {paths : Finset GoString}
    (synced : v.Synced paths) (answers : ReadSite → Option GoString) :
    v.observe paths answers (withArgs ev args) = v.observe paths answers ev ↔
      (ev.syscallId = Unix.sysFcntl → 0 ≤ ev.ret → 2 ≤ ev.argCount.toNat →
        isFDArg ev 0 = true → v.tracked (fdArg ev 0) = true →
          (DupCommand (withArgs ev args) ↔ DupCommand ev) ∨
            v.fdPath ev.ret.toUInt64 = v.fdPath (fdArg ev 0)) := by
  by_cases call : ev.syscallId = Unix.sysFcntl
  · have call' : (withArgs ev args).syscallId = Unix.sysFcntl := call
    have seen : v.observe paths answers (withArgs ev args) =
        if (0 ≤ ev.ret ∧ 2 ≤ ev.argCount.toNat ∧ isFDArg ev 0 = true ∧
            v.tracked (fdArg ev 0) = true) ∧ DupCommand (withArgs ev args) then
          v.copyPath paths (fdArg ev 0) ev.ret.toUInt64
        else v := by
      rw [synced.observe_fcntl call', fdArg_withArgs low]
      rfl
    rw [seen, synced.observe_fcntl call]
    by_cases guards : 0 ≤ ev.ret ∧ 2 ≤ ev.argCount.toNat ∧ isFDArg ev 0 = true ∧
        v.tracked (fdArg ev 0) = true
    · have changes : v.copyPath paths (fdArg ev 0) ev.ret.toUInt64 = v ↔
          v.fdPath ev.ret.toUInt64 = v.fdPath (fdArg ev 0) := by
        -- A tracked source has a path.
        obtain ⟨path, hpath, -⟩ :=
          (Option.any_eq_true _ _).mp ((synced (fdArg ev 0)).symm.trans guards.2.2.2)
        rw [View.copyPath_eq_self_iff synced, hpath]
        exact ⟨fun h => h (Option.some_ne_none path), fun h _ => h⟩
      simp only [call, guards, true_and, forall_const, ← changes]
      by_cases here : DupCommand ev
      · by_cases there : DupCommand (withArgs ev args)
        · simp only [here, there, if_true, true_or]
        · simp only [here, there, if_true, if_false, eq_comm, false_iff, not_true, false_or]
      · by_cases there : DupCommand (withArgs ev args)
        · simp only [here, there, if_true, if_false, true_iff, false_or]
        · simp only [here, there, if_false, true_or]
    · rw [if_neg fun h => guards h.1, if_neg fun h => guards h.1]
      refine iff_of_true rfl fun _ ok enough isFD tracked => ?_
      exact absurd ⟨ok, enough, isFD, tracked⟩ guards
  · have same : observation (withArgs ev args) = observation ev :=
      observation_withArgs low fun h => absurd h call
    rw [View.observe, View.observe, same, apply_withArgs low]
    exact iff_of_true rfl fun h => absurd h call

end

/-- **High halves are ignored but for the command of `fcntl`.**  In every reachable state, two
events that differ in the high halves of arguments at most are decided alike and leave the
same state, exactly when neither is a successful `fcntl` with a tracked source whose command
duplicates in one of them only, or the result has the path of the source already.

All other arguments pass through `fdArg` or a conversion to 32 bits before they are used, which
is shown handler by handler; the command of `fcntl` is compared as it is. -/
theorem shouldOutput_withArgs_iff {f : PathFilter} {ev : Event} {args : Vector UInt64 6}
    (proc : ProcCwd) (hf : f.Reachable)
    (low : ∀ i, (args.get i).toUInt32 = (ev.args.get i).toUInt32) :
    f.shouldOutput proc (withArgs ev args) = f.shouldOutput proc ev ↔
      (f.pathFilterMode = true → ev.syscallId = Unix.sysFcntl → 0 ≤ ev.ret →
        2 ≤ ev.argCount.toNat → f.argTracked ev 0 = true →
          (DupCommand (withArgs ev args) ↔ DupCommand ev) ∨
            f.fdPath ev.pid ev.ret.toUInt64 = f.fdPath ev.pid (fdArg ev 0)) := by
  cases mode : f.pathFilterMode with
  | false =>
      rw [PathFilter.shouldOutput_of_off _ _ mode, PathFilter.shouldOutput_of_off _ _ mode]
      exact iff_of_true rfl nofun
  | true =>
      have on : ¬ f.pathFilterMode = false := ne_false_of_eq_true mode
      obtain ⟨paths, view, decision⟩ := f.view_shouldPrint proc ev
      obtain ⟨paths', view', decision'⟩ := f.view_shouldPrint proc (withArgs ev args)
      have allows : f.userAllows (withArgs ev args).syscallId = f.userAllows ev.syscallId := rfl
      have own : (withArgs ev args).pid = ev.pid := rfl
      rw [own, allows, print_withArgs low] at view' decision'
      have consistent := PathFilter.consistent_shouldPrint hf.consistent proc ev
      have consistent' := PathFilter.consistent_shouldPrint hf.consistent proc (withArgs ev args)
      have same : (f.shouldPrint proc (withArgs ev args)).1 = (f.shouldPrint proc ev).1 :=
        consistent'.ext consistent (paths'.trans paths.symm) (view'.trans view.symm)
      have states : ∀ s t : PathStates,
          ({ f with toPathStates := s } : PathFilter) = { f with toPathStates := t } ↔ s = t :=
        fun s t => ⟨congrArg PathFilter.toPathStates, fun h => h ▸ rfl⟩
      rw [PathFilter.shouldOutput, PathFilter.shouldOutput, if_neg on, if_neg on]
      have child : processCloneChildPID ev = processCloneChildPID (withArgs ev args) := rfl
      dsimp only
      rw [same, decision', ← decision, Prod.mk.injEq, and_iff_left rfl, states,
        consistent.observe_eq_iff own.symm child, own, paths]
      have synced := consistent.synced ev.pid
      rw [paths] at synced
      rw [synced.observe_withArgs_iff low, PathStates.argTracked_eq, PathStates.fdPath_eq,
        PathStates.fdPath_eq, view, Function.update_self, View.print_eq, Bool.and_eq_true]
      -- The reads of the decision leave the descriptors as they are.
      exact ⟨fun h _ call ok enough tracked => h call ok enough tracked.1 tracked.2,
        fun h call ok enough isFD tracked => h rfl call ok enough ⟨isFD, tracked⟩⟩

/-- `fcntl(3, F_DUPFD, 0) = 5` again, with something in the high half of the command. -/
def highCommand : Vector UInt64 6 := #v[3, 0x100000000, 0, 0, 0, 0]

theorem shouldOutput_withArgs_iff_highCommand :
    let f := beforeOpen.next openA
    let ev := fcntlOf3 0
    f.shouldOutput openA.proc (withArgs ev highCommand) = f.shouldOutput openA.proc ev ↔
      (f.pathFilterMode = true → ev.syscallId = Unix.sysFcntl → 0 ≤ ev.ret →
        2 ≤ ev.argCount.toNat → f.argTracked ev 0 = true →
          (DupCommand (withArgs ev highCommand) ↔ DupCommand ev) ∨
            f.fdPath ev.pid ev.ret.toUInt64 = f.fdPath ev.pid (fdArg ev 0)) :=
  shouldOutput_withArgs_iff _ ⟨_, [openA], rfl⟩ (by decide)

/-- Then the duplicate of a tracked descriptor is not tracked. -/
theorem fcntl_reads_high_half :
    let f := beforeOpen.next openA
    f.Reachable ∧ (∀ i, (highCommand.get i).toUInt32 = ((fcntlOf3 0).args.get i).toUInt32) ∧
      f.shouldOutput openA.proc (withArgs (fcntlOf3 0) highCommand) ≠
        f.shouldOutput openA.proc (fcntlOf3 0) := by
  refine ⟨⟨_, [openA], rfl⟩, by decide, ?_⟩
  intro same
  have tracked := congrArg (fun result : PathFilter × Bool => result.1.fdTracked 100 5) same
  revert tracked
  decide +kernel

end Litrace.Trace
