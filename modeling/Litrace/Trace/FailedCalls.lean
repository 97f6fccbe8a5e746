import Litrace.Trace.Lookups

/-!
# Calls that fail

A call that fails changes nothing, and every handler of `observe` has to see to that itself.
What the filter learns from it is the working directory at most, by a lookup that its decision
makes (`failed_call_leaves_no_trace`).  The same holds of a renaming one of whose paths is not
resolved.

The exception is real: deciding whether an event is printed resolves its paths, whether or not
the call has succeeded, and what `/proc` says on this occasion is kept.  It is what the
process was in at that moment, so it is no wrong information, but it is a change.
-/

namespace Litrace.Trace

open Filepath

/-- The path arguments of a renaming call. -/
def renameArgs (syscallId : Int64) : Option (Fin 6 × Fin 6) :=
  if syscallId = Unix.sysRename then some (0, 1)
  else if syscallId ∈ [Unix.sysRenameat, Unix.sysRenameat2] then some (1, 3)
  else none

namespace PathStates

section

variable {s : PathStates} {proc : ProcCwd} {ev : Event} {i j : Fin 6}

/-! ## Failed calls -/

/-- Every handler looks at the result first, or as soon as it has counted the arguments. -/
theorem observeSyscall_of_failed (failed : ev.ret < 0) : s.observeSyscall proc ev = s := by
  have opened : ∀ i, s.observeOpen proc ev i = s := fun i => if_pos failed
  have duplicated : s.observeDupRet ev 0 = s := if_pos (.inl failed)
  have duplicatedOnto : s.observeDupPair ev = s := if_pos (.inr failed)
  have duplicatedByFcntl : s.observeFcntl ev = s := if_pos (.inr (.inl failed))
  have closed : s.observeClose ev = s := if_pos (.inl failed)
  have changedDir : s.observeChdir proc ev = s := if_pos failed
  have changedDirTo : s.observeFchdir ev = s := if_pos (.inl failed)
  have renamed : ∀ i j, s.observeRename proc ev i j = s := fun i j => if_pos failed
  have unlinked : ∀ i, s.observeUnlink proc ev i = s := fun i => if_pos failed
  unfold observeSyscall
  simp only [opened, duplicated, duplicatedOnto, duplicatedByFcntl, closed, changedDir,
    changedDirTo, renamed, unlinked, ite_self]

/-- A process is created by a positive result only. -/
theorem observeProcessClone_of_nonpos (nonpos : ev.ret ≤ 0) : s.observeProcessClone ev = s := by
  have none : processCloneChildPID ev = none := if_pos (.inl nonpos)
  rw [observeProcessClone, none]

/-! ## Renamings that are not resolved -/

/-- The renaming is handled with its two path arguments. -/
theorem observeSyscall_rename (args : renameArgs ev.syscallId = some (i, j)) :
    s.observeSyscall proc ev = s.observeRename proc ev i j := by
  unfold renameArgs at args
  split at args
  next call =>
    cases args
    simp [observeSyscall, call, Unix.sysRename, Unix.sysOpen, Unix.sysOpenat, Unix.sysOpenat2,
      Unix.sysDup, Unix.sysDup2, Unix.sysDup3, Unix.sysFcntl, Unix.sysClose, Unix.sysChdir,
      Unix.sysFchdir]
  next =>
    split at args
    next call =>
      cases args
      rcases List.mem_pair.mp call with call | call
      all_goals
        simp [observeSyscall, call, Unix.sysRenameat, Unix.sysRenameat2, Unix.sysRename,
          Unix.sysOpen, Unix.sysOpenat, Unix.sysOpenat2, Unix.sysDup, Unix.sysDup2,
          Unix.sysDup3, Unix.sysFcntl, Unix.sysClose, Unix.sysChdir, Unix.sysFchdir]
    next => cases args

/-- The old path is not resolved, or the new one is not once the old one is. -/
def Unresolved (s : PathStates) (proc : ProcCwd) (ev : Event) (i j : Fin 6) : Prop :=
  let old := s.resolvePathAt (proc (.observe i)) ev i
  old.2 = none ∨ (old.1.resolvePathAt (proc (.observe j)) ev j).2 = none

theorem looksUp_observeRename (unresolved : s.Unresolved proc ev i j) :
    LooksUp proc ev.pid s (s.observeRename proc ev i j) := by
  have old : LooksUp proc ev.pid s (s.resolvePathAt (proc (.observe i)) ev i).1 :=
    s.looksUp_resolvePathAt (.observe i) ev i
  have new := old.trans (looksUp_resolvePathAt _ (.observe j) ev j)
  unfold observeRename
  split
  · exact .same
  · dsimp only
    split
    · exact old
    next oldPath hold =>
      split
      · exact new
      next newPath hnew =>
        rcases unresolved with h | h
        · rw [hold] at h
          cases h
        · rw [hnew] at h
          cases h

end

end PathStates

/-- The stored working directory of a process; empty if there is none. -/
def PathStates.cwd (s : PathStates) (pid : UInt32) : GoString :=
  ((s.stateByPID pid).map ProcessPathState.cwd).getD []

/-! ## Deciding and observing -/

/-- The call fails, or is a renaming with result 0 one of whose paths is not resolved after
the decision on it. -/
inductive PathFilter.Fails (f : PathFilter) (proc : ProcCwd) (ev : Event) : Prop where
  | failed (negative : ev.ret < 0)
  | unresolved {i j : Fin 6} (args : renameArgs ev.syscallId = some (i, j)) (ok : ev.ret = 0)
      (unresolved : (f.shouldPrint proc ev).1.Unresolved proc ev i j)

/-- A lookup of the working directory is all that such a call can lead to. -/
theorem PathFilter.Fails.looksUp {f : PathFilter} {proc : ProcCwd} {ev : Event}
    (fails : f.Fails proc ev) :
    f.LooksUp proc ev.pid (f.shouldOutput proc ev).1.toPathStates := by
  have decided := f.looksUp_shouldPrint proc ev
  unfold shouldOutput
  split
  · exact .same
  · refine decided.trans ?_
    show PathStates.LooksUp proc ev.pid _ (PathStates.observe _ proc ev)
    unfold PathStates.observe
    cases fails with
    | failed negative =>
        rw [PathStates.observeProcessClone_of_nonpos (Int64.le_of_lt negative),
          PathStates.observeSyscall_of_failed negative]
        exact .same
    | unresolved args ok unresolved =>
        rw [PathStates.observeProcessClone_of_nonpos (by rw [ok]; decide),
          PathStates.observeSyscall_rename args]
        exact PathStates.looksUp_observeRename unresolved

/-- **Failed calls leave no trace.**  In every state of the filter and for every event of a
call that fails, and for every renaming with result 0 one of whose paths is not resolved: the
traced paths stay, and of every process the paths of its descriptors and the tracked ones.
Nothing else of another process changes, and of its own only the working directory may: from
empty to what is read from `/proc`.

Both ways in which an event must not count are covered: a negative result, and a renaming of
which the filter does not know one end. -/
theorem failed_call_leaves_no_trace (f : PathFilter) (proc : ProcCwd) (ev : Event)
    (fails : f.Fails proc ev) :
    let f' := (f.shouldOutput proc ev).1
    f'.paths = f.paths ∧
      (∀ pid, (f'.stateByPID pid).bind ProcessPathState.fdPaths =
          (f.stateByPID pid).bind ProcessPathState.fdPaths ∧
        (f'.stateByPID pid).bind ProcessPathState.trackedFDs =
          (f.stateByPID pid).bind ProcessPathState.trackedFDs) ∧
      (∀ pid, pid ≠ ev.pid → f'.stateByPID pid = f.stateByPID pid) ∧
      (f'.cwd ev.pid = f.cwd ev.pid ∨
        f.cwd ev.pid = [] ∧ ∃ site answer, proc site ev.pid = some answer ∧
          f'.cwd ev.pid = clean answer ∧ (AbsClean answer → f'.cwd ev.pid = answer)) := by
  intro f'
  have looks : f.LooksUp proc ev.pid f'.toPathStates := fails.looksUp
  generalize f'.toPathStates = after at looks ⊢
  cases looks with
  | same => exact ⟨rfl, fun pid => ⟨rfl, rfl⟩, fun pid _ => rfl, .inl rfl⟩
  | learnt read unknown =>
      rename_i site answer
      have learnt : PathStates.cwd
          (f.assign ev.pid fun state => { state with cwd := clean answer }) ev.pid =
            clean answer := by
        rw [PathStates.cwd, PathStates.assign_self]
        rfl
      refine ⟨rfl, fun pid => ?_, fun pid ne => PathStates.assign_of_ne _ ne, .inr ⟨unknown, _, _,
        read, learnt, fun h => learnt.trans h.2⟩⟩
      by_cases own : pid = ev.pid
      · rw [own, PathStates.assign_self]
        cases f.stateByPID ev.pid with
        | none => exact ⟨rfl, rfl⟩
        | some state => exact ⟨rfl, rfl⟩
      · rw [PathStates.assign_of_ne _ own]
        exact ⟨rfl, rfl⟩

/-- Process 100 fails to open `a` below its working directory. -/
def failedOpen : Event :=
  { Event.zero with
    syscallId := Unix.sysOpen, ret := -2, pid := 100, argCount := 3, varCount := 1
    varDesc := (Vector.replicate 6 .zero).setIfInBounds 0 ⟨0, VarFlag.none, 0, 1, 0⟩
    payload := (Vector.replicate 512 0).setIfInBounds 0 97, payloadLen := 1 }

theorem failed_call_leaves_no_trace_failedOpen :
    ((newPathFilter ⟨false, ∅, [GoString.ascii "/a"]⟩).shouldOutput
      (fun _ _ => some (GoString.ascii "/d")) failedOpen).1.paths =
        (newPathFilter ⟨false, ∅, [GoString.ascii "/a"]⟩).paths :=
  (failed_call_leaves_no_trace _ _ failedOpen (.failed (by decide))).1

end Litrace.Trace
