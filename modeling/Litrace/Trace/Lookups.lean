import Litrace.Trace.PathFilter

/-!
# What resolving and matching change

Resolving a path may look the working directory up, and what is read is kept.  That is all
that resolving, matching and deciding do to the stored states (`LooksUp`).

The lemmas are for the theorems that say what an event leaves alone.  A lookup is made
with the pid of the event only, and only if nothing is known of the directory, so it never
replaces anything.
-/

namespace Litrace.Trace

open Filepath

namespace PathStates

/-- `s'` is `s`, or `s` with the answer of a read as the working directory of `pid`, which was
not known. -/
inductive LooksUp (proc : ProcCwd) (pid : UInt32) (s : PathStates) : PathStates → Prop where
  | same : LooksUp proc pid s s
  | learnt {site : ReadSite} {cwd : GoString} (read : proc site pid = some cwd)
      (unknown : ((s.stateByPID pid).map ProcessPathState.cwd).getD [] = []) :
      LooksUp proc pid s (s.assign pid fun state => { state with cwd := clean cwd })

section

variable {s s' s'' : PathStates} {proc : ProcCwd} {ev : Event} {pid : UInt32}

theorem assign_self (f : ProcessPathState → ProcessPathState) :
    (s.assign pid f).stateByPID pid = some (f ((s.stateByPID pid).getD .new)) :=
  Function.update_self _ _ _

theorem assign_of_ne (f : ProcessPathState → ProcessPathState) {q : UInt32} (ne : q ≠ pid) :
    (s.assign pid f).stateByPID q = s.stateByPID q :=
  Function.update_of_ne ne _ _

/-- A directory that was learnt is not looked up again. -/
theorem LooksUp.trans (h : LooksUp proc pid s s') (h' : LooksUp proc pid s' s'') :
    LooksUp proc pid s s'' := by
  cases h with
  | same => exact h'
  | learnt read unknown =>
      cases h' with
      | same => exact .learnt read unknown
      | learnt read' unknown' =>
          rw [assign_self, Option.map_some, Option.getD_some] at unknown'
          exact absurd unknown' (cleanPath _).property

/-- The only place where `/proc` is read. -/
theorem looksUp_cwdForPID (s : PathStates) (site : ReadSite) (pid : UInt32) :
    LooksUp proc pid s (s.cwdForPID (proc site) pid).1 := by
  unfold cwdForPID
  split
  · exact .same
  next unknown =>
    split
    · exact .same
    next cwd read =>
      refine .learnt read ?_
      cases hcwd : (s.stateByPID pid).map ProcessPathState.cwd with
      | none => rfl
      | some cwd =>
          cases cwd with
          | nil => rfl
          | cons b cwd => exact absurd hcwd (unknown b cwd)

/-- Resolving looks the directory up for a path that is relative to it, and not for one that is
relative to a descriptor. -/
theorem looksUp_resolvePathAt (s : PathStates) (site : ReadSite) (ev : Event) (i : Fin 6) :
    LooksUp proc ev.pid s (s.resolvePathAt (proc site) ev i).1 := by
  have looked : LooksUp proc ev.pid s (s.cwdForPID (proc site) ev.pid).1 :=
    looksUp_cwdForPID s site ev.pid
  have based : LooksUp proc ev.pid s (s.resolvePathBase (proc site) ev i).1 := by
    unfold resolvePathBase
    split
    · exact looked
    · exact looked
    · dsimp only
      split
      · exact .same
      · split
        · exact looked
        · exact .same
  unfold resolvePathAt
  split
  · exact .same
  · unfold resolvePath
    split
    · exact .same
    · split
      · exact .same
      · exact based

theorem looksUp_matchesPathAt (s : PathStates) (proc : ProcCwd) (ev : Event) (i : Fin 6) :
    LooksUp proc ev.pid s (s.matchesPathAt proc ev i).1 := by
  unfold matchesPathAt
  dsimp only
  split
  · exact s.looksUp_resolvePathAt _ ev i
  · exact s.looksUp_resolvePathAt _ ev i

theorem looksUp_matchesEitherPathAt (s : PathStates) (proc : ProcCwd) (ev : Event)
    (i j : Fin 6) : LooksUp proc ev.pid s (s.matchesEitherPathAt proc ev i j).1 := by
  have first := s.looksUp_matchesPathAt proc ev i
  unfold matchesEitherPathAt
  dsimp only
  split
  · exact first
  · exact first.trans (looksUp_matchesPathAt _ proc ev j)

/-- A syscall with two paths may look it up for the first, and then it is known for the second. -/
theorem looksUp_matchesPath (s : PathStates) (proc : ProcCwd) (ev : Event) :
    LooksUp proc ev.pid s (s.matchesPath proc ev).1 := by
  unfold matchesPath
  split
  · exact s.looksUp_matchesPathAt proc ev 0
  · split
    · exact s.looksUp_matchesPathAt proc ev 1
    · split
      · exact s.looksUp_matchesPathAt proc ev 0
      · split
        · exact s.looksUp_matchesEitherPathAt proc ev 0 1
        · split
          · exact s.looksUp_matchesPathAt proc ev 1
          · split
            · exact s.looksUp_matchesEitherPathAt proc ev 1 3
            · exact .same

end

end PathStates

/-- So a decision as a whole is one lookup or none. -/
theorem PathFilter.looksUp_shouldPrint (f : PathFilter) (proc : ProcCwd) (ev : Event) :
    f.LooksUp proc ev.pid (f.shouldPrint proc ev).1 := by
  have matched := f.looksUp_matchesPath proc ev
  unfold shouldPrint
  split
  · exact .same
  · dsimp only
    split
    · exact matched
    · exact matched

end Litrace.Trace
