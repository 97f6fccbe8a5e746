import Litrace.Trace.Lookups

/-!
# The normal form of the stored states

`maybeDropPIDState` and `cloneProcessPathState` rely on it: a map that is stored is
not empty, and an entry of `stateByPID` has something in it.

All methods work on the entry of one process.  While they do, that entry may be out
of normal form, and the other entries are not touched: `NormalBut pid P` says that the
entry of `pid` has `P` and the others are normal.  A method starts by giving up normality
of the entry for less (`ProcessPathState.Tidy`, no map is empty, or only that of
`trackedFDs`) and `NormalBut.maybeDrop` or `NormalBut.normal` gets it back.

The normal form is not for looks.  Two states with the same views need not be equal in
Go, where a nil map and an empty one differ, and the early returns test for nil.  With it
the stored states are determined by their views, so a statement about views is one about
states.
-/

namespace Litrace.Trace

open Filepath

/-! ## One entry -/

namespace ProcessPathState

/-- A map that is not nil has an entry. -/
structure Tidy (state : ProcessPathState) : Prop where
  trackedFDs : state.trackedFDs ≠ some ∅
  fdPaths : ∀ fdPaths, state.fdPaths = some fdPaths → 0 < fdPaths.len

/-- There is something in the state too. -/
structure Normal (state : ProcessPathState) : Prop extends state.Tidy where
  used : state.cwd ≠ [] ∨ state.trackedFDs ≠ none ∨ state.fdPaths ≠ none

variable {state : ProcessPathState}

theorem tidy_new : ProcessPathState.new.Tidy where
  trackedFDs := nofun
  fdPaths _ h := by cases h

theorem Tidy.setCwd (tidy : state.Tidy) (path : Path) :
    { state with cwd := path.val }.Normal :=
  { tidy with used := .inl path.property }

theorem Tidy.setTrackedFDs (tidy : state.Tidy) {fds : Finset UInt64} (ne : fds ≠ ∅) :
    { state with trackedFDs := some fds }.Normal where
  trackedFDs h := ne (Option.some.inj h)
  fdPaths := tidy.fdPaths
  used := .inr (.inl (Option.some_ne_none fds))

theorem Tidy.setFDPaths (tidy : state.Tidy) {fdPaths : GoMap UInt64 Path}
    (pos : 0 < fdPaths.len) : { state with fdPaths := some fdPaths }.Normal where
  trackedFDs := tidy.trackedFDs
  fdPaths _ h := Option.some.inj h ▸ pos
  used := .inr (.inr (Option.some_ne_none fdPaths))

end ProcessPathState

/-- What is left after deleting is nil if it is empty. -/
theorem ite_empty_ne (fds : Finset UInt64) :
    (if fds = ∅ then none else some fds) ≠ some ∅ := by
  split
  · exact nofun
  · next ne => exact fun h => ne (Option.some.inj h)

theorem len_of_ite_len {m m' : GoMap UInt64 Path}
    (h : (if m.len = 0 then none else some m) = some m') : 0 < m'.len := by
  split at h
  · cases h
  · next ne =>
      rw [← Option.some.inj h]
      exact Nat.pos_of_ne_zero ne

/-! ## All entries -/

namespace PathStates

/-- Every entry is normal. -/
def Normal (s : PathStates) : Prop := ∀ pid state, s.stateByPID pid = some state → state.Normal

/-- The entry of `pid`, if there is one, has `P`, and all others are normal. -/
structure NormalBut (s : PathStates) (pid : UInt32) (P : ProcessPathState → Prop) : Prop where
  own : ∀ state, s.stateByPID pid = some state → P state
  other : ∀ q, q ≠ pid → ∀ state, s.stateByPID q = some state → state.Normal

section

variable {s : PathStates} {pid : UInt32} {fd : UInt64} {P Q : ProcessPathState → Prop}
  {f : ProcessPathState → ProcessPathState}

/-- Normality is regained when the entry of the process is normal again. -/
theorem NormalBut.normal (h : s.NormalBut pid ProcessPathState.Normal) : s.Normal := by
  intro q state hstate
  by_cases own : q = pid
  · subst own
    exact h.own state hstate
  · exact h.other q own state hstate

/-- It is given up for the entry of one process, for as much as the method may break. -/
theorem Normal.but (h : s.Normal) (weaker : ∀ state : ProcessPathState, state.Normal → P state) :
    s.NormalBut pid P where
  own state hstate := weaker state (h pid state hstate)
  other q _ := h q

/-- The entry an assignment starts from. -/
theorem NormalBut.getD (h : s.NormalBut pid P) (new : P .new) :
    P ((s.stateByPID pid).getD .new) := by
  cases hstate : s.stateByPID pid with
  | none => exact new
  | some state => exact h.own state hstate

/-- Another entry for `pid`. -/
theorem NormalBut.update (h : s.NormalBut pid P) {entry : Option ProcessPathState}
    (after : ∀ state, entry = some state → Q state) :
    { s with stateByPID := Function.update s.stateByPID pid entry }.NormalBut pid Q where
  own state hstate := by
    change Function.update s.stateByPID pid entry pid = some state at hstate
    rw [Function.update_self] at hstate
    exact after state hstate
  other q ne state hstate := by
    change Function.update s.stateByPID pid entry q = some state at hstate
    rw [Function.update_of_ne ne] at hstate
    exact h.other q ne state hstate

/-- A method needs to say what it does to the entry it finds, or to a new one. -/
theorem NormalBut.assign (h : s.NormalBut pid P) (after : Q (f ((s.stateByPID pid).getD .new))) :
    (s.assign pid f).NormalBut pid Q :=
  h.update fun _ hstate => Option.some.inj hstate ▸ after

/-- Deleting an entry makes up for everything that was wrong with it. -/
theorem NormalBut.deletePID (h : s.NormalBut pid P) : (s.deletePID pid).NormalBut pid Q :=
  h.update nofun

/-- `maybeDropPIDState` makes a tidy entry normal. -/
theorem NormalBut.maybeDrop (h : s.NormalBut pid ProcessPathState.Tidy) :
    (s.maybeDropPIDState pid).Normal := by
  unfold maybeDropPIDState
  split
  next hnone => exact (NormalBut.mk (fun state hsome => by rw [hnone] at hsome; cases hsome)
      h.other).normal
  next state hstate =>
    split
    next used =>
      refine (NormalBut.mk (fun state' hsome => ?_) h.other).normal
      rw [hstate] at hsome
      cases hsome
      -- The tests of lengths say that something is there.
      refine { h.own state hstate with used := ?_ }
      rcases used with hcwd | hfds | hpaths
      · exact .inl hcwd
      · refine .inr (.inl fun hnone => hfds ?_)
        rw [hnone, Option.getD_none]
      · refine .inr (.inr fun hnone => ?_)
        rw [hnone, Option.getD_none] at hpaths
        exact absurd hpaths (by decide)
    next => exact (h.deletePID (Q := ProcessPathState.Normal)).normal

/-- It keeps whatever else an entry has. -/
theorem NormalBut.maybeDrop_of (h : s.NormalBut pid P) :
    (s.maybeDropPIDState pid).NormalBut pid P := by
  unfold maybeDropPIDState
  split
  · exact h
  · split
    · exact h
    · exact h.deletePID

/-! ### One descriptor -/

theorem Normal.getD (h : s.Normal) : ((s.stateByPID pid).getD .new).Tidy :=
  (h.but fun _ normal => normal.toTidy).getD ProcessPathState.tidy_new

/-- An assignment that leaves a tidy entry normal keeps all normal. -/
theorem Normal.assign (h : s.Normal)
    (after : ∀ state : ProcessPathState, state.Tidy → (f state).Normal) :
    (s.assign pid f).Normal :=
  ((h.but (P := ProcessPathState.Tidy) fun _ normal => normal.toTidy).assign
    (after _ h.getD)).normal

/-- One that leaves it tidy does so once the entry is dropped if it is empty. -/
theorem Normal.assign_maybeDrop (h : s.Normal)
    (after : ∀ state : ProcessPathState, state.Tidy → (f state).Tidy) :
    ((s.assign pid f).maybeDropPIDState pid).Normal :=
  ((h.but (P := ProcessPathState.Tidy) fun _ normal => normal.toTidy).assign
    (after _ h.getD)).maybeDrop

theorem Normal.setCwd (h : s.Normal) (path : Path) :
    (s.assign pid fun state => { state with cwd := path.val }).Normal :=
  h.assign fun _ tidy => tidy.setCwd path

/-- Tracking puts something into the set, so the set is not empty. -/
theorem Normal.trackFD (h : s.Normal) : (s.trackFD pid fd).Normal :=
  h.assign fun _ tidy => tidy.setTrackedFDs (Finset.insert_ne_empty fd _)

/-- Here the set may become empty: it is dropped, and the entry with it if nothing else is left. -/
theorem Normal.untrackFD (h : s.Normal) : (s.untrackFD pid fd).Normal := by
  unfold PathStates.untrackFD
  split
  · exact h
  · next fds _ =>
      exact h.assign_maybeDrop fun _ tidy =>
        { tidy with trackedFDs := ite_empty_ne (fds.erase fd) }

theorem Normal.setFDPath (h : s.Normal) (path : Path) : (s.setFDPath pid fd path).Normal :=
  h.assign fun _ tidy => tidy.setFDPaths (GoMap.len_set_pos _ fd path)

/-- The same for the map of paths. -/
theorem Normal.unsetFDPath (h : s.Normal) : (s.unsetFDPath pid fd).Normal := by
  unfold PathStates.unsetFDPath
  split
  · exact h
  · exact h.assign_maybeDrop fun _ tidy => { tidy with fdPaths := fun _ hm => len_of_ite_len hm }

theorem Normal.syncTrackedFD (h : s.Normal) (path : Path) :
    (s.syncTrackedFD pid fd path).Normal := by
  unfold PathStates.syncTrackedFD
  split
  · exact h.trackFD
  · exact h.untrackFD

/-- Recording a path, as all observations do it. -/
theorem Normal.record (h : s.Normal) (path : Path) :
    ((s.setFDPath pid fd path).syncTrackedFD pid fd path).Normal :=
  (h.setFDPath path).syncTrackedFD path

theorem Normal.copyFDPath (h : s.Normal) {src : UInt64} : (s.copyFDPath pid src fd).Normal := by
  unfold PathStates.copyFDPath
  split
  · exact h
  · next path _ => exact h.record path

/-! ### The loops over the paths of a process -/

/-- Moving the directory keeps the normal form, and so does each round of the loop. -/
theorem Normal.rewritePIDPaths (h : s.Normal) (oldPath newPath : Path) :
    (s.rewritePIDPaths pid oldPath newPath).Normal := by
  have moved : (s.rewriteCwd pid oldPath newPath).Normal := by
    unfold rewriteCwd
    split
    · exact h
    · dsimp only
      split
      · exact h.setCwd _
      · exact h
  unfold PathStates.rewritePIDPaths
  dsimp only
  split
  · exact moved
  · refine List.foldlRecOn _ _ moved ?_
    intro s' h' entry _
    unfold rewriteFD
    dsimp only
    split
    · exact h'.record _
    · exact h'

/-- In the loop of `dropPIDPaths` the entry may have an empty map of paths. -/
theorem NormalBut.dropFD (h : s.NormalBut pid fun state => state.trackedFDs ≠ some ∅)
    (target : Path) (entry : UInt64 × Path) :
    (s.dropFD pid target entry).NormalBut pid fun state => state.trackedFDs ≠ some ∅ := by
  have untracked : (s.untrackFD pid entry.1).NormalBut pid
      fun state => state.trackedFDs ≠ some ∅ := by
    unfold PathStates.untrackFD
    split
    · exact h
    · next fds _ => exact (h.assign (ite_empty_ne (fds.erase entry.1))).maybeDrop_of
  unfold PathStates.dropFD
  split
  · exact h
  · exact untracked.assign (untracked.getD nofun)

theorem Normal.dropPIDPaths (h : s.Normal) (target : Path) :
    (s.dropPIDPaths pid target).Normal := by
  unfold PathStates.dropPIDPaths
  split
  · exact h
  · next fdPaths _ =>
      -- During the loop the map of paths may become empty; the last assignment makes it nil.
      have looped :
          ((entries fdPaths).foldl (fun s entry => s.dropFD pid target entry) s).NormalBut pid
            fun state => state.trackedFDs ≠ some ∅ := by
        refine List.foldlRecOn (motive := fun s' : PathStates =>
          s'.NormalBut pid fun state => state.trackedFDs ≠ some ∅) _ _
          (h.but fun _ normal => normal.trackedFDs) ?_
        intro s' h' entry _
        exact h'.dropFD target entry
      refine (looped.assign ⟨looped.getD nofun, ?_⟩).maybeDrop
      intro left hleft
      dsimp only at hleft
      split at hleft
      · cases hleft
      · next pos =>
          rw [hleft, Option.getD_some] at pos
          exact Nat.pos_of_ne_zero pos

/-! ### Resolving and matching -/

variable {proc : ProcCwd} {ev : Event}

theorem Normal.looksUp (h : s.Normal) {s' : PathStates} (looks : s.LooksUp proc pid s') :
    s'.Normal := by
  cases looks with
  | same => exact h
  | learnt read unknown => exact h.setCwd (cleanPath _)

theorem Normal.resolvePathAt (h : s.Normal) (proc : ProcCwd) (site : ReadSite) (ev : Event)
    (i : Fin 6) : (s.resolvePathAt (proc site) ev i).1.Normal :=
  h.looksUp (s.looksUp_resolvePathAt site ev i)

/-! ### Observing -/

/-- A copy of a normal entry is normal: the copy would be dropped otherwise. -/
theorem normal_cloneProcessPathState {src : Option ProcessPathState} {state : ProcessPathState}
    (hstate : cloneProcessPathState src = some state) : state.Normal := by
  unfold cloneProcessPathState at hstate
  split at hstate
  · cases hstate
  · next src =>
      dsimp only at hstate
      split at hstate
      · cases hstate
      -- What is not dropped has something in it, and its maps are nil or not empty.
      · next used =>
          cases hstate
          refine ⟨⟨?_, ?_⟩, ?_⟩
          · show cloneTrackedFDSet src.trackedFDs ≠ some ∅
            unfold cloneTrackedFDSet
            split
            · exact nofun
            · next ne =>
                intro h
                rw [h, Option.getD_some] at ne
                exact ne rfl
          · intro m hm
            replace hm : cloneFDPaths src.fdPaths = some m := hm
            unfold cloneFDPaths at hm
            split at hm
            · cases hm
            · next ne =>
                rw [hm, Option.getD_some] at ne
                exact Nat.pos_of_ne_zero ne
          · by_contra unused
            simp only [not_or, not_not] at unused
            exact used ⟨unused.1, unused.2.1, Option.isNone_iff_eq_none.mpr unused.2.2⟩

/-- The copy of a normal entry is normal, and an empty one is not stored. -/
theorem Normal.observeProcessClone (h : s.Normal) : (s.observeProcessClone ev).Normal := by
  unfold PathStates.observeProcessClone
  split
  · exact h
  · next childPID _ =>
      have others : s.NormalBut childPID fun _ => True := h.but fun _ _ => trivial
      unfold observeForkChild
      split
      · exact (others.deletePID (Q := ProcessPathState.Normal)).normal
      · next state hstate =>
          refine (others.update fun copy hcopy => ?_).normal
          rw [← hstate] at hcopy
          exact normal_cloneProcessPathState hcopy

theorem Normal.observeDupRet (h : s.Normal) (i : Fin 6) : (s.observeDupRet ev i).Normal := by
  unfold PathStates.observeDupRet
  split
  · exact h
  · dsimp only
    split
    · exact h.copyFDPath.trackFD
    · exact h.copyFDPath

theorem Normal.observeDupPair (h : s.Normal) : (s.observeDupPair ev).Normal := by
  have paired : ∀ s' : PathStates, s'.Normal →
      (if s'.fdTracked ev.pid (fdArg ev 0) then s'.trackFD ev.pid (fdArg ev 1)
        else s'.untrackFD ev.pid (fdArg ev 1)).Normal := by
    intro s' h'
    split
    · exact h'.trackFD
    · exact h'.untrackFD
  unfold PathStates.observeDupPair
  split
  · exact h
  · dsimp only
    split
    · exact paired _ (h.record _)
    · exact paired _ h.unsetFDPath.untrackFD

theorem Normal.observeFcntl (h : s.Normal) : (s.observeFcntl ev).Normal := by
  unfold PathStates.observeFcntl
  split
  · exact h
  · dsimp only
    split
    · exact h
    · exact h.copyFDPath.trackFD

theorem Normal.observeClose (h : s.Normal) : (s.observeClose ev).Normal := by
  unfold PathStates.observeClose
  split
  · exact h
  · exact h.untrackFD.unsetFDPath

theorem Normal.observeOpen (h : s.Normal) (i : Fin 6) : (s.observeOpen proc ev i).Normal := by
  have resolved := h.resolvePathAt proc (.observe i) ev i
  unfold PathStates.observeOpen
  split
  · exact h
  · dsimp only
    split
    · exact resolved
    · exact resolved.record _

theorem Normal.observeChdir (h : s.Normal) : (s.observeChdir proc ev).Normal := by
  have resolved := h.resolvePathAt proc (.observe 0) ev 0
  unfold PathStates.observeChdir
  split
  · exact h
  · dsimp only
    split
    · exact resolved
    · exact resolved.setCwd _

theorem Normal.observeFchdir (h : s.Normal) : (s.observeFchdir ev).Normal := by
  unfold PathStates.observeFchdir
  split
  · exact h
  · split
    · exact h
    · exact h.setCwd _

theorem Normal.observeRename (h : s.Normal) (i j : Fin 6) :
    (s.observeRename proc ev i j).Normal := by
  have old := h.resolvePathAt proc (.observe i) ev i
  have new := old.resolvePathAt proc (.observe j) ev j
  unfold PathStates.observeRename
  split
  · exact h
  · dsimp only
    split
    · exact old
    · split
      · exact new
      · exact new.rewritePIDPaths _ _

theorem Normal.observeUnlink (h : s.Normal) (i : Fin 6) : (s.observeUnlink proc ev i).Normal := by
  have resolved := h.resolvePathAt proc (.observe i) ev i
  unfold PathStates.observeUnlink
  split
  · exact h
  · dsimp only
    split
    · exact resolved
    · exact resolved.dropPIDPaths _

theorem Normal.ite {p : Prop} [Decidable p] {s₁ s₂ : PathStates} (h₁ : s₁.Normal)
    (h₂ : s₂.Normal) : (if p then s₁ else s₂).Normal := by
  split
  · exact h₁
  · exact h₂

theorem Normal.observeSyscall (h : s.Normal) : (s.observeSyscall proc ev).Normal := by
  unfold PathStates.observeSyscall
  refine (h.observeOpen 0).ite ?_
  refine (h.observeOpen 1).ite ?_
  refine (h.observeOpen 1).ite ?_
  refine (h.observeDupRet 0).ite ?_
  refine h.observeDupPair.ite ?_
  refine h.observeFcntl.ite ?_
  refine h.observeClose.ite ?_
  refine h.observeChdir.ite ?_
  refine h.observeFchdir.ite ?_
  refine (h.observeRename 0 1).ite ?_
  refine (h.observeRename 1 3).ite ?_
  refine (h.observeUnlink 0).ite ?_
  exact (h.observeUnlink 1).ite h

/-- An observation keeps the normal form, whatever the event. -/
theorem Normal.observe (h : s.Normal) : (s.observe proc ev).Normal :=
  h.observeProcessClone.observeSyscall

end

end PathStates

namespace PathFilter

/-- So does a decision, which at most sets the working directory. -/
theorem normal_shouldPrint {f : PathFilter} (h : f.Normal) (proc : ProcCwd) (ev : Event) :
    (f.shouldPrint proc ev).1.Normal :=
  PathStates.Normal.looksUp h (f.looksUp_shouldPrint proc ev)

/-- The filter keeps its states in normal form. -/
theorem normal_next {f : PathFilter} (h : f.Normal) (a : Arrival) : (f.next a).Normal := by
  unfold next shouldOutput
  split
  · exact h
  · exact (normal_shouldPrint h a.proc a.ev).observe

end PathFilter

end Litrace.Trace
