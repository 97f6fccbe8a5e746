import Litrace.Trace.PathView

/-!
# The filter refines the views

`PathStates.view` takes the states of the code to views.  Every method of the
filter changes one view and leaves the others alone, so each lemma here is an
equation between functions of the process: the views after the method are the
views before it, updated at one process.

The main results are `shouldOutput_decision` and `shouldOutput_view`: the decision
on an event is the one of the view of its process, and the views afterwards are
the views before, with the child forked and the event's process updated.

An equation between functions says at once what changes and what does not, so no
separate frame lemmas are needed.  For a loop over the descriptors of a process
the equation is obtained by induction over the keys, with the entries already
visited as the invariant; that a loop writes into the map it goes through is
harmless, as it only writes to the key it is at.

The code decides and observes in sequence, and both may look up the working
directory.  The view keeps the two steps apart as well, since the second sees what
the first has found.
-/

namespace Litrace.Trace

open Filepath

/-! ## The view of a state -/

/-- The view of an entry of `stateByPID`. -/
def viewOf (state : Option ProcessPathState) : View where
  cwd := (state.map ProcessPathState.cwd).getD []
  tracked fd := decide (fd ∈ (state.bind ProcessPathState.trackedFDs).getD ∅)
  fdPath fd := ((state.bind ProcessPathState.fdPaths).getD ∅).get fd

@[simp] theorem viewOf_none : viewOf none = View.blank := by
  ext fd
  · rfl
  · simp [viewOf, View.blank]
  · simp [viewOf, View.blank]

@[simp] theorem viewOf_getD (state : Option ProcessPathState) :
    viewOf (some (state.getD .new)) = viewOf state := by
  cases state with
  | none => rfl
  | some state => rfl

/-- Only the contents of a state are seen, not whether its maps are nil. -/
theorem viewOf_eq {state state' : Option ProcessPathState}
    (cwd : (state.map ProcessPathState.cwd).getD [] = (state'.map ProcessPathState.cwd).getD [])
    (tracked : (state.bind ProcessPathState.trackedFDs).getD ∅ =
      (state'.bind ProcessPathState.trackedFDs).getD ∅)
    (fdPaths : (state.bind ProcessPathState.fdPaths).getD ∅ =
      (state'.bind ProcessPathState.fdPaths).getD ∅) : viewOf state = viewOf state' := by
  rw [viewOf, viewOf, cwd, tracked, fdPaths]

namespace PathStates

/-- The view of each process. -/
def view (s : PathStates) (pid : UInt32) : View := viewOf (s.stateByPID pid)

section

variable {s : PathStates} {pid : UInt32} {fd : UInt64}

theorem view_cwd : (s.view pid).cwd = ((s.stateByPID pid).map ProcessPathState.cwd).getD [] :=
  rfl

theorem view_fdPath : (s.view pid).fdPath fd =
    (((s.stateByPID pid).bind ProcessPathState.fdPaths).getD ∅).get fd :=
  rfl

/-- A lookup in the cache of the code is one in the view, as a missing entry and a missing set both
say no. -/
theorem fdTracked_eq : s.fdTracked pid fd = (s.view pid).tracked fd := by
  rw [fdTracked, view, viewOf]
  cases (s.stateByPID pid).bind ProcessPathState.trackedFDs with
  | none => simp
  | some fds => rfl

theorem fdPath_eq : s.fdPath pid fd = (s.view pid).fdPath fd := by
  rw [fdPath, view, viewOf]
  cases (s.stateByPID pid).bind ProcessPathState.fdPaths with
  | none => simp
  | some fdPaths => rfl

/-! ## Storing and dropping entries -/

/-- Storing an entry changes the view of its process and no other. -/
theorem view_update (states : UInt32 → Option ProcessPathState)
    (state : Option ProcessPathState) (paths : Finset GoString) :
    (PathStates.mk paths (Function.update states pid state)).view =
      Function.update (PathStates.mk paths states).view pid (viewOf state) := by
  funext q
  by_cases h : q = pid
  · subst h
    simp [view]
  · simp [view, h]

@[simp] theorem assign_paths (f : ProcessPathState → ProcessPathState) :
    (s.assign pid f).paths = s.paths := rfl

@[simp] theorem deletePID_paths : (s.deletePID pid).paths = s.paths := rfl

/-- A method that works on the entry of a process, made first if it is missing, changes that view
only; making the entry does not show. -/
theorem view_assign (f : ProcessPathState → ProcessPathState) :
    (s.assign pid f).view =
      Function.update s.view pid (viewOf (some (f ((s.stateByPID pid).getD .new)))) :=
  view_update _ _ _

/-- An assignment that updates the view of any state updates the view of the process. -/
theorem view_assign_of {f : ProcessPathState → ProcessPathState} {g : View → View}
    (updates : ∀ state, viewOf (some (f state)) = g (viewOf (some state))) :
    (s.assign pid f).view = Function.update s.view pid (g (s.view pid)) := by
  rw [view_assign, updates, viewOf_getD]
  rfl

/-- A deleted entry looks like that of a process of which nothing is known. -/
theorem view_deletePID : (s.deletePID pid).view = Function.update s.view pid View.blank := by
  rw [← viewOf_none]
  exact view_update _ _ _

@[simp] theorem maybeDropPIDState_paths : (s.maybeDropPIDState pid).paths = s.paths := by
  unfold maybeDropPIDState
  split
  · rfl
  · split
    · rfl
    · rfl

/-- A state that is dropped has nothing to see. -/
@[simp] theorem view_maybeDropPIDState : (s.maybeDropPIDState pid).view = s.view := by
  unfold maybeDropPIDState
  split
  next => rfl
  next state hstate =>
    split
    next => rfl
    next empty =>
      simp only [ne_eq, not_or, not_not, Nat.not_lt, Nat.le_zero] at empty
      obtain ⟨hcwd, htracked, hlen⟩ := empty
      have hpaths := GoMap.len_eq_zero_iff.mp hlen
      have blank : viewOf (some state) = View.blank := by
        ext fd
        · rw [viewOf, Option.map_some, Option.getD_some, hcwd, View.blank]
        · simp [viewOf, htracked, View.blank]
        · simp [viewOf, hpaths, View.blank]
      rw [view_deletePID, ← blank, ← hstate]
      exact Function.update_eq_self pid s.view

/-! ## One descriptor -/

@[simp] theorem trackFD_paths : (s.trackFD pid fd).paths = s.paths := rfl

/-- The set of tracked descriptors is made when it is needed, which does not show either. -/
theorem view_trackFD :
    (s.trackFD pid fd).view = Function.update s.view pid ((s.view pid).track fd true) := by
  refine view_assign_of (g := fun v => v.track fd true) ?_
  intro state
  ext fd'
  · rfl
  · by_cases h : fd' = fd
    · subst h
      simp [viewOf, View.track]
    · simp [viewOf, View.track, h]
  · rfl

@[simp] theorem untrackFD_paths : (s.untrackFD pid fd).paths = s.paths := by
  unfold untrackFD
  split
  · rfl
  · simp

/-- Removing the last tracked descriptor drops the set, and maybe the entry.  None of this can be
told from the view. -/
theorem view_untrackFD :
    (s.untrackFD pid fd).view = Function.update s.view pid ((s.view pid).track fd false) := by
  unfold untrackFD
  split
  next hnone =>
    have same : (s.view pid).track fd false = s.view pid := by
      ext fd'
      · rfl
      · by_cases h : fd' = fd
        · subst h
          simp [View.track, view, viewOf, hnone]
        · simp [View.track, h]
      · rfl
    rw [same, Function.update_eq_self]
  next fds hsome =>
    dsimp only
    rw [view_maybeDropPIDState, view_assign]
    congr 1
    -- There is an entry, so the assignment does not start from a new one.
    have hfds : ((s.stateByPID pid).getD .new).trackedFDs = some fds := by
      obtain ⟨state, hstate, hfds⟩ := Option.bind_eq_some_iff.mp hsome
      rw [hstate]
      exact hfds
    have left : (if fds.erase fd = ∅ then none else some (fds.erase fd)).getD ∅ =
        fds.erase fd := by
      split
      next h => rw [h, Option.getD_none]
      next => rw [Option.getD_some]
    rw [view, ← viewOf_getD (s.stateByPID pid)]
    ext fd'
    · rfl
    · by_cases h : fd' = fd
      · subst h
        simp [viewOf, View.track, left]
      · simp [viewOf, View.track, left, hfds, h]
    · rfl

@[simp] theorem setFDPath_paths (path : Path) : (s.setFDPath pid fd path).paths = s.paths := rfl

/-- As for tracking, the map is made when it is needed. -/
theorem view_setFDPath (path : Path) :
    (s.setFDPath pid fd path).view =
      Function.update s.view pid ((s.view pid).bind fd (some path)) := by
  refine view_assign_of (g := fun v => v.bind fd (some path)) ?_
  intro state
  ext fd'
  · rfl
  · rfl
  · by_cases h : fd' = fd
    · subst h
      simp [viewOf, View.bind]
    · simp [viewOf, View.bind, h]

@[simp] theorem unsetFDPath_paths : (s.unsetFDPath pid fd).paths = s.paths := by
  unfold unsetFDPath
  split
  · rfl
  · simp

/-- Whether an empty map is nil is not seen. -/
theorem getD_of_len (fdPaths : GoMap UInt64 Path) :
    (if fdPaths.len = 0 then none else some fdPaths).getD ∅ = fdPaths := by
  split
  next h =>
    refine GoMap.ext_get fun fd => ?_
    rw [GoMap.len_eq_zero_iff.mp h fd]
    exact GoMap.get_empty fd
  next => rfl

/-- Removing the last path drops the map, and maybe the entry. -/
theorem view_unsetFDPath :
    (s.unsetFDPath pid fd).view = Function.update s.view pid ((s.view pid).bind fd none) := by
  unfold unsetFDPath
  split
  next hnone =>
    have same : (s.view pid).bind fd none = s.view pid := by
      ext fd'
      · rfl
      · rfl
      · by_cases h : fd' = fd
        · subst h
          simp [View.bind, view, viewOf, hnone]
        · simp [View.bind, h]
    rw [same, Function.update_eq_self]
  next fdPaths hsome =>
    dsimp only
    rw [view_maybeDropPIDState, view_assign]
    congr 1
    have hpaths : ((s.stateByPID pid).getD .new).fdPaths = some fdPaths := by
      obtain ⟨state, hstate, hpaths⟩ := Option.bind_eq_some_iff.mp hsome
      rw [hstate]
      exact hpaths
    rw [view, ← viewOf_getD (s.stateByPID pid)]
    ext fd'
    · rfl
    · rfl
    · by_cases h : fd' = fd
      · subst h
        simp [viewOf, View.bind, getD_of_len]
      · simp [viewOf, View.bind, getD_of_len, hpaths, h]

@[simp] theorem syncTrackedFD_paths (path : Path) :
    (s.syncTrackedFD pid fd path).paths = s.paths := by
  unfold syncTrackedFD
  split
  · rfl
  · simp

/-- The descriptor is tracked if its path is traced and not tracked otherwise, so the two branches
are one update. -/
theorem view_syncTrackedFD (path : Path) :
    (s.syncTrackedFD pid fd path).view =
      Function.update s.view pid ((s.view pid).track fd (decide (path.val ∈ s.paths))) := by
  unfold syncTrackedFD
  split
  next h => rw [view_trackFD, decide_eq_true h]
  next h => rw [view_untrackFD, decide_eq_false h]

/-- Recording a path, as all observations do it. -/
theorem view_record (path : Path) :
    ((s.setFDPath pid fd path).syncTrackedFD pid fd path).view =
      Function.update s.view pid ((s.view pid).record s.paths fd path) := by
  rw [view_syncTrackedFD, view_setFDPath, Function.update_self, Function.update_idem,
    setFDPath_paths]
  rfl

theorem view_setCwd (path : Path) :
    (s.assign pid fun state => { state with cwd := path.val }).view =
      Function.update s.view pid { s.view pid with cwd := path.val } :=
  view_assign_of (g := fun v => { v with cwd := path.val }) fun _ => rfl

/-! ## The loops over the paths of a process -/

theorem mem_entries {fdPaths : GoMap UInt64 Path} {path : Path} :
    (fd, path) ∈ entries fdPaths ↔ fdPaths.get fd = some path := by
  rw [entries, List.mem_filterMap]
  constructor
  · rintro ⟨fd', -, hpair⟩
    obtain ⟨path', hget, heq⟩ := Option.map_eq_some_iff.mp hpair
    cases heq
    exact hget
  · intro hget
    exact ⟨fd, GoMap.mem_keyList.mpr ⟨path, hget⟩, by rw [hget, Option.map_some]⟩

/-- A loop of rounds that update the view of one process. -/
theorem view_foldl {E : Type*} {paths : Finset GoString} (pid : UInt32) (rounds : List E)
    (step : PathStates → E → PathStates) (round : View → E → View)
    (keeps : ∀ s e, (step s e).paths = s.paths)
    (updates : ∀ s e, s.paths = paths →
      (step s e).view = Function.update s.view pid (round (s.view pid) e))
    (hpaths : s.paths = paths) :
    (rounds.foldl step s).paths = paths ∧
      (rounds.foldl step s).view =
        Function.update s.view pid (rounds.foldl round (s.view pid)) := by
  induction rounds generalizing s with
  | nil => exact ⟨hpaths, (Function.update_eq_self pid s.view).symm⟩
  | cons e rounds ih =>
      obtain ⟨left, after⟩ := ih ((keeps s e).trans hpaths)
      refine ⟨left, ?_⟩
      rw [List.foldl_cons, List.foldl_cons, after, updates s e hpaths, Function.update_self,
        Function.update_idem]

theorem rewriteFD_paths (oldPath newPath : Path) (entry : UInt64 × Path) :
    (s.rewriteFD pid oldPath newPath entry).paths = s.paths := by
  unfold rewriteFD
  dsimp only
  split
  · simp
  · rfl

/-- One round of the loop over the descriptors: the entry is moved if it lies within the old path,
and tracking follows. -/
theorem view_rewriteFD (oldPath newPath : Path) (entry : UInt64 × Path) :
    (s.rewriteFD pid oldPath newPath entry).view =
      Function.update s.view pid
        ((s.view pid).rewriteEntry s.paths oldPath newPath entry) := by
  unfold rewriteFD View.rewriteEntry
  dsimp only
  split
  · exact view_record _
  · rw [Function.update_eq_self]

theorem dropFD_paths (target : Path) (entry : UInt64 × Path) :
    (s.dropFD pid target entry).paths = s.paths := by
  unfold dropFD
  split
  · rfl
  · simp

/-- One round of the other loop: a descriptor with the path is forgotten. -/
theorem view_dropFD (target : Path) (entry : UInt64 × Path) :
    (s.dropFD pid target entry).view =
      Function.update s.view pid ((s.view pid).forgetEntry target entry) := by
  unfold dropFD View.forgetEntry
  split
  · rw [Function.update_eq_self]
  · have deleted : ∀ s : PathStates, (s.assign pid fun state =>
        { state with fdPaths := state.fdPaths.map fun m => m.delete entry.1 }).view =
          Function.update s.view pid ((s.view pid).bind entry.1 none) := by
      intro s
      refine view_assign_of (g := fun v => v.bind entry.1 none) ?_
      intro state
      ext fd'
      · rfl
      · rfl
      · by_cases h : fd' = entry.1
        · subst h
          cases hpaths : state.fdPaths with
          | none => simp [viewOf, View.bind, hpaths]
          | some fdPaths => simp [viewOf, View.bind, hpaths]
        · cases hpaths : state.fdPaths with
          | none => simp [viewOf, View.bind, hpaths]
          | some fdPaths => simp [viewOf, View.bind, hpaths, h]
    rw [deleted, view_untrackFD, Function.update_self, Function.update_idem]

/-- The working directory is moved before the loop, on the same condition as the descriptors. -/
theorem view_rewriteCwd (s : PathStates) (pid : UInt32) (oldPath newPath : Path) :
    (s.rewriteCwd pid oldPath newPath).paths = s.paths ∧
      (s.rewriteCwd pid oldPath newPath).view = Function.update s.view pid
        { s.view pid with cwd := ((s.view pid).rewrite s.paths oldPath newPath).cwd } := by
  unfold rewriteCwd
  split
  next hnone =>
    have hcwd : ((s.view pid).rewrite s.paths oldPath newPath).cwd = (s.view pid).cwd := by
      simp [View.rewrite, view_cwd, hnone]
    rw [hcwd, Function.update_eq_self]
    exact ⟨rfl, rfl⟩
  next state hstate =>
    have hcwd : (s.view pid).cwd = state.cwd := by
      rw [view_cwd, hstate, Option.map_some, Option.getD_some]
    dsimp only
    split
    next changed =>
      refine ⟨rfl, ?_⟩
      rw [view_setCwd]
      simp [View.rewrite, hcwd, changed]
    next same =>
      have stays : ((s.view pid).rewrite s.paths oldPath newPath).cwd = (s.view pid).cwd := by
        rw [View.rewrite, hcwd]
        exact if_neg same
      rw [stays, Function.update_eq_self]
      exact ⟨rfl, rfl⟩

/-- The loop as a whole is the pointwise rewriting.  The induction is over the entries, which are
those from before the loop; a round changes the descriptor of its own entry only. -/
theorem view_rewritePIDPaths (s : PathStates) (pid : UInt32) (oldPath newPath : Path) :
    (s.rewritePIDPaths pid oldPath newPath).paths = s.paths ∧
      (s.rewritePIDPaths pid oldPath newPath).view =
        Function.update s.view pid ((s.view pid).rewrite s.paths oldPath newPath) := by
  obtain ⟨hpaths, hview⟩ := view_rewriteCwd s pid oldPath newPath
  have own : (s.rewriteCwd pid oldPath newPath).view pid =
      { s.view pid with cwd := ((s.view pid).rewrite s.paths oldPath newPath).cwd } := by
    rw [hview, Function.update_self]
  -- The working directory comes first, and the paths of descriptors are not touched yet.
  have kept : ∀ fd, (s.view pid).fdPath fd =
      ((s.rewriteCwd pid oldPath newPath).view pid).fdPath fd := by
    intro fd
    rw [own]
  unfold rewritePIDPaths
  dsimp only
  split
  next hnone =>
    refine ⟨hpaths, hview.trans ?_⟩
    have unrecorded : ∀ fd, (s.view pid).fdPath fd = none := by
      intro fd
      rw [kept, view_fdPath, hnone, Option.getD_none, GoMap.get_empty]
    congr 1
    ext fd
    · rfl
    · simp [View.rewrite, unrecorded]
    · simp [View.rewrite, unrecorded]
  next fdPaths hsome =>
    have recorded : ∀ fd, (s.view pid).fdPath fd = fdPaths.get fd := by
      intro fd
      rw [kept, view_fdPath, hsome, Option.getD_some]
    obtain ⟨hpaths', hafter⟩ := view_foldl pid (entries fdPaths)
      (fun s entry => s.rewriteFD pid oldPath newPath entry)
      (fun v entry => v.rewriteEntry s.paths oldPath newPath entry)
      (fun s e => rewriteFD_paths oldPath newPath e)
      (fun s e h => by rw [view_rewriteFD, h]) hpaths
    refine ⟨hpaths', hafter.trans ?_⟩
    rw [own, hview, Function.update_idem, View.foldl_rewriteEntry]
    · rfl
    · intro fd path
      rw [mem_entries, ← recorded]

/-- So is the loop that forgets a path. -/
theorem view_dropPIDPaths (s : PathStates) (pid : UInt32) (target : Path) :
    (s.dropPIDPaths pid target).paths = s.paths ∧
      (s.dropPIDPaths pid target).view =
        Function.update s.view pid ((s.view pid).forget target) := by
  unfold dropPIDPaths
  split
  next hnone =>
    have unrecorded : ∀ fd, (s.view pid).fdPath fd = none := by
      intro fd
      rw [view_fdPath, hnone, Option.getD_none, GoMap.get_empty]
    have same : (s.view pid).forget target = s.view pid := by
      ext fd
      · rfl
      · simp [View.forget, unrecorded]
      · simp [View.forget, unrecorded]
    rw [same, Function.update_eq_self]
    exact ⟨rfl, rfl⟩
  next fdPaths hsome =>
    have recorded : ∀ fd, (s.view pid).fdPath fd = fdPaths.get fd := by
      intro fd
      rw [view_fdPath, hsome, Option.getD_some]
    obtain ⟨hpaths, hafter⟩ := view_foldl pid (entries fdPaths)
      (fun s entry => s.dropFD pid target entry)
      (fun v entry => v.forgetEntry target entry)
      (fun s e => dropFD_paths target e) (fun s e _ => view_dropFD target e) (s := s) rfl
    -- Making the map nil is not seen.
    have nilled : ∀ s : PathStates, (s.assign pid fun state =>
        { state with fdPaths := if (state.fdPaths.getD ∅).len = 0 then none
                                else state.fdPaths }).view = s.view := by
      intro s
      refine (view_assign_of (g := fun v => v) ?_).trans (Function.update_eq_self pid s.view)
      intro state
      refine viewOf_eq rfl rfl ?_
      cases hpaths : state.fdPaths with
      | none => simp [hpaths]
      | some fdPaths => simpa [hpaths] using getD_of_len fdPaths
    dsimp only
    rw [maybeDropPIDState_paths, assign_paths, view_maybeDropPIDState, nilled, hafter]
    refine ⟨hpaths, ?_⟩
    rw [View.foldl_forgetEntry]
    intro fd path
    rw [mem_entries, recorded]

/-! ## Forking -/

/-- A copy of a state looks like the state, also when it has nothing to see. -/
theorem viewOf_clone (state : Option ProcessPathState) :
    viewOf (cloneProcessPathState state) = viewOf state := by
  cases state with
  | none => rfl
  | some src =>
      have hfds : (cloneTrackedFDSet src.trackedFDs).getD ∅ = src.trackedFDs.getD ∅ := by
        unfold cloneTrackedFDSet
        split
        next h => rw [h, Option.getD_none]
        next => rfl
      have hpaths : (cloneFDPaths src.fdPaths).getD ∅ = src.fdPaths.getD ∅ := by
        unfold cloneFDPaths
        split
        next h =>
          refine GoMap.ext_get fun fd => ?_
          rw [GoMap.len_eq_zero_iff.mp h fd, Option.getD_none, GoMap.get_empty]
        next => rfl
      unfold cloneProcessPathState
      dsimp only
      split
      next empty =>
        obtain ⟨hcwd, hnone, hnone'⟩ := empty
        rw [hnone] at hfds
        rw [Option.isNone_iff_eq_none.mp hnone'] at hpaths
        refine viewOf_eq ?_ hfds hpaths
        rw [Option.map_some, Option.getD_some, hcwd]
        rfl
      next => exact viewOf_eq rfl hfds hpaths

@[simp] theorem observeForkChild_paths (parentPID childPID : UInt32) :
    (s.observeForkChild parentPID childPID).paths = s.paths := by
  unfold observeForkChild
  split
  · rfl
  · rfl

/-- The child sees what the parent sees. -/
theorem view_observeForkChild (parentPID childPID : UInt32) :
    (s.observeForkChild parentPID childPID).view =
      Function.update s.view childPID (s.view parentPID) := by
  have copy := viewOf_clone (s.stateByPID parentPID)
  unfold observeForkChild
  split
  next hnone =>
    rw [hnone, viewOf_none] at copy
    rw [view_deletePID, copy]
    rfl
  next state hstate =>
    rw [hstate] at copy
    rw [view_update, copy]
    rfl

/-! ## Resolving and matching -/

theorem cwdForPID_paths (read : UInt32 → Option GoString) :
    (s.cwdForPID read pid).1.paths = s.paths := by
  unfold cwdForPID
  split
  · rfl
  · split
    · rfl
    · rfl

/-- A lookup of the working directory reads `/proc` only if nothing is known, and keeps what it has
read. -/
theorem view_cwdForPID (s : PathStates) (read : UInt32 → Option GoString) (pid : UInt32) :
    (s.cwdForPID read pid).1.view =
        Function.update s.view pid ((s.view pid).learn (read pid)) ∧
      (s.cwdForPID read pid).2 = ((s.view pid).learn (read pid)).cwdPath := by
  unfold cwdForPID
  split
  next b cwd hsome =>
    have hcwd : (s.view pid).cwd = b :: cwd := by
      rw [view_cwd, hsome, Option.getD_some]
    have known : (s.view pid).learn (read pid) = s.view pid :=
      View.learn_of_known (by rw [hcwd]; exact List.cons_ne_nil b cwd) _
    rw [known, Function.update_eq_self, View.cwdPath, hcwd]
    exact ⟨rfl, rfl⟩
  next unknown =>
    have hcwd : (s.view pid).cwd = [] := by
      rw [view_cwd]
      cases hstate : s.stateByPID pid with
      | none => rfl
      | some state =>
          rw [Option.map_some, Option.getD_some]
          cases hcwd : state.cwd with
          | nil => rfl
          | cons b cwd =>
              exact (unknown b cwd (by rw [hstate, Option.map_some, hcwd])).elim
    split
    next hread =>
      have same : (s.view pid).learn (read pid) = s.view pid := by
        rw [hread, View.learn_none]
      rw [same, Function.update_eq_self, View.cwdPath, hcwd]
      exact ⟨rfl, rfl⟩
    next cwd hread =>
      have learned : (s.view pid).learn (read pid) =
          { s.view pid with cwd := (cleanPath cwd).val } := by
        rw [hread, View.learn_of_unknown hcwd]
        rfl
      rw [learned]
      refine ⟨view_setCwd _, ?_⟩
      -- A cleaned path is not empty, so it is the working directory that is known now.
      obtain ⟨path, hpath⟩ := cleanPath cwd
      cases path with
      | nil => exact absurd rfl hpath
      | cons b rest => rfl

/-- Resolving an argument is a matter of what the event says about it. -/
theorem view_resolvePathAt (read : UInt32 → Option GoString) (ev : Event) (argIndex : Fin 6) :
    (s.resolvePathAt read ev argIndex).1.paths = s.paths ∧
      (s.resolvePathAt read ev argIndex).1.view = Function.update s.view ev.pid
        ((s.view ev.pid).ask (read ev.pid) (pathArg ev argIndex)) ∧
      (s.resolvePathAt read ev argIndex).2 =
        ((s.view ev.pid).ask (read ev.pid) (pathArg ev argIndex)).resolve
          (pathArg ev argIndex) := by
  have unchanged : ∀ path : Option Path, (s, path).1.view =
      Function.update s.view ev.pid (s.view ev.pid) := fun _ =>
    (Function.update_eq_self ev.pid s.view).symm
  -- A relative path goes below the working directory, in three of the cases.
  have below : ∀ path : GoString,
      ((s.cwdForPID read ev.pid).1.paths = s.paths ∧
        (s.cwdForPID read ev.pid).1.view = Function.update s.view ev.pid
          ((s.view ev.pid).learn (read ev.pid)) ∧
        (s.cwdForPID read ev.pid).2.map (fun base => cleanPath (join base.val path)) =
          ((s.view ev.pid).learn (read ev.pid)).resolve (.fromCwd path)) := by
    intro path
    obtain ⟨hview, hcwd⟩ := view_cwdForPID s read ev.pid
    exact ⟨cwdForPID_paths read, hview, by rw [hcwd]; rfl⟩
  unfold resolvePathAt pathArg
  cases eventTracePathAt ev argIndex with
  | none => exact ⟨rfl, unchanged none, rfl⟩
  | some path =>
      dsimp only
      unfold resolvePath
      by_cases empty : path = []
      · rw [if_pos empty, if_pos empty]
        exact ⟨rfl, unchanged none, rfl⟩
      · rw [if_neg empty, if_neg empty]
        by_cases abs : isAbs path = true
        · rw [if_pos abs, if_pos abs]
          exact ⟨rfl, unchanged _, rfl⟩
        · rw [if_neg abs, if_neg abs]
          unfold resolvePathBase
          cases pathBaseFDArgIndex ev.syscallId argIndex with
          | none => exact below path
          | some dirfd =>
              cases dirfd with
              | none => exact below path
              | some i =>
                  dsimp only
                  by_cases missing : ev.argCount.toNat ≤ i.val
                  · rw [if_pos missing, if_pos missing]
                    exact ⟨rfl, unchanged none, rfl⟩
                  · rw [if_neg missing, if_neg missing]
                    by_cases atCwd : (ev.args.get i).toUInt32.toInt32.toInt64 = Unix.atFdcwd
                    · rw [if_pos atCwd, if_pos atCwd]
                      exact below path
                    · rw [if_neg atCwd, if_neg atCwd, fdPath_eq]
                      exact ⟨rfl, unchanged _, rfl⟩

/-- The views after trying path arguments, and whether one matches. -/
def MatchesView (s : PathStates) (proc : ProcCwd) (ev : Event) (args : List (Fin 6))
    (result : PathStates × Bool) : Prop :=
  let matched := (s.view ev.pid).matchArgs s.paths (fun site => proc site ev.pid) ev args
  result.1.paths = s.paths ∧
    result.1.view = Function.update s.view ev.pid matched.1 ∧ result.2 = matched.2

theorem matchesPathAt_matchesView (proc : ProcCwd) (ev : Event) (i : Fin 6) :
    s.MatchesView proc ev [i] (s.matchesPathAt proc ev i) := by
  obtain ⟨hpaths, hview, hpath⟩ := view_resolvePathAt (s := s) (proc (.shouldPrint i)) ev i
  unfold MatchesView matchesPathAt View.matchArgs View.matchArgs
  dsimp only
  rw [hpath]
  cases hresolved : View.resolve (View.ask (s.view ev.pid) (proc (.shouldPrint i) ev.pid)
      (pathArg ev i)) (pathArg ev i) with
  | none => exact ⟨hpaths, hview, rfl⟩
  | some path =>
      dsimp only
      rw [Option.any_some]
      by_cases traced : path.val ∈ s.paths
      · rw [decide_eq_true traced, if_pos rfl]
        exact ⟨hpaths, hview, decide_eq_true (by rwa [hpaths])⟩
      · rw [decide_eq_false traced, if_neg Bool.false_ne_true]
        exact ⟨hpaths, hview, decide_eq_false (by rwa [hpaths])⟩

/-- The second path is resolved only if the first does not match, so the lookups are made in this
order, and at most one of them changes anything. -/
theorem matchesEitherPathAt_matchesView (proc : ProcCwd) (ev : Event) (i j : Fin 6) :
    s.MatchesView proc ev [i, j] (s.matchesEitherPathAt proc ev i j) := by
  -- The second argument is tried in the view the first one leaves.
  obtain ⟨hpaths, hview, hmatch⟩ := s.matchesPathAt_matchesView proc ev i
  obtain ⟨hpaths', hview', hmatch'⟩ :=
    (s.matchesPathAt proc ev i).1.matchesPathAt_matchesView proc ev j
  unfold View.matchArgs View.matchArgs at hview hmatch
  unfold MatchesView matchesEitherPathAt View.matchArgs
  dsimp only at hview hmatch ⊢
  rw [hmatch]
  split at hview
  next found =>
    rw [if_pos found, if_pos found]
    exact ⟨hpaths, hview, hmatch.trans (by rw [if_pos found])⟩
  next notFound =>
    rw [if_neg notFound, if_neg notFound, if_neg Bool.false_ne_true]
    rw [hpaths, hview, Function.update_self] at hview' hmatch'
    rw [Function.update_idem] at hview'
    exact ⟨hpaths'.trans hpaths, hview', hmatch'⟩

/-- All syscalls at once: which arguments are compared is a function of the number. -/
theorem matchesPath_matchesView (proc : ProcCwd) (ev : Event) :
    s.MatchesView proc ev (matchedArgs ev.syscallId) (s.matchesPath proc ev) := by
  unfold matchesPath matchedArgs
  split
  · exact s.matchesPathAt_matchesView proc ev 0
  · split
    · exact s.matchesPathAt_matchesView proc ev 1
    · split
      · exact s.matchesPathAt_matchesView proc ev 0
      · split
        · exact s.matchesEitherPathAt_matchesView proc ev 0 1
        · split
          · exact s.matchesPathAt_matchesView proc ev 1
          · split
            · exact s.matchesEitherPathAt_matchesView proc ev 1 3
            · exact ⟨rfl, (Function.update_eq_self ev.pid s.view).symm, rfl⟩

theorem argTracked_eq (ev : Event) (i : Fin 6) :
    s.argTracked ev i =
      (isFDArg ev i && (s.view ev.pid).tracked (fdArg ev i)) := by
  unfold argTracked isFDArg
  by_cases missing : ev.argCount.toNat ≤ i.val
  · rw [if_pos missing, decide_eq_false (Nat.not_lt.mpr missing), Bool.false_and,
      Bool.false_and]
  · rw [if_neg missing, decide_eq_true (Nat.lt_of_not_le missing), Bool.true_and]
    by_cases isFD : ev.argTypes.get i = ArgType.fd
    · rw [if_neg (not_not.mpr isFD), beq_iff_eq.mpr isFD, Bool.true_and, fdTracked_eq]
    · rw [if_pos isFD, beq_eq_false_iff_ne.mpr isFD, Bool.false_and]

/-- The loop over the arguments stops at the first tracked descriptor; whether there is one does not
depend on that. -/
theorem hasTrackedFDArg_eq (ev : Event) :
    s.hasTrackedFDArg ev = (fdArgs ev).any (s.view ev.pid).tracked := by
  unfold hasTrackedFDArg fdArgs isFDArg
  simp only [List.any_map, List.any_filter, fdTracked_eq]
  rfl

/-! ## Observing -/

/-- The state `s'` has the views of `s`, with the observation made. -/
def Updates (s : PathStates) (proc : ProcCwd) (ev : Event) (observed : Observation)
    (s' : PathStates) : Prop :=
  s'.paths = s.paths ∧
    s'.view = Function.update s.view ev.pid
      ((s.view ev.pid).apply s.paths (fun site => proc site ev.pid) ev observed)

variable {proc : ProcCwd} {ev : Event}

theorem updates_ignored : s.Updates proc ev .ignored s :=
  ⟨rfl, (Function.update_eq_self ev.pid s.view).symm⟩

/-- A path argument is resolved, and what is done with the path updates the
view. -/
theorem updates_resolved (observed : Observation) (i : Fin 6)
    (f : PathStates → Path → PathStates) (g : View → Path → View)
    (apply_eq : ∀ v : View, v.apply s.paths (fun site => proc site ev.pid) ev observed =
      match (v.ask (proc (.observe i) ev.pid) (pathArg ev i)).resolve (pathArg ev i) with
      | none => v.ask (proc (.observe i) ev.pid) (pathArg ev i)
      | some path => g (v.ask (proc (.observe i) ev.pid) (pathArg ev i)) path)
    (updates : ∀ s' path, s'.paths = s.paths → (f s' path).paths = s.paths ∧
      (f s' path).view = Function.update s'.view ev.pid (g (s'.view ev.pid) path)) :
    s.Updates proc ev observed
      (match (s.resolvePathAt (proc (.observe i)) ev i).2 with
        | none => (s.resolvePathAt (proc (.observe i)) ev i).1
        | some path => f (s.resolvePathAt (proc (.observe i)) ev i).1 path) := by
  obtain ⟨hpaths, hview, hpath⟩ := view_resolvePathAt (s := s) (proc (.observe i)) ev i
  unfold Updates
  rw [apply_eq, hpath]
  cases (((s.view ev.pid).ask (proc (.observe i) ev.pid) (pathArg ev i)).resolve
      (pathArg ev i)) with
  | none => exact ⟨hpaths, hview⟩
  | some path =>
      obtain ⟨hpaths', hview'⟩ := updates _ path hpaths
      refine ⟨hpaths', hview'.trans ?_⟩
      rw [hview, Function.update_self, Function.update_idem]

/-- `open` and its relatives.  The old path of the descriptor is replaced only if the new one is
resolved. -/
theorem observeOpen_updates (i : Fin 6) :
    s.Updates proc ev (if ev.ret < 0 then .ignored else .opened i ev.ret.toUInt64)
      (s.observeOpen proc ev i) := by
  unfold observeOpen
  split
  next => exact updates_ignored
  next =>
    refine updates_resolved (.opened i ev.ret.toUInt64) i
      (fun s path => (s.setFDPath ev.pid ev.ret.toUInt64 path).syncTrackedFD ev.pid
        ev.ret.toUInt64 path)
      (fun v path => v.record s.paths ev.ret.toUInt64 path) (fun _ => rfl) ?_
    intro s' path hpaths
    refine ⟨?_, ?_⟩
    · rw [syncTrackedFD_paths, setFDPath_paths, hpaths]
    · rw [view_record, hpaths]

theorem view_copyFDPath (s : PathStates) (pid : UInt32) (src fd : UInt64) :
    (s.copyFDPath pid src fd).paths = s.paths ∧
      (s.copyFDPath pid src fd).view =
        Function.update s.view pid ((s.view pid).copyPath s.paths src fd) := by
  unfold copyFDPath View.copyPath
  rw [fdPath_eq]
  cases (s.view pid).fdPath src with
  | none => exact ⟨rfl, (Function.update_eq_self pid s.view).symm⟩
  | some path => exact ⟨by simp, view_record path⟩

/-- `dup`: the result gets the path of the source, if it has one.  Then it is tracked if the source
is, which for a source with a path is a second time. -/
theorem observeDupRet_updates :
    s.Updates proc ev
      (if ev.ret < 0 ∨ ev.argCount.toNat < 1 then .ignored
        else .duplicated (fdArg ev 0) ev.ret.toUInt64 (isFDArg ev 0))
      (s.observeDupRet ev 0) := by
  have bound : ev.argCount.toNat ≤ (0 : Fin 6).val ↔ ev.argCount.toNat < 1 :=
    Nat.lt_succ_iff.symm
  unfold observeDupRet
  rw [if_congr (or_congr_right bound) rfl rfl]
  split
  next => exact updates_ignored
  next =>
    obtain ⟨hpaths, hview⟩ := view_copyFDPath s ev.pid
      (fdArg ev 0) ev.ret.toUInt64
    unfold Updates View.apply
    dsimp only
    rw [argTracked_eq, hview, Function.update_self]
    split
    next =>
      refine ⟨hpaths, ?_⟩
      rw [view_trackFD, hview, Function.update_self, Function.update_idem]
    next => exact ⟨hpaths, hview⟩

/-- `dup2` and `dup3`, which replace or remove in all cases. -/
theorem observeDupPair_updates :
    s.Updates proc ev
      (if ev.argCount.toNat < 2 ∨ ev.ret < 0 then .ignored
        else .duplicatedOnto (fdArg ev 0) (fdArg ev 1))
      (s.observeDupPair ev) := by
  unfold observeDupPair
  split
  next => exact updates_ignored
  next =>
    -- After the path is set or unset, `newfd` is tracked like `oldfd`.
    have finish : ∀ (s' : PathStates) (v : View), s'.paths = s.paths →
        s'.view = Function.update s.view ev.pid v → ∀ oldfd newfd,
        (if s'.fdTracked ev.pid oldfd = true then s'.trackFD ev.pid newfd
          else s'.untrackFD ev.pid newfd).paths = s.paths ∧
        (if s'.fdTracked ev.pid oldfd = true then s'.trackFD ev.pid newfd
          else s'.untrackFD ev.pid newfd).view =
            Function.update s.view ev.pid (v.track newfd (v.tracked oldfd)) := by
      intro s' v hpaths hview oldfd newfd
      have own : s'.view ev.pid = v := by rw [hview, Function.update_self]
      rw [fdTracked_eq, own]
      cases v.tracked oldfd with
      | true =>
          rw [if_pos rfl, view_trackFD, own, hview, Function.update_idem]
          exact ⟨hpaths, rfl⟩
      | false =>
          rw [if_neg Bool.false_ne_true, view_untrackFD, own, hview, Function.update_idem]
          exact ⟨by rw [untrackFD_paths, hpaths], rfl⟩
    unfold Updates View.apply
    dsimp only
    rw [fdPath_eq]
    cases (s.view ev.pid).fdPath (fdArg ev 0) with
    | some path => exact finish _ _ (by simp) (view_record path) _ _
    | none =>
        refine finish _ _ (by simp) ?_ _ _
        rw [view_untrackFD, view_unsetFDPath, Function.update_self, Function.update_idem]

/-- `fcntl`, with its own early return for a source that is not tracked. -/
theorem observeFcntl_updates :
    s.Updates proc ev
      (if ev.ret < 0 then .ignored
        else if 2 ≤ ev.argCount.toNat ∧ isFDArg ev 0 = true ∧
            (ev.args.get 1).toInt64 ∈ [Unix.fDupfd, Unix.fDupfdCloexec] then
          .duplicatedTracked (fdArg ev 0) ev.ret.toUInt64
        else .ignored)
      (s.observeFcntl ev) := by
  unfold observeFcntl
  -- The method tests the number of arguments first, the observation the result; both
  -- ignore the event if either fails.
  by_cases failed : ev.ret < 0
  · rw [if_pos failed, if_pos (.inr (.inl failed))]
    exact updates_ignored
  rw [if_neg failed]
  by_cases few : ev.argCount.toNat < 2
  · rw [if_neg fun all => absurd all.1 (Nat.not_le.mpr few), if_pos (.inl few)]
    exact updates_ignored
  by_cases isFD : isFDArg ev 0 = true
  · rw [argTracked_eq, isFD, Bool.true_and]
    by_cases dups : (ev.args.get 1).toInt64 ∈ [Unix.fDupfd, Unix.fDupfdCloexec]
    · have isDup : ¬ ((ev.args.get 1).toInt64 ≠ Unix.fDupfd ∧
          (ev.args.get 1).toInt64 ≠ Unix.fDupfdCloexec) := by
        simp only [List.mem_cons, List.not_mem_nil, or_false] at dups
        rintro ⟨notDup, notCloexec⟩
        exact dups.elim notDup notCloexec
      rw [if_pos ⟨Nat.le_of_not_lt few, rfl, dups⟩]
      unfold Updates View.apply
      dsimp only
      cases htracked : (s.view ev.pid).tracked (fdArg ev 0) with
      | false =>
          rw [if_pos (.inr (.inr rfl)), if_neg Bool.false_ne_true]
          exact (updates_ignored : s.Updates proc ev .ignored s)
      | true =>
          have goes : ¬ (ev.argCount.toNat < 2 ∨ ev.ret < 0 ∨ true = false) := by
            rintro (h | h | h)
            · exact few h
            · exact failed h
            · cases h
          obtain ⟨hpaths, hview⟩ := view_copyFDPath s ev.pid
            (fdArg ev 0) ev.ret.toUInt64
          rw [if_neg goes, if_neg isDup, if_pos rfl, view_trackFD, hview, Function.update_self,
            Function.update_idem]
          exact ⟨hpaths, rfl⟩
    · have notDup : (ev.args.get 1).toInt64 ≠ Unix.fDupfd ∧
          (ev.args.get 1).toInt64 ≠ Unix.fDupfdCloexec := by
        simpa only [List.mem_cons, List.not_mem_nil, or_false, not_or] using dups
      rw [if_neg fun all => dups all.2.2, if_pos notDup, ite_self]
      exact updates_ignored
  · have untracked : s.argTracked ev 0 = false := by
      rw [argTracked_eq, Bool.eq_false_iff.mpr isFD, Bool.false_and]
    rw [if_neg fun all => isFD all.2.1, if_pos (.inr (.inr untracked))]
    exact updates_ignored

theorem observeClose_updates :
    s.Updates proc ev
      (if ev.ret < 0 ∨ ev.argCount.toNat < 1 then .ignored
        else .closed (fdArg ev 0))
      (s.observeClose ev) := by
  unfold observeClose
  split
  next => exact updates_ignored
  next =>
    unfold Updates View.apply
    dsimp only
    rw [view_unsetFDPath, view_untrackFD, Function.update_self, Function.update_idem]
    exact ⟨by simp, rfl⟩

/-- `chdir`: without a resolved destination the old directory stays. -/
theorem observeChdir_updates :
    s.Updates proc ev (if ev.ret < 0 then .ignored else .changedDir)
      (s.observeChdir proc ev) := by
  unfold observeChdir
  split
  next => exact updates_ignored
  next =>
    refine updates_resolved .changedDir 0
      (fun s path => s.assign ev.pid fun state => { state with cwd := path.val })
      (fun v path => { v with cwd := path.val }) (fun _ => rfl) ?_
    intro s' path hpaths
    exact ⟨hpaths, view_setCwd path⟩

theorem observeFchdir_updates :
    s.Updates proc ev
      (if ev.ret < 0 ∨ ev.argCount.toNat < 1 then .ignored
        else .changedDirTo (fdArg ev 0))
      (s.observeFchdir ev) := by
  unfold observeFchdir
  split
  next => exact updates_ignored
  next =>
    unfold Updates View.apply
    dsimp only
    rw [fdPath_eq]
    cases (s.view ev.pid).fdPath (fdArg ev 0) with
    | none => exact (updates_ignored : s.Updates proc ev .ignored s)
    | some path => exact ⟨rfl, view_setCwd path⟩

/-- The renaming syscalls: both paths have to be resolved, the old one first. -/
theorem observeRename_updates (i j : Fin 6) :
    s.Updates proc ev (if ev.ret < 0 then .ignored else .renamed i j)
      (s.observeRename proc ev i j) := by
  unfold observeRename
  split
  next => exact updates_ignored
  next =>
    refine updates_resolved (.renamed i j) i
      (fun s oldPath =>
        match (s.resolvePathAt (proc (.observe j)) ev j).2 with
        | none => (s.resolvePathAt (proc (.observe j)) ev j).1
        | some newPath =>
            (s.resolvePathAt (proc (.observe j)) ev j).1.rewritePIDPaths ev.pid oldPath newPath)
      (fun v oldPath =>
        match (v.ask (proc (.observe j) ev.pid) (pathArg ev j)).resolve (pathArg ev j) with
        | none => v.ask (proc (.observe j) ev.pid) (pathArg ev j)
        | some newPath =>
            (v.ask (proc (.observe j) ev.pid) (pathArg ev j)).rewrite s.paths oldPath newPath)
      (fun _ => rfl) ?_
    -- Resolving the second path and renaming are what is done with the first.
    intro s' oldPath hpaths
    obtain ⟨hpaths', hview', hpath⟩ :=
      view_resolvePathAt (s := s') (proc (.observe j)) ev j
    rw [hpath]
    cases ((s'.view ev.pid).ask (proc (.observe j) ev.pid) (pathArg ev j)).resolve
        (pathArg ev j) with
    | none => exact ⟨hpaths'.trans hpaths, hview'⟩
    | some newPath =>
        obtain ⟨hpaths'', hview''⟩ :=
          view_rewritePIDPaths (s'.resolvePathAt (proc (.observe j)) ev j).1 ev.pid oldPath newPath
        refine ⟨hpaths''.trans (hpaths'.trans hpaths), hview''.trans ?_⟩
        rw [hview', Function.update_self, Function.update_idem, hpaths', hpaths]

theorem observeUnlink_updates (i : Fin 6) :
    s.Updates proc ev (if ev.ret < 0 then .ignored else .unlinked i)
      (s.observeUnlink proc ev i) := by
  unfold observeUnlink
  split
  next => exact updates_ignored
  next =>
    refine updates_resolved (.unlinked i) i
      (fun s path => s.dropPIDPaths ev.pid path) (fun v path => v.forget path)
      (fun _ => rfl) ?_
    intro s' path hpaths
    obtain ⟨hpaths', hview'⟩ := view_dropPIDPaths s' ev.pid path
    exact ⟨hpaths'.trans hpaths, hview'⟩

/-- A branch of the code is a branch of the observation, which is how the dispatch on the syscall is
taken apart. -/
theorem Updates.ite {p : Prop} [Decidable p] {o o' : Observation} {s₁ s₂ : PathStates}
    (hpos : p → s.Updates proc ev o s₁) (hneg : ¬ p → s.Updates proc ev o' s₂) :
    s.Updates proc ev (if p then o else o') (if p then s₁ else s₂) := by
  split
  next h => exact hpos h
  next h => exact hneg h

/-- The `switch` makes the observation of the event. -/
theorem observeSyscall_updates (s : PathStates) (proc : ProcCwd) (ev : Event) :
    s.Updates proc ev (observation ev) (s.observeSyscall proc ev) := by
  unfold observeSyscall observation
  apply Updates.ite (fun _ => observeOpen_updates 0) fun _ => ?_
  apply Updates.ite (fun _ => observeOpen_updates 1) fun _ => ?_
  apply Updates.ite (fun _ => observeOpen_updates 1) fun _ => ?_
  apply Updates.ite (fun _ => observeDupRet_updates) fun _ => ?_
  apply Updates.ite (fun _ => observeDupPair_updates) fun _ => ?_
  apply Updates.ite (fun _ => observeFcntl_updates) fun _ => ?_
  apply Updates.ite (fun _ => observeClose_updates) fun _ => ?_
  apply Updates.ite (fun _ => observeChdir_updates) fun _ => ?_
  apply Updates.ite (fun _ => observeFchdir_updates) fun _ => ?_
  apply Updates.ite (fun _ => observeRename_updates 0 1) fun _ => ?_
  apply Updates.ite (fun _ => observeRename_updates 1 3) fun _ => ?_
  apply Updates.ite (fun _ => observeUnlink_updates 0) fun _ => ?_
  apply Updates.ite (fun _ => observeUnlink_updates 1) fun _ => ?_
  exact updates_ignored

/-- A clone copies the view of the parent, and an empty view deletes that of the child. -/
theorem view_observeProcessClone (s : PathStates) (ev : Event) :
    (s.observeProcessClone ev).paths = s.paths ∧
      (s.observeProcessClone ev).view = forkViews s.view ev := by
  unfold observeProcessClone forkViews
  cases processCloneChildPID ev with
  | none => exact ⟨rfl, rfl⟩
  | some childPID => exact ⟨observeForkChild_paths _ _, view_observeForkChild _ _⟩

/-- **An observation is a fork, and then an update of one view.** The handlers are gone through here
for the last time; from now on an event is what `observation` says. -/
theorem view_observe (s : PathStates) (proc : ProcCwd) (ev : Event) :
    (s.observe proc ev).paths = s.paths ∧
      (s.observe proc ev).view = Function.update (forkViews s.view ev) ev.pid
        ((s.view ev.pid).observe s.paths (fun site => proc site ev.pid) ev) := by
  obtain ⟨hpaths, hview⟩ := view_observeProcessClone s ev
  obtain ⟨hpaths', hview'⟩ :=
    observeSyscall_updates (s.observeProcessClone ev) proc ev
  refine ⟨hpaths'.trans hpaths, hview'.trans ?_⟩
  rw [hview, hpaths, forkViews_self]
  rfl

end

end PathStates

namespace PathFilter

variable {f : PathFilter} {proc : ProcCwd} {ev : Event}

/-- A decision changes at most the working directory, and is that of the view. -/
theorem view_shouldPrint (f : PathFilter) (proc : ProcCwd) (ev : Event) :
    (f.shouldPrint proc ev).1.paths = f.paths ∧
      (f.shouldPrint proc ev).1.view = Function.update f.view ev.pid
        ((f.view ev.pid).print f.paths (fun site => proc site ev.pid)
          (f.userAllows ev.syscallId) ev).1 ∧
      (f.shouldPrint proc ev).2 =
        ((f.view ev.pid).print f.paths (fun site => proc site ev.pid)
          (f.userAllows ev.syscallId) ev).2 := by
  obtain ⟨hpaths, hview, hmatch⟩ := f.matchesPath_matchesView proc ev
  unfold shouldPrint View.print
  cases f.userAllows ev.syscallId with
  | false => exact ⟨rfl, (Function.update_eq_self ev.pid f.view).symm, rfl⟩
  | true =>
      rw [if_neg Bool.false_ne_true.symm, if_neg Bool.false_ne_true.symm]
      dsimp only
      rw [hmatch, PathStates.hasTrackedFDArg_eq, hview, Function.update_self]
      split
      next found => exact ⟨hpaths, hview, hmatch⟩
      next notFound => exact ⟨hpaths, hview, rfl⟩

/-! ## The refinement -/

/-- Without traced paths every event is printed and nothing is kept. -/
theorem shouldOutput_of_off (proc : ProcCwd) (ev : Event) (off : f.pathFilterMode = false) :
    f.shouldOutput proc ev = (f, true) :=
  if_pos off

/-- Without traced paths the filter keeps nothing. -/
theorem next_of_off (off : f.pathFilterMode = false) (a : Arrival) : f.next a = f :=
  congrArg Prod.fst (shouldOutput_of_off a.proc a.ev off)

theorem decision_of_off (off : f.pathFilterMode = false) (a : Arrival) : f.decision a = true :=
  congrArg Prod.snd (shouldOutput_of_off a.proc a.ev off)

/-- The decision on an event is the decision of the view of its process. -/
theorem shouldOutput_decision (on : f.pathFilterMode = true) :
    (f.shouldOutput proc ev).2 =
      ((f.view ev.pid).print f.paths (fun site => proc site ev.pid)
        (f.userAllows ev.syscallId) ev).2 := by
  have hmode : ¬ f.pathFilterMode = false := by rw [on]; exact Bool.false_ne_true.symm
  rw [shouldOutput, if_neg hmode]
  exact (view_shouldPrint f proc ev).2.2

/-- The views after an event: the process has made the reads of the decision,
the child is forked, and the observation is made. -/
theorem shouldOutput_view (on : f.pathFilterMode = true) :
    (f.shouldOutput proc ev).1.view =
      let answers := fun site => proc site ev.pid
      let v := ((f.view ev.pid).print f.paths answers (f.userAllows ev.syscallId) ev).1
      Function.update (forkViews (Function.update f.view ev.pid v) ev) ev.pid
        (v.observe f.paths answers ev) := by
  have hmode : ¬ f.pathFilterMode = false := by rw [on]; exact Bool.false_ne_true.symm
  obtain ⟨hpaths, hview, -⟩ := view_shouldPrint f proc ev
  obtain ⟨-, hview'⟩ :=
    PathStates.view_observe (f.shouldPrint proc ev).1 proc ev
  rw [shouldOutput, if_neg hmode]
  refine hview'.trans ?_
  rw [hview, hpaths, Function.update_self]

/-- The traced paths and the selector stay as they are. -/
theorem shouldOutput_fixed (f : PathFilter) (proc : ProcCwd) (ev : Event) :
    (f.shouldOutput proc ev).1.paths = f.paths ∧
      (f.shouldOutput proc ev).1.userTraceIDs = f.userTraceIDs ∧
      (f.shouldOutput proc ev).1.userTraceAll = f.userTraceAll ∧
      (f.shouldOutput proc ev).1.pathFilterMode = f.pathFilterMode := by
  unfold shouldOutput
  split
  · exact ⟨rfl, rfl, rfl, rfl⟩
  · refine ⟨?_, rfl, rfl, rfl⟩
    exact (PathStates.view_observe _ proc ev).1.trans (view_shouldPrint f proc ev).1

theorem paths_next (f : PathFilter) (a : Arrival) : (f.next a).paths = f.paths :=
  (shouldOutput_fixed f a.proc a.ev).1

theorem pathFilterMode_next (f : PathFilter) (a : Arrival) :
    (f.next a).pathFilterMode = f.pathFilterMode :=
  (shouldOutput_fixed f a.proc a.ev).2.2.2

/-- The selector is what it was after an arrival. -/
theorem userAllows_next (f : PathFilter) (a : Arrival) (id : Int64) :
    (f.next a).userAllows id = f.userAllows id := by
  obtain ⟨-, ids, traceAll, -⟩ := shouldOutput_fixed f a.proc a.ev
  rw [userAllows, userAllows, next, ids, traceAll]

/-- When the reads do not matter, the decision is a function of the view. -/
theorem decision_of_settled (on : f.pathFilterMode = true) {a : Arrival}
    (settled : (f.view a.ev.pid).Settled fun site => a.proc site a.ev.pid) :
    f.decision a = (f.userAllows a.ev.syscallId &&
      ((f.view a.ev.pid).print f.paths (fun _ => none) true a.ev).2) := by
  rw [decision, shouldOutput_decision on, View.print_of_settled settled,
    View.print_of_settled (.inr fun _ => rfl), Bool.true_and]

/-- Then deciding leaves the views alone. -/
theorem next_view_of_settled (on : f.pathFilterMode = true) {a : Arrival}
    (settled : (f.view a.ev.pid).Settled fun site => a.proc site a.ev.pid) :
    (f.next a).view = Function.update (forkViews f.view a.ev) a.ev.pid
      ((f.view a.ev.pid).observe f.paths (fun _ => none) a.ev) := by
  rw [next, shouldOutput_view on]
  dsimp only
  rw [View.print_of_settled settled, View.observe_of_settled settled, Function.update_eq_self]

end PathFilter

end Litrace.Trace
