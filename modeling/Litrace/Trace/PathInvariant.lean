import Litrace.Trace.NormalForm
import Litrace.Trace.PathRefinement
import Litrace.Lib.Transition

/-!
# What the path filter keeps in order

`trackedFDs` is a cache: a descriptor is tracked when its recorded path is traced.
The operations on views keep the cache and the recorded paths in agreement, and what
they record absolute and clean (`View.WellKept`).  Where an operation tracks a
descriptor by hand, as duplicating does, that is a second time.

`state_invariant` carries this over to the stored states, with their normal form, for all
runs from `newPathFilter`.  The agreement alone (`View.Synced`) asks nothing of `/proc`, and
every state the filter can reach has it.

The proofs are on views, where each operation is a short function, and go one operation at a
time.  The stored states get the invariant by the refinement, so no loop over a map is
looked at again.
-/

namespace Litrace.Trace

open Filepath Transition

/-! ## Absolute paths -/

/-- A read of `/proc` gives an absolute path. -/
def Absolute (answers : ReadSite → Option GoString) : Prop :=
  ∀ site cwd, answers site = some cwd → isAbs cwd = true

/-- An absolute path of an event is cleaned when it is resolved. -/
theorem absClean_pathArg {ev : Event} {i : Fin 6} {path : Path}
    (h : pathArg ev i = .absolute path) : AbsClean path.val := by
  unfold pathArg at h
  split at h
  · cases h
  · next raw _ =>
      split at h
      · cases h
      · split at h
        next abs =>
          cases h
          exact absClean_clean abs
        next =>
          split at h
          · cases h
          · cases h
          · split at h
            · cases h
            · split at h
              · cases h
              · cases h

/-- A renamed path lies below the new one. -/
theorem absClean_rewritePathPrefix {path oldBase newBase : GoString}
    (habs : isAbs newBase = true) (changed : (rewritePathPrefix path oldBase newBase).2 = true) :
    AbsClean (rewritePathPrefix path oldBase newBase).1.val := by
  unfold rewritePathPrefix at changed ⊢
  dsimp only at changed ⊢
  split at changed
  next same =>
    rw [if_pos same]
    exact absClean_clean habs
  next differs =>
    rw [if_neg differs]
    split at changed
    next => cases changed
    next below =>
      rw [if_neg below]
      exact absClean_join (isAbs_clean habs) _

/-! ## Views -/

namespace View

/-- The tracked descriptors are those whose path is traced. -/
def Synced (paths : Finset GoString) (v : View) : Prop :=
  ∀ fd, v.tracked fd = (v.fdPath fd).any fun path => decide (path.val ∈ paths)

/-- The tracked descriptors are those whose path is traced, and all that is
recorded is absolute and clean. -/
structure WellKept (paths : Finset GoString) (v : View) : Prop where
  tracked : ∀ fd, v.tracked fd = (v.fdPath fd).any fun path => decide (path.val ∈ paths)
  cwd : v.cwd ≠ [] → AbsClean v.cwd
  fdPath : ∀ fd path, v.fdPath fd = some path → AbsClean path.val

section

variable {paths : Finset GoString} {v : View} {fd src : UInt64}
  {answers : ReadSite → Option GoString}

/-! ### Tracking -/

/-- Where nothing is known the cache and the paths agree. -/
theorem synced_blank : blank.Synced paths := fun _ => rfl

/-- The working directory does not matter. -/
theorem Synced.setCwd (synced : v.Synced paths) (cwd : GoString) :
    { v with cwd := cwd }.Synced paths :=
  synced

/-- Recording sets the path and the cache together. -/
theorem Synced.record (synced : v.Synced paths) (path : Path) :
    (v.record paths fd path).Synced paths := by
  intro fd'
  rw [tracked_record, fdPath_record]
  split
  · rfl
  · exact synced fd'

theorem Synced.unset (synced : v.Synced paths) :
    ((v.track fd false).bind fd none).Synced paths := by
  intro fd'
  rw [tracked_bind, tracked_track, fdPath_bind, fdPath_track]
  split
  · rfl
  · exact synced fd'

theorem Synced.ask (synced : v.Synced paths) (answer : Option GoString) (arg : PathArg) :
    (v.ask answer arg).Synced paths := by
  rw [ask_eq]
  exact synced.setCwd _

theorem Synced.print (synced : v.Synced paths) (allowed : Bool) (ev : Event) :
    (v.print paths answers allowed ev).1.Synced paths := by
  rw [print_eq]
  exact synced.setCwd _

/-- Duplicating copies the path and computes the cache anew. -/
theorem Synced.copyPath (synced : v.Synced paths) : (v.copyPath paths src fd).Synced paths := by
  unfold View.copyPath
  split
  · exact synced
  · next path _ => exact synced.record path

/-- A copy of a tracked descriptor is tracked with its path. -/
theorem Synced.tracked_copyPath (synced : v.Synced paths) (h : v.tracked src = true) :
    (v.copyPath paths src fd).tracked fd = true := by
  rw [synced] at h
  unfold View.copyPath
  cases hpath : v.fdPath src with
  | none =>
      rw [hpath] at h
      cases h
  | some path =>
      rw [hpath, Option.any_some] at h
      dsimp only
      rw [tracked_record, if_pos rfl, h]

/-- Copying does not track the source. -/
theorem Synced.tracked_of_copyPath (synced : v.Synced paths)
    (h : (v.copyPath paths src fd).tracked src = true) : v.tracked src = true := by
  unfold View.copyPath at h
  cases hpath : v.fdPath src with
  | none =>
      rw [hpath] at h
      exact h
  | some path =>
      rw [hpath] at h
      dsimp only at h
      rw [tracked_record] at h
      split at h
      · rw [synced, hpath, Option.any_some, h]
      · exact h

/-- The copy of a `dup` is tracked with its path already. -/
theorem Synced.apply_duplicated (synced : v.Synced paths) (ev : Event) (isFD : Bool) :
    v.apply paths answers ev (.duplicated src fd isFD) = v.copyPath paths src fd := by
  unfold View.apply
  dsimp only
  split
  next both =>
    rw [Bool.and_eq_true] at both
    exact track_eq_self (synced.tracked_copyPath (synced.tracked_of_copyPath both.2))
  next => rfl

/-- So is that of a `fcntl`. -/
theorem Synced.apply_duplicatedTracked (synced : v.Synced paths) (ev : Event) :
    v.apply paths answers ev (.duplicatedTracked src fd) =
      if v.tracked src then v.copyPath paths src fd else v := by
  unfold View.apply
  dsimp only
  split
  next tracked => exact track_eq_self (synced.tracked_copyPath tracked)
  next => rfl

/-- After a `dup2` both descriptors have the same path, or none. -/
theorem Synced.apply_duplicatedOnto (synced : v.Synced paths) (ev : Event) :
    v.apply paths answers ev (.duplicatedOnto src fd) =
      match v.fdPath src with
      | some path => v.record paths fd path
      | none => (v.track fd false).bind fd none := by
  have old := synced src
  unfold View.apply
  dsimp only
  cases hpath : v.fdPath src with
  | none =>
      rw [hpath, Option.any_none] at old
      dsimp only
      rw [track_eq_self]
      · rfl
      · by_cases same : src = fd
        · rw [same]
        · rw [tracked_track, if_pos rfl, tracked_track, if_neg same, tracked_bind, old]
  | some path =>
      rw [hpath, Option.any_some] at old
      dsimp only
      rw [track_eq_self]
      by_cases same : src = fd
      · rw [same]
      · rw [tracked_record, if_pos rfl, tracked_record, if_neg same, old]

/-- After a renaming the cache is computed anew for each path that has moved. -/
theorem Synced.rewrite (synced : v.Synced paths) (oldPath newPath : Path) :
    (v.rewrite paths oldPath newPath).Synced paths := by
  intro fd
  have own := synced fd
  unfold View.rewrite
  dsimp only
  cases hpath : v.fdPath fd with
  | none =>
      rw [hpath] at own
      exact own
  | some path =>
      rw [hpath] at own
      dsimp only
      rw [Option.map_some, Option.any_some]
      split
      · rfl
      · exact own

theorem Synced.forget (synced : v.Synced paths) (target : Path) :
    (v.forget target).Synced paths := by
  intro fd
  unfold View.forget
  dsimp only
  split
  · rfl
  · exact synced fd

/-- Each observation keeps the agreement, whatever `/proc` says. -/
theorem Synced.observe (synced : v.Synced paths) (ev : Event) :
    (v.observe paths answers ev).Synced paths := by
  have asked := fun i => synced.ask (answers (.observe i)) (pathArg ev i)
  unfold View.observe
  cases observation ev with
  | ignored => exact synced
  | opened i fd =>
      unfold View.apply
      dsimp only
      split
      · exact asked i
      · next path _ => exact (asked i).record path
  | duplicated src fd isFD =>
      rw [synced.apply_duplicated]
      exact synced.copyPath
  | duplicatedOnto oldfd newfd =>
      rw [synced.apply_duplicatedOnto]
      split
      · next path _ => exact synced.record path
      · exact synced.unset
  | duplicatedTracked src fd =>
      rw [synced.apply_duplicatedTracked]
      split
      · exact synced.copyPath
      · exact synced
  | closed fd => exact synced.unset
  | changedDir =>
      unfold View.apply
      dsimp only
      split
      · exact asked 0
      · exact (asked 0).setCwd _
  | changedDirTo fd =>
      unfold View.apply
      dsimp only
      split
      · exact synced
      · exact synced.setCwd _
  | renamed i j =>
      unfold View.apply
      dsimp only
      split
      · exact asked i
      · have asked' := (asked i).ask (answers (.observe j)) (pathArg ev j)
        split
        · exact asked'
        · exact asked'.rewrite _ _
  | unlinked i =>
      unfold View.apply
      dsimp only
      split
      · exact asked i
      · exact (asked i).forget _

/-! ### Absolute paths -/

theorem WellKept.synced (kept : v.WellKept paths) : v.Synced paths := kept.tracked

theorem wellKept_blank : blank.WellKept paths where
  tracked := synced_blank
  cwd known := absurd rfl known
  fdPath fd path h := by cases h

theorem WellKept.setCwd (kept : v.WellKept paths) {cwd : GoString} (h : AbsClean cwd) :
    { v with cwd := cwd }.WellKept paths :=
  ⟨kept.tracked, fun _ => h, kept.fdPath⟩

theorem WellKept.record (kept : v.WellKept paths) {path : Path} (h : AbsClean path.val) :
    (v.record paths fd path).WellKept paths where
  tracked := kept.synced.record path
  cwd := kept.cwd
  fdPath fd' path' h' := by
    rw [fdPath_record] at h'
    split at h'
    · cases h'
      exact h
    · exact kept.fdPath fd' path' h'

theorem WellKept.unset (kept : v.WellKept paths) :
    ((v.track fd false).bind fd none).WellKept paths where
  tracked := kept.synced.unset
  cwd := kept.cwd
  fdPath fd' path' h' := by
    rw [fdPath_bind, fdPath_track] at h'
    split at h'
    · cases h'
    · exact kept.fdPath fd' path' h'

/-! ### Resolving and matching -/

/-- A directory that is read from `/proc` is cleaned before it is kept, and absolute by what is
promised of the answer. -/
theorem WellKept.ask (kept : v.WellKept paths) (absolute : Absolute answers)
    (site : ReadSite) (arg : PathArg) : (v.ask (answers site) arg).WellKept paths := by
  cases arg with
  | unreadable => exact kept
  | absolute path => exact kept
  | fromFD fd path => exact kept
  | fromCwd path =>
      show (v.learn (answers site)).WellKept paths
      unfold learn
      split
      · exact kept
      · split
        · exact kept
        · next cwd hread => exact kept.setCwd (absClean_clean (absolute site cwd hread))

theorem WellKept.cwdPath (kept : v.WellKept paths) {base : Path} (h : v.cwdPath = some base) :
    AbsClean base.val := by
  unfold View.cwdPath at h
  split at h
  · cases h
  · next b cwd hcwd =>
      cases h
      show AbsClean (b :: cwd)
      rw [← hcwd]
      exact kept.cwd (by rw [hcwd]; exact List.cons_ne_nil b cwd)

/-- Whatever an argument resolves to is absolute and clean. -/
theorem WellKept.resolve (kept : v.WellKept paths) {ev : Event} {i : Fin 6} {path : Path}
    (h : v.resolve (pathArg ev i) = some path) : AbsClean path.val := by
  -- Joining below an absolute path gives one, whatever the rest of it is.
  have below : ∀ {base : Option Path} {rest : GoString},
      (∀ b, base = some b → AbsClean b.val) →
      (base.map fun b => cleanPath (join b.val rest)) = some path → AbsClean path.val := by
    intro base rest hbase hpath
    obtain ⟨b, hb, rfl⟩ := Option.map_eq_some_iff.mp hpath
    rw [cleanPath_val]
    exact absClean_clean (absClean_join (hbase b hb).1 rest).1
  cases harg : pathArg ev i with
  | unreadable =>
      rw [harg] at h
      cases h
  | absolute target =>
      rw [harg] at h
      cases h
      exact absClean_pathArg harg
  | fromCwd rest =>
      rw [harg] at h
      exact below (fun b => kept.cwdPath) h
  | fromFD fd rest =>
      rw [harg] at h
      exact below (fun b => kept.fdPath fd b) h

theorem WellKept.matchArgs (kept : v.WellKept paths) (absolute : Absolute answers)
    (ev : Event) (args : List (Fin 6)) :
    (v.matchArgs paths answers ev args).1.WellKept paths := by
  induction args generalizing v with
  | nil => exact kept
  | cons i args ih =>
      have asked := kept.ask absolute (.shouldPrint i) (pathArg ev i)
      unfold View.matchArgs
      dsimp only
      split
      · exact asked
      · exact ih asked

theorem WellKept.print (kept : v.WellKept paths) (absolute : Absolute answers)
    (allowed : Bool) (ev : Event) : (v.print paths answers allowed ev).1.WellKept paths := by
  have matched := kept.matchArgs absolute ev (matchedArgs ev.syscallId)
  unfold View.print
  dsimp only
  split
  · exact kept
  · split
    · exact matched
    · exact matched

/-! ### Duplicating -/

theorem WellKept.copyPath (kept : v.WellKept paths) :
    (v.copyPath paths src fd).WellKept paths := by
  unfold View.copyPath
  split
  · exact kept
  · next path hpath => exact kept.record (kept.fdPath src path hpath)

/-! ### Renaming and unlinking -/

/-- A path that is moved is made of the new path and the rest of the old one. -/
theorem WellKept.rewrite (kept : v.WellKept paths) {oldPath newPath : Path}
    (habs : isAbs newPath.val = true) : (v.rewrite paths oldPath newPath).WellKept paths where
  tracked := kept.synced.rewrite oldPath newPath
  cwd known := by
    unfold View.rewrite at known ⊢
    dsimp only at known ⊢
    split
    next changed => exact absClean_rewritePathPrefix habs changed.2
    next same =>
      rw [if_neg same] at known
      exact kept.cwd known
  fdPath fd path h := by
    obtain ⟨before, hbefore, hpath⟩ := Option.map_eq_some_iff.mp h
    dsimp only at hpath
    split at hpath
    next changed =>
      rw [← hpath]
      exact absClean_rewritePathPrefix habs changed
    next =>
      rw [← hpath]
      exact kept.fdPath fd before hbefore

theorem WellKept.forget (kept : v.WellKept paths) (target : Path) :
    (v.forget target).WellKept paths where
  tracked := kept.synced.forget target
  cwd := kept.cwd
  fdPath fd path h := by
    unfold View.forget at h
    dsimp only at h
    split at h
    · cases h
    · exact kept.fdPath fd path h

/-! ### Observing -/

/-- **An observation keeps the view well**, one case for each kind of handler. -/
theorem WellKept.observe (kept : v.WellKept paths) (absolute : Absolute answers) (ev : Event) :
    (v.observe paths answers ev).WellKept paths := by
  have asked := fun i => kept.ask absolute (.observe i) (pathArg ev i)
  unfold View.observe
  cases observation ev with
  | ignored => exact kept
  | opened i fd =>
      unfold View.apply
      dsimp only
      split
      · exact asked i
      · next path hpath => exact (asked i).record ((asked i).resolve hpath)
  | duplicated src fd isFD =>
      rw [kept.synced.apply_duplicated]
      exact kept.copyPath
  | duplicatedOnto oldfd newfd =>
      rw [kept.synced.apply_duplicatedOnto]
      split
      · next path hpath => exact kept.record (kept.fdPath oldfd path hpath)
      · exact kept.unset
  | duplicatedTracked src fd =>
      rw [kept.synced.apply_duplicatedTracked]
      split
      · exact kept.copyPath
      · exact kept
  | closed fd => exact kept.unset
  | changedDir =>
      unfold View.apply
      dsimp only
      split
      · exact asked 0
      · next path hpath => exact (asked 0).setCwd ((asked 0).resolve hpath)
  | changedDirTo fd =>
      unfold View.apply
      dsimp only
      split
      · exact kept
      · next path hpath => exact kept.setCwd (kept.fdPath fd path hpath)
  | renamed i j =>
      unfold View.apply
      dsimp only
      split
      · exact asked i
      · have asked' := (asked i).ask absolute (.observe j) (pathArg ev j)
        split
        · exact asked'
        · next newPath hnew => exact asked'.rewrite (asked'.resolve hnew).1
  | unlinked i =>
      unfold View.apply
      dsimp only
      split
      · exact asked i
      · next path _ => exact (asked i).forget path

end

end View

/-! ## Runs -/

/-- Every read of `/proc` at an arrival that succeeds gives an absolute path. -/
def Arrival.Absolute (a : Arrival) : Prop :=
  ∀ site pid cwd, a.proc site pid = some cwd → isAbs cwd = true

/-- All views are well kept, and all states normal. -/
structure PathFilter.Ordered (cfg : Config) (f : PathFilter) : Prop where
  paths : f.paths = cfg.tracePaths.toFinset
  views : ∀ pid, (f.view pid).WellKept cfg.tracePaths.toFinset
  normal : f.Normal

theorem ordered_newPathFilter (cfg : Config) : (newPathFilter cfg).Ordered cfg where
  paths := rfl
  views pid := by
    show (viewOf none).WellKept _
    rw [viewOf_none]
    exact View.wellKept_blank
  normal pid state h := by cases h

/-- What holds of all views holds once one of them is replaced by a view it holds of. -/
theorem forall_update {P : View → Prop} {views : UInt32 → View} {pid : UInt32} {v : View}
    (all : ∀ q, P (views q)) (own : P v) : ∀ q, P (Function.update views pid v q) :=
  (Function.forall_update_iff views fun _ => P).mpr ⟨own, fun q _ => all q⟩

/-- What holds of all views holds of them behind a clone, since a clone makes no new view. -/
theorem forall_forkViews {P : View → Prop} {views : UInt32 → View} (all : ∀ q, P (views q))
    (ev : Event) : ∀ q, P (forkViews views ev q) := by
  unfold forkViews
  cases processCloneChildPID ev with
  | none => exact all
  | some childPID => exact forall_update all (all ev.pid)

/-- One arrival: the decision makes its reads, the child copies a well kept view,
and the observation is made. -/
theorem PathFilter.Ordered.next {cfg : Config} {f : PathFilter} {a : Arrival}
    (ordered : f.Ordered cfg) (absolute : a.Absolute) : (f.next a).Ordered cfg := by
  obtain ⟨paths, -, -, -⟩ := shouldOutput_fixed f a.proc a.ev
  refine ⟨paths.trans ordered.paths, ?_, normal_next ordered.normal a⟩
  cases mode : f.pathFilterMode with
  | false =>
      rw [next_of_off mode]
      exact ordered.views
  | true =>
      have answers : Absolute fun site => a.proc site a.ev.pid :=
        fun site cwd => absolute site a.ev.pid cwd
      have printed := (ordered.views a.ev.pid).print answers (f.userAllows a.ev.syscallId) a.ev
      rw [PathFilter.next, shouldOutput_view mode, ordered.paths]
      -- The decision, the fork and the observation each keep all views in order.
      refine forall_update (forall_forkViews ?_ a.ev) (printed.observe answers a.ev)
      exact forall_update ordered.views printed

/-- By induction on the arrivals, from one step of each method. -/
theorem ordered_run {cfg : Config} {f : PathFilter} {as : List Arrival}
    (ordered : f.Ordered cfg) (absolute : ∀ a ∈ as, a.Absolute) :
    (run PathFilter.next f as).Ordered cfg :=
  AllSteps.invariant_run (Q := fun _ a => a.Absolute) (fun _ _ before now => before.next now)
    ordered (allSteps_const.mpr absolute)

/-! ## Consistent states -/

/-- A stored value that is not the default is determined by what is read. -/
theorem option_eq_of_getD {α : Type*} {default : α} {o o' : Option α} (h : o ≠ some default)
    (h' : o' ≠ some default) (same : o.getD default = o'.getD default) : o = o' := by
  cases o with
  | none =>
      cases o' with
      | none => rfl
      | some x' => exact absurd (congrArg some same.symm) h'
  | some x =>
      cases o' with
      | none => exact absurd (congrArg some same) h
      | some x' => exact congrArg some same

/-- No map in a normal entry is empty. -/
theorem maps_ne_empty {e : Option ProcessPathState}
    (he : ∀ state, e = some state → state.Normal) :
    e.bind ProcessPathState.trackedFDs ≠ some ∅ ∧ e.bind ProcessPathState.fdPaths ≠ some ∅ := by
  cases e with
  | none => exact ⟨nofun, nofun⟩
  | some state =>
      have normal := he state rfl
      refine ⟨normal.trackedFDs, fun h => ?_⟩
      have pos := normal.fdPaths ∅ h
      rw [GoMap.len_eq_zero_iff.mpr GoMap.get_empty] at pos
      exact absurd pos (lt_irrefl 0)

/-- Two normal entries with the same view are the same. -/
theorem entry_eq_of_view {e e' : Option ProcessPathState}
    (he : ∀ state, e = some state → state.Normal) (he' : ∀ state, e' = some state → state.Normal)
    (same : viewOf e = viewOf e') : e = e' := by
  have cwd : (e.map ProcessPathState.cwd).getD [] = (e'.map ProcessPathState.cwd).getD [] :=
    congrArg View.cwd same
  have tracked : e.bind ProcessPathState.trackedFDs = e'.bind ProcessPathState.trackedFDs := by
    refine option_eq_of_getD (maps_ne_empty he).1 (maps_ne_empty he').1 ?_
    ext fd
    exact decide_eq_decide.mp (congrFun (congrArg View.tracked same) fd)
  have fdPaths : e.bind ProcessPathState.fdPaths = e'.bind ProcessPathState.fdPaths := by
    refine option_eq_of_getD (maps_ne_empty he).2 (maps_ne_empty he').2 ?_
    exact GoMap.ext_get fun fd => congrFun (congrArg View.fdPath same) fd
  cases e with
  | none =>
      cases e' with
      | none => rfl
      -- A normal entry has something in it.
      | some state' =>
          rcases (he' state' rfl).used with h | h | h
          · exact absurd cwd.symm h
          · exact absurd tracked.symm h
          · exact absurd fdPaths.symm h
  | some state =>
      cases e' with
      | none =>
          rcases (he state rfl).used with h | h | h
          · exact absurd cwd h
          · exact absurd tracked h
          · exact absurd fdPaths h
      | some state' =>
          obtain ⟨stateCwd, fds, map⟩ := state
          obtain ⟨stateCwd', fds', map'⟩ := state'
          simp only [Option.map_some, Option.getD_some, Option.bind_some] at cwd tracked fdPaths
          rw [cwd, tracked, fdPaths]

/-- What holds of the state between any two operations of the filter: the tracked
descriptors are those whose path is traced, and the entries are normal. -/
structure PathStates.Consistent (s : PathStates) : Prop where
  synced : ∀ pid, (s.view pid).Synced s.paths
  normal : s.Normal

/-- Consistent states are determined by their views. -/
theorem PathStates.Consistent.ext {s t : PathStates} (hs : s.Consistent) (ht : t.Consistent)
    (paths : s.paths = t.paths) (view : s.view = t.view) : s = t := by
  have states : s.stateByPID = t.stateByPID := by
    funext pid
    exact entry_eq_of_view (hs.normal pid) (ht.normal pid) (congrFun view pid)
  cases s
  cases t
  cases paths
  cases states
  rfl

theorem PathStates.Consistent.observe {s : PathStates} (hs : s.Consistent) (proc : ProcCwd)
    (ev : Event) : (s.observe proc ev).Consistent := by
  obtain ⟨paths, view⟩ := s.view_observe proc ev
  refine ⟨?_, hs.normal.observe⟩
  rw [paths, view]
  exact forall_update (forall_forkViews hs.synced ev) ((hs.synced ev.pid).observe ev)

theorem PathFilter.consistent_shouldPrint {f : PathFilter} (hf : f.Consistent) (proc : ProcCwd)
    (ev : Event) : (f.shouldPrint proc ev).1.Consistent := by
  obtain ⟨paths, view, -⟩ := f.view_shouldPrint proc ev
  refine ⟨?_, normal_shouldPrint hf.normal proc ev⟩
  rw [paths, view]
  exact forall_update hf.synced ((hf.synced ev.pid).print _ ev)

theorem PathFilter.consistent_newPathFilter (cfg : Config) : (newPathFilter cfg).Consistent where
  synced pid := by
    show (viewOf none).Synced _
    rw [viewOf_none]
    exact View.synced_blank
  normal pid state h := by cases h

theorem PathFilter.consistent_next {f : PathFilter} (hf : f.Consistent) (a : Arrival) :
    (f.next a).Consistent := by
  unfold next shouldOutput
  split
  · exact hf
  · exact (consistent_shouldPrint hf a.proc a.ev).observe a.proc a.ev

/-- Some arrivals lead to the filter state. -/
def PathFilter.Reachable (f : PathFilter) : Prop :=
  ∃ cfg as, f = run PathFilter.next (newPathFilter cfg) as

/-- States that are reached have the agreement and the normal form, with nothing assumed of
`/proc`. -/
theorem PathFilter.Reachable.consistent {f : PathFilter} (hf : f.Reachable) : f.Consistent := by
  obtain ⟨cfg, as, rfl⟩ := hf
  exact AllSteps.invariant_run (I := fun f : PathFilter => f.Consistent) (Q := fun _ _ => True)
    (fun _ a before _ => consistent_next before a) (consistent_newPathFilter cfg)
    (allSteps_const.mpr fun _ _ => trivial)

/-! ## The invariant of the stored states -/

/-- What the views say of the entry of a process. -/
theorem PathFilter.Ordered.entry {cfg : Config} {f : PathFilter} (ordered : f.Ordered cfg)
    {pid : UInt32} {state : ProcessPathState} (hstate : f.stateByPID pid = some state) :
    (∀ fd, fd ∈ state.trackedFDs.getD ∅ ↔
        ∃ path, (state.fdPaths.getD ∅).get fd = some path ∧ path.val ∈ cfg.tracePaths) ∧
      (state.cwd ≠ [] → AbsClean state.cwd) ∧
      ∀ fd path, (state.fdPaths.getD ∅).get fd = some path → AbsClean path.val := by
  have kept : (viewOf (some state)).WellKept cfg.tracePaths.toFinset := by
    rw [← hstate]
    exact ordered.views pid
  refine ⟨fun fd => ?_, kept.cwd, kept.fdPath⟩
  rw [← decide_eq_true_iff (p := fd ∈ state.trackedFDs.getD ∅)]
  refine (Eq.congr_left (kept.tracked fd)).trans ?_
  rw [Option.any_eq_true]
  simp [viewOf]

/-- Whether an event has a tracked descriptor is a matter of the recorded paths. -/
theorem PathFilter.Ordered.hasTrackedFDArg {cfg : Config} {f : PathFilter}
    (ordered : f.Ordered cfg) (ev : Event) :
    f.hasTrackedFDArg ev = true ↔
      ∃ i : Fin 6, i.val < ev.argCount.toNat ∧ ev.argTypes.get i = ArgType.fd ∧
        ∃ path, f.fdPath ev.pid (fdArg ev i) = some path ∧ path.val ∈ cfg.tracePaths := by
  rw [PathStates.hasTrackedFDArg_eq, fdArgs, List.any_map, List.any_filter, List.any_eq_true]
  refine exists_congr fun i => ?_
  rw [PathStates.fdPath_eq]
  simp only [List.mem_finRange, true_and, Function.comp_apply, isFDArg, Bool.and_eq_true,
    decide_eq_true_eq, beq_iff_eq, (ordered.views ev.pid).tracked, Option.any_eq_true,
    List.mem_toFinset, and_assoc]

/-- **The state invariant.**  After any events from `newPathFilter`, where reads of
`/proc` give an absolute path or fail: a descriptor is tracked exactly when it has a
recorded path that is traced, all stored paths are absolute and clean, no stored map
and no entry is empty, and `hasTrackedFDArg` answers as the recorded paths say.

The four parts are what the code relies on without a check: a lookup in the cache instead of a
comparison of paths, paths that can be compared as bytes, early returns on nil maps.  `absolute`
is what the system promises of `/proc/<pid>/cwd`. -/
theorem state_invariant (cfg : Config) (as : List Arrival)
    (absolute : ∀ a ∈ as, a.Absolute) :
    let f := run PathFilter.next (newPathFilter cfg) as
    (∀ pid state, f.stateByPID pid = some state →
      (∀ fd, fd ∈ state.trackedFDs.getD ∅ ↔
        ∃ path, (state.fdPaths.getD ∅).get fd = some path ∧ path.val ∈ cfg.tracePaths) ∧
      (state.cwd ≠ [] → AbsClean state.cwd) ∧
      (∀ fd path, (state.fdPaths.getD ∅).get fd = some path → AbsClean path.val) ∧
      state.trackedFDs ≠ some ∅ ∧
      (∀ fdPaths, state.fdPaths = some fdPaths → 0 < fdPaths.len) ∧
      (state.cwd ≠ [] ∨ state.trackedFDs ≠ none ∨ state.fdPaths ≠ none)) ∧
    ∀ ev, f.hasTrackedFDArg ev = true ↔
      ∃ i : Fin 6, i.val < ev.argCount.toNat ∧ ev.argTypes.get i = ArgType.fd ∧
        ∃ path, f.fdPath ev.pid (fdArg ev i) = some path ∧ path.val ∈ cfg.tracePaths := by
  intro f
  have ordered : f.Ordered cfg := ordered_run (ordered_newPathFilter cfg) absolute
  refine ⟨fun pid state hstate => ?_, ordered.hasTrackedFDArg⟩
  have normal := ordered.normal pid state hstate
  obtain ⟨tracked, cwd, fdPaths⟩ := ordered.entry hstate
  exact ⟨tracked, cwd, fdPaths, normal.trackedFDs, normal.fdPaths, normal.used⟩

/-- Process 100 opens `a` below its working directory `/d`, as descriptor 3. -/
def openBelowCwd : List Arrival :=
  [⟨{ Event.zero with
        syscallId := Unix.sysOpen, ret := 3, pid := 100, argCount := 3, varCount := 1
        varDesc := (Vector.replicate 6 .zero).setIfInBounds 0 ⟨0, VarFlag.none, 0, 1, 0⟩
        payload := (Vector.replicate 512 0).setIfInBounds 0 97, payloadLen := 1 },
      fun _ _ => some (GoString.ascii "/d/")⟩]

/-- It closes the descriptor. -/
def closeOf3 : Event :=
  { Event.zero with
    syscallId := Unix.sysClose, pid := 100, argCount := 1
    args := (Vector.replicate 6 0).setIfInBounds 0 3
    argTypes := (Vector.replicate 6 ArgType.uint).setIfInBounds 0 ArgType.fd }

theorem state_invariant_openBelowCwd :
    (run PathFilter.next (newPathFilter ⟨false, ∅, [GoString.ascii "/d/a"]⟩)
      openBelowCwd).hasTrackedFDArg closeOf3 = true := by
  refine ((state_invariant ⟨false, ∅, [GoString.ascii "/d/a"]⟩ openBelowCwd ?_).2 closeOf3).mpr
    ⟨0, by decide, by decide, ⟨GoString.ascii "/d/a", by decide⟩, ?_, List.mem_singleton_self _⟩
  · intro a ha site pid cwd hread
    rw [openBelowCwd, List.mem_singleton] at ha
    subst ha
    cases hread
    decide
  · decide +kernel

end Litrace.Trace
