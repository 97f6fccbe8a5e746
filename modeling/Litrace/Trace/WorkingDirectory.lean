import Litrace.Trace.ForkIsolation
import Litrace.Trace.ReusedDescriptor

/-!
# The directory a process has left

The filter caches the working directory of a process.  Beside it runs a record of what is
known of that directory (`Located`): after a successful `chdir` or `fchdir` it is the
resolved destination, or nothing if that was not resolved; a lookup fills it in when
nothing is known; a child inherits it, and it follows renames.

The cache should agree with the record or be empty.  But `observeChdir` and `observeFchdir`
return early when they do not learn the destination, and the directory the process has left
stays cached.  `cwd_current_iff` says that in a run this is the one way to go wrong.

The record is a ghost beside the filter, made from the events alone.  It knows where a
process is as far as that can be known: a destination that was not captured, or was
captured with a flag, leaves it unknown.  An empty cache is always right, as the filter
then asks `/proc`.
-/

namespace Litrace.Trace

open Filepath Transition

/-! ## What is known of the working directory -/

namespace View

/-- The working directory that is known after an event: the resolved destination of a
successful `chdir` or `fchdir`, or nothing; after another event what was known before, as
looked up and renamed meanwhile. -/
def destination (v : View) (paths : Finset GoString) (answers : ReadSite → Option GoString)
    (ev : Event) : GoString :=
  if ev.syscallId = Unix.sysChdir ∧ 0 ≤ ev.ret then
    (((v.ask (answers (.observe 0)) (pathArg ev 0)).resolve (pathArg ev 0)).map
      Subtype.val).getD []
  else if ev.syscallId = Unix.sysFchdir ∧ 0 ≤ ev.ret then
    if ev.argCount.toNat < 1 then [] else ((v.fdPath (fdArg ev 0)).map Subtype.val).getD []
  else (v.observe paths answers ev).cwd

/-- The event changes the directory to one the filter does not learn: a `chdir` whose path
was not captured, or is empty, or an `fchdir` to a descriptor without a recorded path. -/
def LosesTrack (v : View) (ev : Event) : Prop :=
  0 ≤ ev.ret ∧
    ((ev.syscallId = Unix.sysChdir ∧
        ∀ path, eventTracePathAt ev 0 = some path → path = []) ∨
      (ev.syscallId = Unix.sysFchdir ∧
        (ev.argCount.toNat < 1 ∨ v.fdPath (fdArg ev 0) = none)))

section

variable {v : View} {paths : Finset GoString} {answers : ReadSite → Option GoString}
  {ev : Event}

theorem observation_fchdir_of_ok (call : ev.syscallId = Unix.sysFchdir) (ok : 0 ≤ ev.ret) :
    observation ev =
      if ev.argCount.toNat < 1 then .ignored else .changedDirTo (fdArg ev 0) := by
  simp only [observation_fchdir call, or_iff_right (Int64.not_lt.mpr ok)]

theorem pathArg_of_empty {i : Fin 6}
    (empty : ∀ path, eventTracePathAt ev i = some path → path = []) :
    pathArg ev i = .unreadable := by
  unfold pathArg
  cases hpath : eventTracePathAt ev i with
  | none => rfl
  | some path => exact if_pos (empty path hpath)

/-- The path of a `chdir` is absolute or starts from the working directory, unless the
filter did not get it. -/
theorem pathArg_chdir (call : ev.syscallId = Unix.sysChdir) :
    (pathArg ev 0 = .unreadable ∧ ∀ path, eventTracePathAt ev 0 = some path → path = []) ∨
      (∃ path, pathArg ev 0 = .absolute path) ∨ ∃ path, pathArg ev 0 = .fromCwd path := by
  have base : pathBaseFDArgIndex ev.syscallId 0 = some none := by
    rw [call]
    decide
  unfold pathArg
  rw [base]
  cases eventTracePathAt ev 0 with
  | none => exact .inl ⟨rfl, nofun⟩
  | some path =>
      dsimp only
      split
      next empty => exact .inl ⟨rfl, fun _ h => Option.some.inj h ▸ empty⟩
      next =>
        split
        · exact .inr (.inl ⟨_, rfl⟩)
        · exact .inr (.inr ⟨_, rfl⟩)

/-- An event the filter loses track by changes nothing the filter knows, and no directory is
known after it. -/
theorem LosesTrack.observe_cwd (loses : v.LosesTrack ev) :
    (v.observe paths answers ev).cwd = v.cwd ∧ v.destination paths answers ev = [] := by
  obtain ⟨ok, ⟨call, empty⟩ | ⟨call, unknown⟩⟩ := loses
  · unfold observe destination
    rw [if_pos ⟨call, ok⟩, observation_chdir call, if_neg (Int64.not_lt.mpr ok), apply,
      pathArg_of_empty empty]
    exact ⟨rfl, rfl⟩
  · have notChdir : ¬ (ev.syscallId = Unix.sysChdir ∧ 0 ≤ ev.ret) := by
      rintro ⟨h, -⟩
      rw [call] at h
      cases h
    unfold observe destination
    rw [if_neg notChdir, if_pos ⟨call, ok⟩, observation_fchdir_of_ok call ok]
    split
    next few => exact ⟨rfl, rfl⟩
    next enough =>
      have unknown := unknown.resolve_left enough
      rw [apply, unknown]
      exact ⟨rfl, rfl⟩

/-- Otherwise the filter caches what is known. -/
theorem observe_cwd_of_keeps (keeps : v.cwd ≠ [] → ¬ v.LosesTrack ev) :
    (v.observe paths answers ev).cwd = v.destination paths answers ev := by
  unfold destination
  split
  next chdir =>
    obtain ⟨call, ok⟩ := chdir
    rw [observe, observation_chdir call, if_neg (Int64.not_lt.mpr ok), apply]
    cases hpath : (v.ask (answers (.observe 0)) (pathArg ev 0)).resolve (pathArg ev 0) with
    | some path => rfl
    | none =>
        -- The path was not resolved, as no directory is known to start from.
        have unresolved : ¬ v.Resolvable (answers (.observe 0)) (pathArg ev 0) :=
          fun h => resolve_ask_ne_none.mpr h hpath
        rcases pathArg_chdir call with ⟨unread, empty⟩ | ⟨path, arg⟩ | ⟨path, arg⟩
        · rw [unread]
          by_contra known
          exact keeps known ⟨ok, .inl ⟨call, empty⟩⟩
        · rw [arg] at unresolved
          exact absurd trivial unresolved
        · rw [arg] at unresolved ⊢
          obtain ⟨unknown, unread⟩ := not_or.mp unresolved
          rw [not_not] at unknown unread
          rw [unread, ask_none]
          exact unknown
  next notChdir =>
    split
    next fchdir =>
      obtain ⟨call, ok⟩ := fchdir
      have lost : ev.argCount.toNat < 1 ∨ v.fdPath (fdArg ev 0) = none → v.cwd = [] := by
        intro unknown
        by_contra known
        exact keeps known ⟨ok, .inr ⟨call, unknown⟩⟩
      rw [observe, observation_fchdir_of_ok call ok]
      split
      next few => exact lost (.inl few)
      next =>
        rw [apply]
        cases hpath : v.fdPath (fdArg ev 0) with
        | some path => rfl
        | none => exact lost (.inr hpath)
    next => rfl

/-- Deciding on an event that loses track makes no lookup. -/
theorem LosesTrack.print_eq_self (loses : v.LosesTrack ev) (allowed : Bool) :
    (v.print paths answers allowed ev).1 = v := by
  have matched : (v.matchArgs paths answers ev (matchedArgs ev.syscallId)).1 = v := by
    obtain ⟨ok, ⟨call, empty⟩ | ⟨call, unknown⟩⟩ := loses
    · have args : matchedArgs ev.syscallId = [0] := by
        rw [call]
        decide
      rw [args, matchArgs, pathArg_of_empty empty]
      rfl
    · have args : matchedArgs ev.syscallId = [] := by
        rw [call]
        decide
      rw [args]
      rfl
  unfold print
  dsimp only
  split
  · rfl
  · split
    · exact matched
    · exact matched

theorem losesTrack_print (allowed : Bool) :
    (v.print paths answers allowed ev).1.LosesTrack ev ↔ v.LosesTrack ev := by
  rw [print_eq]
  rfl

/-- So whether the filter keeps track can be told before the decision. -/
theorem keeps_print (allowed : Bool) :
    ((v.print paths answers allowed ev).1.cwd ≠ [] →
        ¬ (v.print paths answers allowed ev).1.LosesTrack ev) ↔
      (v.cwd ≠ [] → ¬ v.LosesTrack ev) := by
  rw [losesTrack_print]
  by_cases loses : v.LosesTrack ev
  · rw [loses.print_eq_self]
  · exact iff_of_true (fun _ => loses) fun _ => loses

end

end View

/-- A filter, and the working directory known of each process; empty when none is. -/
structure Located where
  filter : PathFilter
  known : UInt32 → GoString

namespace Located

/-- At the start nothing is known. -/
def start (cfg : Config) : Located := ⟨newPathFilter cfg, fun _ => []⟩

/-- The view of a process, with the directory that is known. -/
def view (l : Located) (pid : UInt32) : View :=
  { l.filter.view pid with cwd := l.known pid }

/-- An arrival: the decision looks the directory up if it is not known, a clone passes it
on, and then the event changes it. -/
def next (l : Located) (a : Arrival) : Located :=
  let answers := fun site => a.proc site a.ev.pid
  let printed := ((l.view a.ev.pid).print l.filter.paths answers
    (l.filter.userAllows a.ev.syscallId) a.ev).1
  let inherited := (processCloneChildPID a.ev).elim l.known fun c =>
    Function.update l.known c printed.cwd
  { filter := l.filter.next a
    known := Function.update inherited a.ev.pid
      (printed.destination l.filter.paths answers a.ev) }

/-- No process has a directory cached other than the one it is known to be in. -/
def Current (l : Located) : Prop :=
  ∀ pid, (l.filter.view pid).cwd ≠ [] → (l.filter.view pid).cwd = l.known pid

/-- If the process has a directory cached, the event does not lose track of it. -/
def KeepsTrack (l : Located) (a : Arrival) : Prop :=
  (l.filter.view a.ev.pid).cwd ≠ [] → ¬ (l.filter.view a.ev.pid).LosesTrack a.ev

/-! ### One arrival -/

/-- The cache is the record, or the filter is off and caches nothing. -/
structure Cached (l : Located) : Prop where
  on : l.filter.pathFilterMode = true → ∀ pid, (l.filter.view pid).cwd = l.known pid
  off : l.filter.pathFilterMode = false → ∀ pid, (l.filter.view pid).cwd = []

section

variable {l : Located} {a : Arrival}

theorem Cached.current (cached : l.Cached) : l.Current := by
  intro pid known
  cases mode : l.filter.pathFilterMode with
  | true => exact cached.on mode pid
  | false => exact absurd (cached.off mode pid) known

theorem Cached.view (cached : l.Cached) (on : l.filter.pathFilterMode = true) :
    l.view = l.filter.view := by
  funext pid
  rw [Located.view, ← cached.on on pid]

/-- What is cached after an arrival; `printed` is the view after the decision. -/
theorem cwd_next (on : l.filter.pathFilterMode = true) (pid : UInt32) :
    let printed := ((l.filter.view a.ev.pid).print l.filter.paths
      (fun site => a.proc site a.ev.pid) (l.filter.userAllows a.ev.syscallId) a.ev).1
    ((l.next a).filter.view pid).cwd =
      if pid = a.ev.pid then
        (printed.observe l.filter.paths (fun site => a.proc site a.ev.pid) a.ev).cwd
      else if processCloneChildPID a.ev = some pid then printed.cwd
      else (l.filter.view pid).cwd := by
  intro printed
  show ((l.filter.next a).view pid).cwd = _
  rw [PathFilter.next, PathFilter.shouldOutput_view on]
  split
  next own => rw [own, Function.update_self]
  next other =>
    rw [Function.update_of_ne other, forkViews]
    split
    next child => rw [child, Option.elim_some, Function.update_self, Function.update_self]
    next notChild =>
      cases hchild : processCloneChildPID a.ev with
      | none => rw [Option.elim_none, Function.update_of_ne other]
      | some c =>
          have ne : pid ≠ c := fun h => notChild (by rw [hchild, h])
          rw [Option.elim_some, Function.update_of_ne ne, Function.update_of_ne other]

/-- What is known after it. -/
theorem known_next (pid : UInt32) :
    let printed := ((l.view a.ev.pid).print l.filter.paths
      (fun site => a.proc site a.ev.pid) (l.filter.userAllows a.ev.syscallId) a.ev).1
    (l.next a).known pid =
      if pid = a.ev.pid then
        printed.destination l.filter.paths (fun site => a.proc site a.ev.pid) a.ev
      else if processCloneChildPID a.ev = some pid then printed.cwd
      else l.known pid := by
  intro printed
  unfold Located.next
  dsimp only
  split
  next own => rw [own, Function.update_self]
  next other =>
    rw [Function.update_of_ne other]
    split
    next child => rw [child, Option.elim_some, Function.update_self]
    next notChild =>
      cases hchild : processCloneChildPID a.ev with
      | none => rw [Option.elim_none]
      | some c =>
          have ne : pid ≠ c := fun h => notChild (by rw [hchild, h])
          rw [Option.elim_some, Function.update_of_ne ne]

theorem mode_next : (l.next a).filter.pathFilterMode = l.filter.pathFilterMode :=
  l.filter.pathFilterMode_next a

/-- An arrival that keeps track leaves the cache the record. -/
theorem Cached.next (cached : l.Cached) (keeps : l.KeepsTrack a) : (l.next a).Cached where
  on mode pid := by
    rw [mode_next] at mode
    rw [cwd_next mode, known_next, cached.view mode,
      View.observe_cwd_of_keeps ((View.keeps_print _).mpr keeps), cached.on mode]
  off mode pid := by
    rw [mode_next] at mode
    show ((l.filter.next a).view pid).cwd = []
    rw [PathFilter.next_of_off mode]
    exact cached.off mode pid

/-- One that loses track leaves a directory cached that is not known. -/
theorem Cached.current_next_iff (cached : l.Cached) :
    (l.next a).Current ↔ l.KeepsTrack a := by
  constructor
  · intro current known loses
    have mode : l.filter.pathFilterMode = true := by
      by_contra off
      rw [Bool.not_eq_true] at off
      exact known (cached.off off a.ev.pid)
    have own := current a.ev.pid
    rw [cwd_next mode, known_next, if_pos rfl, if_pos rfl, cached.view mode,
      loses.print_eq_self, loses.observe_cwd.1, loses.observe_cwd.2] at own
    exact known (own known)
  · exact fun keeps => (cached.next keeps).current

end

/-! ### Runs -/

theorem cached_start (cfg : Config) : (start cfg).Cached where
  on _ _ := rfl
  off _ _ := rfl

end Located

/-- **The directory a process has left.**  In every run from `newPathFilter`: no process
ever has a working directory cached other than the one it is known to be in, exactly when
no event loses track of a process whose directory is cached.

There is no assumption at all: reads of `/proc` may give anything, since what is read when
nothing was known becomes what is known. -/
theorem cwd_current_iff (cfg : Config) (as : List Arrival) :
    AllStates Located.next Located.Current (Located.start cfg) as ↔
      AllSteps Located.next Located.KeepsTrack (Located.start cfg) as :=
  allStates_iff_allSteps_of_invariant (J := Located.Cached) (Q := fun _ _ => True)
    (fun _ cached => cached.current) (fun _ _ cached _ => cached.current_next_iff)
    (fun _ _ cached _ keeps => cached.next keeps) (Located.cached_start cfg)
    (allSteps_const.mpr fun _ _ => trivial)

/-- Process 100 changes its directory. -/
def chdirTo (flags : UInt8) (path : GoString) : Arrival where
  ev := withPath
    { Event.zero with syscallId := Unix.sysChdir, pid := 100, argCount := 1 } 0 flags path
  proc _ _ := none

/-- After a `chdir` whose path could not be read, the directory it left stays cached. -/
theorem left_directory_is_cached :
    ¬ AllStates Located.next Located.Current
      (Located.start ⟨false, ∅, [GoString.ascii "/a"]⟩)
      [chdirTo VarFlag.none (GoString.ascii "/a"), chdirTo VarFlag.readError []] := by
  intro states
  have last := allStates_iff_prefixes.mp states _ List.prefix_rfl 100
  revert last
  decide +kernel

end Litrace.Trace
