import Litrace.Bpf.Capture
import Litrace.Trace.WorkingDirectory

/-!
# The ways to name a file

A path `p` below a directory `b` can be given to `open` as `b/p`, to `openat` and `openat2`
relative to a descriptor of `b`, and to all of them relative to the working directory after
a `chdir` or `fchdir` to `b`.  The filter takes a different way through `resolvePathBase` for
each, and `every_route_agrees` says that they lead to the same path, the same record and the
same decision.

Each route is shown to name its target (`View.Names`): the argument resolves to it without a
lookup.  What the observation and the decision make of an argument that names a target does
not depend on the route.

The path and the record need nothing else.  The observation comes after the decision and
resolves the path by itself, so it is the same for a call that the selector hides.  Only the
decision depends on the selector, and on whether the descriptor that is the base is tracked,
which alone lets the call through.

A route is taken by the process itself, so it includes what leads up to the opening: the
`chdir` or `fchdir` is an event that the filter sees before (`Route`).  Nothing is assumed of
the state but what the route itself mentions, the path recorded for its descriptor.  What the
opening comes to is said outright (`LeadsTo`), and not only that two routes agree on it.
-/

namespace Litrace.Trace

open Filepath Transition

/-! ## Typed events -/

/-- The argument codes are those of the schema. -/
def TypedBySchema (ev : Event) : Prop := Bpf.setSyscallArgSchema ev.syscallId ev = ev

section

variable {ev : Event}

/-- The codes of such an event are those of the schema of its syscall. -/
theorem TypedBySchema.codes (typed : TypedBySchema ev) (schema : Bpf.SyscallArgSchema)
    (found : (Bpf.syscallSchemas.find? fun schema => schema.syscallId = ev.syscallId) =
      some schema) :
    ev.argCount = schema.argCount ∧ ev.argTypes = schema.argTypes := by
  unfold TypedBySchema Bpf.setSyscallArgSchema at typed
  rw [found] at typed
  exact ⟨(congrArg Event.argCount typed).symm, (congrArg Event.argTypes typed).symm⟩

/-- `open` has no descriptor argument. -/
theorem TypedBySchema.fdArgs_open (typed : TypedBySchema ev)
    (call : ev.syscallId = Unix.sysOpen) : fdArgs ev = [] := by
  obtain ⟨count, types⟩ := typed.codes
    (.entry 2 [VarArgKind.string, ArgType.flags, ArgType.mode]) (by rw [call]; decide)
  unfold fdArgs isFDArg
  rw [count, types]
  rfl

/-- `openat` and `openat2` have a first argument. -/
theorem TypedBySchema.argCount_openat (typed : TypedBySchema ev)
    (call : ev.syscallId ∈ [Unix.sysOpenat, Unix.sysOpenat2]) :
    ¬ ev.argCount.toNat ≤ (0 : Fin 6).val := by
  rcases List.mem_pair.mp call with call | call
  · obtain ⟨count, -⟩ := typed.codes
      (.entry 257 [ArgType.fd, VarArgKind.string, ArgType.flags, ArgType.mode])
      (by rw [call]; decide)
    rw [count]
    decide
  · obtain ⟨count, -⟩ := typed.codes
      (.entry 437 [ArgType.fd, VarArgKind.string, ArgType.ptr, ArgType.uint])
      (by rw [call]; decide)
    rw [count]
    decide

end

/-! ## Routes -/

/-- The argument of an `open`, `openat` or `openat2` that holds the path. -/
def openPathIndex (ev : Event) : Fin 6 := if ev.syscallId = Unix.sysOpen then 0 else 1

/-- A successful `chdir` of `pid` whose path resolves to `b`, or `fchdir` to a descriptor with
the path `b`. -/
inductive MovesTo (f : PathFilter) (pid : UInt32) (b : Path) (a : Arrival) : Prop where
  | chdir (call : a.ev.syscallId = Unix.sysChdir) (ok : 0 ≤ a.ev.ret) (own : a.ev.pid = pid)
      (resolved : ((f.shouldPrint a.proc a.ev).1.resolvePathAt (a.proc (.observe 0)) a.ev 0).2 =
        some b)
  | fchdir (call : a.ev.syscallId = Unix.sysFchdir) (ok : 0 ≤ a.ev.ret) (own : a.ev.pid = pid)
      (enough : ¬ a.ev.argCount.toNat < 1) (recorded : f.fdPath pid (fdArg a.ev 0) = some b)

/-- A successful event of `pid` that opens a file as `fd`; its path is captured without flags
as `path`. -/
structure Opens (pid : UInt32) (fd : UInt64) (path : GoString) (ev : Event) : Prop where
  own : ev.pid = pid
  ok : 0 ≤ ev.ret
  ret : ev.ret.toUInt64 = fd
  typed : TypedBySchema ev
  path : eventTracePathAt ev (openPathIndex ev) = some path

/-- The ways in which `pid` can name `p` below `b` from the state `f`: the state in which the
file is opened, and the opening event. -/
inductive Route (f : PathFilter) (pid : UInt32) (b : Path) (p : GoString) (fd : UInt64) :
    PathFilter → Arrival → Prop where
  | absolute {a : Arrival} (opens : Opens pid fd (b.val ++ separator :: p) a.ev)
      (call : a.ev.syscallId = Unix.sysOpen) : Route f pid b p fd f a
  | atDirFD {a : Arrival} (opens : Opens pid fd p a.ev)
      (call : a.ev.syscallId ∈ [Unix.sysOpenat, Unix.sysOpenat2])
      (notCwd : (a.ev.args.get 0).toUInt32.toInt32.toInt64 ≠ Unix.atFdcwd)
      (recorded : f.fdPath pid (fdArg a.ev 0) = some b) : Route f pid b p fd f a
  | afterMove {move a : Arrival} (moves : MovesTo f pid b move) (opens : Opens pid fd p a.ev)
      (call : a.ev.syscallId = Unix.sysOpen) : Route f pid b p fd (f.next move) a
  | atCwdAfterMove {move a : Arrival} (moves : MovesTo f pid b move)
      (opens : Opens pid fd p a.ev) (call : a.ev.syscallId ∈ [Unix.sysOpenat, Unix.sysOpenat2])
      (cwd : (a.ev.args.get 0).toUInt32.toInt32.toInt64 = Unix.atFdcwd) :
      Route f pid b p fd (f.next move) a

/-- What opening a file as `fd` comes to, in the state `g` with the traced paths `paths`: its
path argument resolves to the target, whatever a read of `/proc` gives; and the descriptor is
recorded with the target, tracked if that is a traced path. -/
structure LeadsTo (paths : Finset GoString) (pid : UInt32) (fd : UInt64) (target : Path)
    (g : PathFilter) (a : Arrival) : Prop where
  resolve : ∀ read, (g.resolvePathAt read a.ev (openPathIndex a.ev)).2 = some target
  fdPath : (g.next a).fdPath pid fd = some target
  fdTracked : (g.next a).fdTracked pid fd = decide (target.val ∈ paths)

/-- No descriptor argument of the event is tracked. -/
def NoFDTracked (g : PathFilter) (ev : Event) : Prop :=
  ∀ fd ∈ fdArgs ev, g.fdTracked ev.pid fd = false

/-! ## Arguments that name a target -/

namespace View

/-- The argument resolves to the target, without a lookup. -/
structure Names (v : View) (arg : PathArg) (target : Path) : Prop where
  ask : ∀ answer, v.ask answer arg = v
  resolve : v.resolve arg = some target

theorem names_absolute (v : View) (target : Path) : v.Names (.absolute target) target :=
  ⟨fun _ => rfl, rfl⟩

/-- The base is the recorded path of the descriptor. -/
theorem names_fromFD {v : View} {fd : UInt64} {b : Path} (recorded : v.fdPath fd = some b)
    (p : GoString) : v.Names (.fromFD fd p) (cleanPath (join b.val p)) := by
  refine ⟨fun _ => rfl, ?_⟩
  rw [resolve, recorded, Option.map_some]

theorem cwdPath_of_cwd {v : View} {b : Path} (cwd : v.cwd = b.val) : v.cwdPath = some b := by
  obtain ⟨bytes, ne⟩ := b
  unfold cwdPath
  rw [cwd]
  cases bytes with
  | nil => exact absurd rfl ne
  | cons byte bytes => rfl

/-- After the move the working directory is known, so there is no lookup. -/
theorem names_fromCwd {v : View} {b : Path} (cwd : v.cwd = b.val) (p : GoString) :
    v.Names (.fromCwd p) (cleanPath (join b.val p)) := by
  have known : v.cwd ≠ [] := by
    rw [cwd]
    exact b.property
  refine ⟨learn_of_known known, ?_⟩
  rw [resolve, cwdPath_of_cwd cwd, Option.map_some]

end View

/-- A relative path starts from its base. -/
theorem pathArg_of_relative {ev : Event} {i : Fin 6} {p : GoString}
    (path : eventTracePathAt ev i = some p) (hp : p ≠ []) (relative : ¬ isAbs p = true) :
    pathArg ev i =
      match pathBaseFDArgIndex ev.syscallId i with
      | none | some none => .fromCwd p
      | some (some j) =>
          if ev.argCount.toNat ≤ j.val then .unreadable
          else if (ev.args.get j).toUInt32.toInt32.toInt64 = Unix.atFdcwd then .fromCwd p
          else .fromFD (fdArg ev j) p := by
  rw [pathArg, path]
  exact (if_neg hp).trans (if_neg relative)

/-- Joining is cleaning what `open` is given. -/
theorem cleanPath_join {b : Path} (hb : AbsClean b.val) (p : GoString) :
    cleanPath (join b.val p) = cleanPath (b.val ++ separator :: p) := by
  apply Subtype.ext
  rw [cleanPath_val, cleanPath_val, join_of_ne_nil b.property, clean_clean (isAbs_append hb.1 _)]

section

variable {f g : PathFilter} {a : Arrival} {pid : UInt32} {fd : UInt64} {b target : Path}
  {p path : GoString}

/-! ### Reading the opening event -/

theorem openPathIndex_of_open {ev : Event} (call : ev.syscallId = Unix.sysOpen) :
    openPathIndex ev = 0 :=
  if_pos call

theorem openPathIndex_of_openat {ev : Event}
    (call : ev.syscallId ∈ [Unix.sysOpenat, Unix.sysOpenat2]) : openPathIndex ev = 1 := by
  refine if_neg fun h => ?_
  rw [h] at call
  revert call
  decide

theorem Opens.observation {ev : Event} (opens : Opens pid fd path ev)
    (call : ev.syscallId = Unix.sysOpen ∨ ev.syscallId ∈ [Unix.sysOpenat, Unix.sysOpenat2]) :
    observation ev = .opened (openPathIndex ev) fd := by
  have ok := Int64.not_lt.mpr opens.ok
  rcases call with call | call
  · rw [openPathIndex_of_open call, observation_open call, if_neg ok, opens.ret]
  · rw [openPathIndex_of_openat call, observation_openat call, if_neg ok, opens.ret]

/-- The argument that is compared is the one that is resolved. -/
theorem matchedArgs_of_opens {ev : Event}
    (call : ev.syscallId = Unix.sysOpen ∨ ev.syscallId ∈ [Unix.sysOpenat, Unix.sysOpenat2]) :
    matchedArgs ev.syscallId = [openPathIndex ev] := by
  rcases call with call | call
  · rw [openPathIndex_of_open call, call]
    rfl
  · rw [openPathIndex_of_openat call]
    rcases List.mem_pair.mp call with call | call
    · rw [call]
      rfl
    · rw [call]
      rfl

/-- Looking at an opening whose argument names the target changes nothing. -/
theorem Opens.print_view
    (call : a.ev.syscallId = Unix.sysOpen ∨ a.ev.syscallId ∈ [Unix.sysOpenat, Unix.sysOpenat2])
    (names : (g.view pid).Names (pathArg a.ev (openPathIndex a.ev)) target)
    (answers : ReadSite → Option GoString) (allowed : Bool) :
    ((g.view pid).print g.paths answers allowed a.ev).1 = g.view pid := by
  unfold View.print
  split
  · rfl
  · rw [matchedArgs_of_opens call, View.matchArgs, names.ask, names.resolve, View.matchArgs]
    cases (some target).any fun path => decide (path.val ∈ g.paths) with
    | true => rfl
    | false => rfl

/-- Opening what the argument names records the target, whatever the decision. -/
theorem Opens.record (on : g.pathFilterMode = true) (opens : Opens pid fd path a.ev)
    (call : a.ev.syscallId = Unix.sysOpen ∨ a.ev.syscallId ∈ [Unix.sysOpenat, Unix.sysOpenat2])
    (names : (g.view pid).Names (pathArg a.ev (openPathIndex a.ev)) target) :
    ((g.next a).view pid).slot fd = (decide (target.val ∈ g.paths), some target) := by
  obtain rfl := opens.own
  rw [next_view_self on, Opens.print_view call names, View.observe, opens.observation call,
    View.apply, names.ask, names.resolve]
  exact (View.slot_record _ _ _ _ _).trans (if_pos rfl)

/-- The decision on a call that is selected, with no tracked descriptor, is about the target. -/
theorem Opens.decision (on : g.pathFilterMode = true) (allowed : g.userAllows a.ev.syscallId = true)
    (opens : Opens pid fd path a.ev)
    (call : a.ev.syscallId = Unix.sysOpen ∨ a.ev.syscallId ∈ [Unix.sysOpenat, Unix.sysOpenat2])
    (names : (g.view pid).Names (pathArg a.ev (openPathIndex a.ev)) target)
    (untracked : NoFDTracked g a.ev) : g.decision a = decide (target.val ∈ g.paths) := by
  obtain rfl := opens.own
  have none : (fdArgs a.ev).any (g.view a.ev.pid).tracked = false := by
    refine List.any_eq_false.mpr fun fd hfd => ?_
    have out := untracked fd hfd
    rw [PathStates.fdTracked_eq] at out
    rw [out]
    exact Bool.false_ne_true
  have printed : ((g.view a.ev.pid).print g.paths (fun site => a.proc site a.ev.pid)
      (g.userAllows a.ev.syscallId) a.ev).2 = decide (target.val ∈ g.paths) := by
    rw [allowed, View.print, matchedArgs_of_opens call, View.matchArgs, names.ask, names.resolve,
      Option.any_some, View.matchArgs]
    cases decide (target.val ∈ g.paths) with
    | true => rfl
    | false => exact none
  rw [PathFilter.decision, PathFilter.shouldOutput_decision on, printed]

/-! ### Moving -/

/-- After the move the working directory is known. -/
theorem MovesTo.cwd (on : f.pathFilterMode = true) (moves : MovesTo f pid b a) :
    ((f.next a).view pid).cwd = b.val := by
  cases moves with
  | chdir call ok own resolved =>
      subst own
      obtain ⟨paths, view, -⟩ := f.view_shouldPrint a.proc a.ev
      obtain ⟨-, -, hresolve⟩ := PathStates.view_resolvePathAt (s := (f.shouldPrint a.proc a.ev).1)
        (a.proc (.observe 0)) a.ev 0
      rw [view, Function.update_self, resolved] at hresolve
      rw [next_view_self on, View.observe, observation_chdir call, if_neg (Int64.not_lt.mpr ok),
        View.apply, ← hresolve]
  | fchdir call ok own enough recorded =>
      subst own
      rw [PathStates.fdPath_eq] at recorded
      rw [next_view_self on, View.observe, View.observation_fchdir_of_ok call ok, if_neg enough,
        View.apply, View.print_eq, recorded]

/-! ### Each route names the target -/

/-- What the routes have in common: in path-filter mode the path argument names `b/p`. -/
theorem Route.names (on : f.pathFilterMode = true) (hb : AbsClean b.val) (hp : p ≠ [])
    (relative : isAbs p = false) (route : Route f pid b p fd g a) :
    (g.view pid).Names (pathArg a.ev (openPathIndex a.ev))
      (cleanPath (b.val ++ separator :: p)) := by
  have notAbs : ¬ isAbs p = true := by
    rw [relative]
    decide
  cases route with
  | absolute opens call =>
      have arg : pathArg a.ev (openPathIndex a.ev) =
          .absolute (cleanPath (b.val ++ separator :: p)) := by
        rw [pathArg, opens.path]
        dsimp only
        rw [if_neg (by simp), if_pos (isAbs_append hb.1 _)]
      rw [arg]
      exact View.names_absolute _ _
  | atDirFD opens call notCwd recorded =>
      have arg : pathArg a.ev (openPathIndex a.ev) = .fromFD (fdArg a.ev 0) p := by
        rw [pathArg_of_relative opens.path hp notAbs, openPathIndex_of_openat call,
          pathBaseFDArgIndex_openat call]
        dsimp only
        rw [if_neg (opens.typed.argCount_openat call), if_neg notCwd]
      rw [PathStates.fdPath_eq] at recorded
      rw [arg, ← cleanPath_join hb]
      exact View.names_fromFD recorded p
  | afterMove moves opens call =>
      have base : pathBaseFDArgIndex a.ev.syscallId 0 = some none := by
        rw [call]
        decide
      have arg : pathArg a.ev (openPathIndex a.ev) = .fromCwd p := by
        rw [pathArg_of_relative opens.path hp notAbs, openPathIndex_of_open call, base]
      rw [arg, ← cleanPath_join hb]
      exact View.names_fromCwd (moves.cwd on) p
  | atCwdAfterMove moves opens call cwd =>
      have arg : pathArg a.ev (openPathIndex a.ev) = .fromCwd p := by
        rw [pathArg_of_relative opens.path hp notAbs, openPathIndex_of_openat call,
          pathBaseFDArgIndex_openat call]
        dsimp only
        rw [if_neg (opens.typed.argCount_openat call), if_pos cwd]
      rw [arg, ← cleanPath_join hb]
      exact View.names_fromCwd (moves.cwd on) p

/-- The opening event of a route. -/
theorem Route.opens (route : Route f pid b p fd g a) :
    (∃ path, Opens pid fd path a.ev) ∧
      (a.ev.syscallId = Unix.sysOpen ∨ a.ev.syscallId ∈ [Unix.sysOpenat, Unix.sysOpenat2]) := by
  cases route with
  | absolute opens call => exact ⟨⟨_, opens⟩, .inl call⟩
  | atDirFD opens call => exact ⟨⟨_, opens⟩, .inr call⟩
  | afterMove moves opens call => exact ⟨⟨_, opens⟩, .inl call⟩
  | atCwdAfterMove moves opens call => exact ⟨⟨_, opens⟩, .inr call⟩

/-- The state in which the file is opened is `f`, or the one after a move. -/
theorem Route.state (route : Route f pid b p fd g a) : g = f ∨ ∃ move, g = f.next move := by
  cases route with
  | absolute => exact .inl rfl
  | atDirFD => exact .inl rfl
  | afterMove => exact .inr ⟨_, rfl⟩
  | atCwdAfterMove => exact .inr ⟨_, rfl⟩

/-- The selector, the mode and the traced paths are those of `f`. -/
theorem Route.selection (route : Route f pid b p fd g a) :
    g.pathFilterMode = f.pathFilterMode ∧ g.paths = f.paths ∧
      ∀ id, g.userAllows id = f.userAllows id := by
  rcases route.state with rfl | ⟨move, rfl⟩
  · exact ⟨rfl, rfl, fun _ => rfl⟩
  · exact ⟨f.pathFilterMode_next move, f.paths_next move, f.userAllows_next move⟩

/-- A filter that is off stays as it is and lets the call through. -/
theorem Route.off (off : f.pathFilterMode = false) (route : Route f pid b p fd g a) :
    g.next a = f ∧ g.decision a = true := by
  have same : g = f := by
    rcases route.state with rfl | ⟨move, rfl⟩
    · rfl
    · exact PathFilter.next_of_off off move
  rw [same]
  exact ⟨PathFilter.next_of_off off a, PathFilter.decision_of_off off a⟩

/-- Each route leads to the clean form of `b/p`. -/
theorem Route.leads (on : f.pathFilterMode = true) (hb : AbsClean b.val) (hp : p ≠ [])
    (relative : isAbs p = false) (route : Route f pid b p fd g a) :
    LeadsTo f.paths pid fd (cleanPath (b.val ++ separator :: p)) g a := by
  obtain ⟨⟨path, opens⟩, call⟩ := route.opens
  obtain ⟨mode, paths, -⟩ := route.selection
  have names := route.names on hb hp relative
  have slot := opens.record (mode.trans on) call names
  rw [paths] at slot
  refine ⟨fun read => ?_, ?_, ?_⟩
  · obtain ⟨-, -, resolved⟩ := PathStates.view_resolvePathAt (s := g.toPathStates) read a.ev
      (openPathIndex a.ev)
    rw [resolved, opens.own, names.ask, names.resolve]
  · rw [PathStates.fdPath_eq]
    exact congrArg Prod.snd slot
  · rw [PathStates.fdTracked_eq]
    exact congrArg Prod.fst slot

/-- The decision does not depend on the route. -/
theorem Route.decides (hb : AbsClean b.val) (hp : p ≠ []) (relative : isAbs p = false)
    (route : Route f pid b p fd g a) (allowed : f.userAllows a.ev.syscallId = true)
    (untracked : NoFDTracked g a.ev) :
    g.decision a =
      (!f.pathFilterMode || decide ((cleanPath (b.val ++ separator :: p)).val ∈ f.paths)) := by
  cases mode : f.pathFilterMode with
  | false => exact (route.off mode).2
  | true =>
      obtain ⟨⟨path, opens⟩, call⟩ := route.opens
      obtain ⟨mode', paths, allows⟩ := route.selection
      have decided := opens.decision (mode'.trans mode) ((allows _).trans allowed) call
        (route.names mode hb hp relative) untracked
      rw [paths] at decided
      exact decided

end

/-- **Every way of naming a file agrees.**  For every filter state, every absolute clean `b`
and every non-empty relative `p`, any two of these routes: `open` of `b/p`; `openat` or
`openat2` of `p` with a descriptor recorded at `b`; after a `chdir` or `fchdir` to `b`, `open`
of `p`, or `openat` or `openat2` of `p` with `AT_FDCWD`.  Both paths resolve to the clean form
of `b/p`, and both descriptors are recorded with it, tracked if it is a traced path, whatever
the selector hides.  (Without a traced path nothing is recorded by either.)  The decisions are
the same if the selector allows the calls and the base is not a tracked descriptor.

The record and the resolution hold for each route by itself, so that they are not merely equal
but right.  They need no condition: also a call that the selector hides is observed, and the base
may be tracked. -/
theorem every_route_agrees (f : PathFilter) (pid : UInt32) (b : Path) (p : GoString)
    (fd : UInt64) (hb : AbsClean b.val) (hp : p ≠ []) (relative : isAbs p = false)
    (g g' : PathFilter) (a a' : Arrival) (route : Route f pid b p fd g a)
    (route' : Route f pid b p fd g' a') :
    ∃ target : Path, AbsClean target.val ∧ target.val = clean (b.val ++ separator :: p) ∧
      (f.pathFilterMode = true →
        LeadsTo f.paths pid fd target g a ∧ LeadsTo f.paths pid fd target g' a') ∧
      (f.pathFilterMode = false → g.next a = f ∧ g'.next a' = f) ∧
      (f.userAllows a.ev.syscallId = true → f.userAllows a'.ev.syscallId = true →
        NoFDTracked g a.ev → NoFDTracked g' a'.ev → g.decision a = g'.decision a') := by
  refine ⟨cleanPath (b.val ++ separator :: p), ?_, cleanPath_val _, fun on => ?_, fun off => ?_,
    fun allowed allowed' untracked untracked' => ?_⟩
  · rw [cleanPath_val]
    exact absClean_clean (isAbs_append hb.1 _)
  · exact ⟨route.leads on hb hp relative, route'.leads on hb hp relative⟩
  · exact ⟨(route.off off).1, (route'.off off).1⟩
  · rw [route.decides hb hp relative allowed untracked,
      route'.decides hb hp relative allowed' untracked']

/-- Process 100 opens a file as descriptor 3, as the tracer reports it. -/
def openTyped (path : GoString) : Arrival where
  ev := Bpf.setSyscallArgSchema Unix.sysOpen (openAs3 VarFlag.none path).ev
  proc _ _ := none

/-- The filter, with `/d/a` traced. -/
def tracingDA : PathFilter := newPathFilter ⟨false, ∅, [GoString.ascii "/d/a"]⟩

/-- `open` takes no descriptor. -/
theorem openTyped_noFDTracked (g : PathFilter) (path : GoString) :
    NoFDTracked g (openTyped path).ev := by
  have typed : TypedBySchema (openTyped path).ev := rfl
  intro fd hfd
  rw [typed.fdArgs_open rfl] at hfd
  cases hfd

/-- `a` below `/d`, by its full name and after `chdir`. -/
theorem every_route_agrees_openTyped :
    let moved := tracingDA.next (chdirTo VarFlag.none (GoString.ascii "/d"))
    let full := openTyped (GoString.ascii "/d/a")
    let short := openTyped (GoString.ascii "a")
    ∃ target : Path, LeadsTo tracingDA.paths 100 3 target tracingDA full ∧
      LeadsTo tracingDA.paths 100 3 target moved short ∧
      tracingDA.decision full = moved.decision short := by
  intro moved full short
  have typed : ∀ path, TypedBySchema (openTyped path).ev := fun path => rfl
  have absolute : Route tracingDA 100 ⟨GoString.ascii "/d", by decide⟩ (GoString.ascii "a") 3
      tracingDA full := by
    refine .absolute ⟨rfl, ?_, rfl, typed _, ?_⟩ rfl
    · decide
    · decide +kernel
  have afterMove : Route tracingDA 100 ⟨GoString.ascii "/d", by decide⟩ (GoString.ascii "a") 3
      moved short := by
    refine .afterMove (.chdir rfl ?_ rfl ?_) ⟨rfl, ?_, rfl, typed _, ?_⟩ rfl
    · decide
    · decide +kernel
    · decide
    · decide +kernel
  obtain ⟨target, -, -, leads, -, decides⟩ := every_route_agrees tracingDA 100
    ⟨GoString.ascii "/d", by decide⟩ (GoString.ascii "a") 3 (by decide) (by decide) (by decide)
    _ _ _ _ absolute afterMove
  obtain ⟨first, second⟩ := leads rfl
  exact ⟨target, first, second,
    decides rfl rfl (openTyped_noFDTracked _ _) (openTyped_noFDTracked _ _)⟩

end Litrace.Trace
