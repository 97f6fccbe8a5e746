import Litrace.Event
import Litrace.Lib.Filepath
import Litrace.Lib.HashTable
import Litrace.Lib.Transition

/-!
# The path filter

`path_filter.go`: what the filter keeps for each process, how it resolves the
paths of an event, the decision whether the event is printed, and what the
event does to the state.

The methods that read or write the state of processes are those of
`PathStates`, the part of `pathFilter` they use; the selector fields are used
by `userAllows` and `shouldOutput` alone.  A nil map is `none`.  A path is never
recorded empty, since it comes out of `filepath.Clean`, and the type of
`fdPaths` says so.

A read of `/proc/<pid>/cwd` is answered from outside.  The answer may change
between two reads, also within one event, so it depends on the place of the read
(`ReadSite`).

The nesting of the maps, the order of the tests and the early returns are those
of the source; the abstract reading of them is in `Litrace.Trace.PathView`, and
`Litrace.Trace.PathRefinement` ties the two.  Loops over a map fold over its
keys in one fixed order.  That the order is of no consequence is part of the
refinement, where each loop is shown to be pointwise.
-/

namespace Litrace.Trace

open Filepath Transition

/-! ## Constants -/

namespace Unix

def sysOpen : Int64 := 2
def sysClose : Int64 := 3
def sysStat : Int64 := 4
def sysLstat : Int64 := 6
def sysAccess : Int64 := 21
def sysDup : Int64 := 32
def sysDup2 : Int64 := 33
def sysClone : Int64 := 56
def sysFork : Int64 := 57
def sysVfork : Int64 := 58
def sysFcntl : Int64 := 72
def sysChdir : Int64 := 80
def sysFchdir : Int64 := 81
def sysRename : Int64 := 82
def sysUnlink : Int64 := 87
def sysOpenat : Int64 := 257
def sysNewfstatat : Int64 := 262
def sysUnlinkat : Int64 := 263
def sysRenameat : Int64 := 264
def sysFaccessat : Int64 := 269
def sysDup3 : Int64 := 292
def sysRenameat2 : Int64 := 316
def sysStatx : Int64 := 332
def sysClone3 : Int64 := 435
def sysOpenat2 : Int64 := 437
def sysFaccessat2 : Int64 := 439

def fDupfd : Int64 := 0
def fDupfdCloexec : Int64 := 1030
def atFdcwd : Int64 := -100

end Unix

/-! ## The paths of an event -/

/-- `findVarArgDesc`. -/
def findVarArgDesc (ev : Event) (idx : Fin 6) : Option VarArgDesc :=
  ((List.finRange 6).find? fun i =>
    i.val < ev.varCount.toNat && (ev.varDesc.get i).argIndex.toNat == idx.val).map fun i =>
      ev.varDesc.get i

/-- `varPayloadSlice`. -/
def varPayloadSlice (ev : Event) (desc : VarArgDesc) : Option (List UInt8) :=
  let payloadLen := min ev.payloadLen.toNat 512
  let start := desc.offset.toNat
  let stop := start + desc.length.toNat
  if payloadLen < stop then none
  else some ((ev.payload.toList.drop start).take desc.length.toNat)

/-- `eventTracePathAt`.

Any flag makes the path unknown: a path that was cut is the path of another file. -/
def eventTracePathAt (ev : Event) (argIndex : Fin 6) : Option GoString :=
  match findVarArgDesc ev argIndex with
  | none => none
  | some desc => if desc.flags ≠ VarFlag.none then none else varPayloadSlice ev desc

/-- `normalizeTrackedFD`.

The kernel looks at the lower half of the register only, so the upper half must not tell two
descriptors apart. -/
def normalizeTrackedFD (raw : UInt64) : UInt64 := raw.toUInt32.toUInt64

/-- `normalizeTrackedFD(ev.Args[i])`. -/
def fdArg (ev : Event) (i : Fin 6) : UInt64 := normalizeTrackedFD (ev.args.get i)

/-- `processCloneChildPID`. -/
def processCloneChildPID (ev : Event) : Option UInt32 :=
  if ev.ret ≤ 0 ∨ eventCreatesProcess ev = false then none
  else some ev.ret.toUInt64.toUInt32

/-- `pathBaseFDArgIndex`: `none` where the source finds no case, `some none`
where it returns −1. -/
def pathBaseFDArgIndex (syscallId : Int64) (argIndex : Fin 6) : Option (Option (Fin 6)) :=
  if syscallId ∈ [Unix.sysOpenat, Unix.sysOpenat2, Unix.sysUnlinkat, Unix.sysNewfstatat,
      Unix.sysFaccessat, Unix.sysStatx, Unix.sysFaccessat2] then
    if argIndex = 1 then some (some 0) else none
  else if syscallId ∈ [Unix.sysRenameat, Unix.sysRenameat2] then
    if argIndex = 1 then some (some 0)
    else if argIndex = 3 then some (some 2)
    else none
  else if syscallId ∈ [Unix.sysOpen, Unix.sysAccess, Unix.sysStat, Unix.sysLstat,
      Unix.sysChdir, Unix.sysUnlink, Unix.sysRename] then
    some none
  else none

/-- `rewritePathPrefix`: the path, and whether it changed.

A prefix ends at a separator: `/ab` does not lie below `/a`. -/
def rewritePathPrefix (path oldBase newBase : GoString) : Path × Bool :=
  let path := cleanPath path
  let oldBase := cleanPath oldBase
  let newBase := cleanPath newBase
  if path = oldBase then (newBase, true)
  else
    let pre := oldBase.val ++ [separator]
    if path.val.length ≤ pre.length ∨ path.val.take pre.length ≠ pre then (path, false)
    else (joinPath newBase (path.val.drop pre.length), true)

/-! ## The state of processes -/

/-- `processPathState`.

Tracked descriptors are kept beside the recorded paths and not computed from them.  That both
agree is an invariant, where it holds (`Litrace.Trace.PathInvariant`). -/
structure ProcessPathState where
  cwd : GoString
  trackedFDs : Option (Finset UInt64)
  fdPaths : Option (GoMap UInt64 Path)

/-- `&processPathState{}`. -/
def ProcessPathState.new : ProcessPathState := ⟨[], none, none⟩

/-- The traced paths and the state of each process. -/
structure PathStates where
  paths : Finset GoString
  stateByPID : UInt32 → Option ProcessPathState

/-- Where an event reads `/proc/<pid>/cwd`: for the path argument of a decision
or of an observation. -/
inductive ReadSite where
  | shouldPrint (argIndex : Fin 6)
  | observe (argIndex : Fin 6)

/-- What `os.Readlink("/proc/<pid>/cwd")` gives at each place of an event. -/
abbrev ProcCwd := ReadSite → UInt32 → Option GoString

namespace PathStates

/-- `stateForPID`, and an assignment to the state it returns.

The source works on a pointer into the map; the state behind it is replaced here, which comes to
the same as long as it stays in the map. -/
def assign (s : PathStates) (pid : UInt32) (f : ProcessPathState → ProcessPathState) :
    PathStates :=
  { s with
    stateByPID := Function.update s.stateByPID pid
      (some (f ((s.stateByPID pid).getD .new))) }

/-- `delete(f.stateByPID, pid)`. -/
def deletePID (s : PathStates) (pid : UInt32) : PathStates :=
  { s with stateByPID := Function.update s.stateByPID pid none }

/-- `maybeDropPIDState`.

A process of which nothing is known has no entry, so that the map does not grow with every
process that was ever seen. -/
def maybeDropPIDState (s : PathStates) (pid : UInt32) : PathStates :=
  match s.stateByPID pid with
  | none => s
  | some state =>
      if state.cwd ≠ [] ∨ state.trackedFDs.getD ∅ ≠ ∅ ∨ 0 < (state.fdPaths.getD ∅).len then s
      else s.deletePID pid

/-- `trackFD`. -/
def trackFD (s : PathStates) (pid : UInt32) (fd : UInt64) : PathStates :=
  s.assign pid fun state =>
    { state with trackedFDs := some (insert fd (state.trackedFDs.getD ∅)) }

/-- `untrackFD`. -/
def untrackFD (s : PathStates) (pid : UInt32) (fd : UInt64) : PathStates :=
  match (s.stateByPID pid).bind ProcessPathState.trackedFDs with
  | none => s
  | some fds =>
      let fds := fds.erase fd
      (s.assign pid fun state =>
        { state with trackedFDs := if fds = ∅ then none else some fds }).maybeDropPIDState pid

/-- `fdTracked`. -/
def fdTracked (s : PathStates) (pid : UInt32) (fd : UInt64) : Bool :=
  match (s.stateByPID pid).bind ProcessPathState.trackedFDs with
  | none => false
  | some fds => decide (fd ∈ fds)

/-- `setFDPath`. -/
def setFDPath (s : PathStates) (pid : UInt32) (fd : UInt64) (path : Path) : PathStates :=
  s.assign pid fun state =>
    { state with fdPaths := some ((state.fdPaths.getD ∅).set fd path) }

/-- `syncTrackedFD`. -/
def syncTrackedFD (s : PathStates) (pid : UInt32) (fd : UInt64) (path : Path) : PathStates :=
  if path.val ∈ s.paths then s.trackFD pid fd else s.untrackFD pid fd

/-- `unsetFDPath`. -/
def unsetFDPath (s : PathStates) (pid : UInt32) (fd : UInt64) : PathStates :=
  match (s.stateByPID pid).bind ProcessPathState.fdPaths with
  | none => s
  | some fdPaths =>
      let fdPaths := fdPaths.delete fd
      (s.assign pid fun state =>
        { state with fdPaths := if fdPaths.len = 0 then none else some fdPaths }).maybeDropPIDState
          pid

/-- `fdPath`. -/
def fdPath (s : PathStates) (pid : UInt32) (fd : UInt64) : Option Path :=
  match (s.stateByPID pid).bind ProcessPathState.fdPaths with
  | none => none
  | some fdPaths => fdPaths.get fd

/-- `cwdForPID`; `read` answers the read of `/proc`.

What was read is kept: from then on the working directory follows the events, and `/proc` is not
asked again. -/
def cwdForPID (s : PathStates) (read : UInt32 → Option GoString) (pid : UInt32) :
    PathStates × Option Path :=
  match (s.stateByPID pid).map ProcessPathState.cwd with
  | some (b :: cwd) => (s, some ⟨b :: cwd, List.cons_ne_nil b cwd⟩)
  | _ =>
      match read pid with
      | none => (s, none)
      | some cwd =>
          let cwd := cleanPath cwd
          (s.assign pid fun state => { state with cwd := cwd.val }, some cwd)

/-! ### Resolving paths -/

/-- `resolvePathBase`.

An event with too few arguments has no base; that is not the working directory. -/
def resolvePathBase (s : PathStates) (read : UInt32 → Option GoString) (ev : Event)
    (argIndex : Fin 6) : PathStates × Option Path :=
  match pathBaseFDArgIndex ev.syscallId argIndex with
  | none | some none => s.cwdForPID read ev.pid
  | some (some dirfdArgIndex) =>
      if ev.argCount.toNat ≤ dirfdArgIndex.val then (s, none)
      else
        let dirfd := (ev.args.get dirfdArgIndex).toUInt32.toInt32.toInt64
        if dirfd = Unix.atFdcwd then s.cwdForPID read ev.pid
        else (s, s.fdPath ev.pid (fdArg ev dirfdArgIndex))

/-- `resolvePath`. -/
def resolvePath (s : PathStates) (read : UInt32 → Option GoString) (ev : Event)
    (argIndex : Fin 6) (path : GoString) : PathStates × Option Path :=
  if path = [] then (s, none)
  else if isAbs path then (s, some (cleanPath path))
  else
    let base := s.resolvePathBase read ev argIndex
    (base.1, base.2.map fun base => cleanPath (join base.val path))

/-- `resolvePathAt`. -/
def resolvePathAt (s : PathStates) (read : UInt32 → Option GoString) (ev : Event)
    (argIndex : Fin 6) : PathStates × Option Path :=
  match eventTracePathAt ev argIndex with
  | none => (s, none)
  | some path => s.resolvePath read ev argIndex path

/-! ### Matching -/

/-- `matchesPathAt`. -/
def matchesPathAt (s : PathStates) (proc : ProcCwd) (ev : Event) (argIndex : Fin 6) :
    PathStates × Bool :=
  let resolved := s.resolvePathAt (proc (.shouldPrint argIndex)) ev argIndex
  match resolved.2 with
  | none => (resolved.1, false)
  | some path => (resolved.1, decide (path.val ∈ resolved.1.paths))

/-- `f.matchesPathAt(ev, i) || f.matchesPathAt(ev, j)`.

The second path is not looked at when the first one matches.  That can be told from the state, as
a look may record the working directory. -/
def matchesEitherPathAt (s : PathStates) (proc : ProcCwd) (ev : Event) (i j : Fin 6) :
    PathStates × Bool :=
  let first := s.matchesPathAt proc ev i
  if first.2 then first else first.1.matchesPathAt proc ev j

/-- `matchesPath`. -/
def matchesPath (s : PathStates) (proc : ProcCwd) (ev : Event) : PathStates × Bool :=
  if ev.syscallId = Unix.sysOpen then s.matchesPathAt proc ev 0
  else if ev.syscallId ∈ [Unix.sysOpenat, Unix.sysOpenat2, Unix.sysNewfstatat,
      Unix.sysFaccessat, Unix.sysStatx, Unix.sysFaccessat2] then
    s.matchesPathAt proc ev 1
  else if ev.syscallId ∈ [Unix.sysAccess, Unix.sysStat, Unix.sysLstat, Unix.sysChdir,
      Unix.sysUnlink] then
    s.matchesPathAt proc ev 0
  else if ev.syscallId = Unix.sysRename then s.matchesEitherPathAt proc ev 0 1
  else if ev.syscallId = Unix.sysUnlinkat then s.matchesPathAt proc ev 1
  else if ev.syscallId ∈ [Unix.sysRenameat, Unix.sysRenameat2] then
    s.matchesEitherPathAt proc ev 1 3
  else (s, false)

/-- `argTracked`. -/
def argTracked (s : PathStates) (ev : Event) (idx : Fin 6) : Bool :=
  if ev.argCount.toNat ≤ idx.val then false
  else if ev.argTypes.get idx ≠ ArgType.fd then false
  else s.fdTracked ev.pid (fdArg ev idx)

/-- `hasTrackedFDArg`. -/
def hasTrackedFDArg (s : PathStates) (ev : Event) : Bool :=
  (List.finRange 6).any fun i =>
    i.val < ev.argCount.toNat && ev.argTypes.get i == ArgType.fd &&
      s.fdTracked ev.pid (fdArg ev i)

/-! ### Renaming and unlinking -/

/-- One round of the loop of `rewritePIDPaths`.  The state stays in the map
during the loop, as it keeps a recorded path, so `state.fdPaths[fd] = rewritten`
writes to the stored one. -/
def rewriteFD (s : PathStates) (pid : UInt32) (oldPath newPath : Path)
    (entry : UInt64 × Path) : PathStates :=
  let rewritten := rewritePathPrefix entry.2.val oldPath.val newPath.val
  if rewritten.2 then
    (s.setFDPath pid entry.1 rewritten.1).syncTrackedFD pid entry.1 rewritten.1
  else s

/-- The entries a loop over the map visits, each once. -/
def entries (fdPaths : GoMap UInt64 Path) : List (UInt64 × Path) :=
  (fdPaths.keyList UInt64.toNat fun _ _ => UInt64.toNat_inj.mp).filterMap fun fd =>
    (fdPaths.get fd).map fun path => (fd, path)

/-- The working directory in `rewritePIDPaths`. -/
def rewriteCwd (s : PathStates) (pid : UInt32) (oldPath newPath : Path) : PathStates :=
  match s.stateByPID pid with
  | none => s
  | some state =>
      let rewritten := rewritePathPrefix state.cwd oldPath.val newPath.val
      if state.cwd ≠ [] ∧ rewritten.2 = true then
        s.assign pid fun state => { state with cwd := rewritten.1.val }
      else s

/-- `rewritePIDPaths`. -/
def rewritePIDPaths (s : PathStates) (pid : UInt32) (oldPath newPath : Path) : PathStates :=
  let s := s.rewriteCwd pid oldPath newPath
  match (s.stateByPID pid).bind ProcessPathState.fdPaths with
  | none => s
  | some fdPaths =>
      (entries fdPaths).foldl (fun s entry => s.rewriteFD pid oldPath newPath entry) s

/-- One round of the loop of `dropPIDPaths`; here too the state stays in the
map, as `untrackFD` comes before the path is deleted. -/
def dropFD (s : PathStates) (pid : UInt32) (target : Path) (entry : UInt64 × Path) :
    PathStates :=
  if entry.2 ≠ target then s
  else
    (s.untrackFD pid entry.1).assign pid fun state =>
      { state with fdPaths := state.fdPaths.map fun fdPaths => fdPaths.delete entry.1 }

/-- `dropPIDPaths`. -/
def dropPIDPaths (s : PathStates) (pid : UInt32) (target : Path) : PathStates :=
  match (s.stateByPID pid).bind ProcessPathState.fdPaths with
  | none => s
  | some fdPaths =>
      let s := (entries fdPaths).foldl (fun s entry => s.dropFD pid target entry) s
      (s.assign pid fun state =>
        { state with
          fdPaths := if (state.fdPaths.getD ∅).len = 0 then none else state.fdPaths
        }).maybeDropPIDState pid

end PathStates

/-! ### Forking -/

/-- `cloneTrackedFDSet`. -/
def cloneTrackedFDSet (src : Option (Finset UInt64)) : Option (Finset UInt64) :=
  if src.getD ∅ = ∅ then none else src

/-- `cloneFDPaths`. -/
def cloneFDPaths (src : Option (GoMap UInt64 Path)) : Option (GoMap UInt64 Path) :=
  if (src.getD ∅).len = 0 then none else src

/-- `cloneProcessPathState`. -/
def cloneProcessPathState (src : Option ProcessPathState) : Option ProcessPathState :=
  match src with
  | none => none
  | some src =>
      let state : ProcessPathState :=
        { cwd := src.cwd
          trackedFDs := cloneTrackedFDSet src.trackedFDs
          fdPaths := cloneFDPaths src.fdPaths }
      if state.cwd = [] ∧ state.trackedFDs = none ∧ state.fdPaths.isNone then none
      else some state

namespace PathStates

/-- `observeForkChild`.

What the filter had of the child is lost, to the copy or, if nothing is known of the parent, to
nothing. -/
def observeForkChild (s : PathStates) (parentPID childPID : UInt32) : PathStates :=
  match cloneProcessPathState (s.stateByPID parentPID) with
  | none => s.deletePID childPID
  | some state =>
      { s with stateByPID := Function.update s.stateByPID childPID (some state) }

/-! ### Observing -/

/-- `observeProcessClone`. -/
def observeProcessClone (s : PathStates) (ev : Event) : PathStates :=
  match processCloneChildPID ev with
  | none => s
  | some childPID => s.observeForkChild ev.pid childPID

/-- `observeOpen`.

When the path is not known the descriptor keeps what was recorded for its number before. -/
def observeOpen (s : PathStates) (proc : ProcCwd) (ev : Event) (pathArgIndex : Fin 6) :
    PathStates :=
  if ev.ret < 0 then s
  else
    let resolved := s.resolvePathAt (proc (.observe pathArgIndex)) ev pathArgIndex
    match resolved.2 with
    | none => resolved.1
    | some path =>
        (resolved.1.setFDPath ev.pid ev.ret.toUInt64 path).syncTrackedFD ev.pid
          ev.ret.toUInt64 path

/-- The path of `src`, if there is one, is set for `fd` too, as `observeDupRet` and
`observeFcntl` do. -/
def copyFDPath (s : PathStates) (pid : UInt32) (src fd : UInt64) : PathStates :=
  match s.fdPath pid src with
  | none => s
  | some path => (s.setFDPath pid fd path).syncTrackedFD pid fd path

/-- `observeDupRet`. -/
def observeDupRet (s : PathStates) (ev : Event) (srcIndex : Fin 6) : PathStates :=
  if ev.ret < 0 ∨ ev.argCount.toNat ≤ srcIndex.val then s
  else
    -- The source is looked at after the copy.
    let s := s.copyFDPath ev.pid (fdArg ev srcIndex) ev.ret.toUInt64
    if s.argTracked ev srcIndex then s.trackFD ev.pid ev.ret.toUInt64 else s

/-- `observeDupPair`.

When nothing is recorded for the source, what was recorded for the target goes; `observeDupRet`
leaves it. -/
def observeDupPair (s : PathStates) (ev : Event) : PathStates :=
  if ev.argCount.toNat < 2 ∨ ev.ret < 0 then s
  else
    let oldfd := fdArg ev 0
    let newfd := fdArg ev 1
    let s :=
      match s.fdPath ev.pid oldfd with
      | some path => (s.setFDPath ev.pid newfd path).syncTrackedFD ev.pid newfd path
      | none => (s.unsetFDPath ev.pid newfd).untrackFD ev.pid newfd
    if s.fdTracked ev.pid oldfd then s.trackFD ev.pid newfd else s.untrackFD ev.pid newfd

/-- `observeFcntl`.

Only a tracked source is followed, unlike in `observeDupRet`. -/
def observeFcntl (s : PathStates) (ev : Event) : PathStates :=
  if ev.argCount.toNat < 2 ∨ ev.ret < 0 ∨ s.argTracked ev 0 = false then s
  else
    let cmd := (ev.args.get 1).toInt64
    if cmd ≠ Unix.fDupfd ∧ cmd ≠ Unix.fDupfdCloexec then s
    else
      let s := s.copyFDPath ev.pid (fdArg ev 0) ev.ret.toUInt64
      s.trackFD ev.pid ev.ret.toUInt64

/-- `observeClose`. -/
def observeClose (s : PathStates) (ev : Event) : PathStates :=
  if ev.ret < 0 ∨ ev.argCount.toNat < 1 then s
  else
    let fd := fdArg ev 0
    (s.untrackFD ev.pid fd).unsetFDPath ev.pid fd

/-- `observeChdir`. -/
def observeChdir (s : PathStates) (proc : ProcCwd) (ev : Event) : PathStates :=
  if ev.ret < 0 then s
  else
    let resolved := s.resolvePathAt (proc (.observe 0)) ev 0
    match resolved.2 with
    | none => resolved.1
    | some path => resolved.1.assign ev.pid fun state => { state with cwd := path.val }

/-- `observeFchdir`. -/
def observeFchdir (s : PathStates) (ev : Event) : PathStates :=
  if ev.ret < 0 ∨ ev.argCount.toNat < 1 then s
  else
    match s.fdPath ev.pid (fdArg ev 0) with
    | none => s
    | some path => s.assign ev.pid fun state => { state with cwd := path.val }

/-- `observeRename`. -/
def observeRename (s : PathStates) (proc : ProcCwd) (ev : Event) (oldIndex newIndex : Fin 6) :
    PathStates :=
  if ev.ret < 0 then s
  else
    let old := s.resolvePathAt (proc (.observe oldIndex)) ev oldIndex
    match old.2 with
    | none => old.1
    | some oldPath =>
        -- A read for the old path may have cached the working directory.
        let new := old.1.resolvePathAt (proc (.observe newIndex)) ev newIndex
        match new.2 with
        | none => new.1
        | some newPath => new.1.rewritePIDPaths ev.pid oldPath newPath

/-- `observeUnlink`. -/
def observeUnlink (s : PathStates) (proc : ProcCwd) (ev : Event) (pathIndex : Fin 6) :
    PathStates :=
  if ev.ret < 0 then s
  else
    let resolved := s.resolvePathAt (proc (.observe pathIndex)) ev pathIndex
    match resolved.2 with
    | none => resolved.1
    | some path => resolved.1.dropPIDPaths ev.pid path

/-- The `switch` of `observe`. -/
def observeSyscall (s : PathStates) (proc : ProcCwd) (ev : Event) : PathStates :=
  if ev.syscallId = Unix.sysOpen then s.observeOpen proc ev 0
  else if ev.syscallId = Unix.sysOpenat then s.observeOpen proc ev 1
  else if ev.syscallId = Unix.sysOpenat2 then s.observeOpen proc ev 1
  else if ev.syscallId = Unix.sysDup then s.observeDupRet ev 0
  else if ev.syscallId ∈ [Unix.sysDup2, Unix.sysDup3] then s.observeDupPair ev
  else if ev.syscallId = Unix.sysFcntl then s.observeFcntl ev
  else if ev.syscallId = Unix.sysClose then s.observeClose ev
  else if ev.syscallId = Unix.sysChdir then s.observeChdir proc ev
  else if ev.syscallId = Unix.sysFchdir then s.observeFchdir ev
  else if ev.syscallId = Unix.sysRename then s.observeRename proc ev 0 1
  else if ev.syscallId ∈ [Unix.sysRenameat, Unix.sysRenameat2] then
    s.observeRename proc ev 1 3
  else if ev.syscallId = Unix.sysUnlink then s.observeUnlink proc ev 0
  else if ev.syscallId = Unix.sysUnlinkat then s.observeUnlink proc ev 1
  else s

/-- `observe`.

The child comes first: a clone is no other case of the switch. -/
def observe (s : PathStates) (proc : ProcCwd) (ev : Event) : PathStates :=
  (s.observeProcessClone ev).observeSyscall proc ev

end PathStates

/-! ## The filter -/

/-- The part of `Config` the filter reads. -/
structure Config where
  followForks : Bool
  traceSyscallIDs : Finset Int64
  tracePaths : List GoString

/-- `pathFilter`.

The states of the processes are a structure of their own because almost all methods work on them
alone, and the traced paths and the selector never change after `newPathFilter`. -/
structure PathFilter extends PathStates where
  userTraceIDs : Finset Int64
  userTraceAll : Bool
  pathFilterMode : Bool

/-- `newPathFilter`. -/
def newPathFilter (cfg : Config) : PathFilter where
  paths := cfg.tracePaths.toFinset
  stateByPID _ := none
  userTraceIDs := cfg.traceSyscallIDs
  userTraceAll := decide (cfg.traceSyscallIDs = ∅)
  pathFilterMode := decide (0 < cfg.tracePaths.length)

/-- `pathFilterSupportSyscallIDs`. -/
def pathFilterSupportSyscallIDs : List Int64 :=
  [Unix.sysOpen, Unix.sysOpenat, Unix.sysClose, Unix.sysDup, Unix.sysDup2, Unix.sysDup3,
    Unix.sysFcntl, Unix.sysChdir, Unix.sysFchdir, Unix.sysRename, Unix.sysRenameat,
    Unix.sysRenameat2, Unix.sysUnlink, Unix.sysUnlinkat, Unix.sysAccess, Unix.sysStat,
    Unix.sysLstat, Unix.sysNewfstatat, Unix.sysFaccessat, Unix.sysStatx, Unix.sysOpenat2,
    Unix.sysFaccessat2]

/-- `pathFilterForkSupportSyscallIDs`. -/
def pathFilterForkSupportSyscallIDs : List Int64 :=
  [Unix.sysFork, Unix.sysVfork, Unix.sysClone, Unix.sysClone3]

/-- `handleTraceSyscallIDs`.

The programs record more than the user has asked for when the filter needs it to follow the
descriptors; `userAllows` takes that out again. -/
def handleTraceSyscallIDs (cfg : Config) : Finset Int64 :=
  if cfg.tracePaths = [] ∨ cfg.traceSyscallIDs = ∅ then cfg.traceSyscallIDs
  else
    let ids := cfg.traceSyscallIDs ∪ pathFilterSupportSyscallIDs.toFinset
    if cfg.followForks then ids ∪ pathFilterForkSupportSyscallIDs.toFinset else ids

namespace PathFilter

/-- `userAllows`. -/
def userAllows (f : PathFilter) (syscallId : Int64) : Bool :=
  f.userTraceAll || decide (syscallId ∈ f.userTraceIDs)

/-- `shouldPrint`. -/
def shouldPrint (f : PathFilter) (proc : ProcCwd) (ev : Event) : PathStates × Bool :=
  if f.userAllows ev.syscallId = false then (f.toPathStates, false)
  else
    let matched := f.matchesPath proc ev
    if matched.2 then matched else (matched.1, matched.1.hasTrackedFDArg ev)

/-- `shouldOutput`.

An event is judged in the state before it: an `open` by the path it names, a `close` while its
descriptor is still recorded. -/
def shouldOutput (f : PathFilter) (proc : ProcCwd) (ev : Event) : PathFilter × Bool :=
  if f.pathFilterMode = false then (f, true)
  else
    let printed := f.shouldPrint proc ev
    ({ f with toPathStates := printed.1.observe proc ev }, printed.2)

end PathFilter

/-! ## Runs -/

/-- An event as the filter meets it, with the answers to its reads of `/proc`. -/
structure Arrival where
  ev : Event
  proc : ProcCwd

/-- No read of `/proc` succeeds at the arrival. -/
def Arrival.Unread (a : Arrival) : Prop := ∀ site pid, a.proc site pid = none

namespace PathFilter

/-- The filter after an arrival. -/
def next (f : PathFilter) (a : Arrival) : PathFilter := (f.shouldOutput a.proc a.ev).1

/-- The decision on an arrival. -/
def decision (f : PathFilter) (a : Arrival) : Bool := (f.shouldOutput a.proc a.ev).2

end PathFilter

/-- The events a filter prints, in order. -/
def printed (f : PathFilter) (as : List Arrival) : List Event :=
  emitted PathFilter.next (fun f a => if f.decision a then [a.ev] else []) f as

end Litrace.Trace
