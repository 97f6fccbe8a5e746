import Litrace.Trace.VarArgs

/-!
# The path filter, with its indices

The functions of `path_filter.go` that index an array of the event or slice a
string, and those that call them, with every such expression as it stands there.
Each agrees with the function of the same name that takes the indices for granted,
so none of them leaves an array, on any event and in any state.

The functions come twice, as proofs about the filter would otherwise have to carry
along that each index is inside.  Here the expressions stand as the source has
them, each with its guard before it, and agreement is shown function by function
in the order in which they call each other.
-/

namespace Litrace.Trace

open Filepath

namespace Indexed

/-! ## Resolving paths -/

/-- `pathBaseFDArgIndex`. -/
def pathBaseFDArgIndex (syscallId : Int64) (argIndex : ℤ) : ℤ × Bool :=
  if syscallId ∈ [Unix.sysOpenat, Unix.sysOpenat2, Unix.sysUnlinkat, Unix.sysNewfstatat,
      Unix.sysFaccessat, Unix.sysStatx, Unix.sysFaccessat2] then
    if argIndex = 1 then (0, true) else (-1, false)
  else if syscallId ∈ [Unix.sysRenameat, Unix.sysRenameat2] then
    if argIndex = 1 then (0, true)
    else if argIndex = 3 then (2, true)
    else (-1, false)
  else if syscallId ∈ [Unix.sysOpen, Unix.sysAccess, Unix.sysStat, Unix.sysLstat,
      Unix.sysChdir, Unix.sysUnlink, Unix.sysRename] then
    (-1, true)
  else (-1, false)

variable (s : PathStates) (ev : Event)

/-- `resolvePathBase`. -/
def resolvePathBase (read : UInt32 → Option GoString) (argIndex : ℤ) :
    Checked (PathStates × Option Path) := do
  let base := pathBaseFDArgIndex ev.syscallId argIndex
  if base.2 = false then return s.cwdForPID read ev.pid
  if base.1 < 0 then return s.cwdForPID read ev.pid
  if (ev.argCount.toNat : ℤ) ≤ base.1 then return (s, none)
  let dirfd := (← Checked.index ev.args base.1).toUInt32.toInt32.toInt64
  if dirfd = Unix.atFdcwd then return s.cwdForPID read ev.pid
  return (s, s.fdPath ev.pid (normalizeTrackedFD (← Checked.index ev.args base.1)))

/-- `resolvePath`. -/
def resolvePath (read : UInt32 → Option GoString) (argIndex : ℤ) (path : GoString) :
    Checked (PathStates × Option Path) := do
  if path = [] then return (s, none)
  if isAbs path then return (s, some (cleanPath path))
  let base ← resolvePathBase s ev read argIndex
  return (base.1, base.2.map fun base => cleanPath (join base.val path))

/-- `resolvePathAt`. -/
def resolvePathAt (read : UInt32 → Option GoString) (argIndex : ℤ) :
    Checked (PathStates × Option Path) := do
  match ← eventTracePathAt ev argIndex with
  | none => return (s, none)
  | some path => resolvePath s ev read argIndex path

/-! ## Matching -/

/-- `matchesPathAt`. -/
def matchesPathAt (proc : ProcCwd) (argIndex : Fin 6) : Checked (PathStates × Bool) := do
  let resolved ← resolvePathAt s ev (proc (.shouldPrint argIndex)) argIndex.val
  match resolved.2 with
  | none => return (resolved.1, false)
  | some path => return (resolved.1, decide (path.val ∈ resolved.1.paths))

/-- `f.matchesPathAt(ev, i) || f.matchesPathAt(ev, j)`. -/
def matchesEitherPathAt (proc : ProcCwd) (i j : Fin 6) : Checked (PathStates × Bool) := do
  let first ← matchesPathAt s ev proc i
  if first.2 then return first else matchesPathAt first.1 ev proc j

/-- `matchesPath`. -/
def matchesPath (proc : ProcCwd) : Checked (PathStates × Bool) :=
  if ev.syscallId = Unix.sysOpen then matchesPathAt s ev proc 0
  else if ev.syscallId ∈ [Unix.sysOpenat, Unix.sysOpenat2, Unix.sysNewfstatat,
      Unix.sysFaccessat, Unix.sysStatx, Unix.sysFaccessat2] then
    matchesPathAt s ev proc 1
  else if ev.syscallId ∈ [Unix.sysAccess, Unix.sysStat, Unix.sysLstat, Unix.sysChdir,
      Unix.sysUnlink] then
    matchesPathAt s ev proc 0
  else if ev.syscallId = Unix.sysRename then matchesEitherPathAt s ev proc 0 1
  else if ev.syscallId = Unix.sysUnlinkat then matchesPathAt s ev proc 1
  else if ev.syscallId ∈ [Unix.sysRenameat, Unix.sysRenameat2] then
    matchesEitherPathAt s ev proc 1 3
  else return (s, false)

/-- `argTracked`. -/
def argTracked (idx : ℤ) : Checked Bool := do
  if idx < 0 ∨ (ev.argCount.toNat : ℤ) ≤ idx ∨ 6 ≤ idx then return false
  if (← Checked.index ev.argTypes idx) ≠ ArgType.fd then return false
  return s.fdTracked ev.pid (normalizeTrackedFD (← Checked.index ev.args idx))

/-- `hasTrackedFDArg`. -/
def hasTrackedFDArg : Checked Bool := do
  let found ← (List.range (min ev.argCount.toNat 6)).findSomeM? fun (i : ℕ) => do
    if (← Checked.index ev.argTypes i) ≠ ArgType.fd then return none
    let fd := normalizeTrackedFD (← Checked.index ev.args i)
    return if s.fdTracked ev.pid fd then some true else none
  return found.getD false

/-! ## Renaming -/

/-- `rewritePathPrefix`. -/
def rewritePathPrefix (path oldBase newBase : GoString) : Checked (Path × Bool) := do
  let path := cleanPath path
  let oldBase := cleanPath oldBase
  let newBase := cleanPath newBase
  if path = oldBase then return (newBase, true)
  let pre := oldBase.val ++ [separator]
  if path.val.length ≤ pre.length then return (path, false)
  if (← Checked.slice path.val 0 pre.length) ≠ pre then return (path, false)
  return (joinPath newBase (← Checked.slice path.val pre.length path.val.length), true)

/-- One round of the loop of `rewritePIDPaths`. -/
def rewriteFD (pid : UInt32) (oldPath newPath : Path) (entry : UInt64 × Path) :
    Checked PathStates := do
  let rewritten ← rewritePathPrefix entry.2.val oldPath.val newPath.val
  if rewritten.2 then
    return (s.setFDPath pid entry.1 rewritten.1).syncTrackedFD pid entry.1 rewritten.1
  else return s

/-- The working directory in `rewritePIDPaths`. -/
def rewriteCwd (pid : UInt32) (oldPath newPath : Path) : Checked PathStates := do
  match s.stateByPID pid with
  | none => return s
  | some state =>
      if state.cwd = [] then return s
      let rewritten ← rewritePathPrefix state.cwd oldPath.val newPath.val
      if rewritten.2 then
        return s.assign pid fun state => { state with cwd := rewritten.1.val }
      else return s

/-- `rewritePIDPaths`. -/
def rewritePIDPaths (pid : UInt32) (oldPath newPath : Path) : Checked PathStates := do
  let s ← rewriteCwd s pid oldPath newPath
  match (s.stateByPID pid).bind ProcessPathState.fdPaths with
  | none => return s
  | some fdPaths =>
      (PathStates.entries fdPaths).foldlM (fun s entry => rewriteFD s pid oldPath newPath entry) s

/-! ## Observing -/

/-- `observeOpen`. -/
def observeOpen (proc : ProcCwd) (pathArgIndex : Fin 6) : Checked PathStates := do
  if ev.ret < 0 then return s
  let resolved ← resolvePathAt s ev (proc (.observe pathArgIndex)) pathArgIndex.val
  match resolved.2 with
  | none => return resolved.1
  | some path =>
      return (resolved.1.setFDPath ev.pid ev.ret.toUInt64 path).syncTrackedFD ev.pid
        ev.ret.toUInt64 path

/-- `observeDupRet`. -/
def observeDupRet (srcIndex : ℤ) : Checked PathStates := do
  if ev.ret < 0 ∨ srcIndex < 0 ∨ (ev.argCount.toNat : ℤ) ≤ srcIndex then return s
  let srcFD := normalizeTrackedFD (← Checked.index ev.args srcIndex)
  let s := s.copyFDPath ev.pid srcFD ev.ret.toUInt64
  if !(← argTracked s ev srcIndex) then return s
  return s.trackFD ev.pid ev.ret.toUInt64

/-- `observeDupPair`. -/
def observeDupPair : Checked PathStates := do
  if ev.argCount.toNat < 2 ∨ ev.ret < 0 then return s
  let oldfd := normalizeTrackedFD (← Checked.index ev.args 0)
  let newfd := normalizeTrackedFD (← Checked.index ev.args 1)
  let s :=
    match s.fdPath ev.pid oldfd with
    | some path => (s.setFDPath ev.pid newfd path).syncTrackedFD ev.pid newfd path
    | none => (s.unsetFDPath ev.pid newfd).untrackFD ev.pid newfd
  return if s.fdTracked ev.pid oldfd then s.trackFD ev.pid newfd else s.untrackFD ev.pid newfd

/-- `observeFcntl`. -/
def observeFcntl : Checked PathStates := do
  if ev.argCount.toNat < 2 ∨ ev.ret < 0 then return s
  if !(← argTracked s ev 0) then return s
  let cmd := (← Checked.index ev.args 1).toInt64
  if cmd ≠ Unix.fDupfd ∧ cmd ≠ Unix.fDupfdCloexec then return s
  let srcFD := normalizeTrackedFD (← Checked.index ev.args 0)
  return (s.copyFDPath ev.pid srcFD ev.ret.toUInt64).trackFD ev.pid ev.ret.toUInt64

/-- `observeClose`. -/
def observeClose : Checked PathStates := do
  if ev.ret < 0 ∨ ev.argCount.toNat < 1 then return s
  let fd := normalizeTrackedFD (← Checked.index ev.args 0)
  return (s.untrackFD ev.pid fd).unsetFDPath ev.pid fd

/-- `observeChdir`. -/
def observeChdir (proc : ProcCwd) : Checked PathStates := do
  if ev.ret < 0 then return s
  let resolved ← resolvePathAt s ev (proc (.observe 0)) 0
  match resolved.2 with
  | none => return resolved.1
  | some path => return resolved.1.assign ev.pid fun state => { state with cwd := path.val }

/-- `observeFchdir`. -/
def observeFchdir : Checked PathStates := do
  if ev.ret < 0 ∨ ev.argCount.toNat < 1 then return s
  match s.fdPath ev.pid (normalizeTrackedFD (← Checked.index ev.args 0)) with
  | none => return s
  | some path => return s.assign ev.pid fun state => { state with cwd := path.val }

/-- `observeRename`. -/
def observeRename (proc : ProcCwd) (oldIndex newIndex : Fin 6) : Checked PathStates := do
  if ev.ret < 0 then return s
  let old ← resolvePathAt s ev (proc (.observe oldIndex)) oldIndex.val
  match old.2 with
  | none => return old.1
  | some oldPath =>
      let new ← resolvePathAt old.1 ev (proc (.observe newIndex)) newIndex.val
      match new.2 with
      | none => return new.1
      | some newPath => rewritePIDPaths new.1 ev.pid oldPath newPath

/-- `observeUnlink`. -/
def observeUnlink (proc : ProcCwd) (pathIndex : Fin 6) : Checked PathStates := do
  if ev.ret < 0 then return s
  let resolved ← resolvePathAt s ev (proc (.observe pathIndex)) pathIndex.val
  match resolved.2 with
  | none => return resolved.1
  | some path => return resolved.1.dropPIDPaths ev.pid path

/-- `observe`. -/
def observe (proc : ProcCwd) : Checked PathStates :=
  let s := s.observeProcessClone ev
  if ev.syscallId = Unix.sysOpen then observeOpen s ev proc 0
  else if ev.syscallId = Unix.sysOpenat then observeOpen s ev proc 1
  else if ev.syscallId = Unix.sysOpenat2 then observeOpen s ev proc 1
  else if ev.syscallId = Unix.sysDup then observeDupRet s ev 0
  else if ev.syscallId ∈ [Unix.sysDup2, Unix.sysDup3] then observeDupPair s ev
  else if ev.syscallId = Unix.sysFcntl then observeFcntl s ev
  else if ev.syscallId = Unix.sysClose then observeClose s ev
  else if ev.syscallId = Unix.sysChdir then observeChdir s ev proc
  else if ev.syscallId = Unix.sysFchdir then observeFchdir s ev
  else if ev.syscallId = Unix.sysRename then observeRename s ev proc 0 1
  else if ev.syscallId ∈ [Unix.sysRenameat, Unix.sysRenameat2] then
    observeRename s ev proc 1 3
  else if ev.syscallId = Unix.sysUnlink then observeUnlink s ev proc 0
  else if ev.syscallId = Unix.sysUnlinkat then observeUnlink s ev proc 1
  else return s

end Indexed

/-! ## The decision -/

namespace Indexed

variable (f : PathFilter) (proc : ProcCwd) (ev : Event)

/-- `shouldPrint`. -/
def shouldPrint : Checked (PathStates × Bool) := do
  if f.userAllows ev.syscallId = false then return (f.toPathStates, false)
  let matched ← matchesPath f.toPathStates ev proc
  if matched.2 then return matched
  return (matched.1, ← hasTrackedFDArg matched.1 ev)

/-- `shouldOutput`. -/
def shouldOutput : Checked (PathFilter × Bool) := do
  if f.pathFilterMode = false then return (f, true)
  let printed ← shouldPrint f proc ev
  let observed ← observe printed.1 ev proc
  return ({ f with toPathStates := observed }, printed.2)

end Indexed

/-! ## They stay inside -/

section Refinement

variable (s : PathStates) (ev : Event) (proc : ProcCwd) (read : UInt32 → Option GoString)

/-- The source returns an index and whether there is one, with -1 for the working directory; the
other function has a type for the three cases. -/
theorem indexed_pathBaseFDArgIndex (syscallId : Int64) (argIndex : Fin 6) :
    Indexed.pathBaseFDArgIndex syscallId (argIndex.val : ℤ) =
      match pathBaseFDArgIndex syscallId argIndex with
      | none => (-1, false)
      | some none => (-1, true)
      | some (some i) => ((i.val : ℤ), true) := by
  have one : (argIndex.val : ℤ) = 1 ↔ argIndex = 1 := by omega
  have three : (argIndex.val : ℤ) = 3 ↔ argIndex = 3 := by omega
  simp only [Indexed.pathBaseFDArgIndex, pathBaseFDArgIndex, one, three]
  split_ifs <;> rfl

/-- The index of the base is in the array, as `pathBaseFDArgIndex` returns no other. -/
theorem indexed_resolvePathBase (argIndex : Fin 6) :
    Indexed.resolvePathBase s ev read (argIndex.val : ℤ) =
      .ok (s.resolvePathBase read ev argIndex) := by
  rw [Indexed.resolvePathBase, indexed_pathBaseFDArgIndex, PathStates.resolvePathBase]
  cases pathBaseFDArgIndex ev.syscallId argIndex with
  | none => rfl
  | some base =>
      cases base with
      | none => rfl
      | some i =>
          have below : ¬ (i.val : ℤ) < 0 := by omega
          simp only [Checked.index_val, Checked.ok_bind, Bool.true_eq_false, if_false, below,
            Int.ofNat_le]
          split
          · rfl
          · split
            · rfl
            · rfl

theorem indexed_resolvePath (argIndex : Fin 6) (path : GoString) :
    Indexed.resolvePath s ev read (argIndex.val : ℤ) path =
      .ok (s.resolvePath read ev argIndex path) := by
  rw [Indexed.resolvePath, indexed_resolvePathBase, PathStates.resolvePath, Checked.ok_bind]
  split
  · rfl
  · split
    · rfl
    · rfl

theorem indexed_resolvePathAt (argIndex : Fin 6) :
    Indexed.resolvePathAt s ev read (argIndex.val : ℤ) =
      .ok (s.resolvePathAt read ev argIndex) := by
  rw [Indexed.resolvePathAt, indexed_eventTracePathAt, Checked.ok_bind, PathStates.resolvePathAt]
  cases eventTracePathAt ev argIndex with
  | none => rfl
  | some path => exact indexed_resolvePath s ev read argIndex path

/-! ### Matching -/

theorem indexed_matchesPathAt (argIndex : Fin 6) :
    Indexed.matchesPathAt s ev proc argIndex = .ok (s.matchesPathAt proc ev argIndex) := by
  rw [Indexed.matchesPathAt, indexed_resolvePathAt, Checked.ok_bind, PathStates.matchesPathAt]
  cases (s.resolvePathAt (proc (.shouldPrint argIndex)) ev argIndex).2 with
  | none => rfl
  | some path => rfl

theorem indexed_matchesEitherPathAt (i j : Fin 6) :
    Indexed.matchesEitherPathAt s ev proc i j = .ok (s.matchesEitherPathAt proc ev i j) := by
  rw [Indexed.matchesEitherPathAt, indexed_matchesPathAt, Checked.ok_bind,
    PathStates.matchesEitherPathAt]
  split
  · rfl
  · exact indexed_matchesPathAt (s.matchesPathAt proc ev i).1 ev proc j

theorem indexed_matchesPath :
    Indexed.matchesPath s ev proc = .ok (s.matchesPath proc ev) := by
  unfold Indexed.matchesPath PathStates.matchesPath
  simp only [indexed_matchesPathAt, indexed_matchesEitherPathAt, apply_ite Except.ok]
  rfl

theorem indexed_argTracked (idx : Fin 6) :
    Indexed.argTracked s ev (idx.val : ℤ) = .ok (s.argTracked ev idx) := by
  have outside : ((idx.val : ℤ) < 0 ∨ (ev.argCount.toNat : ℤ) ≤ idx.val ∨ 6 ≤ (idx.val : ℤ)) ↔
      ev.argCount.toNat ≤ idx.val := by
    omega
  simp only [Indexed.argTracked, PathStates.argTracked, Checked.index_val, Checked.ok_bind, outside]
  split_ifs <;> rfl

/-- A round of the loop of `hasTrackedFDArg`. -/
def trackedRound (i : Fin 6) : Option Bool :=
  if ev.argTypes.get i ≠ ArgType.fd then none
  else if s.fdTracked ev.pid (fdArg ev i) then some true else none

/-- The loop goes up to the count of the event, but no farther than the array. -/
theorem indexed_hasTrackedFDArg :
    Indexed.hasTrackedFDArg s ev = .ok (s.hasTrackedFDArg ev) := by
  have rounds : (List.range (min ev.argCount.toNat 6)).findSomeM? (fun (i : ℕ) => do
      if (← Checked.index ev.argTypes i) ≠ ArgType.fd then return none
      let fd := normalizeTrackedFD (← Checked.index ev.args i)
      return if s.fdTracked ev.pid fd then some true else none) =
      .ok ((List.range (min ev.argCount.toNat 6)).findSome? fun i =>
        if inside : i < 6 then trackedRound s ev ⟨i, inside⟩ else none) := by
    refine Checked.findSomeM?_eq_ok fun i round => ?_
    have inside : i < 6 := by
      have below := List.mem_range.1 round
      omega
    rw [Checked.index_natCast ev.argTypes inside, Checked.index_natCast ev.args inside,
      Checked.ok_bind, dif_pos inside, trackedRound]
    split
    · rfl
    · rfl
  have hits : (fun i : Fin 6 => if i.val < ev.argCount.toNat then trackedRound s ev i else none) =
      fun i => if (i.val < ev.argCount.toNat && ev.argTypes.get i == ArgType.fd &&
        s.fdTracked ev.pid (fdArg ev i)) then some true else none := by
    funext i
    by_cases below : i.val < ev.argCount.toNat
    · by_cases typed : ev.argTypes.get i = ArgType.fd
      · simp [trackedRound, below, typed]
      · simp [trackedRound, below, typed]
    · simp [below]
  rw [Indexed.hasTrackedFDArg, rounds, Checked.ok_bind, Checked.findSome?_range_min, hits,
    Checked.findSome?_some_true]
  rfl

/-! ### Renaming -/

/-- The slice behind the prefix is inside since the prefix has been found. -/
theorem indexed_rewritePathPrefix (path oldBase newBase : GoString) :
    Indexed.rewritePathPrefix path oldBase newBase =
      .ok (rewritePathPrefix path oldBase newBase) := by
  unfold Indexed.rewritePathPrefix rewritePathPrefix
  dsimp only
  split
  · rfl
  · by_cases short : (cleanPath path).val.length ≤ ((cleanPath oldBase).val ++ [separator]).length
    · rw [if_pos short, if_pos (Or.inl short)]
      rfl
    · rw [if_neg short, Checked.slice_zero (by omega), Checked.slice_length (by omega),
        Checked.ok_bind, Checked.ok_bind]
      by_cases other : (cleanPath path).val.take ((cleanPath oldBase).val ++ [separator]).length ≠
          (cleanPath oldBase).val ++ [separator]
      · rw [if_pos other, if_pos (Or.inr other)]
        rfl
      · rw [if_neg other, if_neg (not_or.2 ⟨short, other⟩)]
        rfl

theorem indexed_rewriteFD (pid : UInt32) (oldPath newPath : Path) (entry : UInt64 × Path) :
    Indexed.rewriteFD s pid oldPath newPath entry =
      .ok (s.rewriteFD pid oldPath newPath entry) := by
  rw [Indexed.rewriteFD, indexed_rewritePathPrefix, Checked.ok_bind, PathStates.rewriteFD]
  split
  · rfl
  · rfl

theorem indexed_rewriteCwd (pid : UInt32) (oldPath newPath : Path) :
    Indexed.rewriteCwd s pid oldPath newPath = .ok (s.rewriteCwd pid oldPath newPath) := by
  unfold Indexed.rewriteCwd PathStates.rewriteCwd
  cases s.stateByPID pid with
  | none => rfl
  | some state =>
      dsimp only
      by_cases empty : state.cwd = []
      · rw [if_pos empty, if_neg fun kept => kept.1 empty]
        rfl
      · rw [if_neg empty, indexed_rewritePathPrefix, Checked.ok_bind]
        simp only [ne_eq, empty, not_false_eq_true, true_and]
        split
        · rfl
        · rfl

theorem indexed_rewritePIDPaths (pid : UInt32) (oldPath newPath : Path) :
    Indexed.rewritePIDPaths s pid oldPath newPath =
      .ok (s.rewritePIDPaths pid oldPath newPath) := by
  rw [Indexed.rewritePIDPaths, indexed_rewriteCwd, Checked.ok_bind, PathStates.rewritePIDPaths]
  cases ((s.rewriteCwd pid oldPath newPath).stateByPID pid).bind ProcessPathState.fdPaths with
  | none => rfl
  | some fdPaths =>
      simp only [indexed_rewriteFD]
      exact List.foldlM_pure

/-! ### Observing -/

theorem indexed_observeOpen (pathArgIndex : Fin 6) :
    Indexed.observeOpen s ev proc pathArgIndex = .ok (s.observeOpen proc ev pathArgIndex) := by
  rw [Indexed.observeOpen, indexed_resolvePathAt, Checked.ok_bind, PathStates.observeOpen]
  dsimp only
  split
  · rfl
  · cases (s.resolvePathAt (proc (.observe pathArgIndex)) ev pathArgIndex).2 with
    | none => rfl
    | some path => rfl

/-- The count of the event is checked before its first argument is looked at. -/
theorem indexed_observeDupRet (srcIndex : Fin 6) :
    Indexed.observeDupRet s ev (srcIndex.val : ℤ) = .ok (s.observeDupRet ev srcIndex) := by
  have outside : ((srcIndex.val : ℤ) < 0 ∨ (ev.argCount.toNat : ℤ) ≤ srcIndex.val) ↔
      ev.argCount.toNat ≤ srcIndex.val := by
    omega
  simp only [Indexed.observeDupRet, PathStates.observeDupRet, outside, Checked.index_val,
    Checked.ok_bind, indexed_argTracked]
  split
  · rfl
  · change (if (!(s.copyFDPath ev.pid (fdArg ev srcIndex) ev.ret.toUInt64).argTracked ev srcIndex)
        = true then _ else _) = _
    cases (s.copyFDPath ev.pid (fdArg ev srcIndex) ev.ret.toUInt64).argTracked ev srcIndex with
    | false => rfl
    | true => rfl

/-- `ev.Args[0]`. -/
theorem index_args_zero : Checked.index ev.args 0 = .ok (ev.args.get 0) :=
  Checked.index_val ev.args 0

/-- `ev.Args[1]`. -/
theorem index_args_one : Checked.index ev.args 1 = .ok (ev.args.get 1) :=
  Checked.index_val ev.args 1

theorem indexed_observeDupPair :
    Indexed.observeDupPair s ev = .ok (s.observeDupPair ev) := by
  rw [Indexed.observeDupPair, index_args_zero, index_args_one, PathStates.observeDupPair]
  split
  · rfl
  · rfl

theorem indexed_observeFcntl : Indexed.observeFcntl s ev = .ok (s.observeFcntl ev) := by
  have tracked : Indexed.argTracked s ev 0 = .ok (s.argTracked ev 0) := indexed_argTracked s ev 0
  rw [Indexed.observeFcntl, tracked, index_args_zero, index_args_one, PathStates.observeFcntl]
  by_cases outside : ev.argCount.toNat < 2 ∨ ev.ret < 0
  · rw [if_pos outside, if_pos (or_assoc.1 (Or.inl outside))]
    rfl
  · rw [if_neg outside, Checked.ok_bind]
    cases held : s.argTracked ev 0 with
    | false =>
        rw [if_pos (or_assoc.1 (Or.inr rfl))]
        rfl
    | true =>
        rw [if_neg fun h => (or_assoc.2 h).elim outside Bool.true_eq_false.mp]
        simp only [Bool.not_true, Bool.false_eq_true, if_false, Checked.ok_bind]
        split
        · rfl
        · rfl

theorem indexed_observeClose : Indexed.observeClose s ev = .ok (s.observeClose ev) := by
  rw [Indexed.observeClose, index_args_zero, PathStates.observeClose]
  split
  · rfl
  · rfl

theorem indexed_observeChdir :
    Indexed.observeChdir s ev proc = .ok (s.observeChdir proc ev) := by
  have resolved : Indexed.resolvePathAt s ev (proc (.observe 0)) 0 =
      .ok (s.resolvePathAt (proc (.observe 0)) ev 0) :=
    indexed_resolvePathAt s ev (proc (.observe 0)) 0
  rw [Indexed.observeChdir, resolved, Checked.ok_bind, PathStates.observeChdir]
  dsimp only
  split
  · rfl
  · cases (s.resolvePathAt (proc (.observe 0)) ev 0).2 with
    | none => rfl
    | some path => rfl

theorem indexed_observeFchdir : Indexed.observeFchdir s ev = .ok (s.observeFchdir ev) := by
  rw [Indexed.observeFchdir, index_args_zero, PathStates.observeFchdir, Checked.ok_bind, fdArg]
  split
  · rfl
  · cases s.fdPath ev.pid (normalizeTrackedFD (ev.args.get 0)) with
    | none => rfl
    | some path => rfl

/-- Both paths are at fixed places, which the dispatch on the syscall chooses. -/
theorem indexed_observeRename (oldIndex newIndex : Fin 6) :
    Indexed.observeRename s ev proc oldIndex newIndex =
      .ok (s.observeRename proc ev oldIndex newIndex) := by
  rw [Indexed.observeRename, indexed_resolvePathAt, Checked.ok_bind, PathStates.observeRename]
  dsimp only
  split
  · rfl
  · cases (s.resolvePathAt (proc (.observe oldIndex)) ev oldIndex).2 with
    | none => rfl
    | some oldPath =>
        simp only [indexed_resolvePathAt, Checked.ok_bind, indexed_rewritePIDPaths]
        generalize (s.resolvePathAt (proc (.observe oldIndex)) ev oldIndex).1.resolvePathAt
          (proc (.observe newIndex)) ev newIndex = new
        cases new.2 with
        | none => rfl
        | some newPath => rfl

theorem indexed_observeUnlink (pathIndex : Fin 6) :
    Indexed.observeUnlink s ev proc pathIndex = .ok (s.observeUnlink proc ev pathIndex) := by
  rw [Indexed.observeUnlink, indexed_resolvePathAt, Checked.ok_bind, PathStates.observeUnlink]
  dsimp only
  split
  · rfl
  · cases (s.resolvePathAt (proc (.observe pathIndex)) ev pathIndex).2 with
    | none => rfl
    | some path => rfl

/-- The dispatch has the indices of all syscalls in it, and each is less than six. -/
theorem indexed_observe : Indexed.observe s ev proc = .ok (s.observe proc ev) := by
  unfold Indexed.observe PathStates.observe PathStates.observeSyscall
  have first : ∀ s : PathStates, Indexed.observeDupRet s ev 0 = .ok (s.observeDupRet ev 0) :=
    fun s => indexed_observeDupRet s ev 0
  simp only [first, indexed_observeOpen, indexed_observeDupPair, indexed_observeFcntl,
    indexed_observeClose, indexed_observeChdir, indexed_observeFchdir, indexed_observeRename,
    indexed_observeUnlink, apply_ite Except.ok]
  rfl

/-! ### The decision -/

theorem indexed_shouldPrint (f : PathFilter) :
    Indexed.shouldPrint f proc ev = .ok (f.shouldPrint proc ev) := by
  rw [Indexed.shouldPrint, indexed_matchesPath, Checked.ok_bind, PathFilter.shouldPrint]
  dsimp only
  split
  · rfl
  · split
    · rfl
    · rw [indexed_hasTrackedFDArg]
      rfl

/-- **The filter leaves no array**, and does what it does when the indices are taken for granted. -/
theorem indexed_shouldOutput (f : PathFilter) :
    Indexed.shouldOutput f proc ev = .ok (f.shouldOutput proc ev) := by
  rw [Indexed.shouldOutput, indexed_shouldPrint, Checked.ok_bind, indexed_observe,
    PathFilter.shouldOutput]
  split
  · rfl
  · rfl

end Refinement

end Litrace.Trace
