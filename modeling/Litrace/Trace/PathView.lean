import Litrace.Trace.PathFilter

/-!
# What the filter knows about a process

The abstract model of the path filter.  A `View` is what the filter can be asked
about one process: its working directory, the paths of its descriptors, and
which of them are tracked.  Descriptors and paths are functions here, there is
no nil and no empty entry, and the loops over maps are pointwise.

An event is read once and for all, without any state: which path it resolves
and from where (`pathArg`), which arguments may match (`matchedArgs`), and what
it does to the descriptors of its process (`observation`).

The model is tied to the code in `PathRefinement`.

What is gained is that a question about the filter becomes one about functions:
two views are equal if they answer alike, the effect of an event on one process
is a value of type `View`, and the effect on all others is nothing by
construction.  What an event does is data (`Observation`), with one case for
each kind of handler, so a property of all events has one case for each kind and
not one for each syscall.
-/

namespace Litrace.Trace

open Filepath

/-! ## Reading an event -/

/-- Where a path argument leads. -/
inductive PathArg where
  | unreadable
  | absolute (path : Path)
  | fromCwd (path : GoString)
  | fromFD (fd : UInt64) (path : GoString)

/-- The path argument of an event. -/
def pathArg (ev : Event) (argIndex : Fin 6) : PathArg :=
  match eventTracePathAt ev argIndex with
  | none => .unreadable
  | some path =>
      if path = [] then .unreadable
      else if isAbs path then .absolute (cleanPath path)
      else
        match pathBaseFDArgIndex ev.syscallId argIndex with
        | none | some none => .fromCwd path
        | some (some i) =>
            if ev.argCount.toNat ≤ i.val then .unreadable
            else if (ev.args.get i).toUInt32.toInt32.toInt64 = Unix.atFdcwd then .fromCwd path
            else .fromFD (fdArg ev i) path

/-- The path arguments that may match, in the order they are tried. -/
def matchedArgs (syscallId : Int64) : List (Fin 6) :=
  if syscallId = Unix.sysOpen then [0]
  else if syscallId ∈ [Unix.sysOpenat, Unix.sysOpenat2, Unix.sysNewfstatat,
      Unix.sysFaccessat, Unix.sysStatx, Unix.sysFaccessat2] then [1]
  else if syscallId ∈ [Unix.sysAccess, Unix.sysStat, Unix.sysLstat, Unix.sysChdir,
      Unix.sysUnlink] then [0]
  else if syscallId = Unix.sysRename then [0, 1]
  else if syscallId = Unix.sysUnlinkat then [1]
  else if syscallId ∈ [Unix.sysRenameat, Unix.sysRenameat2] then [1, 3]
  else []

/-- Whether an argument is there and a descriptor. -/
def isFDArg (ev : Event) (i : Fin 6) : Bool :=
  i.val < ev.argCount.toNat && ev.argTypes.get i == ArgType.fd

/-- The descriptors among the arguments. -/
def fdArgs (ev : Event) : List UInt64 :=
  ((List.finRange 6).filter (isFDArg ev)).map fun i => fdArg ev i

/-- What an event does to the descriptors of its process. -/
inductive Observation where
  | ignored
  | opened (argIndex : Fin 6) (fd : UInt64)
  | duplicated (src fd : UInt64) (isFD : Bool)
  | duplicatedOnto (oldfd newfd : UInt64)
  | duplicatedTracked (src fd : UInt64)
  | closed (fd : UInt64)
  | changedDir
  | changedDirTo (fd : UInt64)
  | renamed (oldIndex newIndex : Fin 6)
  | unlinked (argIndex : Fin 6)

/-- The observation of an event. -/
def observation (ev : Event) : Observation :=
  let ret := ev.ret.toUInt64
  if ev.syscallId = Unix.sysOpen then
    if ev.ret < 0 then .ignored else .opened 0 ret
  else if ev.syscallId = Unix.sysOpenat then
    if ev.ret < 0 then .ignored else .opened 1 ret
  else if ev.syscallId = Unix.sysOpenat2 then
    if ev.ret < 0 then .ignored else .opened 1 ret
  else if ev.syscallId = Unix.sysDup then
    if ev.ret < 0 ∨ ev.argCount.toNat < 1 then .ignored
    else .duplicated (fdArg ev 0) ret (isFDArg ev 0)
  else if ev.syscallId ∈ [Unix.sysDup2, Unix.sysDup3] then
    if ev.argCount.toNat < 2 ∨ ev.ret < 0 then .ignored
    else .duplicatedOnto (fdArg ev 0) (fdArg ev 1)
  else if ev.syscallId = Unix.sysFcntl then
    if ev.ret < 0 then .ignored
    else if 2 ≤ ev.argCount.toNat ∧ isFDArg ev 0 = true ∧
        (ev.args.get 1).toInt64 ∈ [Unix.fDupfd, Unix.fDupfdCloexec] then
      .duplicatedTracked (fdArg ev 0) ret
    else .ignored
  else if ev.syscallId = Unix.sysClose then
    if ev.ret < 0 ∨ ev.argCount.toNat < 1 then .ignored else .closed (fdArg ev 0)
  else if ev.syscallId = Unix.sysChdir then
    if ev.ret < 0 then .ignored else .changedDir
  else if ev.syscallId = Unix.sysFchdir then
    if ev.ret < 0 ∨ ev.argCount.toNat < 1 then .ignored else .changedDirTo (fdArg ev 0)
  else if ev.syscallId = Unix.sysRename then
    if ev.ret < 0 then .ignored else .renamed 0 1
  else if ev.syscallId ∈ [Unix.sysRenameat, Unix.sysRenameat2] then
    if ev.ret < 0 then .ignored else .renamed 1 3
  else if ev.syscallId = Unix.sysUnlink then
    if ev.ret < 0 then .ignored else .unlinked 0
  else if ev.syscallId = Unix.sysUnlinkat then
    if ev.ret < 0 then .ignored else .unlinked 1
  else .ignored

section

variable {ev : Event}

/-- `open` with its path at 0. -/
theorem observation_open (call : ev.syscallId = Unix.sysOpen) :
    observation ev = if ev.ret < 0 then .ignored else .opened 0 ev.ret.toUInt64 :=
  if_pos call

/-- `openat` and `openat2` with their path at 1, behind the descriptor it is relative to. -/
theorem observation_openat (call : ev.syscallId ∈ [Unix.sysOpenat, Unix.sysOpenat2]) :
    observation ev = if ev.ret < 0 then .ignored else .opened 1 ev.ret.toUInt64 := by
  rcases List.mem_pair.mp call with call | call
  · simp [observation, call, Unix.sysOpenat, Unix.sysOpen]
  · simp [observation, call, Unix.sysOpenat2, Unix.sysOpen, Unix.sysOpenat]

/-- A duplicate is told from its result. -/
theorem observation_dup (call : ev.syscallId = Unix.sysDup) :
    observation ev =
      if ev.ret < 0 ∨ ev.argCount.toNat < 1 then .ignored
      else .duplicated (fdArg ev 0) ev.ret.toUInt64 (isFDArg ev 0) := by
  simp [observation, call, Unix.sysDup, Unix.sysOpen, Unix.sysOpenat, Unix.sysOpenat2]

/-- Here the number of the copy is an argument, and need not be the result. -/
theorem observation_dupOnto (call : ev.syscallId ∈ [Unix.sysDup2, Unix.sysDup3]) :
    observation ev =
      if ev.argCount.toNat < 2 ∨ ev.ret < 0 then .ignored
      else .duplicatedOnto (fdArg ev 0) (fdArg ev 1) := by
  rcases List.mem_pair.mp call with call | call
  · simp [observation, call, Unix.sysDup2, Unix.sysOpen, Unix.sysOpenat, Unix.sysOpenat2,
      Unix.sysDup]
  · simp [observation, call, Unix.sysDup3, Unix.sysOpen, Unix.sysOpenat, Unix.sysOpenat2,
      Unix.sysDup, Unix.sysDup2]

theorem observation_fcntl (call : ev.syscallId = Unix.sysFcntl) :
    observation ev =
      if ev.ret < 0 then .ignored
      else if 2 ≤ ev.argCount.toNat ∧ isFDArg ev 0 = true ∧
          (ev.args.get 1).toInt64 ∈ [Unix.fDupfd, Unix.fDupfdCloexec] then
        .duplicatedTracked (fdArg ev 0) ev.ret.toUInt64
      else .ignored := by
  simp [observation, call, Unix.sysFcntl, Unix.sysOpen, Unix.sysOpenat, Unix.sysOpenat2,
    Unix.sysDup, Unix.sysDup2, Unix.sysDup3]

theorem observation_chdir (call : ev.syscallId = Unix.sysChdir) :
    observation ev = if ev.ret < 0 then .ignored else .changedDir := by
  simp [observation, call, Unix.sysChdir, Unix.sysOpen, Unix.sysOpenat, Unix.sysOpenat2,
    Unix.sysDup, Unix.sysDup2, Unix.sysDup3, Unix.sysFcntl, Unix.sysClose]

theorem observation_fchdir (call : ev.syscallId = Unix.sysFchdir) :
    observation ev =
      if ev.ret < 0 ∨ ev.argCount.toNat < 1 then .ignored
      else .changedDirTo (fdArg ev 0) := by
  simp [observation, call, Unix.sysFchdir, Unix.sysChdir, Unix.sysOpen, Unix.sysOpenat,
    Unix.sysOpenat2, Unix.sysDup, Unix.sysDup2, Unix.sysDup3, Unix.sysFcntl, Unix.sysClose]

end

/-! ## Views -/

/-- What the filter knows about a process.

Tracking is a function of its own although it could be computed from the paths: the code keeps it
as a cache, and that the cache is right is a theorem (`state_invariant`), not a definition. -/
@[ext] structure View where
  cwd : GoString
  tracked : UInt64 → Bool
  fdPath : UInt64 → Option Path

namespace View

/-- Nothing is known. -/
def blank : View := ⟨[], fun _ => false, fun _ => none⟩

/-- Set whether a descriptor is tracked. -/
def track (v : View) (fd : UInt64) (b : Bool) : View :=
  { v with tracked := Function.update v.tracked fd b }

/-- Set or forget the path of a descriptor. -/
def bind (v : View) (fd : UInt64) (path : Option Path) : View :=
  { v with fdPath := Function.update v.fdPath fd path }

/-- Set the path of a descriptor, and track it if the path is traced. -/
def record (v : View) (paths : Finset GoString) (fd : UInt64) (path : Path) : View :=
  (v.bind fd (some path)).track fd (decide (path.val ∈ paths))

/-- The working directory, if it is known. -/
def cwdPath (v : View) : Option Path :=
  match v.cwd with
  | [] => none
  | b :: cwd => some ⟨b :: cwd, List.cons_ne_nil b cwd⟩

/-- The answer of a read of `/proc` becomes the working directory, unless that
is known. -/
def learn (v : View) (answer : Option GoString) : View :=
  if v.cwd ≠ [] then v
  else
    match answer with
    | none => v
    | some cwd => { v with cwd := clean cwd }

/-- The read that resolving an argument makes. -/
def ask (v : View) (answer : Option GoString) : PathArg → View
  | .fromCwd _ => v.learn answer
  | _ => v

/-- The path an argument resolves to. -/
def resolve (v : View) : PathArg → Option Path
  | .unreadable => none
  | .absolute path => some path
  | .fromCwd path => v.cwdPath.map fun base => cleanPath (join base.val path)
  | .fromFD fd path => (v.fdPath fd).map fun base => cleanPath (join base.val path)

/-- Rename `oldPath`, and all paths below it, to `newPath`. -/
def rewrite (v : View) (paths : Finset GoString) (oldPath newPath : Path) : View where
  cwd :=
    let rewritten := rewritePathPrefix v.cwd oldPath.val newPath.val
    if v.cwd ≠ [] ∧ rewritten.2 = true then rewritten.1.val else v.cwd
  tracked fd :=
    match v.fdPath fd with
    | none => v.tracked fd
    | some path =>
        let rewritten := rewritePathPrefix path.val oldPath.val newPath.val
        if rewritten.2 then decide (rewritten.1.val ∈ paths) else v.tracked fd
  fdPath fd :=
    (v.fdPath fd).map fun path =>
      let rewritten := rewritePathPrefix path.val oldPath.val newPath.val
      if rewritten.2 then rewritten.1 else path

/-- Forget the descriptors of `target`. -/
def forget (v : View) (target : Path) : View where
  cwd := v.cwd
  tracked fd := if v.fdPath fd = some target then false else v.tracked fd
  fdPath fd := if v.fdPath fd = some target then none else v.fdPath fd

/-- Copy what is known of one descriptor to another. -/
def copyPath (v : View) (paths : Finset GoString) (src fd : UInt64) : View :=
  match v.fdPath src with
  | none => v
  | some path => v.record paths fd path

/-- The update of an observation. -/
def apply (v : View) (paths : Finset GoString) (answers : ReadSite → Option GoString)
    (ev : Event) : Observation → View
  | .ignored => v
  | .opened i fd =>
      let v := v.ask (answers (.observe i)) (pathArg ev i)
      match v.resolve (pathArg ev i) with
      | none => v
      | some path => v.record paths fd path
  | .duplicated src fd isFD =>
      let v := v.copyPath paths src fd
      if isFD && v.tracked src then v.track fd true else v
  | .duplicatedOnto oldfd newfd =>
      let v :=
        match v.fdPath oldfd with
        | some path => v.record paths newfd path
        | none => (v.bind newfd none).track newfd false
      v.track newfd (v.tracked oldfd)
  | .duplicatedTracked src fd =>
      if v.tracked src then (v.copyPath paths src fd).track fd true else v
  | .closed fd => (v.track fd false).bind fd none
  | .changedDir =>
      let v := v.ask (answers (.observe 0)) (pathArg ev 0)
      match v.resolve (pathArg ev 0) with
      | none => v
      | some path => { v with cwd := path.val }
  | .changedDirTo fd =>
      match v.fdPath fd with
      | none => v
      | some path => { v with cwd := path.val }
  | .renamed i j =>
      let v := v.ask (answers (.observe i)) (pathArg ev i)
      match v.resolve (pathArg ev i) with
      | none => v
      | some oldPath =>
          let v := v.ask (answers (.observe j)) (pathArg ev j)
          match v.resolve (pathArg ev j) with
          | none => v
          | some newPath => v.rewrite paths oldPath newPath
  | .unlinked i =>
      let v := v.ask (answers (.observe i)) (pathArg ev i)
      match v.resolve (pathArg ev i) with
      | none => v
      | some path => v.forget path

/-- The update of an event. -/
def observe (v : View) (paths : Finset GoString) (answers : ReadSite → Option GoString)
    (ev : Event) : View :=
  v.apply paths answers ev (observation ev)

/-- Try path arguments one after the other. -/
def matchArgs (v : View) (paths : Finset GoString) (answers : ReadSite → Option GoString)
    (ev : Event) : List (Fin 6) → View × Bool
  | [] => (v, false)
  | i :: is =>
      let v := v.ask (answers (.shouldPrint i)) (pathArg ev i)
      if (v.resolve (pathArg ev i)).any fun path => decide (path.val ∈ paths) then (v, true)
      else v.matchArgs paths answers ev is

/-- The decision on an event, and the view after the reads it makes. -/
def print (v : View) (paths : Finset GoString) (answers : ReadSite → Option GoString)
    (allowed : Bool) (ev : Event) : View × Bool :=
  if allowed = false then (v, false)
  else
    let matched := v.matchArgs paths answers ev (matchedArgs ev.syscallId)
    if matched.2 then matched else (matched.1, (fdArgs ev).any matched.1.tracked)

/-! ### Setting a descriptor -/

section

variable (v : View) (fd fd' : UInt64)

@[simp] theorem tracked_track (b : Bool) :
    (v.track fd b).tracked fd' = if fd' = fd then b else v.tracked fd' :=
  Function.update_apply _ _ _ _

@[simp] theorem fdPath_track (b : Bool) : (v.track fd b).fdPath = v.fdPath := rfl

@[simp] theorem tracked_bind (path : Option Path) : (v.bind fd path).tracked = v.tracked := rfl

@[simp] theorem fdPath_bind (path : Option Path) :
    (v.bind fd path).fdPath fd' = if fd' = fd then path else v.fdPath fd' :=
  Function.update_apply _ _ _ _

@[simp] theorem tracked_record (paths : Finset GoString) (path : Path) :
    (v.record paths fd path).tracked fd' =
      if fd' = fd then decide (path.val ∈ paths) else v.tracked fd' :=
  tracked_track _ _ _ _

@[simp] theorem fdPath_record (paths : Finset GoString) (path : Path) :
    (v.record paths fd path).fdPath fd' = if fd' = fd then some path else v.fdPath fd' :=
  fdPath_bind _ _ _ _

/-- Setting what is set changes nothing. -/
theorem track_eq_self {v : View} {fd : UInt64} {b : Bool} (h : v.tracked fd = b) :
    v.track fd b = v := by
  rw [track, ← h, Function.update_eq_self]

end

/-! ### The working directory -/

/-- A known directory is not asked for. -/
theorem learn_of_known {v : View} (known : v.cwd ≠ []) (answer : Option GoString) :
    v.learn answer = v :=
  if_pos known

@[simp] theorem learn_none (v : View) : v.learn none = v := by
  unfold learn
  split
  · rfl
  · rfl

theorem learn_of_unknown {v : View} (unknown : v.cwd = []) (cwd : GoString) :
    v.learn (some cwd) = { v with cwd := clean cwd } :=
  if_neg (not_not.mpr unknown)

@[simp] theorem ask_none (v : View) (arg : PathArg) : v.ask none arg = v := by
  cases arg with
  | fromCwd path => exact learn_none v
  | unreadable => rfl
  | absolute path => rfl
  | fromFD fd path => rfl

/-- A read changes nothing but the working directory. -/
theorem learn_eq (v : View) (answer : Option GoString) :
    v.learn answer = { v with cwd := (v.learn answer).cwd } := by
  unfold learn
  split
  · rfl
  · split
    · rfl
    · rfl

/-- Asking changes the working directory at most. -/
theorem ask_eq (v : View) (answer : Option GoString) (arg : PathArg) :
    v.ask answer arg = { v with cwd := (v.ask answer arg).cwd } := by
  cases arg with
  | fromCwd path => exact learn_eq v answer
  | unreadable => rfl
  | absolute path => rfl
  | fromFD fd path => rfl

theorem matchArgs_eq (v : View) (paths : Finset GoString)
    (answers : ReadSite → Option GoString) (ev : Event) (args : List (Fin 6)) :
    (v.matchArgs paths answers ev args).1 =
      { v with cwd := (v.matchArgs paths answers ev args).1.cwd } := by
  induction args generalizing v with
  | nil => rfl
  | cons i args ih =>
      unfold matchArgs
      dsimp only
      split
      · exact ask_eq v _ _
      · rw [ih, ask_eq v]

/-- Deciding changes nothing but the working directory. -/
theorem print_eq (v : View) (paths : Finset GoString) (answers : ReadSite → Option GoString)
    (allowed : Bool) (ev : Event) :
    (v.print paths answers allowed ev).1 =
      { v with cwd := (v.print paths answers allowed ev).1.cwd } := by
  have matched := matchArgs_eq v paths answers ev (matchedArgs ev.syscallId)
  unfold print
  dsimp only
  split
  · rfl
  · split
    · exact matched
    · exact matched

/-- The working directory does not depend on `/proc`: it is known, or the reads
fail. -/
def Settled (v : View) (answers : ReadSite → Option GoString) : Prop :=
  v.cwd ≠ [] ∨ ∀ site, answers site = none

section Settled

variable {v : View} {answers : ReadSite → Option GoString}

theorem ask_of_settled (settled : v.Settled answers) (site : ReadSite) (arg : PathArg) :
    v.ask (answers site) arg = v := by
  rcases settled with known | unread
  · cases arg with
    | fromCwd path => exact learn_of_known known _
    | unreadable => rfl
    | absolute path => rfl
    | fromFD fd path => rfl
  · rw [unread, ask_none]

/-- If no lookup can change anything, matching is a plain question about the paths. -/
theorem matchArgs_of_settled (settled : v.Settled answers) (paths : Finset GoString)
    (ev : Event) (args : List (Fin 6)) :
    v.matchArgs paths answers ev args =
      (v, args.any fun i => (v.resolve (pathArg ev i)).any fun path =>
        decide (path.val ∈ paths)) := by
  induction args with
  | nil => rfl
  | cons i args ih =>
      rw [matchArgs, ask_of_settled settled, List.any_cons]
      cases (v.resolve (pathArg ev i)).any fun path => decide (path.val ∈ paths) with
      | true => rfl
      | false => exact ih

/-- Deciding needs no read then. -/
theorem print_of_settled (settled : v.Settled answers) (paths : Finset GoString)
    (allowed : Bool) (ev : Event) :
    v.print paths answers allowed ev =
      (v, allowed && ((matchedArgs ev.syscallId).any (fun i =>
          (v.resolve (pathArg ev i)).any fun path => decide (path.val ∈ paths)) ||
        (fdArgs ev).any v.tracked)) := by
  rw [print, matchArgs_of_settled settled]
  cases allowed with
  | false => rfl
  | true =>
      cases (matchedArgs ev.syscallId).any fun i =>
          (v.resolve (pathArg ev i)).any fun path => decide (path.val ∈ paths) with
      | true => rfl
      | false => rfl

/-- Nor does observing. -/
theorem observe_of_settled (settled : v.Settled answers) (paths : Finset GoString)
    (ev : Event) : v.observe paths answers ev = v.observe paths (fun _ => none) ev := by
  unfold observe
  cases observation ev with
  | opened i fd =>
      rw [apply, apply, ask_of_settled settled, ask_none]
  | changedDir =>
      rw [apply, apply, ask_of_settled settled, ask_none]
  | renamed i j =>
      simp only [apply, ask_of_settled settled, ask_none]
  | unlinked i =>
      rw [apply, apply, ask_of_settled settled, ask_none]
  | ignored => rfl
  | duplicated src fd isFD => rfl
  | duplicatedOnto oldfd newfd => rfl
  | duplicatedTracked src fd => rfl
  | closed fd => rfl
  | changedDirTo fd => rfl

theorem copyPath_cwd (v : View) (paths : Finset GoString) (src fd : UInt64) :
    (v.copyPath paths src fd).cwd = v.cwd := by
  unfold copyPath
  split
  · rfl
  · rfl

/-- A directory that is known stays known when it is moved. -/
theorem rewrite_known (known : v.cwd ≠ []) (paths : Finset GoString) (oldPath newPath : Path) :
    (v.rewrite paths oldPath newPath).cwd ≠ [] := by
  unfold rewrite
  dsimp only
  split
  · exact (rewritePathPrefix v.cwd oldPath.val newPath.val).1.property
  · exact known

/-- A known working directory is not forgotten. -/
theorem observe_known (known : v.cwd ≠ []) (paths : Finset GoString) (ev : Event) :
    (v.observe paths answers ev).cwd ≠ [] := by
  rw [observe_of_settled (.inl known)]
  unfold observe apply
  cases observation ev with
  | ignored => exact known
  | opened i fd =>
      dsimp only
      rw [ask_none]
      split
      · exact known
      · exact known
  | duplicated src fd isFD =>
      dsimp only
      -- Nothing done to descriptors reaches the working directory.
      have copied : (v.copyPath paths src fd).cwd ≠ [] := by rwa [copyPath_cwd]
      split
      · exact copied
      · exact copied
  | duplicatedOnto oldfd newfd =>
      dsimp only
      cases v.fdPath oldfd with
      | some path => exact known
      | none => exact known
  | duplicatedTracked src fd =>
      dsimp only
      split
      · rw [track, copyPath_cwd]
        exact known
      · exact known
  | closed fd => exact known
  | changedDir =>
      dsimp only
      rw [ask_none]
      split
      · exact known
      · next path _ => exact path.property
  | changedDirTo fd =>
      dsimp only
      split
      · exact known
      · next path _ => exact path.property
  | renamed i j =>
      dsimp only
      rw [ask_none, ask_none]
      split
      · exact known
      · split
        · exact known
        · exact rewrite_known known _ _ _
  | unlinked i =>
      dsimp only
      rw [ask_none]
      split
      · exact known
      · exact known

end Settled

/-! ### Loops over descriptors -/

/-- What is known of one descriptor. -/
def slot (v : View) (fd : UInt64) : Bool × Option Path := (v.tracked fd, v.fdPath fd)

/-- A view is its directory and its slots, so two views are compared slot by slot. -/
theorem ext_slot {v w : View} (hcwd : v.cwd = w.cwd) (hslot : ∀ fd, v.slot fd = w.slot fd) :
    v = w := by
  ext fd
  · rw [hcwd]
  · exact congrArg Prod.fst (hslot fd)
  · rw [show v.fdPath fd = w.fdPath fd from congrArg Prod.snd (hslot fd)]

/-- One round of renaming. -/
def rewriteEntry (v : View) (paths : Finset GoString) (oldPath newPath : Path)
    (entry : UInt64 × Path) : View :=
  let rewritten := rewritePathPrefix entry.2.val oldPath.val newPath.val
  if rewritten.2 then v.record paths entry.1 rewritten.1 else v

/-- One round of unlinking. -/
def forgetEntry (v : View) (target : Path) (entry : UInt64 × Path) : View :=
  if entry.2 ≠ target then v else (v.track entry.1 false).bind entry.1 none

theorem slot_record (v : View) (paths : Finset GoString) (fd : UInt64) (path : Path)
    (fd' : UInt64) :
    (v.record paths fd path).slot fd' =
      if fd' = fd then (decide (path.val ∈ paths), some path) else v.slot fd' := by
  unfold slot
  split
  next h => simp [h]
  next h => simp [h]

/-- The loop of `rewritePIDPaths` over the recorded paths. -/
theorem foldl_rewriteEntry {v : View} {paths : Finset GoString} {oldPath newPath : Path}
    {entries : List (UInt64 × Path)}
    (visits : ∀ fd path, (fd, path) ∈ entries ↔ v.fdPath fd = some path) :
    entries.foldl (fun v entry => v.rewriteEntry paths oldPath newPath entry) v =
      { v.rewrite paths oldPath newPath with cwd := v.cwd } := by
  refine ext_slot ?_ (GoMap.foldl_slot Prod.fst ?_ ?_ ?_)
  -- The rounds leave the working directory alone.
  · refine List.foldlRecOn (motive := fun u : View => u.cwd = v.cwd) entries _ rfl ?_
    intro u hcwd entry _
    rw [← hcwd]
    unfold rewriteEntry
    dsimp only
    split
    · rfl
    · rfl
  -- A round touches the descriptor of its entry only.
  · intro u entry fd ne
    unfold rewriteEntry
    dsimp only
    split
    · rw [slot_record, if_neg ne]
    · rfl
  -- An entry is a path recorded at the start, and its round is the whole change to it.
  · intro u entry mem before
    have hpath : v.fdPath entry.1 = some entry.2 := (visits entry.1 entry.2).mp mem
    unfold rewriteEntry
    dsimp only
    split
    next changed =>
      rw [slot_record, if_pos rfl]
      simp [slot, rewrite, hpath, changed]
    next same =>
      have stays : v.slot entry.1 = View.slot
          { v.rewrite paths oldPath newPath with cwd := v.cwd } entry.1 := by
        simp [slot, rewrite, hpath, same]
      rcases before with h | h
      · exact h.trans stays
      · exact h
  -- A descriptor that is not visited has no path, and is not renamed.
  · intro fd unseen
    have hnone : v.fdPath fd = none := by
      cases hfd : v.fdPath fd with
      | none => rfl
      | some path => exact absurd rfl (unseen (fd, path) ((visits fd path).mpr hfd))
    simp [slot, rewrite, hnone]

/-- The loop of `dropPIDPaths` over the recorded paths. -/
theorem foldl_forgetEntry {v : View} {target : Path} {entries : List (UInt64 × Path)}
    (visits : ∀ fd path, (fd, path) ∈ entries ↔ v.fdPath fd = some path) :
    entries.foldl (fun v entry => v.forgetEntry target entry) v = v.forget target := by
  refine ext_slot ?_ (GoMap.foldl_slot Prod.fst ?_ ?_ ?_)
  · refine List.foldlRecOn (motive := fun u : View => u.cwd = v.cwd) entries _ rfl ?_
    intro u hcwd entry _
    rw [← hcwd]
    unfold forgetEntry
    split
    · rfl
    · rfl
  · intro u entry fd ne
    unfold forgetEntry
    split
    · rfl
    · simp [slot, track, bind, ne]
  · intro u entry mem before
    have hpath : v.fdPath entry.1 = some entry.2 := (visits entry.1 entry.2).mp mem
    unfold forgetEntry
    split
    next ne =>
      have stays : v.slot entry.1 = (v.forget target).slot entry.1 := by
        simp [slot, forget, hpath, ne]
      rcases before with h | h
      · exact h.trans stays
      · exact h
    next eq =>
      rw [not_not] at eq
      simp [slot, forget, track, bind, hpath, eq]
  -- A descriptor that is not visited is not of `target`.
  · intro fd unseen
    have hne : v.fdPath fd ≠ some target := fun hfd =>
      unseen (fd, target) ((visits fd target).mpr hfd) rfl
    simp [slot, forget, hne]

end View

/-! ## Forking -/

/-- The views after forking, if the event forks. -/
def forkViews (views : UInt32 → View) (ev : Event) : UInt32 → View :=
  (processCloneChildPID ev).elim views fun childPID =>
    Function.update views childPID (views ev.pid)

/-- A process that forks keeps its view, even if it is its own child. -/
theorem forkViews_self (views : UInt32 → View) (ev : Event) :
    forkViews views ev ev.pid = views ev.pid := by
  unfold forkViews
  cases processCloneChildPID ev with
  | none => rfl
  | some childPID =>
      by_cases own : ev.pid = childPID
      · rw [← own]
        exact Function.update_self _ _ _
      · exact Function.update_of_ne own _ _

/-- Only the child of a fork gets another view. -/
theorem forkViews_of_ne {views : UInt32 → View} {ev : Event} {pid : UInt32}
    (ne : processCloneChildPID ev ≠ some pid) : forkViews views ev pid = views pid := by
  unfold forkViews
  cases hchild : processCloneChildPID ev with
  | none => rfl
  | some childPID =>
      have hne : pid ≠ childPID := fun h => ne (by rw [hchild, h])
      exact Function.update_of_ne hne _ _

end Litrace.Trace
