import Litrace.Bpf.Tracer
import Litrace.Lib.Fallible
import Litrace.Lib.Filepath

/-!
# Loading the programs

`handle.go`: `NewHandle` loads the programs with their constants, fills the two maps that
are filled from outside, attaches the tracepoints and opens the reader; `Close` gives back
what a handle holds.  What the system says to each operation is given (`Answers`), so the
theorems are about all ways in which loading can go wrong.

A handle that is returned runs the programs of its configuration (`HandleConfig.bpf`) and
holds everything.  One that is not returned is closed, but `Close` asks `objectsReady`,
which is set when `applyConfig` is through: when a map cannot be filled, the loaded programs
are left behind, and only then (`newHandle_leaves_iff`).

`NewHandle` is written in the monad of `Litrace.Lib.Fallible`, statement by statement, and
its loops over the maps are the loops of that library.  Go visits a map in any order, so the
order in which the syscalls are put into the filter is a parameter, and the results are for
each order that visits all of them.

A handle is what the process holds in the kernel, as a set of resources, beside the fields
that the code looks at.  In this way it can be asked what is left when a stage fails, which
no field of `Handle` tells.
-/

namespace Litrace.Bpf

open Fallible
open GoString (ascii)

/-! ## Data -/

/-- `HandleConfig`. -/
structure HandleConfig where
  followForks : Bool
  traceSyscallIds : Finset Int64

/-- The lower half of a syscall number, which is the key of the filter. -/
def filterKey (id : Int64) : UInt32 := id.toUInt64.toUInt32

/-- What the configuration means to the programs. -/
def HandleConfig.bpf (cfg : HandleConfig) : Config where
  followForks := cfg.followForks
  traceFilterEnabled := decide (0 < cfg.traceSyscallIds.card)
  traceSyscallFilter := cfg.traceSyscallIds.image filterKey

/-- Without syscalls everything is selected. -/
theorem HandleConfig.selects_bpf {cfg : HandleConfig} {id : Int64} :
    cfg.bpf.selects id = true ↔
      cfg.traceSyscallIds = ∅ ∨ ∃ a ∈ cfg.traceSyscallIds, filterKey a = filterKey id := by
  have enabled : (!cfg.bpf.traceFilterEnabled) = true ↔ cfg.traceSyscallIds = ∅ := by
    simp [HandleConfig.bpf]
  rw [Config.selects, Bool.or_eq_true, enabled, decide_eq_true_eq]
  exact or_congr_right Finset.mem_image

/-- `max_entries` of `trace_syscall_filter`. -/
def traceSyscallFilterMaxEntries : ℕ := 512

/-- `tracerObjects`: the constants of the loaded programs, and the maps that are filled from
outside. -/
structure TracerObjects where
  followForks : UInt8
  traceFilterEnabled : UInt8
  traceSyscallFilter : BoundedSet UInt32 traceSyscallFilterMaxEntries
  targetPids : TargetPids

/-- The constants and the filter, as the programs read them. -/
def TracerObjects.config (objs : TracerObjects) : Config where
  followForks := objs.followForks != 0
  traceFilterEnabled := objs.traceFilterEnabled != 0
  traceSyscallFilter := objs.traceSyscallFilter.keys

inductive Tracepoint where
  | sysEnter
  | sysExit
  | schedProcessExit
  deriving DecidableEq

/-- What a handle may hold. -/
inductive Resource where
  | reader
  | link (tracepoint : Tracepoint)
  | objects
  deriving DecidableEq

/-- `Handle`, and what of it the kernel still has. -/
structure Handle where
  objs : TracerObjects
  objectsReady : Bool
  held : Finset Resource

/-- `&Handle{}`. -/
def Handle.new : Handle := ⟨⟨0, 0, ⟨∅, Nat.zero_le _⟩, ⟨∅, Nat.zero_le _⟩⟩, false, ∅⟩

/-- What the libraries and the system say; `none` is no error. -/
structure Answers where
  loadTracer : Option GoString
  hasConstant : GoString → Bool
  setConstant : GoString → Option GoString
  loadAndAssign : Option GoString
  putFilter : UInt32 → Option GoString
  putTarget : UInt32 → Option GoString
  mapFull : GoString
  attach : Tracepoint → Option GoString
  newReader : Option GoString

/-- The errors of `applyConfig`. -/
inductive LoadError where
  | system (cause : GoString)
  | missingConstant (constant : GoString)
  | setConstant (constant cause : GoString)
  | populateFilter (cause : GoString)
  | populateTargets (cause : GoString)
  deriving DecidableEq

/-- The errors of `NewHandle`. -/
inductive HandleError where
  | load (err : LoadError)
  | attach (tracepoint : Tracepoint) (cause : GoString)
  | openReader (cause : GoString)
  deriving DecidableEq

/-- The name of a tracepoint, as the error names it. -/
def Tracepoint.name : Tracepoint → GoString
  | .sysEnter => ascii "sys_enter"
  | .sysExit => ascii "sys_exit"
  | .schedProcessExit => ascii "sched_process_exit"

/-- The text of an error; `quote` is the verb `%q`. -/
def LoadError.message (quote : GoString → GoString) : LoadError → GoString
  | .system cause => cause
  | .missingConstant constant => ascii "missing runtime constant " ++ quote constant
  | .setConstant constant cause =>
      ascii "set runtime constant " ++ quote constant ++ ascii ": " ++ cause
  | .populateFilter cause => ascii "failed to populate trace syscall filter map: " ++ cause
  | .populateTargets cause => ascii "failed to populate PID map: " ++ cause

/-- The text of an error of `NewHandle`, which wraps the cause. -/
def HandleError.message (quote : GoString → GoString) : HandleError → GoString
  | .load err => ascii "failed to load BPF objects: " ++ err.message quote
  | .attach tracepoint cause =>
      ascii "failed to attach " ++ tracepoint.name ++ ascii " tracepoint: " ++ cause
  | .openReader cause => ascii "failed to open ring buffer reader: " ++ cause

/-! ## `NewHandle` -/

section

variable (answers : Answers)

/-- Set a constant of the programs. -/
def setConstant (constant : GoString) : Fallible LoadError Handle PUnit := do
  require (answers.hasConstant constant = true) (.missingConstant constant)
  attempt (answers.setConstant constant) (.setConstant constant)

/-- One round of the loop over the syscalls. -/
def putFilter (id : Int64) : Fallible LoadError Handle PUnit := do
  let handle ← get
  let filter := handle.objs.traceSyscallFilter
  attempt (answers.putFilter (filterKey id)) .populateFilter
  require (filter.Admits (filterKey id)) (.populateFilter answers.mapFull)
  modify fun handle =>
    { handle with
      objs := { handle.objs with traceSyscallFilter := filter.update (filterKey id) } }

/-- One round of the loop over the targets. -/
def putTarget (tgid : UInt32) : Fallible LoadError Handle PUnit := do
  let handle ← get
  let targets := handle.objs.targetPids
  attempt (answers.putTarget tgid) .populateTargets
  require (targets.Admits tgid) (.populateTargets answers.mapFull)
  modify fun handle =>
    { handle with objs := { handle.objs with targetPids := targets.update tgid } }

/-- `applyConfig`; `ids` is the order of the loop over the syscalls. -/
def applyConfig (ids : List Int64) (targetTGIDs : List UInt32) (cfg : HandleConfig) :
    Fallible LoadError Handle PUnit := do
  attempt answers.loadTracer .system
  let followForks : UInt8 := if cfg.followForks then 1 else 0
  setConstant answers (ascii "follow_forks")
  let traceFilterEnabled : UInt8 := if 0 < cfg.traceSyscallIds.card then 1 else 0
  setConstant answers (ascii "trace_filter_enabled")
  attempt answers.loadAndAssign .system
  modify fun handle =>
    { handle with
      objs := { Handle.new.objs with followForks, traceFilterEnabled }
      held := insert .objects handle.held }
  each (putFilter answers) (if traceFilterEnabled ≠ 0 then ids else [])
  each (putTarget answers) targetTGIDs

/-- Attach one program, and hold its link. -/
def attach (tracepoint : Tracepoint) : Fallible HandleError Handle PUnit := do
  attempt (answers.attach tracepoint) (.attach tracepoint)
  modify fun handle => { handle with held := insert (.link tracepoint) handle.held }

/-- `NewHandle`, up to the deferred `Close`. -/
def setUp (ids : List Int64) (targetTGIDs : List UInt32) (cfg : HandleConfig) :
    Fallible HandleError Handle PUnit := do
  wrap .load (applyConfig answers ids targetTGIDs cfg)
  modify fun handle => { handle with objectsReady := true }
  attach answers .sysEnter
  attach answers .sysExit
  attach answers .schedProcessExit
  attempt answers.newReader .openReader
  modify fun handle => { handle with held := insert .reader handle.held }

end

/-! ## `Close` -/

/-- `CloseReader` and the other ways to close; what is closed is given back whatever is said
of it. -/
def Handle.release (closing : Resource → Option GoString)
    (h : Handle × List (Resource × GoString)) (r : Resource) :
    Handle × List (Resource × GoString) :=
  if r ∈ h.1.held ∧ (r = .objects → h.1.objectsReady = true) then
    ({ h.1 with held := h.1.held.erase r },
      h.2 ++ (closing r).toList.map fun cause => (r, cause))
  else h

/-- The order in which `Close` goes. -/
def closeOrder : List Resource :=
  [.reader, .link .schedProcessExit, .link .sysExit, .link .sysEnter, .objects]

/-- `Close`, with what it cannot close. -/
def Handle.close (closing : Resource → Option GoString) (handle : Handle) :
    Handle × List (Resource × GoString) :=
  closeOrder.foldl (Handle.release closing) (handle, [])

/-- `NewHandle`. -/
def newHandle (answers : Answers) (closing : Resource → Option GoString) (ids : List Int64)
    (targetTGIDs : List UInt32) (cfg : HandleConfig) : Except HandleError Unit × Handle :=
  match setUp answers ids targetTGIDs cfg .new with
  | (.ok _, handle) => (.ok (), handle)
  | (.error err, handle) => (.error err, (handle.close closing).1)

/-! ## How far loading gets -/

/-- The error comes when the programs are loaded. -/
def LoadError.populates : LoadError → Bool
  | .populateFilter _ => true
  | .populateTargets _ => true
  | _ => false

/-- The programs are loaded, and the maps filled so far. -/
structure Filled (cfg : HandleConfig) (ids : List Int64) (targets : List UInt32)
    (handle : Handle) : Prop where
  followForks : (handle.objs.followForks != 0) = cfg.followForks
  enabled : (handle.objs.traceFilterEnabled != 0) = decide (0 < cfg.traceSyscallIds.card)
  filter : ∀ key, key ∈ handle.objs.traceSyscallFilter ↔ ∃ id ∈ ids, filterKey id = key
  targets : ∀ tgid, tgid ∈ handle.objs.targetPids ↔ tgid ∈ targets
  ready : handle.objectsReady = false
  held : handle.held = {.objects}

/-- What the system said, or that a map has no room for all its keys. -/
def LoadError.Cause (answers : Answers) (ids : List Int64) (targets : List UInt32) :
    LoadError → Prop
  | .system cause => answers.loadTracer = some cause ∨ answers.loadAndAssign = some cause
  | .missingConstant constant => answers.hasConstant constant = false
  | .setConstant constant cause => answers.setConstant constant = some cause
  | .populateFilter cause =>
      (∃ id ∈ ids, answers.putFilter (filterKey id) = some cause) ∨
        cause = answers.mapFull ∧
          traceSyscallFilterMaxEntries < (ids.map filterKey).toFinset.card
  | .populateTargets cause =>
      (∃ tgid ∈ targets, answers.putTarget tgid = some cause) ∨
        cause = answers.mapFull ∧ targetPidsMaxEntries < targets.toFinset.card

/-- What `applyConfig` leaves when it fails. -/
structure LeftBy (answers : Answers) (ids : List Int64) (targets : List UInt32) (err : LoadError)
    (handle : Handle) : Prop where
  ready : handle.objectsReady = false
  held : handle.held = if err.populates then {.objects} else ∅
  cause : err.Cause answers ids targets

/-- A map that does not admit the next key has no room for all of them. -/
theorem lt_card_of_full {α β : Type*} [DecidableEq β] {n : ℕ} {keys : BoundedSet β n} {f : α → β}
    {xs pre post : List α} {x : α} (split : xs = pre ++ x :: post)
    (filled : ∀ key, key ∈ keys ↔ ∃ y ∈ pre, f y = key) (full : ¬ keys.Admits (f x)) :
    n < (xs.map f).toFinset.card := by
  rw [BoundedSet.Admits, not_or, Nat.not_lt] at full
  have more : insert (f x) keys.keys ⊆ (xs.map f).toFinset := by
    intro key mem
    rw [Finset.mem_insert, ← BoundedSet.mem_def, filled] at mem
    rw [List.mem_toFinset, List.mem_map, split]
    rcases mem with rfl | ⟨y, hy, rfl⟩
    · exact ⟨x, by simp, rfl⟩
    · exact ⟨y, by simp [hy], rfl⟩
  have bigger := Finset.card_le_card more
  rw [Finset.card_insert_of_notMem full.1] at bigger
  exact Nat.lt_of_lt_of_le (Nat.lt_succ_of_le full.2) bigger

section

variable {answers : Answers} {cfg : HandleConfig} {ids pre post : List Int64}
  {targets preTargets postTargets : List UInt32} {handle : Handle}

/-- A handle whose loading failed halfway is one that the error leaves. -/
theorem Filled.leftBy {err : LoadError} (filled : Filled cfg pre preTargets handle)
    (populates : err.populates = true) (cause : err.Cause answers ids targets) :
    LeftBy answers ids targets err handle :=
  ⟨filled.ready, by rw [filled.held, populates, if_pos rfl], cause⟩

/-- One round of the loop over the system calls. -/
theorem Filled.putFilter {id : Int64} (split : ids = pre ++ id :: post)
    (filled : Filled cfg pre [] handle) :
    Ends (Bpf.putFilter answers id) handle (fun _ h => Filled cfg (pre ++ [id]) [] h)
      (LeftBy answers ids targets) := by
  simp only [Bpf.putFilter, ends_bind, ends_get, ends_attempt, ends_require, ends_modify]
  refine ⟨fun _ => ⟨fun admits => ?_, fun full => ?_⟩, fun cause refused => ?_⟩
  · refine { filled with filter := fun key => ?_ }
    rw [BoundedSet.mem_update, filled.filter]
    simp only [List.mem_append, List.mem_singleton]
    constructor
    · rintro (⟨i, hi, rfl⟩ | ⟨rfl, -⟩)
      · exact ⟨i, .inl hi, rfl⟩
      · exact ⟨id, .inr rfl, rfl⟩
    · rintro ⟨i, hi | rfl, rfl⟩
      · exact .inl ⟨i, hi, rfl⟩
      · exact .inr ⟨rfl, admits⟩
  · exact filled.leftBy rfl (.inr ⟨rfl, lt_card_of_full split filled.filter full⟩)
  · exact filled.leftBy rfl (.inl ⟨id, by simp [split], refused⟩)

/-- One round of the loop over the targets. -/
theorem Filled.putTarget {tgid : UInt32} (split : targets = preTargets ++ tgid :: postTargets)
    (filled : Filled cfg ids preTargets handle) :
    Ends (Bpf.putTarget answers tgid) handle
      (fun _ h => Filled cfg ids (preTargets ++ [tgid]) h) (LeftBy answers ids targets) := by
  simp only [Bpf.putTarget, ends_bind, ends_get, ends_attempt, ends_require, ends_modify]
  refine ⟨fun _ => ⟨fun admits => ?_, fun full => ?_⟩, fun cause refused => ?_⟩
  · refine { filled with targets := fun t => ?_ }
    rw [BoundedSet.mem_update, filled.targets]
    simp only [List.mem_append, List.mem_singleton]
    constructor
    · rintro (ht | ⟨rfl, -⟩)
      · exact .inl ht
      · exact .inr rfl
    · rintro (ht | rfl)
      · exact .inl ht
      · exact .inr ⟨rfl, admits⟩
  · have more := lt_card_of_full (f := id) split (by simpa using filled.targets) full
    rw [List.map_id] at more
    exact filled.leftBy rfl (.inr ⟨rfl, more⟩)
  · exact filled.leftBy rfl (.inl ⟨tgid, by simp [split], refused⟩)

/-- A constant that is missing or refused ends the loading, before anything is held. -/
theorem setConstant_ends {constant : GoString} {ok : PUnit → Handle → Prop}
    (next : ok ⟨⟩ .new) :
    Ends (setConstant answers constant) .new ok (LeftBy answers ids targets) := by
  simp only [setConstant, ends_bind, ends_attempt, ends_require]
  exact ⟨fun _ => ⟨fun _ => next, fun _ refused => ⟨rfl, rfl, refused⟩⟩,
    fun missing => ⟨rfl, rfl, Bool.eq_false_of_not_eq_true missing⟩⟩

/-- Without syscalls there is nothing to loop over. -/
theorem filtered_ids (visits : ids.toFinset = cfg.traceSyscallIds) :
    (if (if 0 < cfg.traceSyscallIds.card then 1 else 0 : UInt8) ≠ 0 then ids else []) = ids := by
  rw [← visits]
  cases ids with
  | nil => rfl
  | cons id ids =>
      have some : 0 < (id :: ids).toFinset.card := Finset.card_pos.mpr ⟨id, by simp⟩
      rw [if_pos some, if_pos (by decide)]

/-- `applyConfig` loads the programs and fills the maps, or fails before the one or amid the
other. -/
theorem applyConfig_ends (answers : Answers) (visits : ids.toFinset = cfg.traceSyscallIds)
    (targets : List UInt32) :
    Ends (applyConfig answers ids targets cfg) .new (fun _ h => Filled cfg ids targets h)
      (LeftBy answers ids targets) := by
  rw [applyConfig, ends_bind, ends_attempt]
  refine ⟨fun _ => ?_, fun _ refused => ⟨rfl, rfl, .inl refused⟩⟩
  rw [ends_bind]
  refine setConstant_ends ?_
  rw [ends_bind]
  refine setConstant_ends ?_
  rw [ends_bind, ends_attempt]
  refine ⟨fun _ => ?_, fun _ refused => ⟨rfl, rfl, .inr refused⟩⟩
  rw [ends_bind, ends_modify, filtered_ids visits, ends_bind]
  refine (ends_each (I := fun pre h => Filled cfg pre [] h)
    (fun _ _ _ _ split filled => filled.putFilter split) ?_).mono (fun _ h filled => ?_)
      fun _ _ h => h
  · refine ⟨?_, ?_, by simp [Handle.new, BoundedSet.mem_def],
      by simp [Handle.new, BoundedSet.mem_def], rfl, rfl⟩
    · cases cfg.followForks <;> rfl
    · dsimp only
      split
      next some => simp [some]
      next none => simp [none]
  · exact ends_each (I := fun pre h => Filled cfg ids pre h)
      (fun _ _ _ _ split filled => filled.putTarget split) filled

end

/-! ## What a handle holds -/

/-- The error comes between loading the programs and `objectsReady`. -/
def HandleError.populates : HandleError → Bool
  | .load err => err.populates
  | _ => false

/-- What the system said, or that a map has no room for all its keys. -/
def HandleError.Cause (answers : Answers) (ids : List Int64) (targets : List UInt32) :
    HandleError → Prop
  | .load err => err.Cause answers ids targets
  | .attach tracepoint cause => answers.attach tracepoint = some cause
  | .openReader cause => answers.newReader = some cause

/-- The handle runs the programs of the configuration on the targets. -/
structure Handle.Runs (cfg : HandleConfig) (targets : List UInt32) (handle : Handle) : Prop where
  config : handle.objs.config = cfg.bpf
  targets : ∀ tgid, tgid ∈ handle.objs.targetPids ↔ tgid ∈ targets

section

variable {cfg : HandleConfig} {ids : List Int64} {targets : List UInt32} {handle : Handle}

/-- When both loops are through, the maps are those the tracer starts from.  The order in which the
system calls are visited does not matter, as the filter is a set. -/
theorem Filled.runs (visits : ids.toFinset = cfg.traceSyscallIds)
    (filled : Filled cfg ids targets handle) : handle.Runs cfg targets := by
  refine ⟨?_, filled.targets⟩
  rw [TracerObjects.config, filled.followForks, filled.enabled, HandleConfig.bpf]
  congr 1
  ext key
  rw [← BoundedSet.mem_def, filled.filter, ← visits]
  simp

/-- Attaching one program, by its outcome. -/
theorem attach_ends {answers : Answers} {tracepoint : Tracepoint} {ok : PUnit → Handle → Prop}
    {failed : HandleError → Handle → Prop}
    (good : ok ⟨⟩ { handle with held := insert (.link tracepoint) handle.held })
    (bad : ∀ cause, answers.attach tracepoint = some cause →
      failed (.attach tracepoint cause) handle) :
    Ends (attach answers tracepoint) handle ok failed := by
  rw [attach, ends_bind, ends_attempt]
  exact ⟨fun _ => good, bad⟩

/-- Behind `applyConfig` whatever is held is ready to be closed. -/
theorem setUp_ends (answers : Answers) (visits : ids.toFinset = cfg.traceSyscallIds)
    (targets : List UInt32) :
    Ends (setUp answers ids targets cfg) .new
      (fun _ h => h.Runs cfg targets ∧ h.objectsReady = true ∧ ∀ r, r ∈ h.held)
      (fun err h => err.Cause answers ids targets ∧
        if err.populates then h.objectsReady = false ∧ h.held = {.objects}
        else h.objectsReady = true ∨ h.held = ∅) := by
  rw [setUp, ends_bind, ends_wrap]
  refine (applyConfig_ends answers visits targets).mono (fun _ h filled => ?_)
    fun err h ⟨ready, held, cause⟩ => ⟨cause, ?_⟩
  · have runs := filled.runs visits
    rw [ends_bind, ends_modify, ends_bind]
    refine attach_ends ?_ fun _ refused => ⟨refused, .inl rfl⟩
    rw [ends_bind]
    refine attach_ends ?_ fun _ refused => ⟨refused, .inl rfl⟩
    rw [ends_bind]
    refine attach_ends ?_ fun _ refused => ⟨refused, .inl rfl⟩
    rw [ends_bind, ends_attempt]
    refine ⟨fun _ => ?_, fun _ refused => ⟨refused, .inl rfl⟩⟩
    rw [ends_modify]
    refine ⟨⟨runs.config, runs.targets⟩, rfl, fun r => ?_⟩
    dsimp only
    rw [filled.held]
    rcases r with _ | (_ | _ | _) | _ <;> decide
  · cases populates : err.populates with
    | true =>
        rw [populates, if_pos rfl] at held
        simp [HandleError.populates, populates, ready, held]
    | false =>
        rw [populates, if_neg Bool.false_ne_true] at held
        simp [HandleError.populates, populates, held]

end

/-! ## Closing -/

section

variable {closing : Resource → Option GoString} {h : Handle × List (Resource × GoString)}
  {handle : Handle}

/-- What `Close` may close: the objects count only when they are ready. -/
def Handle.Closable (handle : Handle) (r : Resource) : Prop :=
  r ∈ handle.held ∧ (r = .objects → handle.objectsReady = true)

instance (r : Resource) : Decidable (handle.Closable r) := inferInstanceAs (Decidable (_ ∧ _))

/-- A release changes what is held, not whether the objects are loaded. -/
theorem release_ready (r : Resource) :
    (Handle.release closing h r).1.objectsReady = h.1.objectsReady := by
  unfold Handle.release
  split <;> rfl

/-- A release gives back one resource, and only if the handle can close it. -/
theorem mem_release {r r' : Resource} :
    r' ∈ (Handle.release closing h r).1.held ↔ r' ∈ h.1.held ∧ ¬ (r' = r ∧ h.1.Closable r) := by
  unfold Handle.release
  split
  next closable =>
    rw [Finset.mem_erase, and_comm]
    refine and_congr_right fun _ => not_congr ?_
    exact ⟨fun same => ⟨same, closable⟩, And.left⟩
  next not => exact ⟨fun mem => ⟨mem, fun both => not both.2⟩, And.left⟩

/-- What is still held after a list of releases, by induction on the list. -/
theorem mem_foldl_release {r : Resource} (order : List Resource) :
    r ∈ (order.foldl (Handle.release closing) h).1.held ↔
      r ∈ h.1.held ∧ ¬ (r ∈ order ∧ h.1.Closable r) := by
  induction order generalizing h with
  | nil => simp
  | cons first order ih =>
      rw [List.foldl_cons, ih, mem_release, List.mem_cons]
      have same : (Handle.release closing h first).1.Closable r ↔
          (r ∈ h.1.held ∧ ¬ (r = first ∧ h.1.Closable first)) ∧
            (r = .objects → h.1.objectsReady = true) := by
        rw [Handle.Closable, mem_release, release_ready]
      rw [same]
      by_cases eq : r = first
      · subst eq
        by_cases closable : h.1.Closable r
        · simp [closable]
        · simp [Handle.Closable] at closable ⊢
          grind
      · simp +contextual [Handle.Closable, eq]

/-- `Close` gives back everything but objects that are not ready. -/
theorem mem_close (closing : Resource → Option GoString) (handle : Handle) (r : Resource) :
    r ∈ (handle.close closing).1.held ↔
      r ∈ handle.held ∧ r = .objects ∧ handle.objectsReady = false := by
  have all : r ∈ closeOrder := by
    rcases r with _ | (_ | _ | _) | _ <;> decide
  rw [Handle.close, mem_foldl_release]
  simp only [all, Handle.Closable, true_and]
  cases handle.objectsReady <;> simp +contextual

end

/-! ## What `NewHandle` leaves -/

/-- `NewHandle` returns a handle, or an error and what it has left behind. -/
theorem newHandle_cases (answers : Answers) (closing : Resource → Option GoString)
    {ids : List Int64} (targets : List UInt32) (cfg : HandleConfig)
    (visits : ids.toFinset = cfg.traceSyscallIds) :
    (∃ handle, newHandle answers closing ids targets cfg = (.ok (), handle) ∧
      handle.Runs cfg targets ∧ (∀ r, r ∈ handle.held) ∧
        (handle.close closing).1.held = ∅) ∨
    ∃ err handle, newHandle answers closing ids targets cfg = (.error err, handle) ∧
      err.Cause answers ids targets ∧
        ∀ r, r ∈ handle.held ↔ r = .objects ∧ err.populates = true := by
  have ends := setUp_ends answers visits targets
  unfold Ends at ends
  unfold newHandle
  split at ends
  next handle ended =>
    obtain ⟨runs, ready, held⟩ := ends
    rw [ended]
    refine .inl ⟨handle, rfl, runs, held, Finset.eq_empty_of_forall_notMem fun r mem => ?_⟩
    rw [mem_close, ready] at mem
    cases mem.2.2
  next err handle ended =>
    obtain ⟨cause, left⟩ := ends
    rw [ended]
    refine .inr ⟨err, (handle.close closing).1, rfl, cause, fun r => ?_⟩
    rw [mem_close]
    cases populates : err.populates with
    | true =>
        rw [populates, if_pos rfl] at left
        simp [left.1, left.2]
    | false =>
        rw [populates, if_neg Bool.false_ne_true] at left
        rcases left with ready | none
        · simp [ready]
        · simp [none]

/-- **What loading leaves behind.**  Whatever the system says: a handle that is returned
holds all its resources and runs the programs of its configuration on the targets; without
one there is an error that names its cause, and everything has been given back, except for
the programs when they were loaded and their maps could not be filled.

That the objects stay is no accident of one error: it happens for exactly those that come between
loading the programs and setting `objectsReady` (`HandleError.populates`), as `Close` looks at
this flag and not at the objects. -/
theorem newHandle_leaves_iff (answers : Answers) (closing : Resource → Option GoString)
    (ids : List Int64) (targets : List UInt32) (cfg : HandleConfig)
    (visits : ids.toFinset = cfg.traceSyscallIds) :
    (∀ handle, newHandle answers closing ids targets cfg = (.ok (), handle) →
      handle.Runs cfg targets ∧ (∀ r, r ∈ handle.held) ∧ (handle.close closing).1.held = ∅) ∧
    ∀ err handle, newHandle answers closing ids targets cfg = (.error err, handle) →
      err.Cause answers ids targets ∧
        ∀ r, r ∈ handle.held ↔ r = .objects ∧ err.populates = true := by
  rcases newHandle_cases answers closing targets cfg visits with
    ⟨handle, made, runs, held, closed⟩ | ⟨err, handle, made, cause, held⟩
  · rw [made]
    refine ⟨fun handle' same => ?_, fun err handle' same => (by cases same)⟩
    cases same
    exact ⟨runs, held, closed⟩
  · rw [made]
    refine ⟨fun handle' same => (by cases same), fun err' handle' same => ?_⟩
    cases same
    exact ⟨cause, held⟩

/-- A system that refuses nothing but the targets. -/
def targetsRefused : Answers where
  loadTracer := none
  hasConstant _ := true
  setConstant _ := none
  loadAndAssign := none
  putFilter _ := none
  putTarget _ := some (ascii "update: permission denied")
  mapFull := ascii "update: argument list too long"
  attach _ := none
  newReader := none

theorem newHandle_leaves_iff_targetsRefused :
    .objects ∈ (newHandle targetsRefused (fun _ => none) [0] [100] ⟨true, {0}⟩).2.held :=
  (((newHandle_leaves_iff targetsRefused (fun _ => none) [0] [100] ⟨true, {0}⟩ rfl).2
    (.load (.populateTargets (ascii "update: permission denied"))) _ rfl).2 .objects).mpr ⟨rfl, rfl⟩

end Litrace.Bpf
