import Litrace.Bpf.Tracer
import Litrace.Lib.Transition

/-!
# Which call an event describes

`trace_sys_exit` takes the return value from the call that is just ending and
everything else from `inflight_syscalls`.  The two belong together when the
entry was recorded by the `sys_enter` of that same call.

To say so, the maps are watched together with a ghost component, `pending`: for
each thread the call it is in, and what its `sys_enter` recorded, if anything.
`Paired` is the property, one step at a time.

It fails.  A failed reservation leaves the entry in place, and the early
returns of `trace_sys_enter` do not clear it, so the next call that returns
early there submits an event for the previous one
(`leftover_entry_is_submitted`).  That is the only way it fails:
`paired_iff_leftoverFree`.

The ghost component is not an assumption.  It is computed along the run from the
hits, and the programs do not read it, so the maps of a watched run are those
of the run.  The condition of the theorem speaks about the state before a step
only: whether there is an entry that the call about to end has not recorded.
-/

namespace Litrace.Bpf

open Transition

/-! ## The watched run -/

/-- The call a thread is in, and what its `sys_enter` recorded. -/
structure Pending where
  id : Int64
  recorded : Option SyscallData

/-- The maps, and the call each thread is in. -/
structure Watched where
  maps : Maps
  pending : UInt32 → Option Pending

/-- Right after loading no call has been seen to start. -/
def Watched.start (targets : TargetPids) : Watched where
  maps := Maps.load targets
  pending _ := none

/-- What a hit makes of the pending calls. -/
def watchPending (cfg : Config) (s : Watched) : Hit → UInt32 → Option Pending
  | .sysEnter task ctx now mem =>
      Function.update s.pending task.tid
        (some ⟨ctx.id, sysEnterState cfg s.maps task ctx now mem⟩)
  | .sysExit task _ _ _ _ => Function.update s.pending task.tid none
  | .schedProcessExit task => Function.update s.pending task.tid none

/-- One hit, watched. -/
def watch (cfg : Config) (s : Watched) (h : Hit) : Watched where
  maps := step cfg s.maps h
  pending := watchPending cfg s h

/-- The kernel's promise: a thread enters a call only when it is in none, and
an exit belongs to the call the thread is in.  An exit without an enter is
allowed; it is the first exit after attaching. -/
def Alternates (s : Watched) : Hit → Prop
  | .sysEnter task _ _ _ => s.pending task.tid = none
  | .sysExit task ctx _ _ _ => ∀ call, s.pending task.tid = some call → ctx.id = call.id
  | .schedProcessExit _ => True

/-- An event submitted by an exit carries the call number, the arguments and
the time its own `sys_enter` recorded.

The number is stated twice, of the entry and of the exit, because an event has one field for it:
the programs fill it from the entry, and a reader takes it for the call that has returned the
result. -/
def Paired (cfg : Config) (s : Watched) : Hit → Prop
  | .sysExit task ctx now mem reserved =>
      ∀ e, (traceSysExit cfg s.maps task ctx now mem reserved).2 = some e →
        ∃ call state, s.pending task.tid = some call ∧ call.recorded = some state ∧
          e.syscallId = state.syscallId ∧ e.args = state.args ∧ e.ts = state.ts ∧
          e.syscallId = ctx.id ∧ e.ret = ctx.ret ∧ e.tid = task.tid
  | _ => True

/-- Nothing was recorded for the call the thread is in: `trace_sys_enter`
returned early, or did not see the call start. -/
def Unrecorded (s : Watched) (tid : UInt32) : Prop :=
  ∀ call, s.pending tid = some call → call.recorded = none

/-- The exit of an unrecorded call finds no selected entry left behind for its
thread, unless its process is no target or the ring buffer is full. -/
def LeftoverFree (s : Watched) : Hit → Prop
  | .sysExit task _ _ _ reserved =>
      Unrecorded s task.tid → task.tgid ∈ s.maps.targetPids → reserved = true →
        ∀ state, s.maps.inflightSyscalls task.tid = some state → state.selected = false
  | _ => True

/-! ## The invariant -/

/-- What a pending call recorded is the inflight entry of its thread. -/
def EntryRecorded (s : Watched) : Prop :=
  ∀ tid call state, s.pending tid = some call → call.recorded = some state →
    s.maps.inflightSyscalls tid = some state ∧ state.syscallId = call.id

theorem entryRecorded_start (targets : TargetPids) :
    EntryRecorded (Watched.start targets) := by
  intro tid call state hpending
  cases hpending

/-- A hit of one thread does not change what is pending on another. -/
theorem watchPending_of_ne {cfg : Config} {s : Watched} {h : Hit} {tid : UInt32}
    (ne : tid ≠ h.task.tid) : watchPending cfg s h tid = s.pending tid := by
  cases h with
  | sysEnter task ctx now mem => exact Function.update_of_ne (by exact ne) _ _
  | sysExit task ctx now mem reserved => exact Function.update_of_ne (by exact ne) _ _
  | schedProcessExit task => exact Function.update_of_ne (by exact ne) _ _

/-- The step lemma: what was recorded for the call a thread is in stays in flight. -/
theorem entryRecorded_watch {cfg : Config} {s : Watched} (inv : EntryRecorded s)
    (h : Hit) : EntryRecorded (watch cfg s h) := by
  intro tid call state hpending hrecorded
  -- Only an enter leaves its own thread in a call.
  by_cases own : tid = h.task.tid
  · cases h with
    | sysEnter task ctx now mem =>
        obtain rfl : tid = task.tid := own
        obtain rfl : ⟨ctx.id, sysEnterState cfg s.maps task ctx now mem⟩ = call := by
          simpa [watch, watchPending] using hpending
        replace hrecorded : sysEnterState cfg s.maps task ctx now mem = some state := hrecorded
        refine ⟨?_, ?_⟩
        · rw [watch, step, sysEnter_inflight, if_pos rfl, hrecorded, Option.some_or]
        · obtain ⟨-, -, rfl⟩ := sysEnterState_eq_some.mp hrecorded
          rfl
    | sysExit task ctx now mem reserved =>
        obtain rfl : tid = task.tid := own
        simp [watch, watchPending] at hpending
    | schedProcessExit task =>
        obtain rfl : tid = task.tid := own
        simp [watch, watchPending] at hpending
  · replace hpending : watchPending cfg s h tid = some call := hpending
    rw [watchPending_of_ne own] at hpending
    rw [watch, step_inflight_of_ne own]
    exact inv tid call state hpending hrecorded

/-! ## When events are paired -/

/-- At a step where recorded entries are in place, the event is paired exactly
when no leftover is submitted. -/
theorem paired_step_iff {cfg : Config} {s : Watched} {h : Hit} (inv : EntryRecorded s)
    (alternates : Alternates s h) : Paired cfg s h ↔ LeftoverFree s h := by
  cases h with
  | sysEnter task ctx now mem => exact Iff.rfl
  | schedProcessExit task => exact Iff.rfl
  | sysExit task ctx now mem reserved =>
      constructor
      -- A selected leftover is submitted, and then its own call would be recorded.
      · intro paired unrecorded htarget hreserved state hentry
        by_contra hsel
        obtain ⟨call, own, hcall, hown, -⟩ := paired _ <| sysExit_event_eq_some.mpr
          ⟨state, htarget, hentry, by simpa using hsel, hreserved, rfl⟩
        rw [unrecorded call hcall] at hown
        cases hown
      · intro free e hsubmit
        obtain ⟨state, htarget, hentry, hsel, hreserved, rfl⟩ :=
          sysExit_event_eq_some.mp hsubmit
        -- The entry is selected, so it is no leftover: the call the thread is in was recorded,
        -- and the entry is what was recorded for it.
        have hrecorded : ¬ Unrecorded s task.tid := by
          intro unrecorded
          rw [free unrecorded htarget hreserved state hentry] at hsel
          cases hsel
        simp only [Unrecorded, not_forall] at hrecorded
        obtain ⟨call, hcall, hsome⟩ := hrecorded
        obtain ⟨own, hown⟩ := Option.ne_none_iff_exists'.mp hsome
        obtain ⟨hinflight, hid⟩ := inv task.tid call own hcall hown
        obtain rfl : own = state := by
          rw [hinflight] at hentry
          exact Option.some.inj hentry
        have header := exitEvent_header mem own task ctx now
          (s.maps.execveSnapshots task.tid)
        refine ⟨call, own, hcall, hown, header.syscallId, header.args, header.ts, ?_,
          header.ret, header.tid⟩
        rw [header.syscallId, alternates call hcall]
        exact hid

/-- **When events are paired.**  In a run of the three programs over any number
of threads, every event describes one call exactly when no exit of an
unrecorded call finds a selected entry left behind by an earlier call of its
thread.

The promise `alternates` is the only assumption.  Reservations may fail, threads may exit inside
a call, and a thread may be in a call when it is first seen.  The invariant is one-sided: what a
call has recorded is inflight, but what is inflight need not be of the call.  So the two
properties are compared where nothing was recorded, and there they are the same. -/
theorem paired_iff_leftoverFree (cfg : Config) (targets : TargetPids) (hits : List Hit)
    (alternates : AllSteps (watch cfg) Alternates (Watched.start targets) hits) :
    AllSteps (watch cfg) (Paired cfg) (Watched.start targets) hits ↔
      AllSteps (watch cfg) LeftoverFree (Watched.start targets) hits :=
  allSteps_congr_of_invariant (fun _ h inv _ => entryRecorded_watch inv h)
    (fun _ _ inv alt => paired_step_iff inv alt) (entryRecorded_start targets) alternates

/-! ## A leftover that is submitted -/

/-- The filter of `-e trace=read`. -/
def readOnly : Config where
  followForks := false
  traceFilterEnabled := true
  traceSyscallFilter := {0}

/-- A `read` whose event finds the ring buffer full, then a `getpid`, which the
filter does not select. -/
def leftoverRun : List Hit :=
  let task : Task := ⟨100, 100⟩
  let args := Vector.replicate 6 0
  [.sysEnter task ⟨nrRead, args⟩ 10 .unmapped,
    .sysExit task ⟨nrRead, 5⟩ 11 .unmapped false,
    .sysEnter task ⟨39, args⟩ 20 .unmapped,
    .sysExit task ⟨39, 100⟩ 21 .unmapped true]

theorem leftoverRun_alternates :
    AllSteps (watch readOnly) Alternates (Watched.start soleTarget) leftoverRun := by
  refine ⟨rfl, ?_, rfl, ?_, trivial⟩
  · intro call hcall
    cases hcall
    rfl
  · intro call hcall
    cases hcall
    rfl

theorem paired_iff_leftoverFree_leftoverRun :
    AllSteps (watch readOnly) (Paired readOnly) (Watched.start soleTarget) leftoverRun ↔
      AllSteps (watch readOnly) LeftoverFree (Watched.start soleTarget) leftoverRun :=
  paired_iff_leftoverFree readOnly soleTarget leftoverRun leftoverRun_alternates

/-- The exit of `getpid` submits an event for the `read` before it. -/
theorem leftover_entry_is_submitted :
    ¬ ∀ (cfg : Config) (targets : TargetPids) (hits : List Hit),
      AllSteps (watch cfg) Alternates (Watched.start targets) hits →
        AllSteps (watch cfg) (Paired cfg) (Watched.start targets) hits := by
  intro always
  -- The fourth hit submits, and `getpid` was not recorded.
  obtain ⟨-, -, -, paired, -⟩ :=
    always readOnly soleTarget leftoverRun leftoverRun_alternates
  obtain ⟨call, state, hcall, hstate, -⟩ := paired _ rfl
  cases hcall
  cases hstate

end Litrace.Bpf
