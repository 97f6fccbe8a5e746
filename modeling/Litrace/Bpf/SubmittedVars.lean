import Litrace.Bpf.CapturePlan
import Litrace.Bpf.Entries

/-!
# What a submitted event delivers

The event of a call delivers what its captures came to
(`exitEvent_varsDelivered`).  For `execve` that is the snapshot, and in a run the
snapshot of the call is there: it was taken by the very `sys_enter` that
recorded the call, and it stays as long as the entry does
(`snapshot_of_inflight`).

The second fact needs the run.  A snapshot is kept under the tid in a map of its
own, and `trace_sys_exit` takes whatever is there: that it belongs to the same
`execve` is an invariant over the hits before, in which an entry for an `execve`
comes with the snapshot of its own arguments.
-/

namespace Litrace.Bpf

open Transition

/-! ## One call -/

/-- The event before its captures has no variables. -/
theorem slotsFilled_header (mem : UserMemory) (task : Task) (state : SyscallData)
    (ctx : SysExitArgs) (now : UInt64) :
    SlotsFilled (setSyscallArgSchema state.syscallId (eventHeader mem task state ctx now)) [] := by
  unfold setSyscallArgSchema
  split <;> exact ⟨rfl, le_rfl, fun k h => absurd h (Nat.not_lt_zero _)⟩

/-- What an event delivers is what its call's plan captures, read at the return; an `execve`
delivers what was read when it was entered. -/
theorem exitEvent_varsDelivered (mem : UserMemory) (task : Task) (state : SyscallData)
    (ctx : SysExitArgs) (now : UInt64) (snapshot : Option ExecveSnapshot)
    (enter : Option UserMemory) (taken : state.syscallId = nrExecve →
      snapshot = enter.map fun enter => captureExecve enter state.args) :
    VarsDelivered (exitEvent mem task state ctx now snapshot)
      (capturedVars enter mem state.syscallId ctx.ret state.args) := by
  rw [exitEvent, captureVars_eq_captures]
  unfold capturedVars
  split
  next exec =>
    rw [taken exec]
    cases enter with
    | some enter => exact copyExecveSnapshot_delivers (captureExecve_holds enter state.args) _
    | none =>
        unfold setSyscallArgSchema
        split <;> exact copyExecveSnapshot_none_delivers rfl rfl
  next =>
    have fits := fitsSlots_captures state.syscallId ctx.ret state.args
    have filled := slotsFilled_foldl mem state.args
      (slotsFilled_header mem task state ctx now) fits
    refine filled.delivers ?_
    rw [List.length_map]
    exact length_le_of_fitsSlots fits

/-! ## Snapshots in a run -/

section Runs

variable {cfg : Config} {m : Maps} {t : UInt32}

/-- A hit touches the snapshot of its own thread only. -/
theorem step_snapshots_of_ne {h : Hit} (ne : t ≠ h.task.tid) :
    (step cfg m h).execveSnapshots t = m.execveSnapshots t := by
  cases h with
  | sysEnter task ctx now enter =>
      replace ne : t ≠ task.tid := ne
      rw [step, traceSysEnter]
      split
      · rfl
      · dsimp only
        split
        · rw [Function.update_of_ne ne]
        · rfl
  | sysExit task ctx now mem reserved =>
      replace ne : t ≠ task.tid := ne
      rw [step]
      rcases sysExit_cases cfg m task ctx now mem reserved with
        ⟨-, h⟩ | ⟨-, -, h⟩ | ⟨state, -, -, ⟨-, h⟩ | ⟨-, -, h⟩ | ⟨-, -, h⟩⟩
      all_goals rw [h]
      · exact congrFun (trackChildProcess_snapshots _ _ _ _ _) t
      · exact congrFun (trackChildProcess_snapshots _ _ _ _ _) t
      · unfold afterSubmit
        dsimp only
        split <;> split <;> (try split) <;>
          simp [cleanupTidState, deleteTarget, deleteInflight, deleteSnapshot,
            Function.update_of_ne ne]
  | schedProcessExit task =>
      replace ne : t ≠ task.tid := ne
      rw [step, traceSchedProcessExit]
      split
      · rfl
      · dsimp only
        split <;> exact Function.update_of_ne ne _ _

/-- An entry of `execve` that is inflight after a hit was recorded by it along
with its snapshot, or was there before, and then so was the snapshot. -/
theorem step_execve_entry {h : Hit} {s : SyscallData}
    (hentry : (step cfg m h).inflightSyscalls t = some s) (exec : s.syscallId = nrExecve) :
    (∃ task ctx now enter, h = .sysEnter task ctx now enter ∧ task.tid = t ∧
      ctx.id = nrExecve ∧ ctx.args = s.args ∧
      (step cfg m h).execveSnapshots t = some (captureExecve enter s.args)) ∨
    (m.inflightSyscalls t = some s ∧
      (step cfg m h).execveSnapshots t = m.execveSnapshots t) := by
  by_cases own : t = h.task.tid
  · subst own
    cases h with
    | sysEnter task ctx now enter =>
        rw [step, traceSysEnter] at hentry ⊢
        cases hstate : sysEnterState cfg m task ctx now enter with
        | none =>
            rw [hstate] at hentry
            exact .inr ⟨hentry, rfl⟩
        | some state =>
            obtain ⟨-, -, rfl⟩ := sysEnterState_eq_some.mp hstate
            rw [hstate] at hentry
            simp only [Hit.task, Function.update_self, Option.some.injEq] at hentry
            subst hentry
            have exec : ctx.id = nrExecve := exec
            refine .inl ⟨task, ctx, now, enter, rfl, rfl, exec, rfl, ?_⟩
            simp [exec, Hit.task]
    | sysExit task ctx now mem reserved =>
        obtain ⟨old, -⟩ := step_sysExit_inflight hentry
        refine .inr ⟨old, ?_⟩
        rw [step] at hentry ⊢
        rcases sysExit_cases cfg m task ctx now mem reserved with
          ⟨-, h⟩ | ⟨-, -, h⟩ | ⟨state, -, -, ⟨-, h⟩ | ⟨-, -, h⟩ | ⟨-, -, h⟩⟩ <;>
          rw [h] at hentry ⊢ <;> simp [Hit.task] at hentry ⊢
    | schedProcessExit task =>
        rw [step] at hentry ⊢
        unfold traceSchedProcessExit at hentry ⊢
        split
        next out => exact .inr ⟨by rwa [if_pos out] at hentry, rfl⟩
        next target =>
          rw [if_neg target] at hentry
          dsimp only at hentry
          split at hentry <;> simp [Hit.task] at hentry
  · rw [step_inflight_of_ne own] at hentry
    exact .inr ⟨hentry, step_snapshots_of_ne own⟩

/-- An entry of `execve` has its snapshot with it: the one its own `sys_enter` took. -/
theorem snapshot_of_inflight (cfg : Config) (targets : TargetPids) (hits : List Hit)
    {s : SyscallData}
    (hentry : (run (step cfg) (Maps.load targets) hits).inflightSyscalls t = some s)
    (exec : s.syscallId = nrExecve) :
    ∃ task ctx now enter, .sysEnter task ctx now enter ∈ hits ∧ task.tid = t ∧
      ctx.id = nrExecve ∧ ctx.args = s.args ∧
      (run (step cfg) (Maps.load targets) hits).execveSnapshots t =
        some (captureExecve enter s.args) := by
  -- From the back: the last hit took the snapshot, or left it along with the entry.
  induction hits using List.reverseRecOn with
  | nil => cases hentry
  | append_singleton hits last ih =>
      rw [run_concat] at hentry ⊢
      rcases step_execve_entry hentry exec with
        ⟨task, ctx, now, enter, rfl, own, hid, hargs, hsnap⟩ | ⟨old, kept⟩
      · exact ⟨task, ctx, now, enter, by simp, own, hid, hargs, hsnap⟩
      · obtain ⟨task, ctx, now, enter, hmem, own, hid, hargs, hsnap⟩ := ih old
        exact ⟨task, ctx, now, enter, List.mem_append_left _ hmem, own, hid, hargs,
          kept.trans hsnap⟩

/-- Among the hits is the `sys_enter` of an `execve` call of thread `tid` with
these arguments, and `enter` is what it found in user memory. -/
def EnteredExecve (hits : List Hit) (tid : UInt32) (args : Vector UInt64 6)
    (enter : UserMemory) : Prop :=
  ∃ task ctx now, .sysEnter task ctx now enter ∈ hits ∧ task.tid = tid ∧
    ctx.id = nrExecve ∧ ctx.args = args

/-- A submitted event delivers what was captured of its call. -/
theorem submitted_varsDelivered {targets : TargetPids} {hits : List Hit} {task : Task}
    {ctx : SysExitArgs} {now : UInt64} {mem : UserMemory} {reserved : Bool} {e : Event}
    (hsub : submitted cfg (run (step cfg) (Maps.load targets) hits)
      (.sysExit task ctx now mem reserved) = some e) :
    ∃ enter, (e.syscallId = nrExecve →
        ∃ entered, enter = some entered ∧ EnteredExecve hits e.tid e.args entered) ∧
      VarsDelivered e (capturedVars enter mem e.syscallId e.ret e.args) := by
  obtain ⟨task', ctx', now', mem', state, heq, -, hentry, -, rfl⟩ := submitted_eq_some.mp hsub
  cases heq
  generalize hsnap : (run (step cfg) (Maps.load targets) hits).execveSnapshots task.tid =
    snapshot
  have header := exitEvent_header mem state task ctx now snapshot
  rw [header.syscallId, header.ret, header.args, header.tid]
  by_cases exec : state.syscallId = nrExecve
  · obtain ⟨task', ctx', now', enter, hmem, own, hid, hargs, taken⟩ :=
      snapshot_of_inflight cfg targets hits hentry exec
    refine ⟨some enter, fun _ => ⟨enter, rfl, task', ctx', now', hmem, own, hid, hargs⟩, ?_⟩
    exact exitEvent_varsDelivered mem task state ctx now snapshot (some enter)
      fun _ => hsnap.symm.trans taken
  · exact ⟨none, fun h => absurd h exec,
      exitEvent_varsDelivered mem task state ctx now snapshot none fun h => absurd h exec⟩

end Runs

end Litrace.Bpf
