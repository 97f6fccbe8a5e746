import Litrace.Bpf.FilterIndependence
import Litrace.Bpf.SubmittedVars

/-!
# The filter only hides events

With `trace_filter_enabled` the programs record less: a call that is not selected
leaves no entry, and a clone that is not selected leaves an entry that is dropped at
its exit.  What they submit for the selected calls is the same
(`filter_only_hides_events`): the events of a filtered run are those of the unfiltered
run that the filter selects, in the same order, up to their sequence numbers, which
count the recorded calls only.

The targets agree already (`Agree`).  Here the entries and snapshots of the two runs are
compared as well (`SameData`); for that it does not matter whether a thread belongs to a
target, since nothing happens to the entries of the others.

The runs are those without a failed reservation.  With one the statement is false: the entry
of a call whose reservation fails is left over, and after a call that only the unfiltered run
records the filtered run still has it, and submits it with the result of that call.  Beyond
what `Promised` allows, a thread may return from a call that it has not been seen to enter
(`Comes`): the child of a fork does so first of all, and a thread that is attached to may be
in any call.
-/

namespace Litrace.Bpf

open Transition

/-! ## Events up to their number -/

/-- The event without its sequence number. -/
def unnumbered (e : Event) : Event := { e with seq := 0 }

/-- The events a run submits, in order. -/
def submittedEvents (cfg : Config) (m : Maps) (hits : List Hit) : List Event :=
  emitted (step cfg) (fun m h => (submitted cfg m h).toList) m hits

section Numbers

variable (mem : UserMemory) (args : Vector UInt64 6) (e : Event)

theorem appendVarString_unnumbered (i : UInt8) (ptr : UInt64) :
    appendVarString mem (unnumbered e) i ptr = unnumbered (appendVarString mem e i ptr) := by
  cases hread : mem.readStrInto e.payload (slotDesc e i).offset.toNat genericVarSlotSize ptr with
  | mk payload copied =>
      have hread' : mem.readStrInto (unnumbered e).payload (slotDesc (unnumbered e) i).offset.toNat
          genericVarSlotSize ptr = (payload, copied) := hread
      unfold appendVarString
      dsimp only
      rw [hread, hread', apply_ite unnumbered, apply_ite unnumbered]
      cases copied <;> rfl

theorem appendVarBytes_unnumbered (i : UInt8) (ptr size : UInt64) :
    appendVarBytes mem (unnumbered e) i ptr size =
      unnumbered (appendVarBytes mem e i ptr size) := by
  unfold appendVarBytes
  dsimp only
  generalize (if size.toNat < genericVarSlotSize then size.toNat else genericVarSlotSize) = toCopy
  cases hread : mem.readInto e.payload (slotDesc e i).offset.toNat toCopy ptr with
  | mk payload ok =>
      have hread' : mem.readInto (unnumbered e).payload (slotDesc (unnumbered e) i).offset.toNat
          toCopy ptr = (payload, ok) := hread
      rw [hread', apply_ite unnumbered, apply_ite unnumbered, apply_ite unnumbered]
      cases ok <;> rfl

/-- A capture does not read the number of the event, so clearing the number commutes with it. -/
theorem Capture.run_unnumbered (c : Capture) :
    c.run mem args (unnumbered e) = unnumbered (c.run mem args e) := by
  cases c with
  | string i =>
      rw [Capture.run, captureString, appendVarString_unnumbered]
      rfl
  | struct i size =>
      rw [Capture.run, captureStruct, appendVarBytes_unnumbered]
      rfl
  | buffer i size => exact appendVarBytes_unnumbered mem e i.1.toUInt8 (args.get i) size

/-- A whole plan commutes with clearing the number, by induction on the plan. -/
theorem foldl_run_unnumbered (plan : List Capture) :
    plan.foldl (fun e c => c.run mem args e) (unnumbered e) =
      unnumbered (plan.foldl (fun e c => c.run mem args e) e) := by
  induction plan generalizing e with
  | nil => rfl
  | cons c plan ih => rw [List.foldl_cons, Capture.run_unnumbered, ih, List.foldl_cons]

/-- The captures do not look at the number. -/
theorem captureVars_unnumbered (id ret : Int64) (snapshot : Option ExecveSnapshot) :
    captureVars mem id ret args snapshot (unnumbered e) =
      unnumbered (captureVars mem id ret args snapshot e) := by
  rw [captureVars_eq_captures, captureVars_eq_captures, apply_ite unnumbered,
    foldl_run_unnumbered]
  cases snapshot <;> rfl

theorem setSyscallArgSchema_unnumbered (id : Int64) :
    setSyscallArgSchema id (unnumbered e) = unnumbered (setSyscallArgSchema id e) := by
  unfold setSyscallArgSchema
  split <;> rfl

/-- The snapshot is looked at for `execve` only. -/
theorem captureVars_congr {id : Int64} {snapshot snapshot' : Option ExecveSnapshot}
    (same : id = nrExecve → snapshot' = snapshot) (ret : Int64) :
    captureVars mem id ret args snapshot' e = captureVars mem id ret args snapshot e := by
  rw [captureVars_eq_captures, captureVars_eq_captures]
  split
  next exec => rw [same exec]
  next => rfl

/-- Up to its number an event is made from the call, its arguments and its time. -/
theorem unnumbered_exitEvent {task : Task} {state state' : SyscallData} {ctx : SysExitArgs}
    {now : UInt64} {snapshot snapshot' : Option ExecveSnapshot}
    (hid : state'.syscallId = state.syscallId) (hargs : state'.args = state.args)
    (hts : state'.ts = state.ts) (same : state.syscallId = nrExecve → snapshot' = snapshot) :
    unnumbered (exitEvent mem task state' ctx now snapshot') =
      unnumbered (exitEvent mem task state ctx now snapshot) := by
  have header : unnumbered (eventHeader mem task state' ctx now) =
      unnumbered (eventHeader mem task state ctx now) := by
    unfold unnumbered eventHeader
    rw [isProcessClone_congr hid hargs, hid, hargs, hts]
  rw [exitEvent, exitEvent, hid, hargs, captureVars_congr mem _ _ same,
    ← captureVars_unnumbered, ← captureVars_unnumbered, ← setSyscallArgSchema_unnumbered,
    ← setSyscallArgSchema_unnumbered, header]

end Numbers

/-! ## Entries with the same data -/

/-- What the filtered run has for an entry of the unfiltered run, beside the call itself.
An entry that it does not have is not of a selected call. -/
structure SameData (cfg' : Config) (state : SyscallData) (snapshot : Option ExecveSnapshot)
    (entry' : Option SyscallData) (snapshot' : Option ExecveSnapshot) : Prop where
  selected : state.selected = true
  skipped : entry' = none → cfg'.selects state.syscallId = false
  recorded : ∀ state', entry' = some state' →
    state'.ts = state.ts ∧ state'.selected = cfg'.selects state.syscallId ∧
      (state.syscallId = nrExecve → snapshot' = snapshot)

/-- All entries of the unfiltered run have the same data in the filtered run. -/
def SameEntries (cfg' : Config) (m n : Maps) : Prop :=
  ∀ tid state, m.inflightSyscalls tid = some state →
    SameData cfg' state (m.execveSnapshots tid) (n.inflightSyscalls tid) (n.execveSnapshots tid)

/-- What the unfiltered run has not recorded, no run has. -/
theorem SameCall.of_none {pending : Option Int64} {entry' : Option SyscallData}
    (same : SameCall pending none entry') : entry' = none := by
  cases same
  rfl

/-- Entries that both runs have are of one call. -/
theorem SameCall.of_both {pending : Option Int64} {state state' : SyscallData}
    (same : SameCall pending (some state) (some state')) :
    state'.syscallId = state.syscallId ∧ state'.args = state.args := by
  cases same with
  | recorded _ _ hid hargs => exact ⟨hid, hargs⟩

section

variable {cfg cfg' : Config} {tgidOf : UInt32 → UInt32} {m n : Maps} {k : Threads}

theorem sameEntries_start (targets : TargetPids) :
    SameEntries cfg' (Maps.load targets) (Maps.load targets) := fun _ _ h => nomatch h

/-- It is enough to look at the thread that hits, if it belongs to a target. -/
theorem SameEntries.step_of {h : Hit} (same : SameEntries cfg' m n)
    (inv : Agree tgidOf m n k)
    (own : h.task.tgid ∈ m.targetPids → ∀ state,
      (step cfg m h).inflightSyscalls h.task.tid = some state →
        SameData cfg' state ((step cfg m h).execveSnapshots h.task.tid)
          ((step cfg' n h).inflightSyscalls h.task.tid)
          ((step cfg' n h).execveSnapshots h.task.tid)) :
    SameEntries cfg' (step cfg m h) (step cfg' n h) := by
  intro tid state hentry
  by_cases target : h.task.tgid ∈ m.targetPids
  · by_cases mine : tid = h.task.tid
    · subst mine
      exact own target state hentry
    · rw [step_inflight_of_ne mine] at hentry
      rw [step_snapshots_of_ne mine, step_inflight_of_ne mine, step_snapshots_of_ne mine]
      exact same tid state hentry
  · have target' : h.task.tgid ∉ n.targetPids := by rwa [inv.targets]
    rw [step_of_not_target target] at hentry ⊢
    rw [step_of_not_target target']
    exact same tid state hentry

/-- A recorded `execve` has a new snapshot. -/
theorem sysEnter_snapshots_self {task : Task} {ctx : SysEnterArgs} {now : UInt64}
    {mem : UserMemory} {state : SyscallData}
    (recorded : sysEnterState cfg m task ctx now mem = some state) (exec : ctx.id = nrExecve) :
    (traceSysEnter cfg m task ctx now mem).execveSnapshots task.tid =
      some (captureExecve mem ctx.args) := by
  rw [traceSysEnter, recorded]
  dsimp only
  rw [if_pos exec, Function.update_self]

/-- A recorded entry of the filtered run is one of the unfiltered run as well: a call that the
filter selects is recorded by both. -/
theorem SameEntries.sysEnter {task : Task} {ctx : SysEnterArgs} {now : UInt64}
    {mem : UserMemory} (same : SameEntries cfg' m n) (inv : Agree tgidOf m n k)
    (off : cfg.traceFilterEnabled = false)
    (promised : Promised tgidOf k (.sysEnter task ctx now mem)) :
    SameEntries cfg' (step cfg m (.sysEnter task ctx now mem))
      (step cfg' n (.sysEnter task ctx now mem)) := by
  obtain ⟨tid_fixed, idle, -⟩ := promised
  replace tid_fixed : task.tgid = tgidOf task.tid := tid_fixed
  refine same.step_of inv fun htarget state hentry => ?_
  replace htarget : task.tgid ∈ m.targetPids := htarget
  have selects : cfg.selects ctx.id = true := by simp [Config.selects, off]
  have recorded : sysEnterState cfg m task ctx now mem =
      some ⟨now, ctx.id, ctx.args, nextSeq m task.tid, cfg.selects ctx.id⟩ :=
    sysEnterState_eq_some.mpr ⟨htarget, .inl selects, rfl⟩
  -- The thread is in no call, so the filtered run has nothing from before.
  have free : n.inflightSyscalls task.tid = none := by
    have before := inv.calls task.tid (by rwa [← tid_fixed])
    rw [idle] at before
    exact before.idle.2
  show SameData cfg' state ((step cfg m _).execveSnapshots task.tid)
    ((step cfg' n _).inflightSyscalls task.tid) ((step cfg' n _).execveSnapshots task.tid)
  rw [Hit.task, step, sysEnter_inflight, if_pos rfl, recorded, Option.some_or,
    Option.some.injEq] at hentry
  subst hentry
  rw [step, step, sysEnter_inflight, if_pos rfl, free, Option.or_none]
  refine ⟨selects, fun hnone => ?_, fun state' hstate' => ?_⟩
  · by_contra selected
    have target' : task.tgid ∈ n.targetPids := by rwa [inv.targets]
    rw [sysEnterState_eq_some.mpr ⟨target', .inl (by simpa using selected), rfl⟩] at hnone
    cases hnone
  · obtain ⟨-, -, rfl⟩ := sysEnterState_eq_some.mp hstate'
    refine ⟨rfl, rfl, fun exec => ?_⟩
    rw [sysEnter_snapshots_self hstate' exec, sysEnter_snapshots_self recorded exec]

/-- The step lemma: the entries the filtered run has selected are entries of the unfiltered run. -/
theorem SameEntries.step (off : cfg.traceFilterEnabled = false) (h : Hit)
    (same : SameEntries cfg' m n) (inv : Agree tgidOf m n k) (promised : Promised tgidOf k h) :
    SameEntries cfg' (Bpf.step cfg m h) (Bpf.step cfg' n h) := by
  cases h with
  | sysEnter task ctx now mem => exact same.sysEnter inv off promised
  | sysExit task ctx now mem reserved =>
      obtain ⟨-, -, -, -, rfl⟩ := promised
      refine same.step_of inv fun htarget state hentry => ?_
      have left : (Bpf.step cfg m (.sysExit task ctx now mem true)).inflightSyscalls task.tid
          = none := sysExit_inflight_self htarget
      cases left.symm.trans hentry
  | schedProcessExit task =>
      refine same.step_of inv fun htarget state hentry => ?_
      have left : (Bpf.step cfg m (.schedProcessExit task)).inflightSyscalls task.tid = none :=
        schedProcessExit_inflight_self htarget
      cases left.symm.trans hentry

/-! ## Returns from calls not seen -/

/-- A thread returns from a call that it has not been seen to enter. -/
def ReturnsUnseen (tgidOf : UInt32 → UInt32) (k : Threads) : Hit → Prop
  | .sysExit task _ _ _ _ => task.tgid = tgidOf task.tid ∧ k.pending task.tid = none
  | _ => False

/-- What the kernel promises, also of the threads that are in a call when they are first
seen. -/
def Comes (tgidOf : UInt32 → UInt32) (k : Threads) (h : Hit) : Prop :=
  Promised tgidOf k h ∨ ReturnsUnseen tgidOf k h

section

variable {cfg : Config} {tgidOf : UInt32 → UInt32} {m n : Maps} {k : Threads} {h : Hit}

/-- It does nothing in a run without an entry of the thread. -/
theorem sysExit_of_no_entry {task : Task} {ctx : SysExitArgs} {now : UInt64} {mem : UserMemory}
    {reserved : Bool} (idle : task.tgid ∈ m.targetPids → m.inflightSyscalls task.tid = none) :
    traceSysExit cfg m task ctx now mem reserved = (m, none) := by
  unfold traceSysExit
  split
  next => rfl
  next target => rw [idle (not_not.mp target)]

/-- In both runs there is none. -/
theorem Agree.returnsUnseen (cfg cfg' : Config) (inv : Agree tgidOf m n k)
    (unseen : ReturnsUnseen tgidOf k h) :
    (Bpf.step cfg m h = m ∧ submitted cfg m h = none) ∧
      (Bpf.step cfg' n h = n ∧ submitted cfg' n h = none) := by
  cases h with
  | sysEnter => exact unseen.elim
  | schedProcessExit => exact unseen.elim
  | sysExit task ctx now mem reserved =>
      obtain ⟨tid_fixed, idle⟩ := unseen
      have entries : task.tgid ∈ m.targetPids →
          m.inflightSyscalls task.tid = none ∧ n.inflightSyscalls task.tid = none := by
        intro target
        have call := inv.calls task.tid (by rwa [← tid_fixed])
        rw [idle] at call
        exact call.idle
      have first : traceSysExit cfg m task ctx now mem reserved = (m, none) :=
        sysExit_of_no_entry fun target => (entries target).1
      have second : traceSysExit cfg' n task ctx now mem reserved = (n, none) :=
        sysExit_of_no_entry fun target => (entries (by rwa [← inv.targets])).2
      rw [Bpf.step, submitted, Bpf.step, submitted, first, second]
      exact ⟨⟨rfl, rfl⟩, rfl, rfl⟩

/-- The thread is in no call afterwards, as before, and a process may be known more. -/
theorem Agree.next_of_returnsUnseen (inv : Agree tgidOf m n k)
    (unseen : ReturnsUnseen tgidOf k h) : Agree tgidOf m n (k.next h) where
  targets := inv.targets
  known tgid htarget := k.known_subset_next h (inv.known tgid htarget)
  blank tid unknown := inv.blank tid fun before => unknown (k.known_subset_next h before)
  calls tid htarget := by
    have pending : (k.next h).pending tid = k.pending tid := by
      by_cases mine : tid = h.task.tid
      · cases h with
        | sysEnter => exact unseen.elim
        | schedProcessExit => exact unseen.elim
        | sysExit task ctx now mem reserved =>
            subst mine
            exact (Function.update_self ..).trans unseen.2.symm
      · exact Threads.next_pending_of_ne mine
    rw [pending]
    exact inv.calls tid htarget

end

/-! ## What one hit submits -/

/-- The filter lets the event through. -/
def Config.showsEvent (cfg : Config) (e : Event) : Bool := cfg.selects e.syscallId

/-- It looks at the call of the entry that the event is made from. -/
theorem showsEvent_exitEvent (cfg : Config) (mem : UserMemory) (task : Task)
    (state : SyscallData) (ctx : SysExitArgs) (now : UInt64) (snapshot : Option ExecveSnapshot) :
    cfg.showsEvent (exitEvent mem task state ctx now snapshot) = cfg.selects state.syscallId := by
  rw [Config.showsEvent, (exitEvent_header mem state task ctx now snapshot).syscallId]
  rfl

/-- A return in a target of which the run without a filter has an entry. -/
theorem submitted_filtered_recorded {task : Task} {ctx : SysExitArgs} {now : UInt64}
    {mem : UserMemory} {state : SyscallData} {id : Option Int64} (same : SameEntries cfg' m n)
    (targets : n.targetPids = m.targetPids) (htarget : task.tgid ∈ m.targetPids)
    (hentry : m.inflightSyscalls task.tid = some state)
    (call : SameCall id (some state) (n.inflightSyscalls task.tid)) :
    ((traceSysExit cfg m task ctx now mem true).2.toList.filter cfg'.showsEvent).map unnumbered =
      (traceSysExit cfg' n task ctx now mem true).2.toList.map unnumbered := by
  obtain ⟨selected, skipped, recorded⟩ := same task.tid state hentry
  have htarget' : task.tgid ∈ n.targetPids := by rwa [targets]
  have event : (traceSysExit cfg m task ctx now mem true).2 =
      some (exitEvent mem task state ctx now (m.execveSnapshots task.tid)) :=
    sysExit_event_eq_some.mpr ⟨state, htarget, hentry, selected, rfl, rfl⟩
  rw [event, Option.toList_some, List.filter_singleton, showsEvent_exitEvent]
  cases hentry' : n.inflightSyscalls task.tid with
  | none =>
      rw [skipped hentry']
      simp [traceSysExit, htarget', hentry']
  | some state' =>
      obtain ⟨hts, selected', hsnap⟩ := recorded state' hentry'
      rw [hentry'] at call
      obtain ⟨hid, hargs⟩ := call.of_both
      cases shown : cfg'.selects state.syscallId with
      | false =>
          rw [shown] at selected'
          simp [traceSysExit, htarget', hentry', selected']
      | true =>
          rw [shown] at selected'
          have event' : (traceSysExit cfg' n task ctx now mem true).2 =
              some (exitEvent mem task state' ctx now (n.execveSnapshots task.tid)) :=
            sysExit_event_eq_some.mpr ⟨state', htarget', hentry', selected', rfl, rfl⟩
          rw [event', Option.toList_some, cond_true, List.map_singleton, List.map_singleton,
            unnumbered_exitEvent mem hid hargs hts hsnap]

/-- What a hit submits in both runs, up to numbers. -/
theorem submitted_filtered {h : Hit} (same : SameEntries cfg' m n) (inv : Agree tgidOf m n k)
    (promised : Promised tgidOf k h) :
    ((submitted cfg m h).toList.filter cfg'.showsEvent).map unnumbered =
      (submitted cfg' n h).toList.map unnumbered := by
  cases h with
  | sysEnter task ctx now mem => rfl
  | schedProcessExit task => rfl
  | sysExit task ctx now mem reserved =>
      obtain ⟨tid_fixed, inCall, -, -, rfl⟩ := promised
      replace tid_fixed : task.tgid = tgidOf task.tid := tid_fixed
      rw [submitted, submitted]
      by_cases htarget : task.tgid ∈ m.targetPids
      · have call := inv.calls task.tid (by rwa [← tid_fixed])
        cases hentry : m.inflightSyscalls task.tid with
        | none =>
            rw [hentry] at call
            have htarget' : task.tgid ∈ n.targetPids := by rwa [inv.targets]
            have hentry' : n.inflightSyscalls task.tid = none := call.of_none
            simp [traceSysExit, htarget, htarget', hentry, hentry']
        | some state =>
            rw [hentry] at call
            exact submitted_filtered_recorded same inv.targets htarget hentry call
      · have htarget' : task.tgid ∉ n.targetPids := by rwa [inv.targets]
        simp [traceSysExit, htarget, htarget']

end

/-! ## The events of the two runs -/

/-- Up to numbers, a run with a filter submits what it lets through of a run without one. -/
theorem submittedEvents_filtered {cfg cfg' : Config} (off : cfg.traceFilterEnabled = false)
    (follow : cfg.followForks = true) (follow' : cfg'.followForks = true)
    {targets : TargetPids} {tgidOf : UInt32 → UInt32} {hits : List Hit}
    (promised : AllSteps Threads.next (Comes tgidOf) (Threads.start targets) hits) :
    (submittedEvents cfg' (Maps.load targets) hits).map unnumbered =
      ((submittedEvents cfg (Maps.load targets) hits).filter cfg'.showsEvent).map unnumbered := by
  rw [submittedEvents, submittedEvents, filter_emitted, map_emitted, map_emitted]
  symm
  refine emitted_eq_of_rel (fun m n k => Agree tgidOf m n k ∧ SameEntries cfg' m n) ?_
    ⟨agree_start targets, sameEntries_start targets⟩ promised
  rintro m n k h ⟨inv, same⟩ (hp | unseen)
  · exact ⟨submitted_filtered same inv hp, inv.step off follow follow' h hp,
      same.step off h inv hp⟩
  · obtain ⟨⟨stays, nothing⟩, stays', nothing'⟩ :=
      inv.returnsUnseen cfg cfg' unseen
    rw [stays, nothing, stays', nothing']
    exact ⟨rfl, inv.next_of_returnsUnseen unseen, same⟩

/-- **The filter only hides events.**  With `follow_forks` on, for every filter and every
sequence of hits in which no reservation fails, the filtered run submits what the unfiltered
run submits for the calls that the filter selects, in the same order and up to the sequence
numbers.

Numbers are left out because a filtered run counts fewer calls.  Everything else of an event is
compared, its payload included. -/
theorem filter_only_hides_events (filter : Finset UInt32) (targets : TargetPids)
    (tgidOf : UInt32 → UInt32) (hits : List Hit)
    (promised : AllSteps Threads.next (Comes tgidOf) (Threads.start targets) hits) :
    (submittedEvents ⟨true, true, filter⟩ (Maps.load targets) hits).map unnumbered =
      ((submittedEvents ⟨true, false, filter⟩ (Maps.load targets) hits).filter
        fun e => e.syscallId.toUInt64.toUInt32 ∈ filter).map unnumbered := by
  have shows : (fun e : Event => decide (e.syscallId.toUInt64.toUInt32 ∈ filter)) =
      Config.showsEvent ⟨true, true, filter⟩ := by
    funext e
    simp [Config.showsEvent, Config.selects]
  rw [shows]
  exact submittedEvents_filtered rfl rfl rfl promised

/-- As `forkThenRead`, with the return of the child from the `fork`. -/
def forkReturnsTwice : List Hit :=
  forkThenRead.take 2 ++ .sysExit ⟨200, 200⟩ ⟨nrFork, 0⟩ 25 .unmapped true :: forkThenRead.drop 2

theorem forkReturnsTwice_comes :
    AllSteps Threads.next (Comes id) (Threads.start soleTarget) forkReturnsTwice :=
  ⟨.inl ⟨rfl, rfl, rfl⟩, .inl ⟨rfl, rfl, by decide, fun _ _ => by decide, rfl⟩,
    .inr ⟨rfl, rfl⟩, .inl ⟨rfl, rfl, rfl⟩,
    .inl ⟨rfl, rfl, by decide, fun _ _ => by decide, rfl⟩, .inl ⟨rfl, trivial⟩, trivial⟩

/-- A filter for `read` keeps the `read` of the child and hides the fork that the target does
before it. -/
theorem filter_only_hides_events_forkReturnsTwice :
    (submittedEvents ⟨true, true, {0}⟩ (Maps.load soleTarget) forkReturnsTwice).map unnumbered =
      ((submittedEvents ⟨true, false, {0}⟩ (Maps.load soleTarget) forkReturnsTwice).filter
        fun e => e.syscallId.toUInt64.toUInt32 ∈ ({0} : Finset UInt32)).map unnumbered :=
  filter_only_hides_events {0} soleTarget id forkReturnsTwice forkReturnsTwice_comes

end Litrace.Bpf
