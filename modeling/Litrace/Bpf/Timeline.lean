import Litrace.Bpf.Entries
import Litrace.Bpf.FilteredEvents
import Mathlib.Data.Bool.AllAny

/-!
# The time line of a thread

An event says when its call was entered and how long it took, and both come from different
programs: `trace_sys_enter` records the time, and `trace_sys_exit` subtracts it.  If the clock
never goes back for a thread, the times of its events fit together: no duration wraps around,
an event ends before the next one begins, and so the durations add up to no more than the
time that has passed (`thread_timeline`).

None of this needs the calls to be paired well; an entry that is submitted by the exit of a
later call makes a long event, not one that overlaps.

The argument is about intervals and knows no maps (`Timeline`): a list of them in order,
inside the times seen so far, and the beginning of the one that is open.  A hit of the thread
either opens an interval, closes the open one, forgets it, or only lets time pass, and each of
these keeps the line.
-/

namespace Litrace.Bpf

open Transition

/-! ## Intervals -/

section

variable {α : Type*} (start length : α → ℕ)

/-- Intervals that lie in order between two bounds are no longer together than these are
apart. -/
theorem sum_length_le {xs : List α} {lower upper : ℕ} (bounds : lower ≤ upper)
    (ordered : xs.Pairwise fun x y => start x + length x ≤ start y)
    (above : ∀ x ∈ xs, lower ≤ start x) (below : ∀ x ∈ xs, start x + length x ≤ upper) :
    lower + (xs.map length).sum ≤ upper := by
  induction xs generalizing lower with
  | nil => simpa using bounds
  | cons x xs ih =>
      obtain ⟨before, ordered⟩ := List.pairwise_cons.mp ordered
      have first : lower ≤ start x := above x List.mem_cons_self
      have rest : start x + length x + (xs.map length).sum ≤ upper :=
        ih (below x List.mem_cons_self) ordered before
          fun y mem => below y (List.mem_cons_of_mem x mem)
      rw [List.map_cons, List.sum_cons]
      omega

end

/-! ## The clock -/

/-- What the clock says at a hit; `trace_sched_process_exit` does not ask. -/
def Hit.now : Hit → Option UInt64
  | .sysEnter _ _ now _ => some now
  | .sysExit _ _ now _ _ => some now
  | .schedProcessExit _ => none

/-- What it says at a hit of a thread. -/
def Hit.nowOn (tid : UInt32) (h : Hit) : Option UInt64 :=
  if h.task.tid = tid then h.now else none

/-- What a thread reads from the clock. -/
def timesOn (tid : UInt32) (hits : List Hit) : List UInt64 := hits.filterMap (Hit.nowOn tid)

/-- The events of a thread. -/
def eventsOn (cfg : Config) (m : Maps) (tid : UInt32) (hits : List Hit) : List Event :=
  (submittedEvents cfg m hits).filter fun e => e.tid = tid

/-- When the call of an event was over. -/
def stopNs (e : Event) : ℕ := e.ts.toNat + e.dur.toNat

/-- The times of the events fit together, also with the entry that is still inflight. -/
structure Timeline (times : List UInt64) (events : List Event) (entry : Option SyscallData) :
    Prop where
  ordered : events.Pairwise fun e e' => stopNs e ≤ e'.ts.toNat
  started : ∀ e ∈ events, e.ts ∈ times
  stopped : ∀ e ∈ events, ∃ now ∈ times, stopNs e = now.toNat
  entered : ∀ s, entry = some s → s.ts ∈ times ∧ ∀ e ∈ events, stopNs e ≤ s.ts.toNat

section

variable {cfg : Config} {m : Maps} {tid : UInt32} {times : List UInt64} {events : List Event}
  {entry : Option SyscallData}

/-- Without its entry, a thread still has its time line. -/
theorem Timeline.forget (line : Timeline times events entry) : Timeline times events none :=
  { line with entered := nofun }

/-- The clock may be read. -/
theorem Timeline.read (line : Timeline times events entry) (now : List UInt64) :
    Timeline (times ++ now) events entry where
  ordered := line.ordered
  started e mem := List.mem_append_left _ (line.started e mem)
  stopped e mem :=
    have ⟨now', mem', eq⟩ := line.stopped e mem
    ⟨now', List.mem_append_left _ mem', eq⟩
  entered s eq :=
    have ⟨ts, after⟩ := line.entered s eq
    ⟨List.mem_append_left _ ts, after⟩

/-- A call is entered. -/
theorem Timeline.enter {now : UInt64} (line : Timeline times events entry)
    (late : ∀ t ∈ times, t ≤ now) {s : SyscallData} (ts : s.ts = now) :
    Timeline (times ++ [now]) events (some s) := by
  refine { line.read [now] with entered := fun s' eq => ?_ }
  obtain rfl := Option.some.inj eq
  rw [ts]
  refine ⟨List.mem_append_right _ (List.mem_singleton_self now), fun e mem => ?_⟩
  obtain ⟨stop, mem', eq⟩ := line.stopped e mem
  rw [eq]
  exact UInt64.le_iff_toNat_le.mp (late stop mem')

/-- The difference is the time that has passed. -/
theorem stopNs_eq {e : Event} {now : UInt64} (late : e.ts ≤ now) (dur : e.dur = now - e.ts) :
    stopNs e = now.toNat := by
  have le := UInt64.le_iff_toNat_le.mp late
  rw [stopNs, dur, UInt64.toNat_sub_of_le _ _ late]
  omega

/-- The call of the entry is over. -/
theorem Timeline.leave {now : UInt64} {s : SyscallData} (line : Timeline times events (some s))
    (late : ∀ t ∈ times, t ≤ now) {e : Event} (ts : e.ts = s.ts) (dur : e.dur = now - e.ts) :
    Timeline (times ++ [now]) (events ++ [e]) none := by
  obtain ⟨mem, after⟩ := line.entered s rfl
  have stop : stopNs e = now.toNat := stopNs_eq (ts ▸ late s.ts mem) dur
  have read := line.read [now]
  refine ⟨List.pairwise_append.mpr ⟨line.ordered, List.pairwise_singleton _ _, ?_⟩, ?_, ?_, nofun⟩
  · intro e' mem' _ eq
    rw [List.mem_singleton.mp eq, ts]
    exact after e' mem'
  · intro e' mem'
    rcases List.mem_append.mp mem' with mem' | eq
    · exact read.started e' mem'
    · rw [List.mem_singleton.mp eq, ts]
      exact List.mem_append_left _ mem
  · intro e' mem'
    rcases List.mem_append.mp mem' with mem' | eq
    · exact read.stopped e' mem'
    · rw [List.mem_singleton.mp eq]
      exact ⟨now, List.mem_append_right _ (List.mem_singleton_self now), stop⟩

/-- The event of a hit says when its entry was recorded, and how long ago that was. -/
theorem times_of_submitted {h : Hit} {e : Event} (sub : submitted cfg m h = some e) :
    ∃ state now, m.inflightSyscalls h.task.tid = some state ∧ h.now = some now ∧
      e.tid = h.task.tid ∧ e.ts = state.ts ∧ e.dur = now - e.ts := by
  obtain ⟨task, ctx, now, mem, state, rfl, -, entry, -, rfl⟩ := submitted_eq_some.mp sub
  have header := exitEvent_header mem state task ctx now (m.execveSnapshots task.tid)
  refine ⟨state, now, entry, rfl, header.tid, header.ts, ?_⟩
  rw [header.dur, header.ts]
  rfl

/-- What a hit adds to the events of a thread. -/
def eventOn (cfg : Config) (m : Maps) (tid : UInt32) (h : Hit) : List Event :=
  (submitted cfg m h).toList.filter fun e => e.tid = tid

theorem eventOn_of_none {h : Hit} (silent : submitted cfg m h = none) :
    eventOn cfg m tid h = [] := by
  rw [eventOn, silent]
  rfl

/-- **A hit continues the time line.** -/
theorem Timeline.step {h : Hit} (line : Timeline times events (m.inflightSyscalls tid))
    (late : ∀ now, h.nowOn tid = some now → ∀ t ∈ times, t ≤ now) :
    Timeline (times ++ (h.nowOn tid).toList) (events ++ eventOn cfg m tid h)
      ((Bpf.step cfg m h).inflightSyscalls tid) := by
  by_cases own : h.task.tid = tid
  · subst own
    have nowOn : h.nowOn h.task.tid = h.now := if_pos rfl
    cases sub : submitted cfg m h with
    | some e =>
        obtain ⟨state, now, entry, clock, own, ts, dur⟩ := times_of_submitted sub
        have event : eventOn cfg m h.task.tid h = [e] := by
          rw [eventOn, sub, Option.toList_some, List.filter_cons_of_pos (by simpa using own)]
          rfl
        have gone := step_inflight_of_submitted sub
        rw [own] at gone
        rw [nowOn, clock] at late ⊢
        rw [event, gone]
        exact (entry ▸ line).leave (late now rfl) ts dur
    | none =>
        rw [eventOn_of_none sub, List.append_nil]
        cases after : (Bpf.step cfg m h).inflightSyscalls h.task.tid with
        | none => exact (line.read _).forget
        | some s =>
            rcases step_inflight_eq_some after with ⟨-, recorded⟩ | ⟨entry, -⟩
            · cases h with
              | sysEnter task ctx now mem =>
                  obtain ⟨-, -, rfl⟩ := sysEnterState_eq_some.mp recorded
                  rw [nowOn] at late ⊢
                  exact line.enter (late now rfl) rfl
              | sysExit => cases recorded
              | schedProcessExit => cases recorded
            · rw [entry] at line
              exact line.read _
  · have silent : eventOn cfg m tid h = [] := by
      rw [eventOn, List.filter_eq_nil_iff]
      intro e mem
      obtain ⟨-, -, -, -, eq, -⟩ := times_of_submitted (Option.mem_toList.mp mem)
      simpa [eq] using own
    rw [Hit.nowOn, if_neg own, silent, step_inflight_of_ne (Ne.symm own)]
    simpa using line

/-! ## Runs -/

/-- The events of a run and one more hit. -/
theorem eventsOn_concat (hits : List Hit) (h : Hit) :
    eventsOn cfg m tid (hits ++ [h]) =
      eventsOn cfg m tid hits ++ eventOn cfg (run (Bpf.step cfg) m hits) tid h := by
  simp [eventsOn, submittedEvents, emitted_append, eventOn]

/-- The clock readings of a run and one more hit. -/
theorem timesOn_concat (hits : List Hit) (h : Hit) :
    timesOn tid (hits ++ [h]) = timesOn tid hits ++ (h.nowOn tid).toList := by
  cases now : h.nowOn tid <;> simp [timesOn, now]

/-- Every run has a time line, if the clock does not go back. -/
theorem timeline_run (cfg : Config) (targets : TargetPids) (tid : UInt32) (hits : List Hit)
    (clock : (timesOn tid hits).Pairwise (· ≤ ·)) :
    Timeline (timesOn tid hits) (eventsOn cfg (Maps.load targets) tid hits)
      ((run (Bpf.step cfg) (Maps.load targets) hits).inflightSyscalls tid) := by
  induction hits using List.reverseRecOn with
  | nil => exact ⟨.nil, nofun, nofun, nofun⟩
  | append_singleton hits h ih =>
      rw [timesOn_concat] at clock ⊢
      obtain ⟨before, -, late⟩ := List.pairwise_append.mp clock
      rw [eventsOn_concat, run_concat]
      exact (ih before).step fun now eq t mem => late t mem now (by simp [eq])

end

/-- **The times of a thread's events fit together.**  If the clock does not go back for the
thread, then whatever the filter, the failures of the ring buffer and the other threads do,
its events are in order and do not overlap, each begins and ends when the thread hit a
tracepoint, and together they last no longer than the thread was seen.

The last part bounds the sum of the durations in natural numbers, so a duration that had wrapped
around would count with its large value. -/
theorem thread_timeline (cfg : Config) (targets : TargetPids) (tid : UInt32) (hits : List Hit)
    (clock : (timesOn tid hits).Pairwise (· ≤ ·)) :
    ((eventsOn cfg (Maps.load targets) tid hits).Pairwise fun e e' => stopNs e ≤ e'.ts.toNat) ∧
      (∀ e ∈ eventsOn cfg (Maps.load targets) tid hits,
        e.ts ∈ timesOn tid hits ∧ ∃ now ∈ timesOn tid hits, stopNs e = now.toNat) ∧
      ∀ first last : UInt64, first ≤ last →
        (∀ now ∈ timesOn tid hits, first ≤ now ∧ now ≤ last) →
          first.toNat + ((eventsOn cfg (Maps.load targets) tid hits).map fun e => e.dur.toNat).sum ≤
            last.toNat := by
  have line := timeline_run cfg targets tid hits clock
  refine ⟨line.ordered, fun e mem => ⟨line.started e mem, line.stopped e mem⟩, ?_⟩
  intro first last bounds within
  refine sum_length_le (fun e : Event => e.ts.toNat) (fun e => e.dur.toNat)
    (UInt64.le_iff_toNat_le.mp bounds) line.ordered ?_ ?_
  · exact fun e mem => UInt64.le_iff_toNat_le.mp (within e.ts (line.started e mem)).1
  · intro e mem
    obtain ⟨now, mem', stop⟩ := line.stopped e mem
    exact stop.trans_le (UInt64.le_iff_toNat_le.mp (within now mem').2)

theorem thread_timeline_twoReads :
    10 + ((eventsOn ⟨false, false, ∅⟩ (Maps.load soleTarget) 100 twoReads).map
      fun e => e.dur.toNat).sum ≤ 25 := by
  refine (thread_timeline ⟨false, false, ∅⟩ soleTarget 100 twoReads ?_).2.2 10 25 ?_ ?_
  · exact show [10, 11, 20, 25].Pairwise (· ≤ ·) by decide
  · decide
  · exact show ∀ now ∈ [10, 11, 20, 25], 10 ≤ now ∧ now ≤ 25 from
      List.all_iff_forall_prop.mp (by decide)

end Litrace.Bpf
