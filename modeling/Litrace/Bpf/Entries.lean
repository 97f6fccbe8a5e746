import Litrace.Bpf.Tracer
import Litrace.Lib.Transition

/-!
# Every event is backed by its own recorded entry

Whatever the schedule, the filter and the failures of the ring buffer, an event
of thread `t` carries the data some earlier `sys_enter` of `t` recorded, and no
entry is submitted twice: within one lifetime of `t` the sequence numbers of
its events increase strictly.

Two facts about a single step carry the proofs.  An inflight entry is either
the one just recorded or the one that was there, in which case nothing was
submitted for the thread (`step_inflight_eq_some`).  And the entries that are
inflight or still to come have a sequence number above any bound that the
thread's counter has reached with no entry inflight (`SeqAbove`).

A thread is its tid here, and a lifetime ends where `cleanup_tid_state` runs
for the tid.

The events of one thread are told apart by their numbers, since an entry is
never submitted twice but two entries may well carry the same data.  The counter
is a `u32` and starts again at a cleanup, so what is said about the numbers is
for less than `2 ^ 32` recorded calls between two cleanups
(`LifetimeEntersBelow`), which is a condition on the run and not on the state.
-/

namespace Litrace.Bpf

open Transition

/-- What a hit records. -/
def recordedBy (cfg : Config) (m : Maps) : Hit → Option SyscallData
  | .sysEnter task ctx now mem => sysEnterState cfg m task ctx now mem
  | _ => none

/-- Whether the hit is a `sys_enter` of thread `t`. -/
def entersOn (t : UInt32) : Hit → Bool
  | .sysEnter task _ _ _ => task.tid == t
  | _ => false

/-- The hit runs `cleanup_tid_state` for `t`. -/
def CleansUp (m : Maps) (t : UInt32) : Hit → Prop
  | .sysEnter _ _ _ _ => False
  | .sysExit task _ _ _ reserved =>
      task.tid = t ∧ task.tgid ∈ m.targetPids ∧
        ∃ state, m.inflightSyscalls t = some state ∧ state.selected = true ∧
          reserved = true ∧ (state.syscallId = nrExit ∨ state.syscallId = nrExitGroup)
  | .schedProcessExit task => task.tid = t ∧ task.tgid ∈ m.targetPids

/-- The thread's counter, zero while it has none. -/
def seqNat (m : Maps) (t : UInt32) : ℕ := (m.tidSequences t).elim 0 UInt32.toNat

section

variable {cfg : Config} {m : Maps} {t : UInt32}

/-! ## The header of a submitted event -/

/-- When a hit submits an event, and which: the entry of the thread is there and selected, and its
group is traced. -/
theorem submitted_eq_some {h : Hit} {e : Event} :
    submitted cfg m h = some e ↔
      ∃ task ctx now mem state, h = .sysExit task ctx now mem true ∧
        task.tgid ∈ m.targetPids ∧ m.inflightSyscalls task.tid = some state ∧
        state.selected = true ∧
        e = exitEvent mem task state ctx now (m.execveSnapshots task.tid) := by
  cases h with
  | sysEnter task ctx now mem => simp [submitted]
  | schedProcessExit task => simp [submitted]
  | sysExit task ctx now mem reserved =>
      rw [submitted, sysExit_event_eq_some]
      constructor
      · rintro ⟨state, htarget, hentry, hsel, rfl, he⟩
        exact ⟨task, ctx, now, mem, state, rfl, htarget, hentry, hsel, he⟩
      · rintro ⟨task, ctx, now, mem, state, heq, htarget, hentry, hsel, he⟩
        cases heq
        exact ⟨state, htarget, hentry, hsel, rfl, he⟩

/-- A submitted event carries the data of the entry inflight for its thread. -/
theorem submitted_entry {h : Hit} {e : Event} (hsub : submitted cfg m h = some e) :
    e.tid = h.task.tid ∧ ∃ state, m.inflightSyscalls e.tid = some state ∧
      state.selected = true ∧ e.seq = state.seq ∧ e.syscallId = state.syscallId ∧
      e.args = state.args ∧ e.ts = state.ts := by
  obtain ⟨task, ctx, now, mem, state, rfl, -, hentry, hsel, rfl⟩ :=
    submitted_eq_some.mp hsub
  have header := exitEvent_header mem state task ctx now (m.execveSnapshots task.tid)
  have htid : (exitEvent mem task state ctx now (m.execveSnapshots task.tid)).tid
      = task.tid := header.tid
  exact ⟨htid, state, by rw [htid]; exact hentry, hsel, header.seq, header.syscallId,
    header.args, header.ts⟩

/-! ## What a step leaves inflight -/

/-- The end of a process only takes entries away. -/
theorem step_schedProcessExit_inflight {task : Task} {s : SyscallData}
    (hentry : (traceSchedProcessExit m task).inflightSyscalls t = some s) :
    m.inflightSyscalls t = some s := by
  unfold traceSchedProcessExit at hentry
  split at hentry
  · exact hentry
  · have hcleaned : Function.update m.inflightSyscalls task.tid none t = some s := by
      dsimp only at hentry
      split at hentry <;> exact hentry
    by_cases own : t = task.tid
    · subst own
      simp at hcleaned
    · rwa [Function.update_of_ne own] at hcleaned

/-- An exit leaves the entry of its thread only when it submits nothing. -/
theorem step_sysExit_inflight {task : Task} {ctx : SysExitArgs} {now : UInt64}
    {mem : UserMemory} {reserved : Bool} {s : SyscallData}
    (hentry : (traceSysExit cfg m task ctx now mem reserved).1.inflightSyscalls task.tid
      = some s) :
    m.inflightSyscalls task.tid = some s ∧
      (traceSysExit cfg m task ctx now mem reserved).2 = none := by
  rcases sysExit_cases cfg m task ctx now mem reserved with
    ⟨-, h⟩ | ⟨-, -, h⟩ | ⟨state, -, -, ⟨-, h⟩ | ⟨-, -, h⟩ | ⟨-, -, h⟩⟩ <;>
    rw [h] at hentry ⊢ <;> simp at hentry ⊢ <;> exact hentry

/-- An entry inflight after a hit was recorded by it, or was there before a hit
that submits nothing for the thread. -/
theorem step_inflight_eq_some {h : Hit} {s : SyscallData}
    (hentry : (step cfg m h).inflightSyscalls t = some s) :
    (h.task.tid = t ∧ recordedBy cfg m h = some s) ∨
      (m.inflightSyscalls t = some s ∧
        ∀ e, submitted cfg m h = some e → e.tid ≠ t) := by
  by_cases own : t = h.task.tid
  · subst own
    cases h with
    | sysEnter task ctx now mem =>
        rw [step, Hit.task, sysEnter_inflight, if_pos rfl, Option.or_eq_some_iff] at hentry
        rcases hentry with new | ⟨-, old⟩
        · exact .inl ⟨rfl, new⟩
        · exact .inr ⟨old, fun e hsub => by cases hsub⟩
    | sysExit task ctx now mem reserved =>
        obtain ⟨old, hnone⟩ := step_sysExit_inflight hentry
        refine .inr ⟨old, fun e hsub => ?_⟩
        rw [submitted, hnone] at hsub
        cases hsub
    | schedProcessExit task =>
        exact .inr ⟨step_schedProcessExit_inflight hentry, fun e hsub => by cases hsub⟩
  -- A hit of another thread leaves the entry alone, and its event names that thread.
  · rw [step_inflight_of_ne own] at hentry
    refine .inr ⟨hentry, fun e hsub htid => own ?_⟩
    rw [← htid]
    exact (submitted_entry hsub).1

/-- A submission takes the entry out. -/
theorem step_inflight_of_submitted {h : Hit} {e : Event}
    (hsub : submitted cfg m h = some e) : (step cfg m h).inflightSyscalls e.tid = none := by
  cases hentry : (step cfg m h).inflightSyscalls e.tid with
  | none => rfl
  | some s =>
      obtain ⟨-, hrec⟩ | ⟨-, hother⟩ := step_inflight_eq_some hentry
      · obtain ⟨task, ctx, now, mem, state, rfl, -⟩ := submitted_eq_some.mp hsub
        cases hrec
      · exact absurd rfl (hother e hsub)

/-! ## What a step does to the counter -/

/-- The counter changes at a recorded enter and at a cleanup only. -/
theorem step_seqNat (cfg : Config) (h : Hit) (clean : ¬ CleansUp m t h) :
    seqNat (step cfg m h) t =
      if h.task.tid = t ∧ (recordedBy cfg m h).isSome = true then (nextSeq m t).toNat
      else seqNat m t := by
  by_cases own : t = h.task.tid
  · subst own
    cases h with
    | sysEnter task ctx now mem =>
        simp only [seqNat, step, Hit.task, sysEnter_sequences, recordedBy, true_and]
        split <;> rfl
    | sysExit task ctx now mem reserved =>
        simp only [recordedBy, Option.isSome_none, Bool.false_eq_true, and_false, if_false,
          seqNat, step, Hit.task]
        -- Only a submission touches the counter, and only for a call that does not return.
        rcases sysExit_cases cfg m task ctx now mem reserved with
          ⟨-, h⟩ | ⟨-, -, h⟩ |
            ⟨state, ht, hs, ⟨-, h⟩ | ⟨-, -, h⟩ | ⟨hsel, hr, h⟩⟩
        · rw [h]
        · rw [h]
        · simp [h]
        · simp [h]
        · have stays : ¬ (state.syscallId = nrExit ∨ state.syscallId = nrExitGroup) :=
            fun hexit => clean ⟨rfl, ht, state, hs, hsel, hr, hexit⟩
          simp [h, afterSubmit_sequences, stays]
    | schedProcessExit task =>
        have out : task.tgid ∉ m.targetPids := fun ht => clean ⟨rfl, ht⟩
        simp [step, traceSchedProcessExit, out, recordedBy]
  · rw [if_neg fun both => own both.1.symm, seqNat, step_sequences_of_ne own, seqNat]

/-- A cleanup resets the thread. -/
theorem step_of_cleansUp (cfg : Config) {h : Hit} (clean : CleansUp m t h) :
    (step cfg m h).inflightSyscalls t = none ∧ seqNat (step cfg m h) t = 0 := by
  cases h with
  | sysEnter task ctx now mem => exact clean.elim
  | sysExit task ctx now mem reserved =>
      obtain ⟨rfl, ht, state, hs, hsel, hr, hexit⟩ := clean
      simp [step, traceSysExit, ht, hs, hsel, hr, afterSubmit_sequences, hexit, seqNat]
  | schedProcessExit task =>
      obtain ⟨rfl, ht⟩ := clean
      simp only [step, traceSchedProcessExit, not_not.mpr ht, if_false, seqNat]
      split <;> simp

/-- The next number of a thread is at most one above its last; it is below it where the counter
wraps. -/
theorem nextSeq_toNat_le (m : Maps) (t : UInt32) :
    (nextSeq m t).toNat ≤ seqNat m t + 1 := by
  unfold nextSeq seqNat
  cases m.tidSequences t with
  | none => simp
  | some prevSeq =>
      simp only [UInt32.toNat_add, Option.elim_some]
      exact Nat.mod_le _ _

/-- Below the wrap-around the counter counts. -/
theorem nextSeq_toNat {m : Maps} {t : UInt32} (room : seqNat m t + 1 < 2 ^ 32) :
    (nextSeq m t).toNat = seqNat m t + 1 := by
  unfold nextSeq seqNat at *
  cases hprev : m.tidSequences t with
  | none => simp
  | some prevSeq =>
      rw [hprev] at room
      simp only [UInt32.toNat_add, Option.elim_some] at room ⊢
      exact Nat.mod_eq_of_lt room

/-! ## Entries above a bound -/

/-- The counter has reached `k`, and what is inflight was recorded after that. -/
structure SeqAbove (k : ℕ) (t : UInt32) (m : Maps) : Prop where
  counter : k ≤ seqNat m t
  entry : ∀ s, m.inflightSyscalls t = some s → k < s.seq.toNat ∧ s.seq.toNat ≤ seqNat m t

/-- The counter does not wrap around at this hit. -/
def NoWrap (t : UInt32) (m : Maps) (h : Hit) : Prop :=
  entersOn t h = true → seqNat m t + 1 < 2 ^ 32

/-- An entry recorded for a thread comes from a `sys_enter` of that thread and bears the thread's
next number. -/
theorem entersOn_of_recordedBy {h : Hit} {s : SyscallData} (own : h.task.tid = t)
    (hrec : recordedBy cfg m h = some s) : entersOn t h = true ∧ s.seq = nextSeq m t := by
  cases h with
  | sysEnter task ctx now mem =>
      obtain ⟨-, -, rfl⟩ := sysEnterState_eq_some.mp hrec
      obtain rfl : task.tid = t := own
      exact ⟨by simp [entersOn], rfl⟩
  | sysExit task ctx now mem reserved => cases hrec
  | schedProcessExit task => cases hrec

/-- A step within a lifetime keeps the bound. -/
theorem SeqAbove.step {k : ℕ} {h : Hit} (inv : SeqAbove k t m) (room : NoWrap t m h)
    (clean : ¬ CleansUp m t h) : SeqAbove k t (step cfg m h) := by
  have hseq := step_seqNat cfg h clean
  have grows : seqNat m t ≤ seqNat (Bpf.step cfg m h) t := by
    rw [hseq]
    split
    next hrec =>
      obtain ⟨s, hs⟩ := Option.isSome_iff_exists.mp hrec.2
      rw [nextSeq_toNat (room (entersOn_of_recordedBy hrec.1 hs).1)]
      omega
    next => exact le_rfl
  refine ⟨inv.counter.trans grows, fun s hentry => ?_⟩
  -- What is inflight now has the number just counted, or was there before.
  rcases step_inflight_eq_some hentry with ⟨own, hrec⟩ | ⟨old, -⟩
  · obtain ⟨henter, hnew⟩ := entersOn_of_recordedBy own hrec
    have hcount := nextSeq_toNat (room henter)
    rw [hseq, if_pos ⟨own, by simp [hrec]⟩, hnew, hcount]
    have := inv.counter
    omega
  · obtain ⟨hlow, hhigh⟩ := inv.entry s old
    exact ⟨hlow, hhigh.trans grows⟩

/-- Above zero the bound survives cleanups as well. -/
theorem SeqAbove.step_zero {h : Hit} (inv : SeqAbove 0 t m) (room : NoWrap t m h) :
    SeqAbove 0 t (Bpf.step cfg m h) := by
  by_cases clean : CleansUp m t h
  · obtain ⟨hnone, -⟩ := step_of_cleansUp cfg clean
    exact ⟨Nat.zero_le _, fun s hentry => by rw [hnone] at hentry; cases hentry⟩
  · exact inv.step room clean

theorem seqAbove_load (targets : TargetPids) : SeqAbove 0 t (Maps.load targets) :=
  ⟨Nat.zero_le _, fun _ hentry => nomatch hentry⟩

end

/-! ## Runs -/

section Runs

variable {cfg : Config} {targets : TargetPids} {t : UInt32}

/-- No stretch of the run within one lifetime of `t` has `n` enters of `t`. -/
def LifetimeEntersBelow (cfg : Config) (m : Maps) (hits : List Hit) (t : UInt32) (n : ℕ) :
    Prop :=
  ∀ pre seg post, hits = pre ++ seg ++ post →
    AllSteps (step cfg) (fun m h => ¬ CleansUp m t h) (run (step cfg) m pre) seg →
      seg.countP (entersOn t) < n

/-- Fewer enters in the whole run than the bound are fewer in each lifetime. -/
theorem lifetimeEntersBelow_of_count {m : Maps} {hits : List Hit} {n : ℕ}
    (few : hits.countP (entersOn t) < n) : LifetimeEntersBelow cfg m hits t n := by
  rintro pre seg post rfl -
  rw [List.countP_append, List.countP_append] at few
  omega

/-- The counter is at most the number of enters since the last cleanup. -/
theorem seqNat_le_count (cfg : Config) (targets : TargetPids) (t : UInt32)
    (hits : List Hit) :
    ∃ pre seg, hits = pre ++ seg ∧
      AllSteps (step cfg) (fun m h => ¬ CleansUp m t h)
        (run (step cfg) (Maps.load targets) pre) seg ∧
      seqNat (run (step cfg) (Maps.load targets) hits) t ≤ seg.countP (entersOn t) := by
  -- From the back: a cleanup starts the stretch anew, any other hit extends it.
  induction hits using List.reverseRecOn with
  | nil => exact ⟨[], [], rfl, trivial, by simp [Maps.load, seqNat]⟩
  | append_singleton hits h ih =>
      rw [run_concat]
      by_cases clean : CleansUp (run (step cfg) (Maps.load targets) hits) t h
      · refine ⟨hits ++ [h], [], by simp, trivial, ?_⟩
        rw [(step_of_cleansUp cfg clean).2]
        exact Nat.zero_le _
      · obtain ⟨pre, seg, rfl, hseg, hle⟩ := ih
        refine ⟨pre, seg ++ [h], by simp, ?_, ?_⟩
        · rw [allSteps_append, ← run_append]
          exact ⟨hseg, clean, trivial⟩
        · rw [step_seqNat cfg h clean, List.countP_append]
          split
          next hrec =>
            obtain ⟨s, hs⟩ := Option.isSome_iff_exists.mp hrec.2
            have henter := (entersOn_of_recordedBy hrec.1 hs).1
            have hnext := nextSeq_toNat_le (run (step cfg) (Maps.load targets) (pre ++ seg)) t
            simp only [List.countP_singleton, henter, if_true]
            omega
          next => omega

/-- Fewer than `2 ^ 32` enters in each lifetime keep the counter from wrapping. -/
theorem noWrap_of_entersBelow {hits : List Hit}
    (few : LifetimeEntersBelow cfg (Maps.load targets) hits t (2 ^ 32)) :
    AllSteps (step cfg) (NoWrap t) (Maps.load targets) hits := by
  rw [allSteps_iff_splits]
  rintro before h after rfl henter
  obtain ⟨pre, seg, rfl, hseg, hle⟩ := seqNat_le_count cfg targets t before
  have keeps : ¬ CleansUp (run (step cfg) (Maps.load targets) (pre ++ seg)) t h := by
    cases h with
    | sysEnter task ctx now mem => exact id
    | sysExit task ctx now mem reserved => cases henter
    | schedProcessExit task => cases henter
  -- The stretch and the enter after it lie in one lifetime.
  have hcount := few pre (seg ++ [h]) after (by simp) (by
    rw [allSteps_append, ← run_append]
    exact ⟨hseg, keeps, trivial⟩)
  rw [List.countP_append, List.countP_singleton, if_pos henter] at hcount
  omega

/-- What is inflight was recorded by an earlier hit of the thread, and nothing
was submitted for the thread since. -/
theorem inflight_recorded (cfg : Config) (targets : TargetPids) (t : UInt32)
    (hits : List Hit) {s : SyscallData}
    (hentry : (run (step cfg) (Maps.load targets) hits).inflightSyscalls t = some s) :
    ∃ pre h post, hits = pre ++ h :: post ∧ h.task.tid = t ∧
      recordedBy cfg (run (step cfg) (Maps.load targets) pre) h = some s ∧
      AllSteps (step cfg) (fun m h => ∀ e, submitted cfg m h = some e → e.tid ≠ t)
        (run (step cfg) (Maps.load targets) (pre ++ [h])) post := by
  -- From the back: the last hit recorded the entry, or left it where it was.
  induction hits using List.reverseRecOn with
  | nil => cases hentry
  | append_singleton hits last ih =>
      rw [run_concat] at hentry
      rcases step_inflight_eq_some hentry with ⟨own, hrec⟩ | ⟨old, hother⟩
      · exact ⟨hits, last, [], rfl, own, hrec, trivial⟩
      · obtain ⟨pre, h, post, rfl, own, hrec, hpost⟩ := ih old
        refine ⟨pre, h, post ++ [last], by simp, own, hrec, ?_⟩
        rw [allSteps_append, ← run_append]
        refine ⟨hpost, ?_, trivial⟩
        simpa using hother

/-- The event carries the data of an earlier selected `sys_enter` of its thread,
made while its process was a target, and is the first event of the thread
after that `sys_enter`. -/
def BackedBy (cfg : Config) (targets : TargetPids) (before : List Hit) (e : Event) : Prop :=
  ∃ pre task ctx now mem post,
    before = pre ++ .sysEnter task ctx now mem :: post ∧
      task.tid = e.tid ∧
      task.tgid ∈ (run (step cfg) (Maps.load targets) pre).targetPids ∧
      cfg.selects ctx.id = true ∧
      e.seq = nextSeq (run (step cfg) (Maps.load targets) pre) e.tid ∧
      e.syscallId = ctx.id ∧ e.args = ctx.args ∧ e.ts = now ∧
      AllSteps (step cfg) (fun m h => ∀ e', submitted cfg m h = some e' → e'.tid ≠ e.tid)
        (run (step cfg) (Maps.load targets) (pre ++ [.sysEnter task ctx now mem])) post

/-- The run lemma for one event: whatever ran before, what is submitted now is backed by an entry of
before. -/
theorem backedBy_of_submitted {before : List Hit} {h : Hit} {e : Event}
    (hsub : submitted cfg (run (step cfg) (Maps.load targets) before) h = some e) :
    BackedBy cfg targets before e := by
  obtain ⟨-, s, hentry, hsel, hseq, hid, hargs, hts⟩ := submitted_entry hsub
  obtain ⟨pre, enter, post, hsplit, own, hrec, hpost⟩ :=
    inflight_recorded cfg targets e.tid before hentry
  cases enter with
  | sysEnter task ctx now mem =>
      obtain ⟨htarget, -, rfl⟩ := sysEnterState_eq_some.mp hrec
      refine ⟨pre, task, ctx, now, mem, post, hsplit, own, htarget, hsel, ?_, hid, hargs,
        hts, hpost⟩
      rw [hseq, ← own]
      rfl
  | sysExit task ctx now mem reserved => cases hrec
  | schedProcessExit task => cases hrec

/-- Two events of one lifetime, in order of submission, have increasing
sequence numbers. -/
theorem seq_lt_of_submitted {pre mid : List Hit} {h h' : Hit} {e e' : Event}
    (room : AllSteps (step cfg) (NoWrap t) (Maps.load targets) (pre ++ h :: mid))
    (lifetime : AllSteps (step cfg) (fun m h => ¬ CleansUp m t h)
      (run (step cfg) (Maps.load targets) pre) (h :: mid))
    (hsub : submitted cfg (run (step cfg) (Maps.load targets) pre) h = some e)
    (hsub' : submitted cfg (run (step cfg) (Maps.load targets) (pre ++ h :: mid)) h'
      = some e')
    (htid : e.tid = t) (htid' : e'.tid = t) : e.seq < e'.seq := by
  obtain ⟨roomPre, roomRest⟩ := allSteps_append.mp room
  have low : SeqAbove 0 t (run (step cfg) (Maps.load targets) pre) :=
    AllSteps.invariant_run (fun _ _ inv hroom => inv.step_zero hroom)
      (seqAbove_load targets) roomPre
  -- The first submission empties the entry, so its number bounds all later ones.
  obtain ⟨-, s, hentry, -, hseq, -⟩ := submitted_entry hsub
  have atFirst : SeqAbove e.seq.toNat t
      (step cfg (run (step cfg) (Maps.load targets) pre) h) := by
    have hempty := step_inflight_of_submitted hsub
    have hcounter := step_seqNat cfg h lifetime.1
    rw [htid] at hentry hempty
    refine ⟨?_, fun s' hs' => by rw [hempty] at hs'; cases hs'⟩
    obtain ⟨task, ctx, now, mem, state, rfl, -⟩ := submitted_eq_some.mp hsub
    rw [hcounter, hseq, if_neg (by simp [recordedBy])]
    exact (low.entry s hentry).2
  have atSecond : SeqAbove e.seq.toNat t
      (run (step cfg) (Maps.load targets) (pre ++ h :: mid)) := by
    rw [run_append, run_cons]
    exact AllSteps.invariant_run (fun _ _ inv hQ => inv.step hQ.1 hQ.2) atFirst
      (roomRest.2.and lifetime.2)
  obtain ⟨-, s', hentry', -, hseq', -⟩ := submitted_entry hsub'
  rw [htid'] at hentry'
  rw [UInt32.lt_iff_toNat_lt, hseq']
  exact (atSecond.entry s' hentry').1

/-- **Events are backed by distinct recorded entries.**

The first part says where the data of an event come from, the second that no entry is used twice,
since two events of one lifetime have different numbers.  Both are about the moment of submission
and the hits before it, so a later event has no influence on an earlier one. -/
theorem events_backed_by_entries (cfg : Config) (targets : TargetPids) (hits : List Hit)
    (t : UInt32) (few : LifetimeEntersBelow cfg (Maps.load targets) hits t (2 ^ 32)) :
    (∀ pre h post e, hits = pre ++ h :: post →
      submitted cfg (run (step cfg) (Maps.load targets) pre) h = some e → e.tid = t →
        BackedBy cfg targets pre e) ∧
    (∀ pre h mid h' post e e', hits = pre ++ h :: mid ++ h' :: post →
      submitted cfg (run (step cfg) (Maps.load targets) pre) h = some e → e.tid = t →
      submitted cfg (run (step cfg) (Maps.load targets) (pre ++ h :: mid)) h' = some e' →
        e'.tid = t →
      AllSteps (step cfg) (fun m h => ¬ CleansUp m t h)
        (run (step cfg) (Maps.load targets) pre) (h :: mid) →
        e.seq < e'.seq) := by
  have room := noWrap_of_entersBelow few
  refine ⟨fun pre h post e _ hsub _ => backedBy_of_submitted hsub, ?_⟩
  rintro pre h mid h' post e e' rfl hsub htid hsub' htid' lifetime
  exact seq_lt_of_submitted (allSteps_append.mp room).1 lifetime hsub hsub' htid htid'

/-- Thread 100 reads twice, from 10 to 11 and from 20 to 25. -/
def twoReads : List Hit :=
  [.sysEnter ⟨100, 100⟩ ⟨nrRead, Vector.replicate 6 0⟩ 10 .unmapped,
    .sysExit ⟨100, 100⟩ ⟨nrRead, 5⟩ 11 .unmapped true,
    .sysEnter ⟨100, 100⟩ ⟨nrRead, Vector.replicate 6 0⟩ 20 .unmapped,
    .sysExit ⟨100, 100⟩ ⟨nrRead, 5⟩ 25 .unmapped true]

/-- Each read submits an event, and the second has the greater number. -/
theorem events_backed_by_entries_twoReads :
    let cfg : Config := ⟨false, false, ∅⟩
    ∃ e e',
      submitted cfg (run (step cfg) (Maps.load soleTarget) (twoReads.take 1))
        (.sysExit ⟨100, 100⟩ ⟨nrRead, 5⟩ 11 .unmapped true) = some e ∧
      submitted cfg (run (step cfg) (Maps.load soleTarget) (twoReads.take 3))
        (.sysExit ⟨100, 100⟩ ⟨nrRead, 5⟩ 25 .unmapped true) = some e' ∧
      BackedBy cfg soleTarget (twoReads.take 1) e ∧
      BackedBy cfg soleTarget (twoReads.take 3) e' ∧ e.seq < e'.seq := by
  intro cfg
  obtain ⟨backed, increases⟩ := events_backed_by_entries cfg soleTarget twoReads 100
    (lifetimeEntersBelow_of_count (by decide))
  refine ⟨_, _, rfl, rfl, backed (twoReads.take 1) _ _ _ rfl rfl rfl,
    backed (twoReads.take 3) _ _ _ rfl rfl rfl,
    increases (twoReads.take 1) _ [.sysEnter ⟨100, 100⟩ ⟨nrRead, Vector.replicate 6 0⟩ 20 .unmapped]
      _ [] _ _ rfl rfl rfl rfl rfl ⟨?_, id, trivial⟩⟩
  -- A `read` that returns does not end the thread.
  rintro ⟨-, -, state, entry, -, -, ends⟩
  cases entry
  revert ends
  decide

end Runs

end Litrace.Bpf
