import Litrace.Lib.Progress
import Litrace.Trace.TailLoss

/-!
# When `Run` returns

Whether `Run` comes to an end is a matter of the goroutine that waits for the end of the
trace: once it has a result it closes the reader, the loop of `Run` notices, and `Run`
receives the result.  No order of steps can keep it from that, if each party takes its
steps again and again (`Parties`).

In launch mode `Run` returns exactly if `cmd.Wait` does (`launch_returns_iff`), whatever
signals come and however many records wait.  In attach mode it returns when from some time
on `kill` finds none of the processes (`attach_returns`).

Termination under any fair order is a chain of stages that cannot be left again: there is
a result, then the reader is closed, then the loop has left, then `Run` has returned.  For
each stage one party has to take its step, and no other step leads out of it
(`LeadsTo.of_recurs`).  Attach mode has one choice in it, a poll that finds a process or a
signal that comes first, and both lead on.
-/

namespace Litrace.Trace

open ClosableQueue Transition

/-! ## What a step does to the end of a run -/

/-- The goroutines that wait for the end of the trace, and `Run`. -/
structure Ending where
  waiter : Waiter
  launchDone : Option ChildWaitResult
  poller : Poller
  attachDone : Option WaitStatus
  main : Main

namespace World

def ending (w : World) : Ending :=
  ⟨w.waiter, w.launchDone, w.poller, w.attachDone, w.main⟩

/-- What a step does to the end of a run. -/
inductive EndStep (mode : TargetMode) (w w' : World) : Act → Prop
  | beside (a : Act) (ending : w'.ending = w.ending) : EndStep mode w w' a
  | waitReturns (result : ChildWaitResult) (waiting : w.waiter = .waiting)
      (status : result.status = none ∨ result.status = w.exitStatus mode.launchPID)
      (ending : w'.ending = { w.ending with waiter := .closing, launchDone := some result }) :
      EndStep mode w w' (.waitReturns result)
  | waitCloses (closing : w.waiter = .closing)
      (ending : w'.ending = { w.ending with waiter := .ended })
      (closed : w'.ring.closed = true) : EndStep mode w w' .waitCloses
  | pollsSome (kill : Int64 → KillAnswer) (polling : w.poller = .polling)
      (alive : anyProcessAlive kill mode.attachPIDs = true)
      (ending : w'.ending = { w.ending with poller := .selecting }) :
      EndStep mode w w' (.attachPolls kill)
  | pollsNone (kill : Int64 → KillAnswer) (polling : w.poller = .polling)
      (ending : w'.ending = { w.ending with attachDone := some 0, poller := .closing }) :
      EndStep mode w w' (.attachPolls kill)
  | attachSelects (status : WaitStatus) (selecting : w.poller = .selecting)
      (ending : w'.ending = { w.ending with attachDone := some status, poller := .closing }) :
      EndStep mode w w' .attachSelects
  | attachTicks (selecting : w.poller = .selecting)
      (ending : w'.ending = { w.ending with poller := .polling }) :
      EndStep mode w w' .attachTicks
  | attachCloses (closing : w.poller = .closing)
      (ending : w'.ending = { w.ending with poller := .ended })
      (closed : w'.ring.closed = true) : EndStep mode w w' .attachCloses
  | leaves (proc : ProcCwd) (reading : w.main = .reading) (closed : w.ring.closed = true)
      (ending : w'.ending = { w.ending with main := .receiving }) :
      EndStep mode w w' (.reads proc)
  | returns (closeFails : Bool) (result : RunResult) (receiving : w.main = .receiving)
      (done : if mode.isAttach then w.attachDone.isSome = true else w.launchDone.isSome = true)
      (ending : w'.ending = { w.ending with main := .returned result }) :
      EndStep mode w w' (.returns closeFails)

variable {cfg : RunConfig} {mode : TargetMode} {w : World}

/-- The loop leaves only when the reader is closed. -/
theorem endStep_reads (proc : ProcCwd) : EndStep mode w (w.reads cfg mode proc) (.reads proc) := by
  unfold reads
  by_cases reading : w.main = .reading
  · rw [if_pos reading]
    by_cases closed : w.ring.closed = true
    · rw [if_pos closed]
      exact .leaves proc reading closed rfl
    · rw [if_neg closed]
      split <;> exact .beside _ rfl
  · rw [if_neg reading]
    exact .beside _ rfl

/-- `Run` returns only with a result of the goroutine of its mode. -/
theorem endStep_returns (closeFails : Bool) :
    EndStep mode w (w.returns cfg mode closeFails) (.returns closeFails) := by
  unfold returns
  by_cases receiving : w.main = .receiving
  · rw [if_pos receiving]
    dsimp only
    split
    next => exact .beside _ rfl
    next recorder result finished =>
      refine .returns closeFails (result.deferClose closeFails) receiving ?_ rfl
      cases attach : mode.isAttach with
      | true =>
          rw [attach, if_pos rfl] at finished
          obtain ⟨status, done, -⟩ := Option.map_eq_some_iff.mp finished
          simp [done]
      | false =>
          rw [attach, if_neg Bool.false_ne_true] at finished
          obtain ⟨waited, done, -⟩ := Option.map_eq_some_iff.mp finished
          simp [done]
  · rw [if_neg receiving]
    exact .beside _ rfl

theorem endStep_attachPolls (kill : Int64 → KillAnswer) :
    EndStep mode w (w.attachPolls mode kill) (.attachPolls kill) := by
  unfold attachPolls
  split
  next may =>
    split
    next alive => exact .pollsSome kill may.1 alive rfl
    next => exact .pollsNone kill may.1 rfl
  next => exact .beside _ rfl

theorem endStep_attachSelects : EndStep mode w w.attachSelects .attachSelects := by
  unfold attachSelects
  split
  next selecting =>
    split
    · exact .attachSelects _ selecting rfl
    · split
      · exact .attachSelects _ selecting rfl
      · exact .beside _ rfl
  next => exact .beside _ rfl

/-- **What a step can do to the end of a run.** -/
theorem step_end (cfg : RunConfig) (mode : TargetMode) (w : World) (a : Act) :
    EndStep mode w (w.step cfg mode a) a := by
  by_cases finished : w.isOver = true
  · rw [step_of_isOver finished]
    exact .beside a rfl
  · unfold step
    rw [if_neg finished]
    cases a with
    | submit => exact .beside _ rfl
    | signal => exact .beside _ rfl
    | closeSignals => exact .beside _ rfl
    | reads proc => exact endStep_reads proc
    | returns closeFails => exact endStep_returns closeFails
    | attachPolls kill => exact endStep_attachPolls kill
    | attachSelects => exact endStep_attachSelects
    | exit =>
        unfold exit
        dsimp only
        split <;> exact .beside _ rfl
    | waitReturns result =>
        unfold waitReturns
        dsimp only
        split
        next may => exact .waitReturns result may.1 may.2 rfl
        next => exact .beside _ rfl
    | waitCloses =>
        unfold waitCloses
        dsimp only
        split
        next closing => exact .waitCloses closing rfl rfl
        next => exact .beside _ rfl
    | monitorReceives =>
        unfold monitorReceives
        dsimp only
        split
        · split
          · exact .beside _ rfl
          · split <;> exact .beside _ rfl
        · exact .beside _ rfl
    | monitorForwards =>
        unfold monitorForwards
        dsimp only
        split <;> exact .beside _ rfl
    | monitorCloses =>
        unfold monitorCloses
        dsimp only
        split <;> exact .beside _ rfl
    | attachTicks =>
        unfold attachTicks
        dsimp only
        split
        next selecting => exact .attachTicks selecting rfl
        next => exact .beside _ rfl
    | attachCloses =>
        unfold attachCloses
        dsimp only
        split
        next closing => exact .attachCloses closing rfl rfl
        next => exact .beside _ rfl
    | readFails =>
        unfold readFails
        dsimp only
        split <;> exact .beside _ rfl

/-- A reader that is closed stays closed. -/
theorem closed_step (cfg : RunConfig) (mode : TargetMode) (a : Act)
    (closed : w.ring.closed = true) :
    (w.step cfg mode a).ring.closed = true := by
  have ops : ∀ ops : List (Op Record), ∀ q : Queue Record, q.closed = true →
      (run Queue.step q ops).closed = true := by
    intro ops
    induction ops with
    | nil => exact fun q h => h
    | cons op ops ih =>
        refine fun q h => ih _ ?_
        cases op <;> simp [Queue.step, h]
  rw [step_ring]
  exact ops _ _ closed

/-! ## From a result to the end -/

section

variable {cfg : RunConfig} {mode : TargetMode} {w : World}

/-- A result is never taken back, as it is received by the last step of a run. -/
theorem launchDone_step (a : Act) (done : w.launchDone.isSome = true) :
    (w.step cfg mode a).launchDone.isSome = true := by
  show (w.step cfg mode a).ending.launchDone.isSome = true
  cases step_end cfg mode w a with
  | waitReturns result waiting status ending =>
      rw [ending]
      rfl
  | beside _ ending | waitCloses _ ending _ | pollsSome _ _ _ ending | pollsNone _ _ ending
  | attachSelects _ _ ending | attachTicks _ ending | attachCloses _ ending _
  | leaves _ _ _ ending | returns _ _ _ _ ending =>
      rw [ending]
      exact done

/-- The same in attach mode. -/
theorem attachDone_step (a : Act) (done : w.attachDone.isSome = true) :
    (w.step cfg mode a).attachDone.isSome = true := by
  show (w.step cfg mode a).ending.attachDone.isSome = true
  cases step_end cfg mode w a with
  | pollsNone _ _ ending | attachSelects _ _ ending =>
      rw [ending]
      rfl
  | beside _ ending | waitReturns _ _ _ ending | waitCloses _ ending _ | pollsSome _ _ _ ending
  | attachTicks _ ending | attachCloses _ ending _ | leaves _ _ _ ending
  | returns _ _ _ _ ending =>
      rw [ending]
      exact done

/-- The loop is not entered again. -/
theorem main_step (a : Act) (left : w.main ≠ .reading) : (w.step cfg mode a).main ≠ .reading := by
  show (w.step cfg mode a).ending.main ≠ .reading
  cases step_end cfg mode w a with
  | leaves proc reading => exact absurd reading left
  | returns _ _ _ _ ending =>
      rw [ending]
      exact nofun
  | beside _ ending | waitReturns _ _ _ ending | waitCloses _ ending _ | pollsSome _ _ _ ending
  | pollsNone _ _ ending | attachSelects _ _ ending | attachTicks _ ending
  | attachCloses _ ending _ =>
      rw [ending]
      exact left

/-- There is a result for `Run` to receive. -/
def HasResult (mode : TargetMode) (w : World) : Prop :=
  if mode.isAttach then w.attachDone.isSome = true else w.launchDone.isSome = true

/-- So once there is a result there is one for good. -/
theorem HasResult.step (a : Act) (h : w.HasResult mode) : (w.step cfg mode a).HasResult mode := by
  unfold HasResult at h ⊢
  split at h
  next attach =>
    rw [if_pos attach]
    exact attachDone_step a h
  next launch =>
    rw [if_neg launch]
    exact launchDone_step a h

theorem isOver_iff : w.isOver = true ↔ ∃ result, w.main = .returned result := by
  unfold isOver
  cases w.main <;> simp

/-- The loop notices that the reader is closed. -/
theorem leaves_of_closed (closed : w.ring.closed = true) (proc : ProcCwd) :
    (w.step cfg mode (.reads proc)).main ≠ .reading := by
  by_cases finished : w.isOver = true
  · rw [step_of_isOver finished]
    obtain ⟨result, main⟩ := isOver_iff.mp finished
    simp [main]
  · have step : w.step cfg mode (.reads proc) = w.reads cfg mode proc := if_neg finished
    rw [step, reads]
    by_cases reading : w.main = .reading
    · rw [if_pos reading, if_pos closed]
      intro left
      cases left
    · rw [if_neg reading]
      exact reading

/-- Behind the loop `Run` receives the result. -/
theorem returns_of_hasResult (left : w.main ≠ .reading) (done : w.HasResult mode)
    (closeFails : Bool) : (w.step cfg mode (.returns closeFails)).isOver = true := by
  by_cases finished : w.isOver = true
  · rw [step_of_isOver finished]
    exact finished
  · have receiving : w.main = .receiving := by
      cases main : w.main with
      | reading => exact absurd main left
      | receiving => rfl
      | returned result => exact absurd (isOver_iff.mpr ⟨result, main⟩) finished
    have step : w.step cfg mode (.returns closeFails) = w.returns cfg mode closeFails :=
      if_neg finished
    unfold HasResult at done
    rw [step, returns, if_pos receiving]
    cases attach : mode.isAttach with
    | true =>
        rw [attach, if_pos rfl] at done
        obtain ⟨status, some⟩ := Option.isSome_iff_exists.mp done
        simp [some, isOver]
    | false =>
        rw [attach, if_neg Bool.false_ne_true] at done
        obtain ⟨result, some⟩ := Option.isSome_iff_exists.mp done
        simp [some, isOver]

end

end World

/-- The world after `n` steps of an endless run. -/
abbrev worldAt (cfg : RunConfig) (mode : TargetMode) (inputs : ℕ → Act) (n : ℕ) : World :=
  stateAt (World.step cfg mode) (.start cfg mode) inputs n

/-- With a result and a closed reader, the loop and `Run` need only take their steps. -/
theorem leadsTo_isOver {cfg : RunConfig} {mode : TargetMode} {inputs : ℕ → Act} {start : ℕ}
    (reads : Recurs inputs fun a => ∃ proc, a = .reads proc)
    (returns : Recurs inputs fun a => ∃ closeFails, a = .returns closeFails) :
    LeadsTo (World.step cfg mode) (.start cfg mode) inputs start
      (fun w => w.HasResult mode ∧ w.ring.closed = true) fun w => w.isOver = true := by
  have toLeft : LeadsTo (World.step cfg mode) (.start cfg mode) inputs start
      (fun w => w.HasResult mode ∧ w.ring.closed = true)
      fun w => w.HasResult mode ∧ w.main ≠ .reading := by
    refine .of_stable reads (fun _ a h => ⟨h.1.step a, World.closed_step cfg mode a h.2⟩) ?_
    rintro w _ ⟨proc, rfl⟩ ⟨done, closed⟩
    exact ⟨done.step _, World.leaves_of_closed closed proc⟩
  refine toLeft.trans (.of_stable returns (fun _ a h => ⟨h.1.step a, World.main_step a h.2⟩) ?_)
  rintro w _ ⟨closeFails, rfl⟩ ⟨done, left⟩
  exact World.returns_of_hasResult left done closeFails

/-! ## Launch mode -/

/-- The goroutine that waits for the child knows the result when it is through, and the
reader is closed when it or the loop is. -/
structure Ending.Launching (e : Ending) (closed : Bool) : Prop where
  waits : e.waiter = .waiting ↔ e.launchDone = none
  ended : e.waiter = .ended → closed = true
  behind : e.main ≠ .reading → closed = true
  finished : ∀ result, e.main = .returned result → e.launchDone.isSome = true

/-- The invariant asks for a closed reader and never for an open one. -/
theorem Ending.Launching.mono {e : Ending} {closed closed' : Bool} (inv : e.Launching closed)
    (stays : closed = true → closed' = true) : e.Launching closed' :=
  ⟨inv.waits, fun h => stays (inv.ended h), fun h => stays (inv.behind h), inv.finished⟩

namespace World

section

variable {cfg : RunConfig} {mode : TargetMode} {w : World}

theorem launching_start (launch : mode.isAttach = false) :
    (start cfg mode).ending.Launching (start cfg mode).ring.closed where
  waits := by simp [start, ending, launch]
  ended h := by simp [start, ending, launch] at h
  behind h := absurd rfl h
  finished _ h := by cases h

/-- What is done in launch mode, and in which order: result, closing, end. -/
theorem launching_step (launch : mode.isAttach = false) (a : Act)
    (inv : w.ending.Launching w.ring.closed) :
    (w.step cfg mode a).ending.Launching (w.step cfg mode a).ring.closed := by
  have inv' := inv.mono (closed_step cfg mode a)
  cases step_end cfg mode w a with
  | beside _ ending =>
      rw [ending]
      exact inv'
  | waitReturns result waiting status ending =>
      rw [ending]
      exact { inv' with waits := ⟨nofun, nofun⟩, ended := nofun, finished := fun _ _ => rfl }
  | waitCloses closing ending closed =>
      rw [ending]
      have done : w.launchDone ≠ none := fun none =>
        absurd (closing.symm.trans (inv.waits.mpr none)) nofun
      exact { inv' with waits := ⟨nofun, fun none => absurd none done⟩, ended := fun _ => closed }
  | leaves proc reading closed ending =>
      rw [ending]
      exact { inv' with
        behind := fun _ => closed_step cfg mode _ closed
        finished := nofun }
  | returns closeFails result receiving done ending =>
      rw [ending]
      rw [launch, if_neg Bool.false_ne_true] at done
      have left : w.ending.main ≠ .reading := by simp [World.ending, receiving]
      exact { inv' with behind := fun _ => inv'.behind left, finished := fun _ _ => done }
  | pollsSome kill polling alive ending =>
      rw [ending]
      exact { inv' with }
  | pollsNone kill polling ending =>
      rw [ending]
      exact { inv' with }
  | attachSelects status selecting ending =>
      rw [ending]
      exact { inv' with }
  | attachTicks selecting ending =>
      rw [ending]
      exact { inv' with }
  | attachCloses closing ending closed =>
      rw [ending]
      exact { inv' with }

end

section

variable {cfg : RunConfig} {mode : TargetMode} {w : World}

/-- The goroutine closes the reader. -/
theorem Launching.closes (inv : w.ending.Launching w.ring.closed)
    (done : w.launchDone.isSome = true) :
    (w.step cfg mode .waitCloses).ring.closed = true := by
  by_cases finished : w.isOver = true
  · rw [step_of_isOver finished]
    obtain ⟨result, main⟩ := isOver_iff.mp finished
    exact inv.behind (by simp [ending, main])
  · have step : w.step cfg mode .waitCloses = w.waitCloses := if_neg finished
    rw [step, waitCloses]
    split
    next => rfl
    next notClosing =>
      refine inv.ended ?_
      cases waiter : w.waiter with
      | waiting => exact absurd (inv.waits.mp waiter) (Option.isSome_iff_ne_none.mp done)
      | closing => exact absurd waiter notClosing
      | ended => exact waiter

/-- Only the return of `cmd.Wait` brings a result. -/
theorem waitReturns_of_done {a : Act} (notYet : ¬ w.launchDone.isSome = true)
    (done : (w.step cfg mode a).launchDone.isSome = true) :
    ∃ result, a = .waitReturns result ∧
      (result.status = none ∨ result.status = w.exitStatus mode.launchPID) := by
  replace done : (w.step cfg mode a).ending.launchDone.isSome = true := done
  cases step_end cfg mode w a with
  | waitReturns result waiting status ending => exact ⟨result, rfl, status⟩
  | beside _ ending | waitCloses _ ending _ | pollsSome _ _ _ ending | pollsNone _ _ ending
  | attachSelects _ _ ending | attachTicks _ ending | attachCloses _ ending _
  | leaves _ _ _ ending | returns _ _ _ _ ending =>
      rw [ending] at done
      exact absurd done notYet

/-- `cmd.Wait` returns. -/
theorem done_of_waitReturns (cfg : RunConfig) (inv : w.ending.Launching w.ring.closed)
    {result : ChildWaitResult}
    (status : result.status = none ∨ result.status = w.exitStatus mode.launchPID) :
    (w.step cfg mode (.waitReturns result)).launchDone.isSome = true := by
  by_cases done : w.launchDone.isSome = true
  · exact launchDone_step _ done
  · have waiting : w.waiter = .waiting := inv.waits.mpr (Option.not_isSome_iff_eq_none.mp done)
    have running : ¬ w.isOver = true := by
      intro finished
      obtain ⟨result, main⟩ := isOver_iff.mp finished
      exact done (inv.finished result main)
    have step : w.step cfg mode (.waitReturns result) = w.waitReturns mode result :=
      if_neg running
    rw [step, waitReturns, if_pos ⟨waiting, status⟩]
    rfl

end

end World

/-- **When `Run` returns in launch mode.**  If the goroutine that waits for the child, the
loop and `Run` itself take their steps again and again, `Run` returns exactly if `cmd.Wait`
does, in every order of steps and whatever comes between.

Nothing is asked of the goroutine that forwards signals.  It may close the reader, which ends the
loop early, but `Run` then still waits for the result. -/
theorem launch_returns_iff (cfg : RunConfig) (mode : TargetMode) (launch : mode.isAttach = false)
    (inputs : ℕ → Act) (closes : Recurs inputs fun a => a = .waitCloses)
    (reads : Recurs inputs fun a => ∃ proc, a = .reads proc)
    (returns : Recurs inputs fun a => ∃ closeFails, a = .returns closeFails) :
    (∃ n, (worldAt cfg mode inputs n).isOver = true) ↔
      ∃ n result, inputs n = .waitReturns result ∧ (result.status = none ∨
        result.status = (worldAt cfg mode inputs n).exitStatus mode.launchPID) := by
  have inv : ∀ n, (worldAt cfg mode inputs n).ending.Launching
      (worldAt cfg mode inputs n).ring.closed :=
    stateAt_invariant (I := fun w : World => w.ending.Launching w.ring.closed)
      (World.launching_start launch) fun w a => World.launching_step launch a
  constructor
  · rintro ⟨n, finished⟩
    obtain ⟨result, main⟩ := World.isOver_iff.mp finished
    have done : (worldAt cfg mode inputs n).launchDone.isSome = true := (inv n).finished result main
    obtain ⟨m, -, notYet, now⟩ := exists_step_of_stateAt
      (P := fun w : World => w.launchDone.isSome = true) (by simp [World.start]) done
    obtain ⟨result, waited, status⟩ := World.waitReturns_of_done notYet now
    exact ⟨m, result, waited, status⟩
  · rintro ⟨n, result, waited, status⟩
    have done := World.done_of_waitReturns cfg (inv n) status
    rw [← waited] at done
    have toClosed : LeadsTo (World.step cfg mode) (.start cfg mode) inputs 0
        (fun w => w.ending.Launching w.ring.closed ∧ w.launchDone.isSome = true)
        fun w => w.HasResult mode ∧ w.ring.closed = true := by
      refine .of_stable closes (fun w a h =>
        ⟨World.launching_step launch a h.1, World.launchDone_step a h.2⟩) ?_
      rintro w _ rfl ⟨inv, done⟩
      refine ⟨?_, World.Launching.closes inv done⟩
      rw [World.HasResult, launch, if_neg Bool.false_ne_true]
      exact World.launchDone_step _ done
    obtain ⟨m, -, finished⟩ := toClosed.trans (leadsTo_isOver reads returns) (n + 1)
      (Nat.zero_le _) ⟨inv (n + 1), done⟩
    exact ⟨m, finished⟩

/-- The child is launched, exits and is waited for; afterwards the parties take turns. -/
def endlessLaunch : ℕ → Act
  | 0 => .exit 100 0
  | 1 => .waitReturns ⟨none, some 0⟩
  | n + 2 => if n % 3 = 0 then .waitCloses else if n % 3 = 1 then .reads fun _ _ => none
      else .returns false

theorem recurs_endlessLaunch {kind : Act → Prop} (r : ℕ) (small : r < 3)
    (h : ∀ n, n % 3 = r → kind (endlessLaunch (n + 2))) : Recurs endlessLaunch kind := by
  intro n
  exact ⟨3 * n + r + 2, by omega, h (3 * n + r) (by omega)⟩

theorem launch_returns_iff_endlessLaunch :
    ∃ n, (worldAt printAll launch100 endlessLaunch n).isOver = true := by
  refine (launch_returns_iff printAll launch100 rfl endlessLaunch ?_ ?_ ?_).mpr
    ⟨1, ⟨none, some 0⟩, rfl, .inr rfl⟩
  · exact recurs_endlessLaunch 0 (by decide) fun n h => by simp [endlessLaunch, h]
  · exact recurs_endlessLaunch 1 (by decide) fun n h => ⟨_, by simp [endlessLaunch, h]; rfl⟩
  · exact recurs_endlessLaunch 2 (by decide) fun n h => ⟨false, by simp [endlessLaunch, h]⟩

/-! ## Attach mode -/

/-- The goroutine that polls has a result when it is through, and the reader is closed when
it or the loop is. -/
structure Ending.Attaching (e : Ending) (closed : Bool) : Prop where
  polls : e.poller = .polling ∨ e.poller = .selecting ↔ e.attachDone = none
  ended : e.poller = .ended → closed = true
  behind : e.main ≠ .reading → closed = true
  finished : ∀ result, e.main = .returned result → e.attachDone.isSome = true

theorem Ending.Attaching.mono {e : Ending} {closed closed' : Bool} (inv : e.Attaching closed)
    (stays : closed = true → closed' = true) : e.Attaching closed' :=
  ⟨inv.polls, fun h => stays (inv.ended h), fun h => stays (inv.behind h), inv.finished⟩

namespace World

section

variable {cfg : RunConfig} {mode : TargetMode} {w : World}

theorem attaching_start (attach : mode.isAttach = true) :
    (start cfg mode).ending.Attaching (start cfg mode).ring.closed where
  polls := by simp [start, ending, attach]
  ended h := by simp [start, ending, attach] at h
  behind h := absurd rfl h
  finished _ h := by cases h

/-- What is done in attach mode, with the polls and the ticks before the result. -/
theorem attaching_step (attach : mode.isAttach = true) (a : Act)
    (inv : w.ending.Attaching w.ring.closed) :
    (w.step cfg mode a).ending.Attaching (w.step cfg mode a).ring.closed := by
  have inv' := inv.mono (closed_step cfg mode a)
  cases step_end cfg mode w a with
  | beside _ ending =>
      rw [ending]
      exact inv'
  | waitReturns result waiting status ending =>
      rw [ending]
      exact { inv' with }
  | waitCloses closing ending closed =>
      rw [ending]
      exact { inv' with }
  | pollsSome kill polling alive ending =>
      rw [ending]
      exact { inv' with
        polls := iff_of_true (.inr rfl) (inv.polls.mp (.inl polling))
        ended := nofun }
  | pollsNone kill polling ending =>
      rw [ending]
      exact { inv' with polls := by simp, ended := nofun, finished := fun _ _ => rfl }
  | attachSelects status selecting ending =>
      rw [ending]
      exact { inv' with polls := by simp, ended := nofun, finished := fun _ _ => rfl }
  | attachTicks selecting ending =>
      rw [ending]
      exact { inv' with
        polls := iff_of_true (.inl rfl) (inv.polls.mp (.inr selecting))
        ended := nofun }
  | attachCloses closing ending closed =>
      rw [ending]
      have done : w.attachDone ≠ none := fun none => by
        rcases inv.polls.mpr none with polling | selecting
        · exact absurd (closing.symm.trans polling) nofun
        · exact absurd (closing.symm.trans selecting) nofun
      exact { inv' with
        polls := iff_of_false (by simp) done
        ended := fun _ => closed }
  | leaves proc reading closed ending =>
      rw [ending]
      exact { inv' with
        behind := fun _ => closed_step cfg mode _ closed
        finished := nofun }
  | returns closeFails result receiving done ending =>
      rw [ending]
      rw [attach, if_pos rfl] at done
      have left : w.ending.main ≠ .reading := by simp [World.ending, receiving]
      exact { inv' with behind := fun _ => inv'.behind left, finished := fun _ _ => done }

/-- The goroutine closes the reader. -/
theorem Attaching.closes (inv : w.ending.Attaching w.ring.closed)
    (done : w.attachDone.isSome = true) :
    (w.step cfg mode .attachCloses).ring.closed = true := by
  by_cases finished : w.isOver = true
  · rw [step_of_isOver finished]
    obtain ⟨result, main⟩ := isOver_iff.mp finished
    exact inv.behind (by simp [ending, main])
  · have step : w.step cfg mode .attachCloses = w.attachCloses := if_neg finished
    rw [step, attachCloses]
    split
    next => rfl
    next notClosing =>
      refine inv.ended ?_
      cases poller : w.poller with
      | polling => exact absurd (inv.polls.mp (.inl poller)) (Option.isSome_iff_ne_none.mp done)
      | selecting => exact absurd (inv.polls.mp (.inr poller)) (Option.isSome_iff_ne_none.mp done)
      | closing => exact absurd poller notClosing
      | ended => exact poller

/-- A process that has exited keeps its status. -/
theorem exitStatus_step (cfg : RunConfig) (mode : TargetMode) (a : Act) {pid : Int64}
    {status : WaitStatus} (exited : w.exitStatus pid = some status) :
    (w.step cfg mode a).exitStatus pid = some status := by
  unfold step
  split
  · exact exited
  · cases a with
    | exit pid' status' =>
        unfold exit
        dsimp only
        split
        · exact exited
        · by_cases same : pid = pid'
          · simp_all
          · simpa [same] using exited
    | _ =>
        simp only [submit, waitReturns, waitCloses, closeReader, monitorReceives, monitorForwards,
          monitorCloses, attachPolls, attachSelects, attachTicks, attachCloses, reads, readFails,
          returns]
        repeat' split
        all_goals exact exited

/-- A process that has exited stays so. -/
theorem isSome_exitStatus_step (a : Act) {pid : Int64}
    (exited : (w.exitStatus pid).isSome = true) :
    ((w.step cfg mode a).exitStatus pid).isSome = true := by
  obtain ⟨status, known⟩ := Option.isSome_iff_exists.mp exited
  rw [exitStatus_step cfg mode a known]
  rfl

/-- `kill` finds no process. -/
def Unseen (mode : TargetMode) (kill : Int64 → KillAnswer) : Prop :=
  ∀ pid ∈ mode.attachPIDs, kill pid = .failed

/-- If `kill` finds none of the processes, the poll is the last one. -/
theorem not_anyProcessAlive {kill : Int64 → KillAnswer} (unseen : Unseen mode kill) :
    ¬ anyProcessAlive kill mode.attachPIDs = true := by
  intro alive
  obtain ⟨pid, mem, found⟩ := List.any_eq_true.mp alive
  rw [unseen pid mem] at found
  cases found

/-- The processes have exited, and the goroutine is about to poll, or through. -/
def Polls (mode : TargetMode) (w : World) : Prop :=
  w.ending.Attaching w.ring.closed ∧
    (∀ pid ∈ mode.attachPIDs, (w.exitStatus pid).isSome = true) ∧
      (w.attachDone.isSome = true ∨ w.poller = .polling)

/-- After a tick the goroutine polls. -/
theorem ticks_polls (attach : mode.isAttach = true) (inv : w.ending.Attaching w.ring.closed)
    (exited : ∀ pid ∈ mode.attachPIDs, (w.exitStatus pid).isSome = true) :
    (w.step cfg mode .attachTicks).Polls mode := by
  refine ⟨attaching_step attach _ inv, fun pid mem => isSome_exitStatus_step _ (exited pid mem), ?_⟩
  by_cases done : w.attachDone.isSome = true
  · exact .inl (attachDone_step _ done)
  · have running : ¬ w.isOver = true := by
      intro finished
      obtain ⟨result, main⟩ := isOver_iff.mp finished
      exact done (inv.finished result main)
    have step : w.step cfg mode .attachTicks = w.attachTicks := if_neg running
    rw [step, attachTicks]
    rcases inv.polls.mpr (Option.not_isSome_iff_eq_none.mp done) with polling | selecting
    · replace polling : w.poller = .polling := polling
      rw [if_neg (by simp [polling])]
      exact .inr polling
    · replace selecting : w.poller = .selecting := selecting
      rw [if_pos selecting]
      exact .inr rfl

/-- Nothing but a poll that finds a process, and there is none, leads away from polling. -/
theorem Polls.step (attach : mode.isAttach = true) {a : Act}
    (unseen : ∀ kill, a = .attachPolls kill → Unseen mode kill) (h : w.Polls mode) :
    (w.step cfg mode a).Polls mode := by
  obtain ⟨inv, exited, ready⟩ := h
  refine ⟨attaching_step attach a inv, fun pid mem => isSome_exitStatus_step a (exited pid mem), ?_⟩
  rcases ready with done | polling
  · exact .inl (attachDone_step a done)
  · show (w.step cfg mode a).ending.attachDone.isSome = true ∨
      (w.step cfg mode a).ending.poller = .polling
    cases step_end cfg mode w a with
    | pollsSome kill _ alive ending => exact absurd alive (not_anyProcessAlive (unseen kill rfl))
    | pollsNone _ _ ending | attachSelects _ _ ending =>
        rw [ending]
        exact .inl rfl
    | attachTicks _ ending =>
        rw [ending]
        exact .inr rfl
    | attachCloses closing ending => exact absurd (polling.symm.trans closing) nofun
    | beside _ ending | waitReturns _ _ _ ending | waitCloses _ ending _ | leaves _ _ _ ending
    | returns _ _ _ _ ending =>
        rw [ending]
        exact .inr polling

/-- The poll ends the wait. -/
theorem Polls.polls {kill : Int64 → KillAnswer} (unseen : Unseen mode kill)
    (h : w.Polls mode) : (w.step cfg mode (.attachPolls kill)).attachDone.isSome = true := by
  obtain ⟨inv, exited, ready⟩ := h
  by_cases done : w.attachDone.isSome = true
  · exact attachDone_step _ done
  · have polling := ready.resolve_left done
    have running : ¬ w.isOver = true := by
      intro finished
      obtain ⟨result, main⟩ := isOver_iff.mp finished
      exact done (inv.finished result main)
    have gone : (mode.attachPIDs.all fun pid =>
        (kill pid).alive || (w.exitStatus pid).isSome) = true :=
      List.all_eq_true.mpr fun pid mem => by simp [exited pid mem]
    have step : w.step cfg mode (.attachPolls kill) = w.attachPolls mode kill := if_neg running
    rw [step, attachPolls, if_pos ⟨polling, gone⟩, if_neg (not_anyProcessAlive unseen)]
    rfl

end

end World

/-- **When `Run` returns in attach mode.**  If the goroutine that polls, the loop and `Run`
itself take their steps again and again, and from some time on the processes have exited and
`kill` says so, then `Run` returns.

`unseen` is about what `kill` says from `start` on; before, it may have said anything.  A pid
that is used again would make it untrue, and then the trace goes on. -/
theorem attach_returns (cfg : RunConfig) (mode : TargetMode) (attach : mode.isAttach = true)
    (inputs : ℕ → Act) (start : ℕ)
    (exited : ∀ pid ∈ mode.attachPIDs,
      ((worldAt cfg mode inputs start).exitStatus pid).isSome = true)
    (unseen : ∀ n kill, start ≤ n → inputs n = .attachPolls kill → World.Unseen mode kill)
    (ticks : Recurs inputs fun a => a = .attachTicks)
    (polls : Recurs inputs fun a => ∃ kill, a = .attachPolls kill)
    (closes : Recurs inputs fun a => a = .attachCloses)
    (reads : Recurs inputs fun a => ∃ proc, a = .reads proc)
    (returns : Recurs inputs fun a => ∃ closeFails, a = .returns closeFails) :
    ∃ n, (worldAt cfg mode inputs n).isOver = true := by
  have inv : (worldAt cfg mode inputs start).ending.Attaching
      (worldAt cfg mode inputs start).ring.closed :=
    stateAt_invariant (I := fun w : World => w.ending.Attaching w.ring.closed)
      (World.attaching_start attach) (fun w a => World.attaching_step attach a) start
  have toPolls : LeadsTo (World.step cfg mode) (.start cfg mode) inputs start
      (fun w => w.ending.Attaching w.ring.closed ∧
        ∀ pid ∈ mode.attachPIDs, (w.exitStatus pid).isSome = true) (World.Polls mode) := by
    refine .of_stable ticks (fun w a h => ⟨World.attaching_step attach a h.1,
      fun pid mem => World.isSome_exitStatus_step a (h.2 pid mem)⟩) ?_
    rintro w _ rfl ⟨inv, exited⟩
    exact World.ticks_polls attach inv exited
  have toDone : LeadsTo (World.step cfg mode) (.start cfg mode) inputs start (World.Polls mode)
      fun w => w.ending.Attaching w.ring.closed ∧ w.attachDone.isSome = true := by
    have late : Recurs inputs fun a => ∃ kill, a = .attachPolls kill ∧ World.Unseen mode kill := by
      intro n
      obtain ⟨m, le, kill, polled⟩ := polls (max n start)
      exact ⟨m, le_trans (le_max_left n start) le, kill, polled,
        unseen m kill (le_trans (le_max_right n start) le) polled⟩
    refine .of_recurs late (fun n hn h => .inl (h.step attach (unseen n · hn))) ?_
    rintro w _ ⟨kill, rfl, none⟩ h
    exact ⟨World.attaching_step attach _ h.1, h.polls none⟩
  have toClosed : LeadsTo (World.step cfg mode) (.start cfg mode) inputs start
      (fun w => w.ending.Attaching w.ring.closed ∧ w.attachDone.isSome = true)
      fun w => w.HasResult mode ∧ w.ring.closed = true := by
    refine .of_stable closes (fun w a h =>
      ⟨World.attaching_step attach a h.1, World.attachDone_step a h.2⟩) ?_
    rintro w _ rfl ⟨inv, done⟩
    refine ⟨?_, World.Attaching.closes inv done⟩
    rw [World.HasResult, attach, if_pos rfl]
    exact World.attachDone_step _ done
  obtain ⟨n, -, finished⟩ := ((toPolls.trans toDone).trans toClosed).trans
    (leadsTo_isOver reads returns) start le_rfl ⟨inv, exited⟩
  exact ⟨n, finished⟩

/-- The process 100 is traced, exits, and is not found; meanwhile the parties take turns. -/
def endlessAttach : ℕ → Act
  | 0 => .exit 100 0
  | n + 1 =>
      if n % 5 = 0 then .attachPolls fun _ => .failed else if n % 5 = 1 then .attachTicks
      else if n % 5 = 2 then .attachCloses else if n % 5 = 3 then .reads fun _ _ => none
      else .returns false

theorem recurs_endlessAttach {kind : Act → Prop} (r : ℕ) (small : r < 5)
    (h : ∀ n, n % 5 = r → kind (endlessAttach (n + 1))) : Recurs endlessAttach kind := by
  intro n
  exact ⟨5 * n + r + 1, by omega, h (5 * n + r) (by omega)⟩

theorem attach_returns_endlessAttach :
    ∃ n, (worldAt printAll ⟨0, [100]⟩ endlessAttach n).isOver = true := by
  refine attach_returns printAll ⟨0, [100]⟩ rfl endlessAttach 1 ?_ ?_ ?_ ?_ ?_ ?_ ?_
  · intro pid mem
    rw [List.mem_singleton.mp mem]
    rfl
  · intro n kill hn polled pid mem
    obtain ⟨n, rfl⟩ := Nat.exists_eq_add_of_le' hn
    simp only [endlessAttach] at polled
    repeat' split at polled
    all_goals cases polled
    rfl
  · exact recurs_endlessAttach 1 (by decide) fun n h => by simp [endlessAttach, h]
  · exact recurs_endlessAttach 0 (by decide) fun n h => ⟨_, by simp [endlessAttach, h]; rfl⟩
  · exact recurs_endlessAttach 2 (by decide) fun n h => by simp [endlessAttach, h]
  · exact recurs_endlessAttach 3 (by decide) fun n h => ⟨_, by simp [endlessAttach, h]; rfl⟩
  · exact recurs_endlessAttach 4 (by decide) fun n h => ⟨false, by simp [endlessAttach, h]⟩

end Litrace.Trace
