import Litrace.Lib.OneShot
import Litrace.Trace.TailLoss

/-!
# The signals of a launched child

`main` takes over the signals that would stop the tracer, and in launch mode the goroutine
of `startLaunchMonitor` forwards them to the process group of the child.  It receives once:
the signals and the goroutine are a mailbox whose consumer handles one item
(`World.mailbox_run`).

So a run forwards all signals that are delivered while the child lives only if there is at
most one of them, and the goroutine comes to forward it before `Run` returns
(`forwardsAll_iff_heeded`).  A child that survives the first signal gets no second one.

What is owed is defined without the goroutine: the signals that came before the child
exited, in order.  What is forwarded is what the goroutine has sent.  The condition is
about the order of steps only, that there is no second signal and that the goroutine gets
to its step, and it may fail in either way.
-/

namespace Litrace.Trace

open OneShot Transition

/-! ## Signals of a run -/

/-- The signal of the operating system that an action delivers. -/
def Act.delivered : Act → List Int64
  | .signal (some (.syscall sig)) => [sig]
  | _ => []

/-- The signal is delivered while the child lives, and `Run` has not returned. -/
def World.owed (mode : TargetMode) (w : World) (a : Act) : List Int64 :=
  if w.isOver = false ∧ w.exitStatus mode.launchPID = none then a.delivered else []

/-- Only signals of the operating system are delivered, and none behind the end of the
channel. -/
structure DeliversSignals (as : List Act) : Prop where
  nonzero : ∀ sig, .signal sig ∈ as → ∃ n, n ≠ 0 ∧ sig = some (.syscall n)
  opened : ∀ pre sig post, as = pre ++ .signal sig :: post → .closeSignals ∉ pre

section

variable (cfg : RunConfig) (mode : TargetMode) (as : List Act)

/-- The signals a run owes the child. -/
def owedIn : List Int64 :=
  emitted (World.step cfg mode) (World.owed mode) (.start cfg mode) as

/-- The signals that it owes the child afterwards, in later steps. -/
def owedAfter (later : List Act) : List Int64 :=
  emitted (World.step cfg mode) (World.owed mode) (run (World.step cfg mode) (.start cfg mode) as)
    later

/-- What is owed is forwarded, and every signal at most once and in order. -/
structure ForwardsAll : Prop where
  owed : owedIn cfg mode as <+: (run (World.step cfg mode) (.start cfg mode) as).forwarded
  once : (run (World.step cfg mode) (.start cfg mode) as).forwarded <+: as.flatMap Act.delivered

/-- A signal that is delivered while the child lives is the first, and the goroutine that
forwards it takes its two steps afterwards. -/
def Heeded : Prop :=
  ∀ pre sig post, as = pre ++ .signal sig :: post →
    (run (World.step cfg mode) (.start cfg mode) pre).exitStatus mode.launchPID = none →
    (∀ earlier, .signal earlier ∉ pre) ∧ [.monitorReceives, .monitorForwards].Sublist post

/-- `Run` returns in the step behind these. -/
structure ReturnsAfter (closeFails : Bool) : Prop where
  running : (run (World.step cfg mode) (.start cfg mode) as).isOver = false
  returned : (run (World.step cfg mode) (.start cfg mode) (as ++ [.returns closeFails])).isOver =
    true

end

/-! ## The goroutine is a consumer -/

/-- What is forwarded of what has been received. -/
def forwardReceived : Option OsSignal → List Int64
  | some sig => forwardLaunchSignal sig
  | none => []

/-- When it has forwarded it is done; it still closes the reader. -/
def Monitor.consumer : Monitor → Consumer (Option OsSignal)
  | .receiving => .receiving
  | .received sig => .received sig
  | .closing => .done
  | .ended => .done

/-- The operation of an action on the signals. -/
def Act.mailboxOp : Act → Option (Op (Option OsSignal))
  | .signal sig => some (.put sig)
  | .closeSignals => some .close
  | .monitorReceives => some .receive
  | .monitorForwards => some .handle
  | _ => none

/-- The action that makes an operation on the signals. -/
def mailboxAct : Op (Option OsSignal) → Act
  | .put sig => .signal sig
  | .close => .closeSignals
  | .receive => .monitorReceives
  | .handle => .monitorForwards

/-- Each operation of the mailbox is one action, and no action is two of them. -/
theorem mailboxOp_eq_some_iff {a : Act} {op : Op (Option OsSignal)} :
    a.mailboxOp = some op ↔ a = mailboxAct op := by
  constructor
  · intro makes
    cases a with
    | signal sig =>
        cases makes
        rfl
    | closeSignals =>
        cases makes
        rfl
    | monitorReceives =>
        cases makes
        rfl
    | monitorForwards =>
        cases makes
        rfl
    | _ => cases makes
  · rintro rfl
    cases op with
    | _ => rfl

namespace World

/-- The signals and their consumer. -/
def mailbox (w : World) : Mailbox (Option OsSignal) Int64 where
  items := w.signals
  closed := w.signalsClosed
  consumer := w.monitor.consumer
  handled := w.forwarded

section

variable {cfg : RunConfig} {mode : TargetMode} {w : World} {a : Act} {pid : Int64}

/-- The step leaves the poller alone, makes at most one operation on the signals, and
brings no process back. -/
structure Launched (w w' : World) (op : Option (Op (Option OsSignal))) : Prop where
  poller : w'.poller = w.poller
  mailbox : w'.mailbox = run (Mailbox.step none forwardReceived) w.mailbox op.toList
  alive : ∀ pid, w'.exitStatus pid = none → w.exitStatus pid = none

/-- An action that cannot be taken is no operation. -/
theorem launched_of_eq {w' : World} (idle : w' = w) : w.Launched w' none := by
  rw [idle]
  exact ⟨rfl, rfl, fun _ => id⟩

theorem launched_exit (status : WaitStatus) : w.Launched (w.exit pid status) none := by
  unfold exit
  split
  · exact ⟨rfl, rfl, fun _ => id⟩
  next alive =>
    refine ⟨rfl, rfl, fun other later => ?_⟩
    by_cases same : other = pid
    · rw [same]
      exact Option.not_isSome_iff_eq_none.mp alive
    · dsimp only at later
      rwa [Function.update_of_ne same] at later

theorem launched_waitReturns (result : ChildWaitResult) :
    w.Launched (w.waitReturns mode result) none := by
  unfold waitReturns
  split
  · exact ⟨rfl, rfl, fun _ => id⟩
  · exact ⟨rfl, rfl, fun _ => id⟩

theorem launched_waitCloses : w.Launched w.waitCloses none := by
  unfold waitCloses
  split
  · exact ⟨rfl, rfl, fun _ => id⟩
  · exact ⟨rfl, rfl, fun _ => id⟩

/-- Receiving from the channel is receiving from the mailbox, also when the channel is closed. -/
theorem launched_monitorReceives : w.Launched w.monitorReceives (some .receive) := by
  rcases w with ⟨_, _, signals, signalsClosed, _, _, monitor⟩
  cases monitor with
  | receiving =>
      cases signals with
      | cons sig signals => exact ⟨rfl, rfl, fun _ => id⟩
      | nil =>
          cases signalsClosed with
          | true => exact ⟨rfl, rfl, fun _ => id⟩
          | false => exact ⟨rfl, rfl, fun _ => id⟩
  | received sig => exact ⟨rfl, rfl, fun _ => id⟩
  | closing => exact ⟨rfl, rfl, fun _ => id⟩
  | ended => exact ⟨rfl, rfl, fun _ => id⟩

/-- Forwarding handles what was received; what is handled of a nil signal is nothing. -/
theorem launched_monitorForwards : w.Launched w.monitorForwards (some .handle) := by
  rcases w with ⟨_, _, signals, signalsClosed, forwarded, _, monitor⟩
  cases monitor with
  | receiving => exact ⟨rfl, rfl, fun _ => id⟩
  | received sig =>
      cases sig with
      | some sig => exact ⟨rfl, rfl, fun _ => id⟩
      | none =>
          refine ⟨rfl, ?_, fun _ => id⟩
          show Mailbox.mk signals signalsClosed .done forwarded =
            .mk signals signalsClosed .done (forwarded ++ [])
          rw [List.append_nil]
  | closing => exact ⟨rfl, rfl, fun _ => id⟩
  | ended => exact ⟨rfl, rfl, fun _ => id⟩

theorem launched_monitorCloses : w.Launched w.monitorCloses none := by
  rcases w with ⟨_, _, _, _, _, _, monitor⟩
  cases monitor with
  | receiving => exact ⟨rfl, rfl, fun _ => id⟩
  | received sig => exact ⟨rfl, rfl, fun _ => id⟩
  | closing => exact ⟨rfl, rfl, fun _ => id⟩
  | ended => exact ⟨rfl, rfl, fun _ => id⟩

theorem launched_reads (proc : ProcCwd) : w.Launched (w.reads cfg mode proc) none := by
  unfold reads
  split
  · split
    · exact ⟨rfl, rfl, fun _ => id⟩
    · split
      · exact ⟨rfl, rfl, fun _ => id⟩
      · exact ⟨rfl, rfl, fun _ => id⟩
  · exact ⟨rfl, rfl, fun _ => id⟩

theorem launched_readFails : w.Launched w.readFails none := by
  unfold readFails
  split
  · exact ⟨rfl, rfl, fun _ => id⟩
  · exact ⟨rfl, rfl, fun _ => id⟩

theorem launched_returns (closeFails : Bool) : w.Launched (w.returns cfg mode closeFails) none := by
  unfold returns
  split
  · dsimp only
    split
    · exact ⟨rfl, rfl, fun _ => id⟩
    · exact ⟨rfl, rfl, fun _ => id⟩
  · exact ⟨rfl, rfl, fun _ => id⟩

/-- The poller of attach mode, which would receive signals too, has not been started. -/
theorem step_launched (cfg : RunConfig) (mode : TargetMode) (running : w.isOver = false)
    (unpolled : w.poller = .ended) : w.Launched (w.step cfg mode a) a.mailboxOp := by
  have unpolling : ∀ state : Poller, .ended ≠ state → w.poller ≠ state := by
    intro state other same
    exact other (unpolled.symm.trans same)
  unfold step
  rw [if_neg (not_isOver running)]
  cases a with
  | submit sample => exact ⟨rfl, rfl, fun _ => id⟩
  | exit pid status => exact launched_exit status
  | signal sig => exact ⟨rfl, rfl, fun _ => id⟩
  | closeSignals => exact ⟨rfl, rfl, fun _ => id⟩
  | waitReturns result => exact launched_waitReturns result
  | waitCloses => exact launched_waitCloses
  | monitorReceives => exact launched_monitorReceives
  | monitorForwards => exact launched_monitorForwards
  | monitorCloses => exact launched_monitorCloses
  | attachPolls kill =>
      exact launched_of_eq (if_neg fun both => unpolling .polling nofun both.1)
  | attachSelects => exact launched_of_eq (if_neg (unpolling .selecting nofun))
  | attachTicks => exact launched_of_eq (if_neg (unpolling .selecting nofun))
  | attachCloses => exact launched_of_eq (if_neg (unpolling .closing nofun))
  | reads proc => exact launched_reads proc
  | readFails => exact launched_readFails
  | returns closeFails => exact launched_returns closeFails

theorem running_of_step (running : (w.step cfg mode a).isOver = false) : w.isOver = false := by
  cases ended : w.isOver with
  | false => rfl
  | true => rwa [step_of_isOver ended, ended] at running

end

end World

/-! ## Runs in launch mode -/

section

variable {cfg : RunConfig} {mode : TargetMode} {as pre post : List Act} {sig : Int64}

/-- While `Run` has not returned, no step before was idle for that reason. -/
theorem running_before
    (running : (run (World.step cfg mode) (.start cfg mode) (pre ++ post)).isOver = false) :
    (run (World.step cfg mode) (.start cfg mode) pre).isOver = false :=
  of_run_append (P := fun w : World => w.isOver = false) (fun _ _ => World.running_of_step) running

/-- In launch mode the goroutine of attach mode has never been started. -/
theorem unpolled_run (launch : mode.isAttach = false)
    (running : (run (World.step cfg mode) (.start cfg mode) as).isOver = false) :
    (run (World.step cfg mode) (.start cfg mode) as).poller = .ended := by
  induction as using List.reverseRecOn with
  | nil =>
      show (if mode.isAttach then Poller.polling else .ended) = .ended
      rw [launch, if_neg Bool.false_ne_true]
  | append_singleton as a ih =>
      have before := running_before running
      have unpolled := ih before
      rw [run_concat, (World.step_launched cfg mode before unpolled).poller, unpolled]

/-- A child that lives has lived all along. -/
theorem alive_before (launch : mode.isAttach = false) {pid : Int64}
    (running : (run (World.step cfg mode) (.start cfg mode) (pre ++ post)).isOver = false)
    (alive : (run (World.step cfg mode) (.start cfg mode) (pre ++ post)).exitStatus pid = none) :
    (run (World.step cfg mode) (.start cfg mode) pre).exitStatus pid = none := by
  induction post using List.reverseRecOn with
  | nil => rwa [List.append_nil] at alive
  | append_singleton post a ih =>
      rw [← List.append_assoc] at running alive
      have before := running_before running
      rw [run_concat] at alive
      exact ih before
        ((World.step_launched cfg mode before (unpolled_run launch before)).alive pid alive)

/-- In a launched run the signals and the goroutine are a mailbox. -/
theorem mailbox_run (launch : mode.isAttach = false)
    (running : (run (World.step cfg mode) (.start cfg mode) as).isOver = false) :
    (run (World.step cfg mode) (.start cfg mode) as).mailbox =
      run (Mailbox.step none forwardReceived) .empty (as.filterMap Act.mailboxOp) := by
  induction as using List.reverseRecOn with
  | nil =>
      show Mailbox.mk [] false (if mode.isAttach then Monitor.ended else .receiving).consumer [] = _
      rw [launch, if_neg Bool.false_ne_true]
      rfl
  | append_singleton as a ih =>
      have before := running_before running
      have unpolled := unpolled_run launch before
      have step := (World.step_launched (a := a) cfg mode before unpolled).mailbox
      have op : [a].filterMap Act.mailboxOp = a.mailboxOp.toList := by
        rw [List.filterMap_cons]
        cases a.mailboxOp with
        | none => rfl
        | some op => rfl
      rw [run_concat, step, ih before, List.filterMap_append, op, run_append]

/-- Picking out the images of some elements is picking out these. -/
theorem sublist_filterMap_of_inverse {α β : Type*} {f : α → Option β} {g : β → α} {as : List α}
    {bs : List β} (inverse : ∀ b ∈ bs, ∀ a, f a = some b ↔ a = g b) :
    bs.Sublist (as.filterMap f) ↔ (bs.map g).Sublist as := by
  induction as generalizing bs with
  | nil => simp
  | cons a as ih =>
      cases bs with
      | nil => simp
      | cons b bs =>
          have mine := inverse b List.mem_cons_self a
          have rest : ∀ c ∈ bs, ∀ a, f a = some c ↔ a = g c :=
            fun c mem => inverse c (.tail _ mem)
          rw [List.map_cons, List.cons_sublist_cons']
          cases image : f a with
          | none =>
              rw [image] at mine
              have other : g b ≠ a := fun same => by cases mine.mpr same.symm
              rw [List.filterMap_cons_none image, ih inverse, List.map_cons]
              exact (or_iff_left fun both => other both.1).symm
          | some c =>
              rw [image, Option.some_inj] at mine
              rw [List.filterMap_cons_some image, List.cons_sublist_cons', ih inverse, ih rest,
                List.map_cons, eq_comm, mine, eq_comm]

/-- The steps of the goroutine are those of the consumer. -/
theorem sublist_mailboxOps :
    [.receive, .handle].Sublist (as.filterMap Act.mailboxOp) ↔
      [.monitorReceives, .monitorForwards].Sublist as :=
  sublist_filterMap_of_inverse (g := mailboxAct) fun _ _ _ => mailboxOp_eq_some_iff

/-- What is put is delivered. -/
theorem delivered_eq (nonzero : ∀ sig, .signal sig ∈ as → ∃ n, n ≠ 0 ∧ sig = some (.syscall n)) :
    ((as.filterMap Act.mailboxOp).filterMap Op.item).flatMap forwardReceived =
      as.flatMap Act.delivered := by
  induction as with
  | nil => rfl
  | cons a as ih =>
      have rest := ih fun sig mem => nonzero sig (.tail _ mem)
      rw [List.flatMap_cons, ← rest]
      cases a with
      | signal sig =>
          obtain ⟨n, ne, rfl⟩ := nonzero sig List.mem_cons_self
          show (signalAsSyscall (.syscall n)).toList ++ _ = [n] ++ _
          rw [signalAsSyscall, if_neg ne]
          rfl
      | _ => rfl

/-! ## What is owed, and what is forwarded -/

/-- A signal is owed if it comes while the child is alive. -/
theorem World.owed_signal {w : World} (running : w.isOver = false)
    (alive : w.exitStatus mode.launchPID = none) :
    w.owed mode (.signal (some (.syscall sig))) = [sig] :=
  if_pos ⟨running, alive⟩

theorem World.eq_signal_of_owed {w : World} {a : Act} (owes : w.owed mode a ≠ []) :
    w.exitStatus mode.launchPID = none ∧ ∃ sig, a = .signal (some (.syscall sig)) := by
  unfold World.owed at owes
  split at owes
  next both =>
    refine ⟨both.2, ?_⟩
    unfold Act.delivered at owes
    split at owes
    · exact ⟨_, rfl⟩
    · exact absurd rfl owes
  next => exact absurd rfl owes

/-- The goroutine forwards at most once, and in order. -/
theorem forwarded_prefix (launch : mode.isAttach = false) (delivers : DeliversSignals as)
    (running : (run (World.step cfg mode) (.start cfg mode) as).isOver = false) :
    (run (World.step cfg mode) (.start cfg mode) as).forwarded <+: as.flatMap Act.delivered := by
  have handled : (run (World.step cfg mode) (.start cfg mode) as).forwarded = _ :=
    congrArg Mailbox.handled (mailbox_run launch running)
  rw [handled, ← delivered_eq delivers.nonzero]
  exact Mailbox.handled_prefix_puts rfl

open scoped Classical in
/-- It forwards the first signal, if it comes to that. -/
theorem forwarded_first (launch : mode.isAttach = false) (nonzero : sig ≠ 0)
    (running : (run (World.step cfg mode) (.start cfg mode)
      (pre ++ .signal (some (.syscall sig)) :: post)).isOver = false)
    (first : ∀ earlier, .signal earlier ∉ pre) (opened : .closeSignals ∉ pre) :
    (run (World.step cfg mode) (.start cfg mode)
        (pre ++ .signal (some (.syscall sig)) :: post)).forwarded =
      if [.monitorReceives, .monitorForwards].Sublist post then [sig] else [] := by
  have handled : (run (World.step cfg mode) (.start cfg mode)
      (pre ++ .signal (some (.syscall sig)) :: post)).forwarded = _ :=
    congrArg Mailbox.handled (mailbox_run launch running)
  have unput : ∀ x, Op.put x ∉ pre.filterMap Act.mailboxOp := by
    intro x mem
    obtain ⟨a, mem, makes⟩ := List.mem_filterMap.mp mem
    obtain rfl := mailboxOp_eq_some_iff.mp makes
    exact first x mem
  have unclosed : Op.close ∉ pre.filterMap Act.mailboxOp := by
    intro mem
    obtain ⟨a, mem, makes⟩ := List.mem_filterMap.mp mem
    obtain rfl := mailboxOp_eq_some_iff.mp makes
    exact opened mem
  have forwards : forwardReceived (some (.syscall sig)) = [sig] := by
    show (signalAsSyscall (.syscall sig)).toList = [sig]
    rw [signalAsSyscall, if_neg nonzero]
    rfl
  rw [handled, List.filterMap_append]
  simp only [← sublist_mailboxOps]
  rw [← forwards]
  exact Mailbox.handled_run_first unput unclosed

/-- Every signal that is delivered while the child lives is owed. -/
theorem owed_ne_nil {s : World} {signal : Option OsSignal}
    (nonzero : ∃ n, n ≠ 0 ∧ signal = some (.syscall n))
    (running : (run (World.step cfg mode) s pre).isOver = false)
    (alive : (run (World.step cfg mode) s pre).exitStatus mode.launchPID = none) :
    emitted (World.step cfg mode) (World.owed mode) s (pre ++ .signal signal :: post) ≠ [] := by
  intro silent
  obtain ⟨n, -, rfl⟩ := nonzero
  have unowed := (emitted_eq_nil_iff.mp silent).at_split
  rw [World.owed_signal running alive] at unowed
  cases unowed

/-! ## The first signal -/

section

variable (first : ∀ earlier, .signal earlier ∉ pre)
  (alive : (run (World.step cfg mode) (.start cfg mode) pre).exitStatus mode.launchPID = none)

include first alive

/-- The first signal is heeded alone if the goroutine takes its steps, and it is the last
one that is owed. -/
theorem heeded_iff_of_first
    (delivers : DeliversSignals (pre ++ .signal (some (.syscall sig)) :: post))
    (running : (run (World.step cfg mode) (.start cfg mode)
      (pre ++ .signal (some (.syscall sig)) :: post)).isOver = false) :
    Heeded cfg mode (pre ++ .signal (some (.syscall sig)) :: post) ↔
      [.monitorReceives, .monitorForwards].Sublist post ∧
        owedAfter cfg mode (pre ++ [.signal (some (.syscall sig))]) post = [] := by
  constructor
  · intro heeded
    refine ⟨(heeded pre _ post rfl alive).2, ?_⟩
    by_contra owes
    obtain ⟨between, a, later, rfl, -, here⟩ := exists_first_emitted owes
    obtain ⟨alive', sig', rfl⟩ := World.eq_signal_of_owed here
    rw [← run_append] at alive'
    have alone := (heeded _ (some (.syscall sig')) later (by simp) alive').1
    exact alone (some (.syscall sig)) (by simp)
  · rintro ⟨served, unowed⟩ pre' signal post' split alive'
    rcases List.append_eq_append_iff.mp split with ⟨between, rfl, same⟩ | ⟨between, rfl, same⟩
    · cases between with
      | nil =>
          rw [List.append_nil]
          cases same
          exact ⟨first, served⟩
      | cons b between =>
          -- A second signal would be owed.
          obtain ⟨rfl, tail⟩ := List.cons_eq_cons.mp same
          obtain rfl : post = between ++ .signal signal :: post' := tail
          have same : ∀ later, pre ++ .signal (some (.syscall sig)) :: later =
              pre ++ [.signal (some (.syscall sig))] ++ later := List.append_cons pre _
          rw [same, run_append] at alive'
          rw [same, ← List.append_assoc] at running
          have runningThere := running_before running
          rw [run_append] at runningThere
          exact absurd unowed (owed_ne_nil (delivers.nonzero signal (by simp)) runningThere alive')
    · cases between with
      | nil =>
          cases same
          rw [List.append_nil] at first
          exact ⟨first, served⟩
      | cons b between =>
          obtain ⟨rfl, -⟩ := List.cons_eq_cons.mp same
          exact absurd (by simp) (first signal)

/-- All is forwarded under the same conditions. -/
theorem forwardsAll_iff_of_first (launch : mode.isAttach = false)
    (unowed : owedIn cfg mode pre = [])
    (delivers : DeliversSignals (pre ++ .signal (some (.syscall sig)) :: post))
    (running : (run (World.step cfg mode) (.start cfg mode)
      (pre ++ .signal (some (.syscall sig)) :: post)).isOver = false) :
    ForwardsAll cfg mode (pre ++ .signal (some (.syscall sig)) :: post) ↔
      [.monitorReceives, .monitorForwards].Sublist post ∧
        owedAfter cfg mode (pre ++ [.signal (some (.syscall sig))]) post = [] := by
  obtain ⟨n, nonzero, same⟩ := delivers.nonzero (some (.syscall sig)) (by simp)
  obtain rfl : sig = n := by
    cases same
    rfl
  have forwarded := forwarded_first launch nonzero running first (delivers.opened _ _ _ rfl)
  have owed : owedIn cfg mode (pre ++ .signal (some (.syscall sig)) :: post) =
      sig :: owedAfter cfg mode (pre ++ [.signal (some (.syscall sig))]) post := by
    rw [owedIn] at unowed
    rw [owedIn, emitted_append, unowed, emitted_cons,
      World.owed_signal (running_before running) alive, owedAfter, run_concat]
    rfl
  by_cases served : [.monitorReceives, .monitorForwards].Sublist post
  · rw [if_pos served] at forwarded
    rw [and_iff_right served]
    constructor
    · intro all
      have owed_prefix := all.owed
      rw [owed, forwarded, List.cons_prefix_cons, List.prefix_nil] at owed_prefix
      exact owed_prefix.2
    · intro last
      refine ⟨?_, forwarded_prefix launch delivers running⟩
      rw [owed, last, forwarded]
  · rw [if_neg served] at forwarded
    refine iff_of_false (fun all => ?_) fun both => served both.1
    have owed_prefix := all.owed
    rw [owed, forwarded, List.prefix_nil] at owed_prefix
    cases owed_prefix

end

/-! ## All signals -/

/-- What holds when `Run` returns holds right before. -/
theorem forwardsAll_returns {closeFails : Bool} (launch : mode.isAttach = false)
    (running : (run (World.step cfg mode) (.start cfg mode) as).isOver = false) :
    ForwardsAll cfg mode (as ++ [.returns closeFails]) ↔ ForwardsAll cfg mode as := by
  have owed : owedIn cfg mode (as ++ [.returns closeFails]) = owedIn cfg mode as := by
    have none : World.owed mode (run (World.step cfg mode) (.start cfg mode) as)
        (.returns closeFails) = [] := ite_self _
    rw [owedIn, emitted_append, emitted_cons, none, emitted_nil, List.append_nil, List.append_nil]
    rfl
  have forwarded : (run (World.step cfg mode) (.start cfg mode)
      (as ++ [.returns closeFails])).forwarded =
        (run (World.step cfg mode) (.start cfg mode) as).forwarded := by
    rw [run_concat]
    exact congrArg Mailbox.handled
      (World.step_launched (a := .returns closeFails) cfg mode running
        (unpolled_run launch running)).mailbox
  have delivered : (as ++ [Act.returns closeFails]).flatMap Act.delivered =
      as.flatMap Act.delivered := by
    rw [List.flatMap_append]
    exact List.append_nil _
  constructor
  · rintro ⟨all, once⟩
    rw [owed, forwarded] at all
    rw [forwarded, delivered] at once
    exact ⟨all, once⟩
  · rintro ⟨all, once⟩
    rw [← owed, ← forwarded] at all
    rw [← forwarded, ← delivered] at once
    exact ⟨all, once⟩

/-- **Forwarding signals.**  When `Run` returns in launch mode, all signals that were delivered
while the child lived have been forwarded, once and in order, exactly when there was at most
one and the goroutine came to forward it.

It is about runs that have come to their end, as before it a signal may still be on its way. -/
theorem forwardsAll_iff_heeded (cfg : RunConfig) (mode : TargetMode) (as : List Act)
    (closeFails : Bool) (launch : mode.isAttach = false) (delivers : DeliversSignals as)
    (returns : ReturnsAfter cfg mode as closeFails) :
    ForwardsAll cfg mode (as ++ [.returns closeFails]) ↔ Heeded cfg mode as := by
  have running := returns.running
  rw [forwardsAll_returns launch running]
  by_cases silent : owedIn cfg mode as = []
  · refine iff_of_true ⟨?_, forwarded_prefix launch delivers running⟩ ?_
    · rw [silent]
      exact List.nil_prefix
    · rintro pre signal post rfl alive
      have nonzero := delivers.nonzero signal (by simp)
      exact absurd silent (owed_ne_nil nonzero (running_before running) alive)
  · obtain ⟨pre, a, post, rfl, unowed, owes⟩ := exists_first_emitted silent
    obtain ⟨alive, sig, rfl⟩ := World.eq_signal_of_owed owes
    have first : ∀ earlier, .signal earlier ∉ pre := by
      intro earlier mem
      have nonzero := delivers.nonzero earlier (List.mem_append_left _ mem)
      obtain ⟨before, between, rfl⟩ := List.append_of_mem mem
      have runningPre := running_before running
      exact absurd unowed (owed_ne_nil nonzero (running_before runningPre)
        (alive_before launch runningPre alive))
    rw [forwardsAll_iff_of_first first alive launch unowed delivers running,
      heeded_iff_of_first first alive delivers running]

end

/-! ## Two runs -/

/-- The child survives a signal, perhaps gets another one, and exits. -/
def interrupt (twice : Bool) : List Act :=
  let sigint : Act := .signal (some (.syscall 2))
  [sigint, .monitorReceives, .monitorForwards, .monitorCloses, .reads fun _ _ => none] ++
    (if twice then [sigint] else []) ++ [.exit 100 0, .waitReturns ⟨none, some 0⟩, .waitCloses]

theorem delivers_interrupt (twice : Bool) : DeliversSignals (interrupt twice) := by
  constructor
  · intro signal mem
    refine ⟨2, by decide, ?_⟩
    cases twice with
    | true => simpa [interrupt] using mem
    | false => simpa [interrupt] using mem
  · intro pre signal post split mem
    have here : .closeSignals ∈ interrupt twice := by
      rw [split]
      exact List.mem_append_left _ mem
    cases twice with
    | true => simp [interrupt] at here
    | false => simp [interrupt] at here

theorem second_signal_is_lost :
    DeliversSignals (interrupt true) ∧ ReturnsAfter printAll launch100 (interrupt true) false ∧
      owedIn printAll launch100 (interrupt true ++ [.returns false]) = [2, 2] ∧
      (run (World.step printAll launch100) (.start printAll launch100)
        (interrupt true ++ [.returns false])).forwarded = [2] ∧
      ¬ ForwardsAll printAll launch100 (interrupt true ++ [.returns false]) := by
  have owed : owedIn printAll launch100 (interrupt true ++ [.returns false]) = [2, 2] := rfl
  have forwarded : (run (World.step printAll launch100) (.start printAll launch100)
      (interrupt true ++ [.returns false])).forwarded = [2] := rfl
  refine ⟨delivers_interrupt true, ⟨rfl, rfl⟩, owed, forwarded, fun all => ?_⟩
  have owed_prefix := all.owed
  rw [owed, forwarded] at owed_prefix
  exact absurd owed_prefix.length_le (by decide)

theorem forwardsAll_iff_heeded_once :
    ForwardsAll printAll launch100 (interrupt false ++ [.returns false]) := by
  refine (forwardsAll_iff_heeded printAll launch100 (interrupt false) false rfl
    (delivers_interrupt false) ⟨rfl, rfl⟩).mpr ?_
  rintro pre signal post split alive
  cases pre with
  | nil =>
      obtain ⟨-, rfl⟩ := List.cons_eq_cons.mp split
      exact ⟨fun _ => List.not_mem_nil, by simp⟩
  | cons a pre =>
      obtain ⟨-, later⟩ := List.cons_eq_cons.mp split
      have mem : .signal signal ∈ (interrupt false).tail := by
        rw [show (interrupt false).tail = pre ++ .signal signal :: post from later]
        simp
      simp [interrupt] at mem

end Litrace.Trace
