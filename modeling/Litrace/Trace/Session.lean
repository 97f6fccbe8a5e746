import Litrace.Bpf.Loading
import Litrace.Trace.Pipeline
import Litrace.Trace.SelectorHides

/-!
# Sessions

The system with the programs that `Run` has loaded for its configuration (`Config.bpf`).
When the loop has caught up with the programs at the end (`Drained`), the output is a
function of the hits alone, and so two sessions over the same hits can be compared.

Here they are compared with and without a selector.  The programs hide the events that
are not asked for (`submittedEvents_filtered`), the filter hides those it asked for as
support (`printed_of_delivered`), and neither looks at the numbers of the events.

What the comparison assumes is what makes the output a function of the hits.  A full ring
buffer loses events, and leaves entries behind that the two sessions would submit differently;
a loop that is cut off loses its last records; and what a read of `/proc` gives depends on
when it is made.
-/

namespace Litrace.Trace

open Bpf Transition

/-- The programs that `Run` has loaded. -/
def Config.bpf (cfg : Config) : Bpf.Config :=
  HandleConfig.bpf ⟨cfg.followForks, handleTraceSyscallIDs cfg⟩

/-! ## Drained sessions -/

section

variable (bpf : Bpf.Config) (cfg : RunConfig) (mode : TargetMode) (targets : TargetPids)
  (moves : List Move)

/-- Nothing waits at some time before `Run` returns, and nothing is submitted afterwards. -/
def Drained : Prop :=
  ∃ pre post, moves = pre ++ post ∧
    (systemAfter bpf cfg mode targets pre).world.isOver = false ∧
    (systemAfter bpf cfg mode targets pre).world.ring.items = [] ∧ hitsIn post = []

end

section

variable {bpf : Bpf.Config} {cfg : RunConfig} {mode : TargetMode} {targets : TargetPids}
  {moves : List Move}

theorem hitsIn_append (pre post : List Move) :
    hitsIn (pre ++ post) = hitsIn pre ++ hitsIn post :=
  List.flatMap_append

variable (bpf cfg mode targets) in
theorem seenIn_append (pre post : List Move) :
    ∃ rest, seenIn bpf cfg mode targets (pre ++ post) = seenIn bpf cfg mode targets pre ++ rest :=
  ⟨_, by rw [seenIn, recordsIn, emitted_append, arrivals, List.filterMap_append]; rfl⟩

/-- In a drained session the loop meets everything that is submitted. -/
theorem Drained.seen (drained : Drained bpf cfg mode targets moves) :
    (seenIn bpf cfg mode targets moves).map Arrival.ev =
      submittedEvents bpf (.load targets) (hitsIn moves) := by
  obtain ⟨pre, post, rfl, running, empty, silent⟩ := drained
  -- Before, the loop has seen everything, so afterwards there is nothing left to account for.
  have before : (seenIn bpf cfg mode targets pre).map Arrival.ev =
      submittedEvents bpf (.load targets) (hitsIn pre) := by
    obtain ⟨late, split, all⟩ := submitted_accounted bpf cfg mode targets pre
    rw [← split, all running, System.waiting, empty, List.filterMap_nil, List.append_nil,
      List.append_nil]
  obtain ⟨late, split, -⟩ := submitted_accounted bpf cfg mode targets (pre ++ post)
  obtain ⟨rest, seen⟩ := seenIn_append bpf cfg mode targets pre post
  have same : hitsIn (pre ++ post) = hitsIn pre := by rw [hitsIn_append, silent, List.append_nil]
  rw [same, ← before, seen, List.map_append, List.append_assoc, List.append_assoc] at split
  have none := List.self_eq_append_right.mp split.symm
  rw [same, ← before, seen, List.map_append, (List.append_eq_nil_iff.mp none).1, List.append_nil]

end

/-! ## Neither numbers nor `/proc` -/

/-- The event without its number, met while `/proc` cannot be read. -/
def blank (ev : Event) : Arrival := ⟨unnumbered ev, fun _ _ => none⟩

theorem blank_of_unread {a : Arrival} (unread : a.Unread) (f : PathFilter) :
    f.decision (blank a.ev) = f.decision a ∧ f.next (blank a.ev) = f.next a := by
  have same : a = ⟨a.ev, fun _ _ => none⟩ := by
    cases a
    congr
    funext site pid
    exact unread site pid
  rw [same]
  exact ⟨rfl, rfl⟩

/-- The filter does not look at the numbers. -/
theorem printed_blank {f : PathFilter} {as : List Arrival} (unread : ∀ a ∈ as, a.Unread) :
    (printed f as).map unnumbered = printed f ((as.map Arrival.ev).map blank) := by
  induction as generalizing f with
  | nil => rfl
  | cons a as ih =>
      obtain ⟨first, rest⟩ := List.forall_mem_cons.mp unread
      obtain ⟨decision, next⟩ := blank_of_unread first f
      have ih := ih (f := f.next a) rest
      rw [printed, printed, List.map_cons, List.map_cons, emitted_cons, emitted_cons,
        List.map_append, decision, next]
      congr 1
      split <;> rfl

/-! ## What the filter is given -/

/-- Only the fork syscalls create processes, as the programs see it. -/
theorem fork_of_createsProcess {bpf : Bpf.Config} {m : Maps} {h : Hit} {ev : Event}
    (submits : submitted bpf m h = some ev) (creates : eventCreatesProcess ev = true) :
    ev.syscallId ∈ pathFilterForkSupportSyscallIDs := by
  cases h with
  | sysEnter => cases submits
  | schedProcessExit => cases submits
  | sysExit task ctx now mem reserved =>
      obtain ⟨state, -, -, -, -, rfl⟩ := sysExit_event_eq_some.mp submits
      have header := exitEvent_header mem state task ctx now (m.execveSnapshots task.tid)
      rw [header.syscallId]
      rw [eventCreatesProcess, header.eventFlags] at creates
      have clone : isProcessClone mem state = true := by
        by_contra not
        simp [eventHeader, not] at creates
      show state.syscallId ∈ _
      rcases isProcessClone_clones clone with h | h | h | h <;> rw [h] <;> decide

theorem forks_of_submittedEvents {bpf : Bpf.Config} {m : Maps} {hits : List Hit} {ev : Event}
    (h : ev ∈ submittedEvents bpf m hits) (creates : eventCreatesProcess ev = true) :
    ev.syscallId ∈ pathFilterForkSupportSyscallIDs := by
  obtain ⟨pre, hit, post, -, submits⟩ := mem_emitted h
  exact fork_of_createsProcess (Option.mem_toList.mp submits) creates

/-- The filter with a selector need not be given more than was asked for, and may be. -/
theorem printed_of_delivered {selector : Finset Int64} {tracePaths : List GoString}
    {as : List Arrival} {delivered : Event → Bool} (hselector : selector ≠ ∅)
    (hpaths : tracePaths ≠ []) (unread : ∀ a ∈ as, a.Unread)
    (forks : ∀ a ∈ as, eventCreatesProcess a.ev = true →
      a.ev.syscallId ∈ pathFilterForkSupportSyscallIDs)
    (asked : ∀ ev, ev.syscallId ∈ handleTraceSyscallIDs ⟨true, selector, tracePaths⟩ →
      delivered ev = true) :
    printed (newPathFilter ⟨true, selector, tracePaths⟩) (as.filter fun a => delivered a.ev) =
      (printed (newPathFilter ⟨true, ∅, tracePaths⟩) as).filter fun ev =>
        ev.syscallId ∈ selector := by
  symm
  rw [printed, filter_emitted]
  refine emitted_eq_of_skip (p := fun a => a ∈ as) (SameViews selector) ?_ ?_ ?_
    fun a ha => ha
  · intro s t a same ha _
    obtain ⟨decided, same'⟩ := same.step (unread a ha)
    refine ⟨?_, same'⟩
    show _ = if t.decision a = true then [a.ev] else []
    rw [decided]
    by_cases selected : a.ev.syscallId ∈ selector <;> cases s.decision a <;> simp [selected]
  · intro s t a same ha out
    have unasked : a.ev.syscallId ∉ handleTraceSyscallIDs ⟨true, selector, tracePaths⟩ :=
      fun mem => absurd (asked a.ev mem) (by rw [out]; simp)
    rw [mem_handleTraceSyscallIDs hpaths hselector] at unasked
    simp only [not_or] at unasked
    obtain ⟨unselected, unsupported, noForkId⟩ := unasked
    have noFork : processCloneChildPID a.ev = none := by
      refine if_pos (.inr ?_)
      by_contra flagged
      exact noForkId (forks a ha (by simpa using flagged))
    refine ⟨?_, same.next_of_view (.inl rfl) ?_⟩
    · cases s.decision a <;> simp [unselected]
    · rw [next_view_of_unsupported same.fullOn (unread a ha) unsupported noFork]
      exact same.view
  · have on : 0 < tracePaths.length := List.length_pos_iff.mpr hpaths
    exact
      { paths := rfl
        view := rfl
        fullOn := decide_eq_true on
        pickedOn := decide_eq_true on
        fullAllows := fun id => rfl
        pickedAllows := fun id => by simp [newPathFilter, PathFilter.userAllows, hselector] }

/-! ## Two sessions -/

/-- What is on the output without a selector, and belongs there with it. -/
def Output.selected (selector : Finset Int64) : Output → Bool
  | .line ev _ => decide (ev.syscallId ∈ selector)
  | _ => true

/-- The output without the numbers of the events, which no line shows. -/
def Output.unnumbered : Output → Output
  | .line ev rootTGID => .line (Bpf.unnumbered ev) rootTGID
  | output => output

section

variable {selector : Finset Int64} {tracePaths : List GoString} {tgidOf : UInt32 → UInt32}
  {targets : TargetPids} {hits : List Hit} {as as' : List Arrival}

/-- What is asked for is what the programs let through. -/
theorem showsEvent_of_asked {cfg : Config} {ev : Event}
    (asked : ev.syscallId ∈ handleTraceSyscallIDs cfg) : cfg.bpf.showsEvent ev = true :=
  HandleConfig.selects_bpf.mpr (.inr ⟨ev.syscallId, asked, rfl⟩)

/-- Two loops that meet the events of the same hits, one with a selector. -/
theorem printed_of_selector (hselector : selector ≠ ∅) (hpaths : tracePaths ≠ [])
    (promised : AllSteps Threads.next (Comes tgidOf) (Threads.start targets) hits)
    (met : as.map Arrival.ev =
      submittedEvents (Config.bpf ⟨true, ∅, tracePaths⟩) (.load targets) hits)
    (met' : as'.map Arrival.ev =
      submittedEvents (Config.bpf ⟨true, selector, tracePaths⟩) (.load targets) hits)
    (unread : ∀ a ∈ as, a.Unread) (unread' : ∀ a ∈ as', a.Unread) :
    (printed (newPathFilter ⟨true, selector, tracePaths⟩) as').map unnumbered =
      ((printed (newPathFilter ⟨true, ∅, tracePaths⟩) as).filter
        fun ev => ev.syscallId ∈ selector).map unnumbered := by
  have off : (Config.bpf ⟨true, ∅, tracePaths⟩).traceFilterEnabled = false := by
    simp [Config.bpf, HandleConfig.bpf, handleTraceSyscallIDs]
  set delivered := (Config.bpf ⟨true, selector, tracePaths⟩).showsEvent
  have follow' : (Config.bpf ⟨true, selector, tracePaths⟩).followForks = true := rfl
  have events := congrArg (List.map blank) (submittedEvents_filtered off rfl follow' promised)
  rw [List.map_map, List.map_map, ← met, ← met'] at events
  have forks : ∀ a ∈ (as.map Arrival.ev).map blank, eventCreatesProcess a.ev = true →
      a.ev.syscallId ∈ pathFilterForkSupportSyscallIDs := by
    intro a ha creates
    obtain ⟨ev, hev, rfl⟩ := List.mem_map.mp ha
    rw [met] at hev
    have fork : ev.syscallId ∈ _ := forks_of_submittedEvents hev creates
    exact fork
  have blanks : ∀ a ∈ (as.map Arrival.ev).map blank, a.Unread := by
    intro a ha
    obtain ⟨ev, -, rfl⟩ := List.mem_map.mp ha
    exact fun _ _ => rfl
  calc (printed (newPathFilter ⟨true, selector, tracePaths⟩) as').map unnumbered
      = printed (newPathFilter ⟨true, selector, tracePaths⟩)
          (((as.map Arrival.ev).filter delivered).map blank) := by
        rw [printed_blank unread']
        exact congrArg _ events
    _ = printed (newPathFilter ⟨true, selector, tracePaths⟩)
          (((as.map Arrival.ev).map blank).filter fun a => delivered a.ev) := by
        rw [List.filter_map (l := (as.map Arrival.ev))]
        rfl
    _ = (printed (newPathFilter ⟨true, ∅, tracePaths⟩) ((as.map Arrival.ev).map blank)).filter
          fun ev => ev.syscallId ∈ selector :=
        printed_of_delivered hselector hpaths blanks forks fun _ => showsEvent_of_asked
    _ = ((printed (newPathFilter ⟨true, ∅, tracePaths⟩) as).filter
          fun ev => ev.syscallId ∈ selector).map unnumbered := by
        rw [← printed_blank unread, List.filter_map]
        rfl

end

/-- No read of `/proc` succeeds during the move. -/
def Move.Unread : Move → Prop
  | .act (.reads proc) => ∀ site pid, proc site pid = none
  | _ => True

section

variable {bpf : Bpf.Config} {cfg : RunConfig} {mode : TargetMode} {targets : TargetPids}
  {moves : List Move}

/-- Only a round of the loop reads. -/
theorem move_of_readRecords {s : System} {move : Move} {read : Record × ProcCwd}
    (h : read ∈ s.readRecords bpf cfg mode move) : move = .act (.reads read.2) := by
  obtain ⟨pre, act, post, split, reads⟩ := mem_emitted h
  cases act with
  | reads proc =>
      rw [World.readRecords] at reads
      split at reads
      next =>
        obtain ⟨record, -, rfl⟩ := Option.map_eq_some_iff.mp (Option.mem_toList.mp reads)
        have mem : Act.reads proc ∈ s.worldActs bpf move := by
          rw [split]
          simp
        clear split h
        cases move with
        | hit h padding => simp [System.worldActs] at mem
        | act a => cases a <;> simp_all [System.worldActs]
      next => cases reads
  | _ => cases reads

theorem unread_of_moves (unread : ∀ move ∈ moves, move.Unread) :
    ∀ a ∈ seenIn bpf cfg mode targets moves, a.Unread := by
  intro a ha
  obtain ⟨read, hread, decoded⟩ := List.mem_filterMap.mp ha
  obtain ⟨ev, -, rfl⟩ := Option.map_eq_some_iff.mp decoded
  obtain ⟨pre, move, post, rfl, reads⟩ := mem_emitted hread
  have here := unread move (by simp)
  rw [move_of_readRecords reads] at here
  exact here

end

/-- `-f`, and `-P` and `-e` for each traced path and selected syscall. -/
def tracing (selector : Finset Int64) (tracePaths : List GoString) : RunConfig :=
  ⟨⟨true, selector, tracePaths⟩, false⟩

/-- The system after a session. -/
def sessionAfter (cfg : RunConfig) (mode : TargetMode) (targets : TargetPids)
    (moves : List Move) : System :=
  systemAfter cfg.bpf cfg mode targets moves

theorem outputOf_lines (selector : Finset Int64) (tracePaths : List GoString)
    (mode : TargetMode) (status : WaitStatus) (reads : List (Record × ProcCwd)) :
    outputOf (tracing selector tracePaths) mode status reads =
      ((printed (newPathFilter ⟨true, selector, tracePaths⟩) (arrivals reads)).map
        fun ev => .line ev mode.rootTGID) ++ if mode.isAttach then [] else [.exitLine status] :=
  rfl

theorem map_lines (events : List Event) (rootTGID : UInt32) :
    (events.map fun ev => Output.line ev rootTGID).map Output.unnumbered =
      (events.map unnumbered).map fun ev => Output.line ev rootTGID := by
  rw [List.map_map, List.map_map]
  rfl

/-- **A selector only hides lines.**  Two sessions with `-f` and the same traced paths, one of
them with a selector, over the same hits, among which no reservation fails, and in which the
loop catches up and `/proc` cannot be read.  However the other steps lie between the hits, the
output with the selector is the output without it, less the lines of other syscalls. -/
theorem selector_only_hides_lines (selector : Finset Int64) (tracePaths : List GoString)
    (mode : TargetMode) (targets : TargetPids) (tgidOf : UInt32 → UInt32)
    (moves moves' : List Move) (status : WaitStatus) (hselector : selector ≠ ∅)
    (hpaths : tracePaths ≠ []) (sameHits : hitsIn moves' = hitsIn moves)
    (promised : AllSteps Threads.next (Comes tgidOf) (Threads.start targets) (hitsIn moves))
    (unread : ∀ move ∈ moves, move.Unread) (unread' : ∀ move ∈ moves', move.Unread)
    (drained : Drained (tracing ∅ tracePaths).bpf (tracing ∅ tracePaths) mode targets moves)
    (drained' : Drained (tracing selector tracePaths).bpf (tracing selector tracePaths) mode
      targets moves')
    (returned : (sessionAfter (tracing ∅ tracePaths) mode targets moves).world.main =
      .returned ⟨status, []⟩)
    (returned' : (sessionAfter (tracing selector tracePaths) mode targets moves').world.main =
      .returned ⟨status, []⟩) :
    (sessionAfter (tracing selector tracePaths) mode targets
        moves').world.recorder.traceOutput.map Output.unnumbered =
      ((sessionAfter (tracing ∅ tracePaths) mode targets
        moves).world.recorder.traceOutput.filter (Output.selected selector)).map
          Output.unnumbered := by
  have met' := drained'.seen
  rw [sameHits] at met'
  have events := printed_of_selector hselector hpaths promised drained.seen met'
    (unread_of_moves unread) (unread_of_moves unread')
  rw [seenIn, seenIn] at events
  rw [sessionAfter, sessionAfter, output_of_returned returned, output_of_returned returned',
    outputOf_lines, outputOf_lines, List.filter_append, List.map_append, List.map_append,
    map_lines, events, List.filter_map, map_lines]
  congr 1
  cases mode.isAttach <;> rfl

/-- The child 100 forks, the new process returns and reads, and the loop catches up before the
child exits. -/
def forkThenReadMoves : List Move :=
  let read : Move := .act (.reads fun _ _ => none)
  forkReturnsTwice.map (fun hit => .hit hit fun _ => 0) ++ [read, read] ++
    [.act (.exit 100 0), .act (.waitReturns ⟨none, some 0⟩), .act .waitCloses, read,
      .act (.returns false)]

theorem selector_only_hides_lines_forkThenRead :
    (sessionAfter (tracing {0} [GoString.ascii "/a"]) launch100 soleTarget
        forkThenReadMoves).world.recorder.traceOutput.map Output.unnumbered =
      ((sessionAfter (tracing ∅ [GoString.ascii "/a"]) launch100 soleTarget
        forkThenReadMoves).world.recorder.traceOutput.filter (Output.selected {0})).map
          Output.unnumbered := by
  have unread : ∀ move ∈ forkThenReadMoves, move.Unread := by
    intro move mem
    simp only [forkThenReadMoves, forkReturnsTwice, forkThenRead, List.take_succ_cons,
      List.take_zero, List.drop_succ_cons, List.drop_zero, List.map_cons, List.map_nil,
      List.cons_append, List.nil_append, List.mem_cons, List.not_mem_nil, or_false] at mem
    rcases mem with rfl | rfl | rfl | rfl | rfl | rfl | rfl | rfl | rfl | rfl | rfl | rfl | rfl <;>
      first | trivial | exact fun _ _ => rfl
  refine selector_only_hides_lines {0} [GoString.ascii "/a"] launch100 soleTarget id
    forkThenReadMoves forkThenReadMoves 0 (by decide) (by decide) rfl forkReturnsTwice_comes
    unread unread ?_ ?_ (by decide +kernel) (by decide +kernel)
  · exact ⟨forkThenReadMoves.take 8, forkThenReadMoves.drop 8, rfl, by decide,
      List.isEmpty_iff.mp (by decide), rfl⟩
  · exact ⟨forkThenReadMoves.take 8, forkThenReadMoves.drop 8, rfl, by decide +kernel,
      List.isEmpty_iff.mp (by decide +kernel), rfl⟩

end Litrace.Trace
