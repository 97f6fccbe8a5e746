import Litrace.Trace.PathRefinement
import Litrace.Lib.Transition

/-!
# What a child inherits, and what it shares

A process clone copies the view of the parent, and from then on an event updates
the view of its own process only.  So the decisions on the events of the child
are those the filter would make if the parent issued them, alone, from its state
at the clone; and the decisions on the events of the parent are those it would
make if the child were silent (`fork_inherits_and_isolates`).

Both are stuttering simulations: one run takes all arrivals, the other those of
one process, and the views of that process are the same in both.  The reads of
`/proc` must not tell the two apart, so the working directory of the parent is
known at the clone or the reads fail; either stays true.

`decisionsOn` is the list of decisions on the events of one process along a run,
so the statement is about what is printed and needs no notion of state.  A
further clone of either process is excluded, since the filter takes a pid that a
clone returns for a new process and replaces what it has.
-/

namespace Litrace.Trace

open Transition

/-- The same event, issued by another process. -/
def Arrival.issuedBy (pid : UInt32) (a : Arrival) : Arrival :=
  { a with ev := { a.ev with pid := pid } }

/-- The decisions on all arrivals, in order. -/
def decisions (f : PathFilter) (as : List Arrival) : List Bool :=
  emitted PathFilter.next (fun f a => [f.decision a]) f as

/-- The decisions on the arrivals of one process, in a run of all of them. -/
def decisionsOn (pid : UInt32) (f : PathFilter) (as : List Arrival) : List Bool :=
  emitted PathFilter.next (fun f a => if a.ev.pid = pid then [f.decision a] else []) f as

/-- The working directory of the process is cached. -/
def CwdCached (f : PathFilter) (pid : UInt32) : Prop :=
  ∃ state, f.stateByPID pid = some state ∧ state.cwd ≠ []

/-! ## Filters that agree on a process -/

/-- Two filters with the same traced paths and selector, with the same view of
one process each. -/
structure SameView (f g : PathFilter) (p q : UInt32) : Prop where
  paths : f.paths = g.paths
  userTraceIDs : f.userTraceIDs = g.userTraceIDs
  userTraceAll : f.userTraceAll = g.userTraceAll
  pathFilterMode : f.pathFilterMode = g.pathFilterMode
  view : f.view p = g.view q

section

variable {f g : PathFilter} {p q : UInt32} {a : Arrival}

theorem SameView.userAllows (same : SameView f g p q) (id : Int64) :
    f.userAllows id = g.userAllows id := by
  rw [PathFilter.userAllows, PathFilter.userAllows, same.userTraceAll, same.userTraceIDs]

/-- The processes may differ along the chain, which is how the child is compared with its parent. -/
theorem SameView.trans {h : PathFilter} {r : UInt32} (first : SameView f g p q)
    (second : SameView g h q r) : SameView f h p r where
  paths := first.paths.trans second.paths
  userTraceIDs := first.userTraceIDs.trans second.userTraceIDs
  userTraceAll := first.userTraceAll.trans second.userTraceAll
  pathFilterMode := first.pathFilterMode.trans second.pathFilterMode
  view := first.view.trans second.view

/-- A filter after an arrival, and before it. -/
theorem sameView_next (view : (f.next a).view p = f.view q) : SameView (f.next a) f p q := by
  obtain ⟨paths, ids, all, mode⟩ := PathFilter.shouldOutput_fixed f a.proc a.ev
  exact ⟨paths, ids, all, mode, view⟩

/-- What is fixed is fixed in both filters, so only the views matter. -/
theorem SameView.next_of_view (same : SameView f g p q) {b : Arrival}
    (view : (f.next a).view p = (g.next b).view q) : SameView (f.next a) (g.next b) p q := by
  obtain ⟨fpaths, fids, fall, fmode⟩ := PathFilter.shouldOutput_fixed f a.proc a.ev
  obtain ⟨gpaths, gids, gall, gmode⟩ := PathFilter.shouldOutput_fixed g b.proc b.ev
  exact
    { paths := fpaths.trans (same.paths.trans gpaths.symm)
      userTraceIDs := fids.trans (same.userTraceIDs.trans gids.symm)
      userTraceAll := fall.trans (same.userTraceAll.trans gall.symm)
      pathFilterMode := fmode.trans (same.pathFilterMode.trans gmode.symm)
      view := view }

/-- An arrival of another process that does not create `p` leaves `p` alone. -/
theorem next_view_of_ne (other : a.ev.pid ≠ p) (noFork : processCloneChildPID a.ev ≠ some p) :
    (f.next a).view p = f.view p := by
  cases hmode : f.pathFilterMode with
  | false =>
      rw [PathFilter.next_of_off hmode]
  | true =>
      rw [PathFilter.next, PathFilter.shouldOutput_view hmode,
        Function.update_of_ne (Ne.symm other), forkViews_of_ne noFork,
        Function.update_of_ne (Ne.symm other)]

/-- The view of the process an arrival belongs to. -/
theorem next_view_self (on : f.pathFilterMode = true) :
    (f.next a).view a.ev.pid =
      (((f.view a.ev.pid).print f.paths (fun site => a.proc site a.ev.pid)
        (f.userAllows a.ev.syscallId) a.ev).1).observe f.paths
          (fun site => a.proc site a.ev.pid) a.ev := by
  rw [PathFilter.next, PathFilter.shouldOutput_view on]
  exact Function.update_self _ _ _

/-- Two arrivals that are decided and observed alike in the common view keep the
views the same. -/
theorem SameView.step_of {b : Arrival} (same : SameView f g a.ev.pid b.ev.pid)
    (printed : (f.view a.ev.pid).print f.paths (fun site => a.proc site a.ev.pid)
        (f.userAllows a.ev.syscallId) a.ev =
      (f.view a.ev.pid).print f.paths (fun site => b.proc site b.ev.pid)
        (f.userAllows b.ev.syscallId) b.ev)
    (observed : ((f.view a.ev.pid).print f.paths (fun site => a.proc site a.ev.pid)
          (f.userAllows a.ev.syscallId) a.ev).1.observe f.paths
            (fun site => a.proc site a.ev.pid) a.ev =
      ((f.view a.ev.pid).print f.paths (fun site => a.proc site a.ev.pid)
          (f.userAllows a.ev.syscallId) a.ev).1.observe f.paths
            (fun site => b.proc site b.ev.pid) b.ev) :
    f.decision a = g.decision b ∧ SameView (f.next a) (g.next b) a.ev.pid b.ev.pid := by
  cases hmode : f.pathFilterMode with
  | false =>
      have hmode' : g.pathFilterMode = false := same.pathFilterMode ▸ hmode
      refine ⟨?_, same.next_of_view ?_⟩
      · rw [PathFilter.decision_of_off hmode, PathFilter.decision_of_off hmode']
      · rw [PathFilter.next_of_off hmode, PathFilter.next_of_off hmode']
        exact same.view
  | true =>
      have hmode' : g.pathFilterMode = true := same.pathFilterMode ▸ hmode
      refine ⟨?_, same.next_of_view ?_⟩
      · rw [PathFilter.decision, PathFilter.decision, PathFilter.shouldOutput_decision hmode,
          PathFilter.shouldOutput_decision hmode', printed, ← same.view, ← same.paths,
          ← same.userAllows]
      · rw [next_view_self hmode, next_view_self hmode', observed, printed, ← same.view,
          ← same.paths, ← same.userAllows]

/-- The same arrival in both filters. -/
theorem SameView.step_self (same : SameView f g a.ev.pid a.ev.pid) :
    f.decision a = g.decision a ∧ SameView (f.next a) (g.next a) a.ev.pid a.ev.pid :=
  same.step_of rfl rfl

/-- The same event issued by another process, when the reads do not matter. -/
theorem SameView.step_issuedBy {q : UInt32} (same : SameView f g a.ev.pid q)
    (settled : ∀ pid, (f.view a.ev.pid).Settled fun site => a.proc site pid) :
    f.decision a = g.decision (a.issuedBy q) ∧
      SameView (f.next a) (g.next (a.issuedBy q)) a.ev.pid q := by
  have settled' : (f.view a.ev.pid).Settled
      fun site => (a.issuedBy q).proc site (a.issuedBy q).ev.pid := settled q
  refine SameView.step_of (b := a.issuedBy q) same ?_ ?_
  · -- The event reads the same whoever issues it.
    rw [View.print_of_settled (settled a.ev.pid), View.print_of_settled settled']
    rfl
  · rw [View.print_of_settled (settled a.ev.pid), View.observe_of_settled (settled a.ev.pid),
      View.observe_of_settled settled']
    rfl

/-- A known working directory stays known. -/
theorem next_known (on : f.pathFilterMode = true)
    (known : (f.view a.ev.pid).cwd ≠ []) : ((f.next a).view a.ev.pid).cwd ≠ [] := by
  rw [next_view_self on, View.print_of_settled (.inl known)]
  exact View.observe_known known _ _

end

/-! ## Forking -/

section

variable {f : PathFilter} {fork : Arrival} {p c : UInt32}

/-- Right after the clone the child has the view the parent had. -/
theorem next_view_child (on : f.pathFilterMode = true) (parent : fork.ev.pid = p)
    (child : processCloneChildPID fork.ev = some c) (ne : c ≠ p)
    (settled : (f.view p).Settled fun site => fork.proc site p) :
    (f.next fork).view c = f.view p := by
  subst parent
  rw [PathFilter.next, PathFilter.shouldOutput_view on, Function.update_of_ne ne,
    View.print_of_settled settled, Function.update_eq_self, forkViews, child]
  exact Function.update_self _ _ _

theorem cwd_ne_nil_of_cached (cached : CwdCached f p) : (f.view p).cwd ≠ [] := by
  obtain ⟨state, hstate, hcwd⟩ := cached
  rw [PathStates.view_cwd, hstate]
  exact hcwd

/-- Without traced paths everything is printed. -/
theorem decisionsOn_of_off (off : f.pathFilterMode = false) (pid : UInt32)
    (as : List Arrival) :
    decisionsOn pid f as = (as.filter fun a => a.ev.pid = pid).map fun _ => true := by
  induction as with
  | nil => rfl
  | cons a as ih =>
      rw [decisionsOn, emitted_cons, PathFilter.next_of_off off, PathFilter.decision_of_off off,
        ← decisionsOn, ih]
      by_cases own : a.ev.pid = pid
      · simp [own]
      · simp [own]

/-- Without traced paths everything is printed. -/
theorem decisions_of_off (off : f.pathFilterMode = false) (as : List Arrival) :
    decisions f as = as.map fun _ => true := by
  induction as with
  | nil => rfl
  | cons a as ih =>
      rw [decisions, emitted_cons, PathFilter.next_of_off off, PathFilter.decision_of_off off,
        ← decisions, ih]
      rfl

/-- The child, seen from a filter whose parent has the view of the child. -/
theorem decisionsOn_child {g : PathFilter} {as : List Arrival} (on : f.pathFilterMode = true)
    (same : SameView f g c p) (noFork : ∀ a ∈ as, processCloneChildPID a.ev ≠ some c)
    (reads : (f.view c).cwd ≠ [] ∨ ∀ a ∈ as, a.Unread) :
    decisionsOn c f as =
      decisions g ((as.filter fun a => a.ev.pid = c).map (Arrival.issuedBy p)) := by
  -- The relation carries on that the reads do not matter, by either reason.
  refine emitted_eq_of_stutter
    (p := fun a => a ∈ as)
    (fun s t => s.pathFilterMode = true ∧ SameView s t c p ∧
      ((s.view c).cwd ≠ [] ∨ ∀ a ∈ as, a.Unread)) ?_ ?_ ⟨on, same, reads⟩ (fun a ha => ha)
  · rintro s t a ⟨on, same, reads⟩ ha mine
    obtain rfl : a.ev.pid = c := of_decide_eq_true mine
    have settled : ∀ pid, (s.view a.ev.pid).Settled fun site => a.proc site pid :=
      fun pid => reads.imp id fun unread site => unread a ha site pid
    obtain ⟨decided, same'⟩ := same.step_issuedBy settled
    have mode := (PathFilter.shouldOutput_fixed s a.proc a.ev).2.2.2
    refine ⟨?_, mode.trans on, same', ?_⟩
    · rw [if_pos rfl, decided]
    · exact reads.imp (next_known on) id
  · rintro s t a ⟨on, same, reads⟩ ha other
    have ne : a.ev.pid ≠ c := of_decide_eq_false other
    have kept := next_view_of_ne (f := s) ne (noFork a ha)
    have mode := (PathFilter.shouldOutput_fixed s a.proc a.ev).2.2.2
    refine ⟨if_neg ne, mode.trans on, (sameView_next kept).trans same, ?_⟩
    rw [kept]
    exact reads

/-- Leaving out the arrivals of another process changes no decision on `p`. -/
theorem decisionsOn_without {as : List Arrival} (ne : c ≠ p)
    (noFork : ∀ a ∈ as, processCloneChildPID a.ev ≠ some p) :
    decisionsOn p f as = decisionsOn p f (as.filter fun a => a.ev.pid ≠ c) := by
  unfold decisionsOn
  have same : SameView f f p p := ⟨rfl, rfl, rfl, rfl, rfl⟩
  refine emitted_eq_of_skip (fun s t => SameView s t p p) ?_ ?_ same noFork
  · intro s t a same noFork _
    by_cases own : a.ev.pid = p
    · subst own
      obtain ⟨decided, same'⟩ := same.step_self
      refine ⟨?_, same'⟩
      show (if a.ev.pid = a.ev.pid then [s.decision a] else []) =
        if a.ev.pid = a.ev.pid then [t.decision a] else []
      rw [decided]
    -- Arrivals of third processes are in both runs and leave `p` alone.
    · have silent : ∀ s : PathFilter, (if a.ev.pid = p then [s.decision a] else []) = [] :=
        fun s => if_neg own
      refine ⟨(silent s).trans (silent t).symm, same.next_of_view ?_⟩
      rw [next_view_of_ne own noFork, next_view_of_ne own noFork]
      exact same.view
  · intro s t a same noFork other
    have hc : a.ev.pid = c := by simpa using other
    have own : a.ev.pid ≠ p := hc ▸ ne
    exact ⟨if_neg own, (sameView_next (next_view_of_ne own noFork)).trans same⟩

/-- **Inheritance and isolation.**  For every filter state, every clone of `c`
by `p`, and any arrivals after it that create neither again: the decisions on the
events of `c` are those on these events alone, issued by `p`, from the state at
the clone; and the decisions on the events of `p` are those with the events of
`c` left out.

Inheritance is stated by letting the parent issue the events of the child, since the filter has
no other notion of what a process would have seen.  The state of the parent at the clone may be
any, with descriptors recorded and tracked. -/
theorem fork_inherits_and_isolates (f : PathFilter) (fork : Arrival) (p c : UInt32)
    (as : List Arrival) (parent : fork.ev.pid = p)
    (child : processCloneChildPID fork.ev = some c) (ne : c ≠ p)
    (noFork : ∀ a ∈ as, processCloneChildPID a.ev ≠ some p ∧ processCloneChildPID a.ev ≠ some c)
    (reads : CwdCached f p ∨ ∀ a ∈ fork :: as, a.Unread) :
    decisionsOn c (f.next fork) as =
        decisions f ((as.filter fun a => a.ev.pid = c).map (Arrival.issuedBy p)) ∧
      decisionsOn p (f.next fork) as =
        decisionsOn p (f.next fork) (as.filter fun a => a.ev.pid ≠ c) := by
  refine ⟨?_, decisionsOn_without ne fun a ha => (noFork a ha).1⟩
  cases hmode : f.pathFilterMode with
  | false =>
      rw [PathFilter.next_of_off hmode, decisionsOn_of_off hmode, decisions_of_off hmode,
        List.map_map]
      rfl
  | true =>
      have settled : (f.view p).Settled fun site => fork.proc site p :=
        reads.imp cwd_ne_nil_of_cached fun unread site => unread fork (by simp) site p
      -- The child starts from what the parent had before the clone.
      have copied := next_view_child hmode parent child ne settled
      obtain ⟨paths, ids, all, mode⟩ :=
        PathFilter.shouldOutput_fixed f fork.proc fork.ev
      refine decisionsOn_child (mode.trans hmode) ⟨paths, ids, all, mode, copied⟩
        (fun a ha => (noFork a ha).2) ?_
      rw [copied]
      exact reads.imp cwd_ne_nil_of_cached fun unread a ha => unread a (by simp [ha])

end

/-- The process 100 forks 200. -/
def forkOf100 : Arrival where
  ev := { Event.zero with
    syscallId := Unix.sysFork, ret := 200, pid := 100, eventFlags := eventFlagProcessClone }
  proc _ _ := none

/-- The event with the path argument `argIndex` captured as `path`, or flagged. -/
def withPath (ev : Event) (argIndex : UInt8) (flags : UInt8) (path : GoString) : Event :=
  { ev with
    varCount := 1
    varDesc := (Vector.replicate 6 .zero).setIfInBounds 0
      ⟨argIndex, flags, 0, path.length.toUInt16, 0⟩
    payload := Bytes.writeAt (Vector.replicate 512 0) 0 path
    payloadLen := path.length.toUInt16 }

/-- Process 100 opens a file as descriptor 3. -/
def openAs3 (flags : UInt8) (path : GoString) : Arrival where
  ev := withPath
    { Event.zero with syscallId := Unix.sysOpen, ret := 3, pid := 100, argCount := 3 } 0 flags path
  proc _ _ := none

/-- It opens `/a`. -/
def openA : Arrival := openAs3 VarFlag.none (GoString.ascii "/a")

/-- The filter before that, with `/a` traced. -/
def beforeOpen : PathFilter := newPathFilter ⟨false, ∅, [GoString.ascii "/a"]⟩

/-- A call on the descriptor `fd`. -/
def callOn (pid : UInt32) (syscallId : Int64) (fd : UInt64) (ret : Int64) : Arrival where
  ev := { Event.zero with
    syscallId := syscallId, ret := ret, pid := pid, argCount := 1
    args := #v[fd, 0, 0, 0, 0, 0], argTypes := #v[ArgType.fd, 0, 0, 0, 0, 0] }
  proc _ _ := none

/-- The parent closes the descriptor; the child duplicates the one that it has inherited, and
reads from the copy. -/
def afterFork : List Arrival :=
  [callOn 100 Unix.sysClose 3 0, callOn 200 Unix.sysDup 3 4, callOn 100 0 3 5, callOn 200 0 4 5]

/-- The child has what the parent has opened, whatever the parent does then. -/
theorem fork_inherits_and_isolates_afterFork :
    let f := beforeOpen.next openA
    decisionsOn 200 (f.next forkOf100) afterFork =
        decisions f ((afterFork.filter fun a => a.ev.pid = 200).map (Arrival.issuedBy 100)) ∧
      decisionsOn 100 (f.next forkOf100) afterFork =
        decisionsOn 100 (f.next forkOf100) (afterFork.filter fun a => a.ev.pid ≠ 200) ∧
      decisionsOn 200 (f.next forkOf100) afterFork = [true, true] ∧
      decisionsOn 100 (f.next forkOf100) afterFork = [true, false] := by
  intro f
  have noFork : ∀ a ∈ afterFork,
      processCloneChildPID a.ev ≠ some 100 ∧ processCloneChildPID a.ev ≠ some 200 :=
    List.forall_mem_cons.mpr ⟨by decide, List.forall_mem_cons.mpr ⟨by decide,
      List.forall_mem_cons.mpr ⟨by decide, List.forall_mem_cons.mpr ⟨by decide, by simp⟩⟩⟩⟩
  have unread : ∀ a ∈ forkOf100 :: afterFork, a.Unread := by
    intro a ha
    simp only [afterFork, List.mem_cons, List.not_mem_nil, or_false] at ha
    rcases ha with rfl | rfl | rfl | rfl | rfl <;> exact fun _ _ => rfl
  obtain ⟨inherits, isolates⟩ := fork_inherits_and_isolates f forkOf100 100 200 afterFork rfl rfl
    (by decide) noFork (.inr unread)
  exact ⟨inherits, isolates, by decide +kernel, by decide +kernel⟩

end Litrace.Trace
