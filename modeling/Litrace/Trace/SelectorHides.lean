import Litrace.Trace.PathRefinement

/-!
# The selector only hides lines

With traced paths, `-e` selects what is printed, but the filter needs more
syscalls than that to know which descriptors and directories belong to the traced
paths.  `handleTraceSyscallIDs` asks the tracer for the support syscalls as well.

It asks for enough (`selector_only_hides`): a filter with a selector, fed the
events the tracer then delivers, prints the events of the selector that a filter
without one prints when it is fed everything.  The two filters have the same
views all along, since an event outside the support list forks nothing and is
ignored (`next_view_of_unsupported`).

The two runs take different events, so it is a stuttering simulation: the filter
without a selector takes all of them, the other one those it asked for, and the
decisions are compared on the latter.  A read of `/proc` would be made at
different moments, so reads are assumed to fail, and a process that is created by
a call outside the fork syscalls would go unnoticed.
-/

namespace Litrace.Trace

open Transition

/-- An event outside the support list is not observed. -/
theorem observation_of_unsupported {ev : Event}
    (unsupported : ev.syscallId ∉ pathFilterSupportSyscallIDs) :
    observation ev = .ignored := by
  simp only [pathFilterSupportSyscallIDs, List.mem_cons, List.not_mem_nil, or_false,
    not_or] at unsupported
  simp [observation, unsupported]

/-- An event that neither forks nor is observed leaves the views alone. -/
theorem next_view_of_unsupported {f : PathFilter} {a : Arrival} (on : f.pathFilterMode = true)
    (unread : a.Unread) (unsupported : a.ev.syscallId ∉ pathFilterSupportSyscallIDs)
    (noFork : processCloneChildPID a.ev = none) : (f.next a).view = f.view := by
  have unobserved : (f.view a.ev.pid).observe f.paths (fun _ => none) a.ev =
      f.view a.ev.pid := by
    rw [View.observe, observation_of_unsupported unsupported, View.apply]
  have unforked : forkViews f.view a.ev = f.view := by
    rw [forkViews, noFork, Option.elim_none]
  rw [PathFilter.next_view_of_settled on (.inr fun site => unread site a.ev.pid), unforked,
    unobserved, Function.update_eq_self]

/-- What the filter without a selector (`full`) and the one with it (`picked`) have in
common. -/
structure SameViews (selector : Finset Int64) (full picked : PathFilter) : Prop where
  paths : full.paths = picked.paths
  view : full.view = picked.view
  fullOn : full.pathFilterMode = true
  pickedOn : picked.pathFilterMode = true
  fullAllows : ∀ id, full.userAllows id = true
  pickedAllows : ∀ id, picked.userAllows id = decide (id ∈ selector)

section

variable {selector : Finset Int64} {full picked : PathFilter} {a : Arrival}

theorem SameViews.next_of_view {g : PathFilter} (same : SameViews selector full picked)
    (hg : g = picked ∨ g = picked.next a) (view : (full.next a).view = g.view) :
    SameViews selector (full.next a) g := by
  obtain ⟨paths, -, -, mode⟩ :=
    PathFilter.shouldOutput_fixed full a.proc a.ev
  have fullAllows := fun id => (PathFilter.userAllows_next full a id).trans (same.fullAllows id)
  rcases hg with rfl | rfl
  · exact ⟨paths.trans same.paths, view, mode.trans same.fullOn, same.pickedOn, fullAllows,
      same.pickedAllows⟩
  · obtain ⟨paths', -, -, mode'⟩ :=
      PathFilter.shouldOutput_fixed picked a.proc a.ev
    exact ⟨paths.trans (same.paths.trans paths'.symm), view, mode.trans same.fullOn,
      mode'.trans same.pickedOn, fullAllows,
      fun id => (PathFilter.userAllows_next picked a id).trans (same.pickedAllows id)⟩

/-- An arrival both filters meet: the second prints it if the first does and the
selector has it. -/
theorem SameViews.step (same : SameViews selector full picked) (unread : a.Unread) :
    picked.decision a = (decide (a.ev.syscallId ∈ selector) && full.decision a) ∧
      SameViews selector (full.next a) (picked.next a) := by
  have settled : (picked.view a.ev.pid).Settled fun site => a.proc site a.ev.pid :=
    .inr fun site => unread site a.ev.pid
  have settled' : (full.view a.ev.pid).Settled fun site => a.proc site a.ev.pid :=
    .inr fun site => unread site a.ev.pid
  refine ⟨?_, same.next_of_view (.inr rfl) ?_⟩
  · rw [PathFilter.decision_of_settled same.pickedOn settled,
      PathFilter.decision_of_settled same.fullOn settled', same.pickedAllows, same.fullAllows,
      same.view, same.paths, Bool.true_and]
  · rw [PathFilter.next_view_of_settled same.fullOn settled',
      PathFilter.next_view_of_settled same.pickedOn settled, same.view, same.paths]

end

/-- What the tracer is asked for when there is a selector. -/
theorem mem_handleTraceSyscallIDs {selector : Finset Int64} {tracePaths : List GoString}
    (hpaths : tracePaths ≠ []) (hselector : selector ≠ ∅) {id : Int64} :
    id ∈ handleTraceSyscallIDs ⟨true, selector, tracePaths⟩ ↔
      id ∈ selector ∨ id ∈ pathFilterSupportSyscallIDs ∨
        id ∈ pathFilterForkSupportSyscallIDs := by
  have both : ¬ (tracePaths = [] ∨ selector = ∅) := not_or.mpr ⟨hpaths, hselector⟩
  rw [handleTraceSyscallIDs, if_neg both, if_pos rfl, Finset.mem_union, Finset.mem_union,
    List.mem_toFinset, List.mem_toFinset, or_assoc]

/-- **The selector only hides lines.**  With traced paths, a selector and
`FollowForks`, where reads of `/proc` fail and only the fork syscalls create
processes: feeding the events the tracer is asked for to the filter with the
selector prints the events of the selector that feeding all events to the filter
without it prints.

It is about the filter alone, fed with what the tracer would deliver.  With the programs in front
of it, and the loop around it, it becomes `selector_only_hides_lines`. -/
theorem selector_only_hides (selector : Finset Int64) (tracePaths : List GoString)
    (as : List Arrival) (hselector : selector ≠ ∅) (hpaths : tracePaths ≠ [])
    (unread : ∀ a ∈ as, a.Unread)
    (forks : ∀ a ∈ as, eventCreatesProcess a.ev = true →
      a.ev.syscallId ∈ pathFilterForkSupportSyscallIDs) :
    printed (newPathFilter ⟨true, selector, tracePaths⟩)
        (as.filter fun a =>
          a.ev.syscallId ∈ handleTraceSyscallIDs ⟨true, selector, tracePaths⟩) =
      (printed (newPathFilter ⟨true, ∅, tracePaths⟩) as).filter fun ev =>
        ev.syscallId ∈ selector := by
  symm
  rw [printed, filter_emitted]
  refine emitted_eq_of_skip (p := fun a => a ∈ as) (SameViews selector) ?_ ?_ ?_
    fun a ha => ha
  -- A delivered event is printed by both filters, unless it is only support.
  · intro s t a same ha _
    obtain ⟨decided, same'⟩ := same.step (unread a ha)
    refine ⟨?_, same'⟩
    show _ = if t.decision a = true then [a.ev] else []
    rw [decided]
    by_cases selected : a.ev.syscallId ∈ selector
    · cases s.decision a with
      | true => simp [selected]
      | false => simp
    · cases s.decision a with
      | true => simp [selected]
      | false => simp
  -- An event the tracer does not deliver is not of the selector, and changes no view.
  · intro s t a same ha out
    have unasked : a.ev.syscallId ∉ handleTraceSyscallIDs ⟨true, selector, tracePaths⟩ :=
      of_decide_eq_false out
    rw [mem_handleTraceSyscallIDs hpaths hselector] at unasked
    simp only [not_or] at unasked
    obtain ⟨unselected, unsupported, noForkId⟩ := unasked
    -- The tracer delivers every fork, so an event it was not asked for is no fork.
    have noFork : processCloneChildPID a.ev = none := by
      refine if_pos (.inr ?_)
      by_contra flagged
      exact noForkId (forks a ha (by simpa using flagged))
    refine ⟨?_, same.next_of_view (.inl rfl) ?_⟩
    · cases s.decision a with
      | true => simp [unselected]
      | false => simp
    · rw [next_view_of_unsupported same.fullOn (unread a ha) unsupported noFork]
      exact same.view
  · have hlen : 0 < tracePaths.length := List.length_pos_iff.mpr hpaths
    exact
      { paths := rfl
        view := rfl
        fullOn := decide_eq_true hlen
        pickedOn := decide_eq_true hlen
        fullAllows := fun id => rfl
        pickedAllows := fun id => by simp [newPathFilter, PathFilter.userAllows, hselector] }

/-- Process 100 opens `/a` as descriptor 3 and reads from it. -/
def openThenRead : List Arrival :=
  [⟨{ Event.zero with
        syscallId := Unix.sysOpen, ret := 3, pid := 100, argCount := 3, varCount := 1
        varDesc := (Vector.replicate 6 .zero).setIfInBounds 0 ⟨0, VarFlag.none, 0, 2, 0⟩
        payload := ((Vector.replicate 512 0).setIfInBounds 0 47).setIfInBounds 1 97
        payloadLen := 2 },
      fun _ _ => none⟩,
    ⟨{ Event.zero with
        syscallId := 0, ret := 5, pid := 100, argCount := 3
        args := (Vector.replicate 6 0).setIfInBounds 0 3
        argTypes := (Vector.replicate 6 ArgType.uint).setIfInBounds 0 ArgType.fd },
      fun _ _ => none⟩]

theorem selector_only_hides_openThenRead :
    printed (newPathFilter ⟨true, {0}, [GoString.ascii "/a"]⟩)
        (openThenRead.filter fun a =>
          a.ev.syscallId ∈ handleTraceSyscallIDs ⟨true, {0}, [GoString.ascii "/a"]⟩) =
      (printed (newPathFilter ⟨true, ∅, [GoString.ascii "/a"]⟩) openThenRead).filter fun ev =>
        ev.syscallId ∈ ({0} : Finset Int64) := by
  refine selector_only_hides {0} [GoString.ascii "/a"] openThenRead (by decide) (by decide)
    ?_ ?_
  · intro a ha
    simp only [openThenRead, List.mem_cons, List.not_mem_nil, or_false] at ha
    rcases ha with rfl | rfl
    · exact fun _ _ => rfl
    · exact fun _ _ => rfl
  · intro a ha flagged
    simp only [openThenRead, List.mem_cons, List.not_mem_nil, or_false] at ha
    rcases ha with rfl | rfl
    · exact absurd flagged (by decide)
    · exact absurd flagged (by decide)

end Litrace.Trace
