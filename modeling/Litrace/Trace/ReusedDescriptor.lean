import Litrace.Trace.ForkIsolation
import Litrace.Trace.PathInvariant

/-!
# Descriptors that are reused

When a call returns a descriptor, or `dup2` puts one onto it, the descriptor denotes a new
file, and whatever the filter kept of the old one is stale: `close_range` or a close on
`execve` may have freed it unseen.  `observeDupPair` replaces or removes the old entry in
all cases.  The other operations return early when they do not learn the path of the new
file, and the old entry stays.

`reused_iff_overwritten` says for two states that differ in that entry only when the event
makes them the same.

That the old entry is stale is not visible in a state.  So the statement compares two
states that differ in nothing but this entry: if the event leads both to the same state,
then the result does not depend on what was known of the old descriptor, and conversely.
-/

namespace Litrace.Trace

open Filepath Transition

/-! ## Two states that differ in one descriptor -/

/-- The state at some point of a run, between two arrivals or between deciding on one and
observing it. -/
def PathStates.Reached (s : PathStates) : Prop :=
  ∃ f : PathFilter, f.Reachable ∧
    (s = f.toPathStates ∨ ∃ proc ev, s = (f.shouldPrint proc ev).1)

theorem PathStates.Reached.consistent {s : PathStates} (hs : s.Reached) : s.Consistent := by
  obtain ⟨f, hf, rfl | ⟨proc, ev, rfl⟩⟩ := hs
  · exact hf.consistent
  · exact PathFilter.consistent_shouldPrint hf.consistent proc ev

/-- Two views that differ at most in what is known of `n`. -/
structure View.SameBut (n : UInt64) (v w : View) : Prop where
  cwd : v.cwd = w.cwd
  slot : ∀ fd, fd ≠ n → v.slot fd = w.slot fd

/-- Two states that differ at most in what is known of the descriptor `n` of `p`. -/
structure PathStates.SameBut (p : UInt32) (n : UInt64) (s t : PathStates) : Prop where
  paths : s.paths = t.paths
  other : ∀ pid, pid ≠ p → s.view pid = t.view pid
  own : (s.view p).SameBut n (t.view p)

/-- A successful event that makes `n` denote a new file: an `open`, `openat` or `openat2`
that returns `n`, whose descriptor argument is another one; a `dup` or duplicating `fcntl`
of another descriptor that returns `n`; a `dup2` or `dup3` of another descriptor onto
`n`. -/
inductive Renews (ev : Event) (n : UInt64) : Prop where
  | opened (call : ev.syscallId = Unix.sysOpen) (ok : 0 ≤ ev.ret) (ret : ev.ret.toUInt64 = n)
  | openedAt (call : ev.syscallId ∈ [Unix.sysOpenat, Unix.sysOpenat2]) (ok : 0 ≤ ev.ret)
      (ret : ev.ret.toUInt64 = n)
      (dirfd : (ev.args.get 0).toUInt32.toInt32.toInt64 = Unix.atFdcwd ∨ fdArg ev 0 ≠ n)
  | duplicated (call : ev.syscallId = Unix.sysDup) (ok : 0 ≤ ev.ret)
      (ret : ev.ret.toUInt64 = n) (src : fdArg ev 0 ≠ n)
  | duplicatedByFcntl (call : ev.syscallId = Unix.sysFcntl) (ok : 0 ≤ ev.ret)
      (ret : ev.ret.toUInt64 = n) (src : fdArg ev 0 ≠ n)
      (cmd : (ev.args.get 1).toUInt32.toInt32.toInt64 ∈ [Unix.fDupfd, Unix.fDupfdCloexec])
  | duplicatedOnto (call : ev.syscallId ∈ [Unix.sysDup2, Unix.sysDup3]) (ok : 0 ≤ ev.ret)
      (src : fdArg ev 0 ≠ n) (dst : fdArg ev 1 = n)

/-! ## When the old entry is overwritten -/

namespace View

/-- A path argument leads somewhere: it is absolute, or its base is known or can be looked
up. -/
def Resolvable (v : View) (answer : Option GoString) : PathArg → Prop
  | .unreadable => False
  | .absolute _ => True
  | .fromCwd _ => v.cwd ≠ [] ∨ answer ≠ none
  | .fromFD fd _ => v.fdPath fd ≠ none

/-- A path is resolved exactly if it is absolute, or its base is known or can be looked up. -/
theorem resolve_ask_ne_none {v : View} {answer : Option GoString} {arg : PathArg} :
    (v.ask answer arg).resolve arg ≠ none ↔ v.Resolvable answer arg := by
  cases arg with
  | unreadable => exact iff_of_false (fun h => h rfl) id
  | absolute path => exact iff_of_true (Option.some_ne_none _) trivial
  | fromFD fd path =>
      show (v.fdPath fd).map _ ≠ none ↔ _
      rw [Ne, Option.map_eq_none_iff]
      rfl
  | fromCwd path =>
      have known : (v.learn answer).cwdPath ≠ none ↔ (v.learn answer).cwd ≠ [] := by
        unfold cwdPath
        split
        · next hcwd => exact iff_of_false (fun h => h rfl) fun h => h hcwd
        · next hcwd => exact iff_of_true (Option.some_ne_none _) (hcwd ▸ List.cons_ne_nil _ _)
      have learned : (v.learn answer).cwd ≠ [] ↔ v.cwd ≠ [] ∨ answer ≠ none := by
        unfold learn
        split
        · next h => exact iff_of_true h (.inl h)
        · next h =>
            cases answer with
            | none => exact iff_of_false h fun h' => h'.elim h fun h'' => h'' rfl
            | some cwd =>
                exact iff_of_true (cleanPath cwd).property (.inr (Option.some_ne_none cwd))
      show (v.learn answer).cwdPath.map _ ≠ none ↔ _
      rw [Ne, Option.map_eq_none_iff]
      exact known.trans learned

/-- The event puts something new in the place of what is known of the descriptor it makes
denote a new file. -/
def Overwrites (v : View) (answers : ReadSite → Option GoString) (ev : Event) : Prop :=
  match observation ev with
  | .opened i _ => v.Resolvable (answers (.observe i)) (pathArg ev i)
  | .duplicated src _ _ => v.fdPath src ≠ none
  | .duplicatedTracked src _ => v.tracked src = true
  | .duplicatedOnto _ _ => True
  | _ => False

end View

/-- How an event that renews `n` is observed; no other descriptor it names is `n`. -/
inductive RenewedBy (ev : Event) (n : UInt64) : Observation → Prop where
  | ignored : RenewedBy ev n .ignored
  | opened {i : Fin 6} (base : ∀ path, pathArg ev i ≠ .fromFD n path) :
      RenewedBy ev n (.opened i n)
  | duplicated {src : UInt64} {isFD : Bool} (ne : src ≠ n) :
      RenewedBy ev n (.duplicated src n isFD)
  | duplicatedTracked {src : UInt64} (ne : src ≠ n) : RenewedBy ev n (.duplicatedTracked src n)
  | duplicatedOnto {src : UInt64} (ne : src ≠ n) : RenewedBy ev n (.duplicatedOnto src n)

section

variable {ev : Event} {n : UInt64}

/-- The base of a path argument that has none of its own is not `n`. -/
theorem pathArg_ne_fromFD {i : Fin 6} (base : pathBaseFDArgIndex ev.syscallId i = some none)
    (path : GoString) : pathArg ev i ≠ .fromFD n path := by
  unfold pathArg
  rw [base]
  cases eventTracePathAt ev i with
  | none => exact nofun
  | some raw =>
      dsimp only
      split
      · exact nofun
      · split
        · exact nofun
        · exact nofun

/-- Nor is a base that is another descriptor, or none. -/
theorem pathArg_ne_fromFD_of {i j : Fin 6}
    (base : pathBaseFDArgIndex ev.syscallId i = some (some j))
    (dirfd : (ev.args.get j).toUInt32.toInt32.toInt64 = Unix.atFdcwd ∨ fdArg ev j ≠ n)
    (path : GoString) : pathArg ev i ≠ .fromFD n path := by
  unfold pathArg
  rw [base]
  cases eventTracePathAt ev i with
  | none => exact nofun
  | some raw =>
      dsimp only
      split
      · exact nofun
      · split
        · exact nofun
        · split
          · exact nofun
          · split
            · exact nofun
            next notCwd =>
              intro h
              cases h
              exact dirfd.elim notCwd fun ne => ne rfl

theorem pathBaseFDArgIndex_openat (call : ev.syscallId ∈ [Unix.sysOpenat, Unix.sysOpenat2]) :
    pathBaseFDArgIndex ev.syscallId 1 = some (some 0) := by
  rcases List.mem_pair.mp call with call | call
  · rw [call]; decide
  · rw [call]; decide

/-- Each event that makes a descriptor denote a new file has an observation about that
descriptor. -/
theorem renewedBy_observation (renews : Renews ev n) : RenewedBy ev n (observation ev) := by
  cases renews with
  | opened call ok ret =>
      rw [observation_open call, if_neg (Int64.not_lt.mpr ok), ret]
      exact .opened (pathArg_ne_fromFD (by rw [call]; decide))
  | openedAt call ok ret dirfd =>
      rw [observation_openat call, if_neg (Int64.not_lt.mpr ok), ret]
      exact .opened (pathArg_ne_fromFD_of (pathBaseFDArgIndex_openat call) dirfd)
  | duplicated call ok ret src =>
      rw [observation_dup call, ret]
      split
      · exact .ignored
      · exact .duplicated src
  | duplicatedByFcntl call ok ret src cmd =>
      rw [observation_fcntl call, if_neg (Int64.not_lt.mpr ok), ret]
      split
      · exact .duplicatedTracked src
      · exact .ignored
  | duplicatedOnto call ok src dst =>
      rw [observation_dupOnto call, dst]
      split
      · exact .ignored
      · exact .duplicatedOnto src

end

/-! ## One event, seen by two views -/

namespace View

section

variable {n : UInt64} {v w : View} {paths : Finset GoString}
  {answers : ReadSite → Option GoString} {ev : Event}

theorem SameBut.tracked (same : v.SameBut n w) {fd : UInt64} (ne : fd ≠ n) :
    v.tracked fd = w.tracked fd :=
  congrArg Prod.fst (same.slot fd ne)

theorem SameBut.fdPath (same : v.SameBut n w) {fd : UInt64} (ne : fd ≠ n) :
    v.fdPath fd = w.fdPath fd :=
  congrArg Prod.snd (same.slot fd ne)

/-- They are the same if they agree on `n` too. -/
theorem SameBut.eq (same : v.SameBut n w) (own : v.slot n = w.slot n) : v = w := by
  refine ext_slot same.cwd fun fd => ?_
  by_cases h : fd = n
  · rw [h, own]
  · exact same.slot fd h

/-- A read teaches both the same. -/
theorem SameBut.ask (same : v.SameBut n w) (answer : Option GoString) (arg : PathArg) :
    (v.ask answer arg).SameBut n (w.ask answer arg) := by
  refine ⟨?_, fun fd ne => ?_⟩
  · cases arg with
    | fromCwd path =>
        show (v.learn answer).cwd = (w.learn answer).cwd
        unfold learn
        rw [same.cwd]
        split
        · exact same.cwd
        · cases answer with
          | none => exact same.cwd
          | some cwd => rfl
    | unreadable => exact same.cwd
    | absolute path => exact same.cwd
    | fromFD fd path => exact same.cwd
  · rw [ask_eq v, ask_eq w]
    exact same.slot fd ne

/-- Resolving is the same in both views unless the path is relative to the descriptor itself. -/
theorem SameBut.resolve (same : v.SameBut n w) {arg : PathArg}
    (base : ∀ path, arg ≠ .fromFD n path) : v.resolve arg = w.resolve arg := by
  cases arg with
  | unreadable => rfl
  | absolute path => rfl
  | fromCwd path =>
      show v.cwdPath.map _ = w.cwdPath.map _
      rw [cwdPath, cwdPath, same.cwd]
  | fromFD fd path =>
      have ne : fd ≠ n := fun h => base path (h ▸ rfl)
      show (v.fdPath fd).map _ = (w.fdPath fd).map _
      rw [same.fdPath ne]

/-- Recording `n` leaves no difference. -/
theorem SameBut.record (same : v.SameBut n w) (path : Path) :
    v.record paths n path = w.record paths n path := by
  refine ext_slot same.cwd fun fd => ?_
  rw [slot_record, slot_record]
  split
  · rfl
  · next ne => exact same.slot fd ne

theorem slot_unset (v : View) (fd : UInt64) :
    ((v.track n false).bind n none).slot fd = if fd = n then (false, none) else v.slot fd := by
  unfold slot
  rw [tracked_bind, tracked_track, fdPath_bind, fdPath_track]
  split
  · rfl
  · rfl

/-- Nor does forgetting it. -/
theorem SameBut.unset (same : v.SameBut n w) :
    (v.track n false).bind n none = (w.track n false).bind n none := by
  refine ext_slot same.cwd fun fd => ?_
  rw [slot_unset, slot_unset]
  split
  · rfl
  · next ne => exact same.slot fd ne

/-- Whether the entry is overwritten does not depend on it. -/
theorem SameBut.overwrites (same : v.SameBut n w) (renews : Renews ev n) :
    v.Overwrites answers ev ↔ w.Overwrites answers ev := by
  have renewed := renewedBy_observation renews
  unfold Overwrites
  generalize observation ev = observed at renewed ⊢
  cases renewed with
  | ignored => exact Iff.rfl
  | opened base =>
      dsimp only
      rw [← resolve_ask_ne_none, ← resolve_ask_ne_none, (same.ask _ _).resolve base]
  | duplicated ne =>
      dsimp only
      rw [same.fdPath ne]
  | duplicatedTracked ne =>
      dsimp only
      rw [same.tracked ne]
  | duplicatedOnto ne => exact Iff.rfl

/-- An event that overwrites the entry makes the views the same. -/
theorem SameBut.observe_eq (same : v.SameBut n w) (hv : v.Synced paths) (hw : w.Synced paths)
    (renews : Renews ev n) (overwrites : v.Overwrites answers ev) :
    v.observe paths answers ev = w.observe paths answers ev := by
  have renewed := renewedBy_observation renews
  unfold Overwrites at overwrites
  unfold observe
  generalize observation ev = observed at renewed overwrites ⊢
  cases renewed with
  | ignored => cases overwrites
  | opened base =>
      rename_i i
      have asked := same.ask (answers (.observe i)) (pathArg ev i)
      obtain ⟨path, hpath⟩ := Option.ne_none_iff_exists'.mp (resolve_ask_ne_none.mpr overwrites)
      unfold apply
      dsimp only
      rw [← asked.resolve base, hpath]
      exact asked.record path
  | duplicated ne =>
      obtain ⟨path, hpath⟩ := Option.ne_none_iff_exists'.mp overwrites
      rw [hv.apply_duplicated, hw.apply_duplicated, copyPath, copyPath, ← same.fdPath ne, hpath]
      exact same.record path
  | duplicatedTracked ne =>
      -- A tracked descriptor has a recorded path.
      rename_i src
      have synced := hv src
      obtain ⟨path, hpath, -⟩ := (Option.any_eq_true _ _).mp (synced.symm.trans overwrites)
      rw [hv.apply_duplicatedTracked, hw.apply_duplicatedTracked, ← same.tracked ne,
        if_pos overwrites, if_pos overwrites, copyPath, copyPath, ← same.fdPath ne, hpath]
      exact same.record path
  | duplicatedOnto ne =>
      rename_i src
      rw [hv.apply_duplicatedOnto, hw.apply_duplicatedOnto, ← same.fdPath ne]
      cases v.fdPath src with
      | some path => exact same.record path
      | none => exact same.unset

/-- An event that does not overwrite the entry leaves it as it is. -/
theorem slot_observe (hv : v.Synced paths) (renews : Renews ev n)
    (keeps : ¬ v.Overwrites answers ev) : (v.observe paths answers ev).slot n = v.slot n := by
  have renewed := renewedBy_observation renews
  unfold Overwrites at keeps
  unfold observe
  generalize observation ev = observed at renewed keeps ⊢
  cases renewed with
  | ignored => rfl
  | opened base =>
      rename_i i
      have unresolved := mt resolve_ask_ne_none.mp keeps
      rw [not_not] at unresolved
      unfold apply
      dsimp only
      rw [unresolved, ask_eq]
      rfl
  | duplicated ne =>
      rw [hv.apply_duplicated, copyPath, not_not.mp keeps]
  | duplicatedTracked ne =>
      rw [hv.apply_duplicatedTracked, if_neg keeps]
  | duplicatedOnto ne => exact absurd trivial keeps

/-- Nothing else changes. -/
theorem sameBut_observe (hv : v.Synced paths) (settled : v.Settled answers)
    (renews : Renews ev n) : v.SameBut n (v.observe paths answers ev) := by
  have renewed := renewedBy_observation renews
  have recorded : ∀ path, v.SameBut n (v.record paths n path) := fun path =>
    ⟨rfl, fun fd ne => by rw [slot_record, if_neg ne]⟩
  have copied : ∀ src, v.SameBut n (v.copyPath paths src n) := by
    intro src
    unfold copyPath
    split
    · exact ⟨rfl, fun _ _ => rfl⟩
    · exact recorded _
  unfold observe
  generalize observation ev = observed at renewed ⊢
  cases renewed with
  | ignored => exact ⟨rfl, fun _ _ => rfl⟩
  | opened base =>
      unfold apply
      dsimp only
      rw [ask_of_settled settled]
      split
      · exact ⟨rfl, fun _ _ => rfl⟩
      · exact recorded _
  | duplicated ne =>
      rw [hv.apply_duplicated]
      exact copied _
  | duplicatedTracked ne =>
      rw [hv.apply_duplicatedTracked]
      split
      · exact copied _
      · exact ⟨rfl, fun _ _ => rfl⟩
  | duplicatedOnto ne =>
      rw [hv.apply_duplicatedOnto]
      split
      · exact recorded _
      · exact ⟨rfl, fun fd ne => by rw [slot_unset, if_neg ne]⟩

end

end View

/-! ## One event, seen by two states -/

/-- The event creates no process other than its own. -/
def CreatesNoOther (ev : Event) : Prop := ∀ c, processCloneChildPID ev = some c → c = ev.pid

/-- Without another process nothing is copied. -/
theorem forkViews_of_createsNoOther {ev : Event} (noOther : CreatesNoOther ev)
    (views : UInt32 → View) : forkViews views ev = views := by
  unfold forkViews
  cases hchild : processCloneChildPID ev with
  | none => rfl
  | some c =>
      rw [noOther c hchild]
      exact Function.update_eq_self ev.pid views

/-- **Reused descriptors.**  For every two states of the filter, at any points of any runs,
that differ at most in what is known of the descriptor `n` of `p`, and every successful
event of `p` that makes `n` denote a new file: observing it leads to the same state exactly
when they did not differ, or the event overwrites the entry and creates no other process.

Two reached states are the weakest way to say that the old entry is of no influence: nothing is
assumed about how it came to be there.  A clone is excluded on the right, as it hands the old
entry on to the child. -/
theorem reused_iff_overwritten {s t : PathStates} {n : UInt64} {proc : ProcCwd} {ev : Event}
    (hs : s.Reached) (ht : t.Reached) (same : s.SameBut ev.pid n t) (renews : Renews ev n) :
    s.observe proc ev = t.observe proc ev ↔
      (s.view ev.pid).slot n = (t.view ev.pid).slot n ∨
        ((s.view ev.pid).Overwrites (fun site => proc site ev.pid) ev ∧ CreatesNoOther ev) := by
  have synced := hs.consistent.synced ev.pid
  have synced' : (t.view ev.pid).Synced s.paths := same.paths ▸ ht.consistent.synced ev.pid
  obtain ⟨spaths, sview⟩ := s.view_observe proc ev
  obtain ⟨tpaths, tview⟩ := t.view_observe proc ev
  rw [← same.paths] at tview
  constructor
  · intro after
    by_contra differ
    rw [not_or] at differ
    obtain ⟨differ, kept⟩ := differ
    have views : (s.observe proc ev).view = (t.observe proc ev).view := by rw [after]
    rw [sview, tview] at views
    rw [not_and_or] at kept
    rcases kept with keeps | creates
    -- The entry of the process itself stays.
    · have own := congrArg (View.slot · n) (congrFun views ev.pid)
      rw [Function.update_self, Function.update_self, View.slot_observe synced renews keeps,
        View.slot_observe synced' renews (mt (same.own.overwrites renews).mpr keeps)] at own
      exact differ own
    -- The child has copied it.
    · unfold CreatesNoOther at creates
      push Not at creates
      obtain ⟨c, child, ne⟩ := creates
      have copied := congrArg (View.slot · n) (congrFun views c)
      rw [Function.update_of_ne ne, Function.update_of_ne ne, forkViews, forkViews, child,
        Option.elim_some, Option.elim_some, Function.update_self, Function.update_self] at copied
      exact differ copied
  · rintro (agree | ⟨overwrites, noOther⟩)
    · have views : s.view = t.view := by
        funext pid
        by_cases h : pid = ev.pid
        · rw [h]
          exact same.own.eq agree
        · exact same.other pid h
      rw [hs.consistent.ext ht.consistent same.paths views]
    · refine (hs.consistent.observe proc ev).ext (ht.consistent.observe proc ev)
        (spaths.trans (same.paths.trans tpaths.symm)) ?_
      rw [sview, tview, forkViews_of_createsNoOther noOther, forkViews_of_createsNoOther noOther,
        same.own.observe_eq synced synced' renews overwrites]
      funext pid
      by_cases h : pid = ev.pid
      · rw [h, Function.update_self, Function.update_self]
      · rw [Function.update_of_ne h, Function.update_of_ne h, same.other pid h]

/-- An arrival that renews a descriptor changes nothing else. -/
theorem sameBut_next {f : PathFilter} {a : Arrival} {n : UInt64} (hf : f.Consistent)
    (on : f.pathFilterMode = true)
    (settled : (f.view a.ev.pid).Settled fun site => a.proc site a.ev.pid)
    (renews : Renews a.ev n) (noOther : CreatesNoOther a.ev) :
    f.toPathStates.SameBut a.ev.pid n (f.next a).toPathStates := by
  have view := PathFilter.next_view_of_settled on settled
  rw [forkViews_of_createsNoOther noOther] at view
  refine ⟨(PathFilter.shouldOutput_fixed f a.proc a.ev).1.symm, fun pid ne => ?_, ?_⟩
  · rw [view, Function.update_of_ne ne]
  · rw [view, Function.update_self]
    exact View.sameBut_observe (hf.synced _) (.inr fun _ => rfl) renews

/-- Process 100 opens a file whose path could not be read. -/
def openUnread : Arrival := openAs3 VarFlag.readError []

theorem reached_beforeOpen : beforeOpen.toPathStates.Reached :=
  ⟨beforeOpen, ⟨_, [], rfl⟩, .inl rfl⟩

theorem reached_afterOpen : (beforeOpen.next openA).toPathStates.Reached :=
  ⟨_, ⟨_, [openA], rfl⟩, .inl rfl⟩

theorem renews_openAs3 (flags : UInt8) (path : GoString) : Renews (openAs3 flags path).ev 3 :=
  .opened rfl (show (0 : Int64) ≤ 3 by decide) rfl

theorem sameBut_afterOpen :
    beforeOpen.toPathStates.SameBut 100 3 (beforeOpen.next openA).toPathStates :=
  sameBut_next (a := openA) (PathFilter.consistent_newPathFilter _) rfl
    (.inr fun _ => rfl) (renews_openAs3 _ _) nofun

theorem reused_iff_overwritten_openA :
    beforeOpen.observe openA.proc openA.ev = (beforeOpen.next openA).observe openA.proc openA.ev ↔
      (beforeOpen.view 100).slot 3 = ((beforeOpen.next openA).view 100).slot 3 ∨
        ((beforeOpen.view 100).Overwrites (fun site => openA.proc site 100) openA.ev ∧
          CreatesNoOther openA.ev) :=
  reused_iff_overwritten reached_beforeOpen reached_afterOpen sameBut_afterOpen
    (renews_openAs3 _ _)

/-- A path that was not read is not resolved, and the old entry stays: two states that
differ at most in descriptor 3, of which one tracks it, still differ. -/
theorem unread_open_keeps_entry :
    beforeOpen.toPathStates.Reached ∧ (beforeOpen.next openA).toPathStates.Reached ∧
      beforeOpen.toPathStates.SameBut 100 3 (beforeOpen.next openA).toPathStates ∧
      Renews openUnread.ev 3 ∧
      beforeOpen.observe openUnread.proc openUnread.ev ≠
        (beforeOpen.next openA).observe openUnread.proc openUnread.ev := by
  refine ⟨reached_beforeOpen, reached_afterOpen, sameBut_afterOpen, renews_openAs3 _ _, ?_⟩
  intro same
  have tracked := congrArg (fun s : PathStates => s.fdTracked 100 3) same
  revert tracked
  decide +kernel

end Litrace.Trace
