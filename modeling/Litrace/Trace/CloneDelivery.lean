import Litrace.Trace.ForkIsolation
import Litrace.Trace.ReusedDescriptor

/-!
# Records of the child before the record of its clone

`trace_sys_exit` makes the child of a clone a target before it reserves the record of the
clone, so records of the child may come first.  `observeForkChild` then replaces what the
filter has learnt from them by what it knows of the parent.

`clone_delivery_iff`: it does not matter where the record of the clone comes, exactly when
none of the records of the child would change what is known of the parent at the clone
(`View.Idle`).

Both orders of delivery occur: the two records are submitted by different threads, and
nothing waits for the other.  The comparison is made at every point of the child's records
and not at their end only, as a later record may cover up for a change that was lost, and
the decisions in between would differ all the same.

An event is idle in a view if whatever its observation would do is done already (`Done`),
including the working directory that resolving a path looks up.  So the condition is about
what the clone passes on and about the records, and not about the order in which they
come.
-/

namespace Litrace.Trace

open Filepath Transition

/-! ## Events that change nothing -/

namespace View

/-- Resolving the argument looks the working directory up, with success. -/
def Learns (v : View) (answer : Option GoString) (arg : PathArg) : Prop :=
  v.cwd = [] ∧ answer ≠ none ∧ ∃ path, arg = .fromCwd path

/-- So does resolving one of the arguments, until one of them matches. -/
def MatchLearns (v : View) (paths : Finset GoString) (answers : ReadSite → Option GoString)
    (ev : Event) : List (Fin 6) → Prop
  | [] => False
  | i :: is =>
      v.Learns (answers (.shouldPrint i)) (pathArg ev i) ∨
        ((v.resolve (pathArg ev i)).any fun path => decide (path.val ∈ paths)) = false ∧
          v.MatchLearns paths answers ev is

/-- Renaming changes nothing that is recorded. -/
structure Unmoved (v : View) (oldPath newPath : Path) : Prop where
  cwd : v.cwd ≠ [] → (rewritePathPrefix v.cwd oldPath.val newPath.val).2 = true →
    (rewritePathPrefix v.cwd oldPath.val newPath.val).1.val = v.cwd
  fdPath : ∀ fd path, v.fdPath fd = some path →
    (rewritePathPrefix path.val oldPath.val newPath.val).2 = true →
      (rewritePathPrefix path.val oldPath.val newPath.val).1 = path

/-- What an observation would do is done already. -/
def Done (v : View) (answers : ReadSite → Option GoString) (ev : Event) : Observation → Prop
  | .ignored => True
  | .opened i fd =>
      ¬ v.Learns (answers (.observe i)) (pathArg ev i) ∧
        ∀ path, v.resolve (pathArg ev i) = some path → v.fdPath fd = some path
  | .duplicated src fd _ => v.fdPath src ≠ none → v.fdPath fd = v.fdPath src
  | .duplicatedOnto src fd => v.fdPath fd = v.fdPath src
  | .duplicatedTracked src fd => v.tracked src = true → v.fdPath fd = v.fdPath src
  | .closed fd => v.fdPath fd = none
  | .changedDir =>
      ¬ v.Learns (answers (.observe 0)) (pathArg ev 0) ∧
        ∀ path, v.resolve (pathArg ev 0) = some path → v.cwd = path.val
  | .changedDirTo fd => ∀ path, v.fdPath fd = some path → v.cwd = path.val
  | .renamed i j =>
      ¬ v.Learns (answers (.observe i)) (pathArg ev i) ∧
        ∀ oldPath, v.resolve (pathArg ev i) = some oldPath →
          ¬ v.Learns (answers (.observe j)) (pathArg ev j) ∧
            ∀ newPath, v.resolve (pathArg ev j) = some newPath → v.Unmoved oldPath newPath
  | .unlinked i =>
      ¬ v.Learns (answers (.observe i)) (pathArg ev i) ∧
        ∀ path, v.resolve (pathArg ev i) = some path → ∀ fd, v.fdPath fd ≠ some path

/-- The event tells the filter nothing it does not know. -/
def Idle (v : View) (paths : Finset GoString) (answers : ReadSite → Option GoString)
    (allowed : Bool) (ev : Event) : Prop :=
  ¬ (allowed = true ∧ v.MatchLearns paths answers ev (matchedArgs ev.syscallId)) ∧
    v.Done answers ev (observation ev)

/-- The view after an event: the decision, then the observation. -/
def after (v : View) (paths : Finset GoString) (answers : ReadSite → Option GoString)
    (allowed : Bool) (ev : Event) : View :=
  (v.print paths answers allowed ev).1.observe paths answers ev

section

variable {v : View} {paths : Finset GoString} {answers : ReadSite → Option GoString}
  {ev : Event}

theorem ask_of_not_learns {answer : Option GoString} {arg : PathArg}
    (h : ¬ v.Learns answer arg) : v.ask answer arg = v := by
  cases arg with
  | unreadable => rfl
  | absolute path => rfl
  | fromFD fd path => rfl
  | fromCwd path =>
      by_cases known : v.cwd = []
      · cases answer with
        | none => exact learn_none v
        | some cwd => exact absurd ⟨known, nofun, path, rfl⟩ h
      · exact learn_of_known known answer

theorem Learns.known_ask {answer : Option GoString} {arg : PathArg} (h : v.Learns answer arg) :
    (v.ask answer arg).cwd ≠ [] := by
  obtain ⟨unknown, found, path, rfl⟩ := h
  obtain ⟨cwd, rfl⟩ := Option.ne_none_iff_exists'.mp found
  show (v.learn (some cwd)).cwd ≠ []
  rw [learn_of_unknown unknown]
  exact (cleanPath cwd).property

/-- Where nothing is learnt, the decision leaves the view alone. -/
theorem matchArgs_of_not_learns {args : List (Fin 6)}
    (h : ¬ v.MatchLearns paths answers ev args) :
    (v.matchArgs paths answers ev args).1 = v := by
  induction args with
  | nil => rfl
  | cons i args ih =>
      obtain ⟨first, rest⟩ := not_or.mp h
      rw [matchArgs, ask_of_not_learns first]
      cases hmatch : (v.resolve (pathArg ev i)).any fun path => decide (path.val ∈ paths) with
      | true => rfl
      | false => exact ih fun learns => rest ⟨hmatch, learns⟩

theorem known_matchArgs (known : v.cwd ≠ []) (args : List (Fin 6)) :
    (v.matchArgs paths answers ev args).1.cwd ≠ [] := by
  rw [matchArgs_of_settled (.inl known)]
  exact known

theorem MatchLearns.known {args : List (Fin 6)} (h : v.MatchLearns paths answers ev args) :
    (v.matchArgs paths answers ev args).1.cwd ≠ [] := by
  induction args with
  | nil => exact h.elim
  | cons i args ih =>
      unfold matchArgs
      dsimp only
      by_cases learns : v.Learns (answers (.shouldPrint i)) (pathArg ev i)
      · split
        · exact learns.known_ask
        · exact known_matchArgs learns.known_ask args
      · obtain ⟨unmatched, rest⟩ := h.resolve_left learns
        rw [ask_of_not_learns learns, unmatched]
        exact ih rest

/-- If no lookup is made, or none succeeds, the decision leaves the view alone. -/
theorem print_of_not_learns {allowed : Bool}
    (h : ¬ (allowed = true ∧ v.MatchLearns paths answers ev (matchedArgs ev.syscallId))) :
    (v.print paths answers allowed ev).1 = v := by
  unfold print
  cases allowed with
  | false => rfl
  | true =>
      have stays := matchArgs_of_not_learns fun learns => h ⟨rfl, learns⟩
      dsimp only
      split
      · rfl
      · split
        · exact stays
        · exact stays

/-- If one succeeds the directory is known behind it, and the view has changed, since it was not
known before. -/
theorem known_print {allowed : Bool}
    (h : allowed = true ∧ v.MatchLearns paths answers ev (matchedArgs ev.syscallId)) :
    (v.print paths answers allowed ev).1.cwd ≠ [] := by
  obtain ⟨rfl, learns⟩ := h
  unfold print
  dsimp only
  split
  next off => cases off
  next =>
    split
    · exact learns.known
    · exact learns.known

/-! ### Updates that change nothing -/

/-- Recording a path changes nothing exactly if it is recorded already; whether it is tracked
follows from that. -/
theorem record_eq_self_iff (hv : v.Synced paths) {fd : UInt64} {path : Path} :
    v.record paths fd path = v ↔ v.fdPath fd = some path := by
  constructor
  · intro same
    have own := congrArg (fun u => u.fdPath fd) same
    rw [fdPath_record, if_pos rfl] at own
    exact own.symm
  · intro recorded
    refine ext_slot rfl fun fd' => ?_
    rw [slot_record]
    split
    next own =>
      have tracked := hv fd
      rw [recorded, Option.any_some] at tracked
      rw [own, slot, tracked, recorded]
    next => rfl

/-- Forgetting a descriptor changes nothing exactly if nothing is known of it. -/
theorem unset_eq_self_iff (hv : v.Synced paths) {fd : UInt64} :
    (v.track fd false).bind fd none = v ↔ v.fdPath fd = none := by
  constructor
  · intro same
    have own := congrArg (fun u => u.fdPath fd) same
    rw [fdPath_bind, if_pos rfl] at own
    exact own.symm
  · intro unknown
    refine ext_slot rfl fun fd' => ?_
    rw [slot_unset]
    split
    next own =>
      have tracked := hv fd
      rw [unknown, Option.any_none] at tracked
      rw [own, slot, tracked, unknown]
    next => rfl

/-- Copying from an unknown source does nothing at all. -/
theorem copyPath_eq_self_iff (hv : v.Synced paths) {src fd : UInt64} :
    v.copyPath paths src fd = v ↔ (v.fdPath src ≠ none → v.fdPath fd = v.fdPath src) := by
  unfold copyPath
  cases v.fdPath src with
  | none => exact iff_of_true rfl fun h => absurd rfl h
  | some path =>
      rw [record_eq_self_iff hv]
      exact ⟨fun h _ => h, fun h => h nofun⟩

theorem setCwd_eq_self_iff {cwd : GoString} : { v with cwd := cwd } = v ↔ v.cwd = cwd := by
  constructor
  · intro same
    exact (congrArg View.cwd same).symm
  · rintro rfl
    rfl

/-- Renaming changes nothing exactly if each recorded path and the directory stay where they are. -/
theorem rewrite_eq_self_iff (hv : v.Synced paths) {oldPath newPath : Path} :
    v.rewrite paths oldPath newPath = v ↔ v.Unmoved oldPath newPath := by
  constructor
  · intro same
    refine ⟨fun known changed => ?_, fun fd path hpath changed => ?_⟩
    · have own := congrArg View.cwd same
      unfold rewrite at own
      dsimp only at own
      rwa [if_pos ⟨known, changed⟩] at own
    · have own := congrFun (congrArg View.fdPath same) fd
      unfold rewrite at own
      dsimp only at own
      rw [hpath, Option.map_some, if_pos changed] at own
      exact Option.some.inj own
  · intro unmoved
    refine ext_slot ?_ fun fd => ?_
    · unfold rewrite
      dsimp only
      split
      next moved => exact unmoved.cwd moved.1 moved.2
      next => rfl
    · unfold slot rewrite
      dsimp only
      cases hpath : v.fdPath fd with
      | none => rfl
      | some path =>
          have tracked := hv fd
          rw [hpath, Option.any_some] at tracked
          dsimp only
          rw [Option.map_some]
          split
          next changed => rw [unmoved.fdPath fd path hpath changed, tracked]
          next => rfl

/-- Unlinking changes nothing exactly if no descriptor has the path. -/
theorem forget_eq_self_iff {target : Path} :
    v.forget target = v ↔ ∀ fd, v.fdPath fd ≠ some target := by
  constructor
  · intro same fd own
    have gone := congrFun (congrArg View.fdPath same) fd
    unfold forget at gone
    dsimp only at gone
    rw [if_pos own, own] at gone
    cases gone
  · intro unused
    refine ext_slot rfl fun fd => ?_
    unfold slot forget
    dsimp only
    rw [if_neg (unused fd), if_neg (unused fd)]

/-- What is done with a resolved argument changes nothing if no lookup does, and `g`, which
is done, does not. -/
theorem asked_eq_self_iff {answer : Option GoString} {arg : PathArg} {g : View → Path → View}
    (keeps : ∀ u path, u.cwd ≠ [] → (g u path).cwd ≠ []) :
    (match (v.ask answer arg).resolve arg with
      | none => v.ask answer arg
      | some path => g (v.ask answer arg) path) = v ↔
      ¬ v.Learns answer arg ∧ ∀ path, v.resolve arg = some path → g v path = v := by
  by_cases learns : v.Learns answer arg
  · -- A directory that has become known stays known.
    refine iff_of_false (fun same => ?_) fun h => h.1 learns
    have known : (v.ask answer arg).cwd ≠ [] := learns.known_ask
    rw [← same] at learns
    refine absurd learns.1 ?_
    split
    · exact known
    · exact keeps _ _ known
  · rw [ask_of_not_learns learns]
    cases v.resolve arg with
    | none => exact iff_of_true rfl ⟨learns, nofun⟩
    | some path =>
        refine ⟨fun same => ⟨learns, fun _ h => Option.some.inj h ▸ same⟩, fun h => h.2 path rfl⟩

/-- A renaming resolves its second argument in the view the first one leaves. -/
theorem renamed_eq_self_iff (hv : v.Synced paths) (i j : Fin 6) :
    v.apply paths answers ev (.renamed i j) = v ↔ v.Done answers ev (.renamed i j) := by
  let second (u : View) (oldPath : Path) : View :=
    match (u.ask (answers (.observe j)) (pathArg ev j)).resolve (pathArg ev j) with
    | none => u.ask (answers (.observe j)) (pathArg ev j)
    | some newPath =>
        (u.ask (answers (.observe j)) (pathArg ev j)).rewrite paths oldPath newPath
  have inner : ∀ oldPath, second v oldPath = v ↔
      ¬ v.Learns (answers (.observe j)) (pathArg ev j) ∧
        ∀ newPath, v.resolve (pathArg ev j) = some newPath →
          v.rewrite paths oldPath newPath = v := by
    intro oldPath
    refine asked_eq_self_iff (g := fun u newPath => u.rewrite paths oldPath newPath) ?_
    intro u newPath known
    exact rewrite_known known paths oldPath newPath
  have keeps : ∀ u oldPath, u.cwd ≠ [] → (second u oldPath).cwd ≠ [] := by
    intro u oldPath known
    have asked : (u.ask (answers (.observe j)) (pathArg ev j)).cwd ≠ [] := by
      rw [ask_of_not_learns fun learns => known learns.1]
      exact known
    show View.cwd (match (u.ask (answers (.observe j)) (pathArg ev j)).resolve
      (pathArg ev j) with | none => _ | some newPath => _) ≠ []
    split
    · exact asked
    · exact rewrite_known asked _ _ _
  refine (asked_eq_self_iff (g := second) keeps).trans ?_
  simp only [inner, rewrite_eq_self_iff hv]
  rfl

/-- An observation changes nothing exactly when it is done already. -/
theorem observe_eq_self_iff (hv : v.Synced paths) :
    v.observe paths answers ev = v ↔ v.Done answers ev (observation ev) := by
  unfold observe
  cases observation ev with
  | ignored => exact iff_of_true rfl trivial
  | opened i fd =>
      refine (asked_eq_self_iff (g := fun u path => u.record paths fd path) ?_).trans ?_
      · exact fun u path known => known
      · simp only [record_eq_self_iff hv]
        rfl
  | duplicated src fd isFD =>
      rw [hv.apply_duplicated]
      exact copyPath_eq_self_iff hv
  | duplicatedOnto src fd =>
      rw [hv.apply_duplicatedOnto]
      show _ ↔ v.fdPath fd = v.fdPath src
      cases v.fdPath src with
      | none => exact unset_eq_self_iff hv
      | some path => exact record_eq_self_iff hv
  | duplicatedTracked src fd =>
      rw [hv.apply_duplicatedTracked]
      show _ ↔ (v.tracked src = true → v.fdPath fd = v.fdPath src)
      split
      next tracked =>
        obtain ⟨path, hpath, -⟩ := (Option.any_eq_true _ _).mp ((hv src).symm.trans tracked)
        rw [copyPath_eq_self_iff hv, hpath]
        exact ⟨fun h _ => h nofun, fun h _ => h tracked⟩
      next untracked => exact iff_of_true rfl fun h => absurd h untracked
  | closed fd => exact unset_eq_self_iff hv
  | changedDir =>
      refine (asked_eq_self_iff (g := fun u path => { u with cwd := path.val }) ?_).trans ?_
      · exact fun u path _ => path.property
      · simp only [setCwd_eq_self_iff]
        rfl
  | changedDirTo fd =>
      rw [apply]
      show _ ↔ ∀ path, v.fdPath fd = some path → v.cwd = path.val
      cases v.fdPath fd with
      | none => exact iff_of_true rfl fun path h => by cases h
      | some path =>
          refine setCwd_eq_self_iff.trans ⟨fun h _ same => ?_, fun h => h path rfl⟩
          rw [h, Option.some.inj same]
  | renamed i j => exact renamed_eq_self_iff hv i j
  | unlinked i =>
      refine (asked_eq_self_iff (g := fun u path => u.forget path) ?_).trans ?_
      · exact fun u path known => known
      · simp only [forget_eq_self_iff]
        rfl

/-- An event changes nothing exactly when it is idle. -/
theorem after_eq_self_iff (hv : v.Synced paths) {allowed : Bool} :
    v.after paths answers allowed ev = v ↔ v.Idle paths answers allowed ev := by
  unfold after Idle
  by_cases learns : allowed = true ∧ v.MatchLearns paths answers ev (matchedArgs ev.syscallId)
  · refine iff_of_false (fun same => ?_) fun h => h.1 learns
    have known : ((v.print paths answers allowed ev).1.observe paths answers ev).cwd ≠ [] :=
      observe_known (known_print learns) paths ev
    rw [same] at known
    -- A lookup is made only where no directory is known.
    have unknown : ∀ {args : List (Fin 6)}, v.MatchLearns paths answers ev args → v.cwd = [] := by
      intro args
      induction args with
      | nil => exact False.elim
      | cons i args ih => exact fun h => h.elim (fun first => first.1) fun rest => ih rest.2
    exact known (unknown learns.2)
  · rw [print_of_not_learns learns, observe_eq_self_iff hv]
    exact ⟨fun h => ⟨learns, h⟩, fun h => h.2⟩

end

end View

/-! ## The child, wherever the record of its clone comes -/

namespace PathFilter

/-- The view that the clone `fork` passes on. -/
def passedOn (f : PathFilter) (fork : Arrival) : View :=
  ((f.view fork.ev.pid).print f.paths (fun site => fork.proc site fork.ev.pid)
    (f.userAllows fork.ev.syscallId) fork.ev).1

/-- The view of `pid` after an arrival of its own. -/
def afterArrival (f : PathFilter) (v : View) (a : Arrival) : View :=
  v.after f.paths (fun site => a.proc site a.ev.pid) (f.userAllows a.ev.syscallId) a.ev

/-- The selector and the traced paths stay, so the updates do. -/
theorem afterArrival_next (f : PathFilter) (a : Arrival) :
    (f.next a).afterArrival = f.afterArrival := by
  funext v b
  rw [afterArrival, afterArrival, f.userAllows_next, f.paths_next]

end PathFilter

section

variable {f : PathFilter} {fork : Arrival} {c p : UInt32} {es : List Arrival}

/-- Arrivals of `c` leave alone what is fixed and the view of another process they do not
create. -/
theorem sameView_run (own : ∀ a ∈ es, a.ev.pid = c) (ne : c ≠ p)
    (noFork : ∀ a ∈ es, processCloneChildPID a.ev ≠ some p) :
    SameView (run PathFilter.next f es) f p p := by
  induction es generalizing f with
  | nil => exact ⟨rfl, rfl, rfl, rfl, rfl⟩
  | cons a es ih =>
      have other : a.ev.pid ≠ p := by
        rw [own a (by simp)]
        exact ne
      have first := sameView_next (next_view_of_ne (f := f) other (noFork a (by simp)))
      refine SameView.trans ?_ first
      exact ih (fun b hb => own b (by simp [hb])) fun b hb => noFork b (by simp [hb])

/-- They update the view of `c` one after the other. -/
theorem view_run_own (on : f.pathFilterMode = true) (own : ∀ a ∈ es, a.ev.pid = c) :
    (run PathFilter.next f es).view c = run f.afterArrival (f.view c) es := by
  induction es generalizing f with
  | nil => rfl
  | cons a es ih =>
      have mine := own a (by simp)
      have rest := ih (f := f.next a) ((f.pathFilterMode_next a).trans on)
        fun b hb => own b (by simp [hb])
      rw [run_cons, run_cons, rest, f.afterArrival_next]
      refine congrArg (run f.afterArrival · es) ?_
      subst mine
      exact next_view_self on

/-- The clone passes its view on, whatever was known of the child. -/
theorem next_view_fork (on : f.pathFilterMode = true)
    (child : processCloneChildPID fork.ev = some c) (ne : c ≠ fork.ev.pid) :
    (f.next fork).view c = f.passedOn fork := by
  rw [PathFilter.next, PathFilter.shouldOutput_view on, Function.update_of_ne ne, forkViews,
    child, Option.elim_some, Function.update_self, Function.update_self]
  rfl

/-- The record of the clone comes after `before`: the child starts from what it passes
on. -/
theorem view_run_fork (on : f.pathFilterMode = true)
    (child : processCloneChildPID fork.ev = some c) (ne : c ≠ fork.ev.pid)
    (before rest : List Arrival) (own : ∀ a ∈ before ++ rest, a.ev.pid = c)
    (noFork : ∀ a ∈ before, processCloneChildPID a.ev ≠ some fork.ev.pid) :
    (run PathFilter.next f (before ++ fork :: rest)).view c =
      run f.afterArrival (f.passedOn fork) rest := by
  have same := sameView_run (f := f) (fun a ha => own a (List.mem_append_left rest ha)) ne noFork
  have passed : (run PathFilter.next f before).passedOn fork = f.passedOn fork := by
    rw [PathFilter.passedOn, PathFilter.passedOn, same.view, same.paths, same.userAllows]
  have updates : (run PathFilter.next f before).afterArrival = f.afterArrival := by
    funext v b
    rw [PathFilter.afterArrival, PathFilter.afterArrival, same.userAllows, same.paths]
  have on' := same.pathFilterMode.trans on
  have started := (PathFilter.pathFilterMode_next _ fork).trans on'
  rw [run_append, run_cons,
    view_run_own started fun a ha => own a (List.mem_append_right before ha),
    next_view_fork on' child ne, passed, PathFilter.afterArrival_next, updates]

theorem PathFilter.Reachable.run {f : PathFilter} (hf : f.Reachable) (as : List Arrival) :
    (run PathFilter.next f as).Reachable := by
  obtain ⟨cfg, before, rfl⟩ := hf
  exact ⟨cfg, before ++ as, (run_append _ _ _ _).symm⟩

/-- **Delivery of a clone.**  For every reachable filter state, every clone of `c` and all
arrivals `es` of `c` alone: at each point of `es` the state of `c` is what the clone passes
on, updated by the arrivals of `c` so far, wherever among them the record of the clone came,
exactly when each of `es` is idle in what the clone passes on.

If the mode is off the filter keeps nothing and the order is of no consequence, so the condition
is void.  In the other direction an event that is not idle has changed the state of the child
when the record of the clone comes late, and the change is gone behind it. -/
theorem clone_delivery_iff (f : PathFilter) (fork : Arrival) (c : UInt32) (es : List Arrival)
    (hf : f.Reachable) (child : processCloneChildPID fork.ev = some c) (ne : c ≠ fork.ev.pid)
    (own : ∀ a ∈ es, a.ev.pid = c)
    (noFork : ∀ a ∈ es, processCloneChildPID a.ev ≠ some fork.ev.pid) :
    (∀ before rest, before ++ rest <+: es →
      (run PathFilter.next f (before ++ fork :: rest)).stateByPID c =
        (run PathFilter.next (f.next fork) (before ++ rest)).stateByPID c) ↔
      (f.pathFilterMode = true → ∀ a ∈ es,
        (f.passedOn fork).Idle f.paths (fun site => a.proc site a.ev.pid)
          (f.userAllows a.ev.syscallId) a.ev) := by
  cases mode : f.pathFilterMode with
  | false =>
      -- A filter that is off stays as it is.
      have still : ∀ as, run PathFilter.next f as = f := by
        intro as
        induction as with
        | nil => rfl
        | cons a as ih => rw [run_cons, PathFilter.next_of_off mode, ih]
      refine iff_of_true (fun before rest _ => ?_) nofun
      rw [PathFilter.next_of_off mode, still, still]
  | true =>
      have synced : (f.passedOn fork).Synced f.paths := (hf.consistent.synced _).print _ _
      have idle : (∀ a ∈ es, (f.passedOn fork).Idle f.paths (fun site => a.proc site a.ev.pid)
          (f.userAllows a.ev.syscallId) a.ev) ↔
            ∀ a ∈ es, f.afterArrival (f.passedOn fork) a = f.passedOn fork :=
        forall₂_congr fun a _ => (View.after_eq_self_iff synced).symm
      -- In normal form the states are the same when the views are.
      have views : ∀ before rest, before ++ rest <+: es →
          ((run PathFilter.next f (before ++ fork :: rest)).stateByPID c =
              (run PathFilter.next (f.next fork) (before ++ rest)).stateByPID c ↔
            run f.afterArrival (f.passedOn fork) rest =
              run f.afterArrival (f.passedOn fork) (before ++ rest)) := by
        intro before rest sub
        have late := view_run_fork mode child ne before rest (fun a ha => own a (sub.subset ha))
          fun a ha => noFork a (sub.subset (List.mem_append_left rest ha))
        have early : (run PathFilter.next (f.next fork) (before ++ rest)).view c =
            run f.afterArrival (f.passedOn fork) (before ++ rest) :=
          view_run_fork mode child ne [] (before ++ rest) (fun a ha => own a (sub.subset ha))
            fun a ha => absurd ha List.not_mem_nil
        rw [← late, ← early]
        refine ⟨congrArg viewOf, entry_eq_of_view ?_ ?_⟩
        · exact (hf.run _).consistent.normal c
        · exact (hf.run (fork :: (before ++ rest))).consistent.normal c
      rw [idle, ← run_prefixes_eq_self_iff]
      constructor
      · intro irrelevant _ pre sub
        have whole := (views pre [] (by simpa using sub)).mp
          (irrelevant pre [] (by simpa using sub))
        rw [List.append_nil] at whole
        exact whole.symm
      · intro stays before rest sub
        rw [views before rest sub, stays rfl (before ++ rest) sub]
        -- What comes after the record is a part of `es` too, and idle.
        have idle' := run_prefixes_eq_self_iff.mp (stays rfl)
        refine run_prefixes_eq_self_iff.mpr (fun a ha => idle' a ?_) rest List.prefix_rfl
        exact sub.subset (List.mem_append_right before ha)

end

/-- The child 200 of 100 opens `/a`. -/
def childOpensA : List Arrival := [openA.issuedBy 200]

theorem clone_delivery_iff_childOpensA :
    (∀ before rest, before ++ rest <+: childOpensA →
      (run PathFilter.next beforeOpen (before ++ forkOf100 :: rest)).stateByPID 200 =
        (run PathFilter.next (beforeOpen.next forkOf100) (before ++ rest)).stateByPID 200) ↔
      (beforeOpen.pathFilterMode = true → ∀ a ∈ childOpensA,
        (beforeOpen.passedOn forkOf100).Idle beforeOpen.paths (fun site => a.proc site a.ev.pid)
          (beforeOpen.userAllows a.ev.syscallId) a.ev) := by
  refine clone_delivery_iff beforeOpen forkOf100 200 childOpensA ⟨_, [], rfl⟩ rfl (by decide)
    ?_ ?_
  · intro a ha
    rw [List.mem_singleton.mp ha]
    rfl
  · intro a ha
    rw [List.mem_singleton.mp ha]
    decide

/-- If its record comes before that of the clone, the descriptor is lost. -/
theorem child_open_is_lost :
    (run PathFilter.next beforeOpen (childOpensA ++ [forkOf100])).stateByPID 200 ≠
      (run PathFilter.next (beforeOpen.next forkOf100) childOpensA).stateByPID 200 := by
  intro same
  have tracked := congrArg (fun state => decide (3 ∈ (state.bind
    ProcessPathState.trackedFDs).getD ∅)) same
  revert tracked
  decide +kernel

end Litrace.Trace
