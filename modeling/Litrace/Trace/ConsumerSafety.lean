import Litrace.Trace.Format
import Litrace.Trace.IndexedFilter
import Litrace.Trace.Run

/-!
# No event stops the consumer

The loop of `Run` decodes a sample, asks the filter, and counts or renders the event.
The event may be anything, since any bytes of the right number decode to one.  No
function on the way leaves an array or a payload all the same: the guards of each
suffice whatever the counts, offsets, lengths and indices of the event are.

A formatter of a syscall is safe (`SyscallFormatter.Safe`) if it renders each of the
six arguments and reduces the count of arguments to at most six.  Each entry of the
table is, and this is all the loop over the arguments needs.

The loop is written here once more, in a type in which an index or a slice outside of
its operand is a panic (`Indexed.consume`), and with every index expression of the
source.  That it returns is one half; the other is that it does what the loop of
`Litrace.Trace.Run` does, which takes the indices for granted.  Everything proved of
the latter thereby holds of the code with its indices.
-/

namespace Litrace.Trace

open Checked

variable (ev : Event)

/-! ## Captured data -/

theorem returns_formatVarString (desc : VarArgDesc) : Returns (formatVarString ev desc) := by
  unfold formatVarString
  rw [indexed_varPayloadSlice, ok_bind]
  refine .ite (returns_pure _) (.ite (returns_pure _) ?_)
  cases varPayloadSlice ev desc with
  | none => exact returns_pure _
  | some payload => exact returns_pure _

theorem returns_formatVarArgv (desc : VarArgDesc) : Returns (formatVarArgv ev desc) := by
  unfold formatVarArgv
  rw [indexed_varPayloadSlice, ok_bind]
  refine .ite (returns_pure _) ?_
  cases varPayloadSlice ev desc with
  | none => exact returns_pure _
  | some payload =>
      simp only [argvParts_eq, ok_bind]
      exact returns_pure _

/-- The payload is sliced within the bounds that `varPayloadSlice` has checked, whatever the
descriptor says. -/
theorem returns_formatVarArg (idx : Fin 6) : Returns (formatVarArg ev (idx.val : ℤ)) := by
  cases found : findVarArgDesc ev idx with
  | none => exact ⟨_, formatVarArg_of_none found⟩
  | some desc =>
      have string := (returns_formatVarString ev desc).bind_pure some
      have argv := (returns_formatVarArgv ev desc).bind_pure some
      unfold formatVarArg
      rw [indexed_isVarArgEnabled, ok_bind, indexed_findVarArgDesc, found, ok_bind]
      simp only [index_val, ok_bind]
      exact .ite (returns_pure _) (.ite string (.ite string (.ite argv (returns_pure _))))

/-- The fields of a structure lie within its size, which is compared with the payload first. -/
theorem returns_formatCapturedStat (payload : GoString) :
    Returns (formatCapturedStat payload) := by
  unfold formatCapturedStat
  split
  · exact returns_pure _
  · rw [slice_zero (by omega)]
    exact returns_pure _

theorem returns_formatCapturedStatx (payload : GoString) :
    Returns (formatCapturedStatx payload) := by
  unfold formatCapturedStatx
  split
  · exact returns_pure _
  · rw [slice_zero (by omega)]
    exact returns_pure _

/-! ## Formatters of single syscalls -/

section Formatters

variable {decode : GoString → Checked (Option GoString)}

theorem returns_formatStatArg (decodes : ∀ payload, Returns (decode payload)) (result idx : ℤ) :
    Returns (formatStatArg result decode ev idx) := by
  unfold formatStatArg
  refine .ite (returns_pure _) ((returns_findVarArgDesc ev idx).bind fun found => ?_)
  cases found with
  | none => exact returns_pure _
  | some desc =>
      refine .ite (returns_pure _) ?_
      rw [indexed_varPayloadSlice, ok_bind]
      cases varPayloadSlice ev desc with
      | none => exact returns_pure _
      | some payload => exact (decodes payload).bind_pure _

theorem returns_formatAtStatArg (decodes : ∀ payload, Returns (decode payload)) (result : ℤ)
    (idx : Fin 6) : Returns (formatAtStatArg result decode ev idx.val) := by
  unfold formatAtStatArg
  rw [index_val]
  exact .ite (returns_pure _) (returns_formatStatArg ev decodes result idx.val)

theorem returns_formatMmapArg (idx : Fin 6) : Returns (formatMmapArg ev idx.val) := by
  unfold formatMmapArg
  rw [index_val]
  exact .ite (returns_pure _) (.ite (returns_pure _) (.ite (returns_pure _) (returns_pure _)))

theorem returns_formatOpenArg (flagsIdx dirfdIdx : ℤ) (idx : Fin 6) :
    Returns (formatOpenArg flagsIdx dirfdIdx ev idx.val) := by
  unfold formatOpenArg
  rw [index_val]
  exact .ite (returns_pure _) (.ite (returns_pure _) (returns_pure _))

theorem clampedArgCount_le : clampedArgCount ev ≤ 6 := by
  unfold clampedArgCount
  split <;> omega

/-- The mode of `open` is shown only with certain flags, so the count may be reduced, and never goes
up. -/
theorem effectiveOpenArgCount_le (flags : Fin 6) (modeIdx : ℕ) :
    ∃ count ≤ 6, effectiveOpenArgCount flags.val modeIdx ev = .ok count := by
  have bound := clampedArgCount_le ev
  unfold effectiveOpenArgCount
  rw [index_val]
  by_cases past : modeIdx < clampedArgCount ev
  · cases needed : openNeedsMode (ev.args.get flags) with
    | false => exact ⟨modeIdx, by omega, by simp [past, needed]; rfl⟩
    | true => exact ⟨clampedArgCount ev, bound, by simp [past, needed]; rfl⟩
  · exact ⟨clampedArgCount ev, bound, by simp [past]; rfl⟩

/-- The formatter renders each argument, and counts no more than there are. -/
structure SyscallFormatter.Safe (formatter : SyscallFormatter) : Prop where
  formatArg : ∀ render ∈ formatter.formatArg, ∀ (ev : Event) (idx : Fin 6),
    Returns (render ev idx.val)
  effectiveArgCount : ∀ count ∈ formatter.effectiveArgCount, ∀ ev : Event,
    ∃ n ≤ 6, count ev = .ok n

/-- A formatter that leaves the count alone is safe if it renders the six arguments. -/
theorem SyscallFormatter.Safe.of_formatArg {render : Event → ℤ → Checked (Option GoString)}
    (renders : ∀ (ev : Event) (idx : Fin 6), Returns (render ev idx.val)) :
    (SyscallFormatter.mk (some render) none).Safe where
  formatArg := by
    rintro _ ⟨⟩
    exact renders
  effectiveArgCount := by
    rintro _ ⟨⟩

theorem SyscallFormatter.Safe.open (flags : Fin 6) (dirfdIdx : ℤ) (modeIdx : ℕ) :
    (SyscallFormatter.mk (some (formatOpenArg flags.val dirfdIdx))
      (some (effectiveOpenArgCount flags.val modeIdx))).Safe where
  formatArg := by
    rintro _ ⟨⟩ ev idx
    exact returns_formatOpenArg ev flags.val dirfdIdx idx
  effectiveArgCount := by
    rintro _ ⟨⟩ ev
    exact effectiveOpenArgCount_le ev flags modeIdx

/-- Every formatter of the table is safe. -/
theorem syscallFormatters_safe : ∀ entry ∈ syscallFormatters, entry.2.Safe := by
  have stat : (SyscallFormatter.mk (some (formatStatArg 1 formatCapturedStat)) none).Safe :=
    .of_formatArg fun ev idx => returns_formatStatArg ev returns_formatCapturedStat 1 idx.val
  simp only [syscallFormatters, List.forall_mem_cons]
  exact ⟨.of_formatArg returns_formatMmapArg, .open 1 (-1) 2, .open 2 0 3, stat, stat, stat,
    .of_formatArg fun ev => returns_formatAtStatArg ev returns_formatCapturedStat 2,
    .of_formatArg fun ev => returns_formatAtStatArg ev returns_formatCapturedStatx 4,
    List.forall_mem_nil _⟩

/-- Each entry of the table is safe, so whatever is found for a syscall is. -/
theorem lookupSyscallFormatter_safe {formatter : SyscallFormatter}
    (found : lookupSyscallFormatter ev = some formatter) : formatter.Safe := by
  obtain ⟨before, behind, table, -⟩ := List.lookup_eq_some_iff.1 found
  refine syscallFormatters_safe (ev.syscallId, formatter) ?_
  rw [table]
  exact List.mem_append_right before List.mem_cons_self

end Formatters

/-! ## The line -/

theorem returns_formatArgSpecial (idx : Fin 6) : Returns (formatArgSpecial ev idx.val) := by
  unfold formatArgSpecial
  cases found : lookupSyscallFormatter ev with
  | none => exact returns_pure _
  | some formatter =>
      have safe := lookupSyscallFormatter_safe ev found
      rw [Option.bind_some]
      cases renders : formatter.formatArg with
      | none => exact returns_pure _
      | some render => exact safe.formatArg render renders ev idx

theorem returns_formatArg (idx : Fin 6) : Returns (formatArg ev idx.val) := by
  unfold formatArg
  refine (returns_formatArgSpecial ev idx).bind fun special => ?_
  cases special with
  | some rendered => exact returns_pure _
  | none =>
      refine (returns_formatVarArg ev idx).bind fun var => ?_
      cases var with
      | some rendered => exact returns_pure _
      | none => exact ⟨_, formatArgDefault_val ev idx⟩

/-- Whatever count the event has, at most six arguments are rendered. -/
theorem effectiveArgCount_le : ∃ count ≤ 6, effectiveArgCount ev = .ok count := by
  unfold effectiveArgCount
  cases found : lookupSyscallFormatter ev with
  | none => exact ⟨_, clampedArgCount_le ev, rfl⟩
  | some formatter =>
      have safe := lookupSyscallFormatter_safe ev found
      rw [Option.bind_some]
      cases counts : formatter.effectiveArgCount with
      | none => exact ⟨_, clampedArgCount_le ev, rfl⟩
      | some count => exact safe.effectiveArgCount count counts ev

/-- The loop goes up to the count, which is at most six. -/
theorem returns_formatArgs : Returns (formatArgs ev) := by
  obtain ⟨count, bound, counted⟩ := effectiveArgCount_le ev
  unfold formatArgs
  rw [counted, ok_bind]
  refine (returns_mapM fun i round => ?_).bind_pure _
  have below := List.mem_range.1 round
  exact returns_formatArg ev ⟨i, by omega⟩

theorem returns_formatEventLine (texts : ErrnoTexts) : Returns (formatEventLine texts ev) :=
  (returns_formatArgs ev).bind_pure _

theorem returns_formatOutputLine (texts : ErrnoTexts) (rootTGID : UInt32) :
    Returns (formatOutputLine texts ev rootTGID) :=
  (returns_formatEventLine ev texts).bind_pure _

/-! ## The loop -/

namespace Indexed

variable (cfg : RunConfig) (mode : TargetMode) (texts : ErrnoTexts)

/-- What a round of the loop of `Run` does with a sample, and the line it writes. -/
def handle (r : Recorder) (sample : List UInt8) (proc : ProcCwd) :
    Checked (Recorder × Option GoString) := do
  match decodeEvent sample with
  | none => return ({ r with stderr := r.stderr ++ [.decodingEvent] }, none)
  | some ev =>
      let decided ← shouldOutput r.filter proc ev
      let r := { r with filter := decided.1 }
      if decided.2 = false then return (r, none)
      if cfg.summaryOnly then return ({ r with summary := addSummaryEvent r.summary ev }, none)
      let line ← formatOutputLine texts ev mode.rootTGID
      return ({ r with traceOutput := r.traceOutput ++ [.line ev mode.rootTGID] }, some line)

/-- The rounds of the loop, and the lines they write. -/
def consume (r : Recorder) : List (List UInt8 × ProcCwd) → Checked (Recorder × List GoString)
  | [] => return (r, [])
  | (sample, proc) :: rounds => do
      let (r, line) ← handle cfg mode texts r sample proc
      let (r, lines) ← consume r rounds
      return (r, line.toList ++ lines)

end Indexed

section Rounds

variable (cfg : RunConfig) (mode : TargetMode) (texts : ErrnoTexts)

/-- A round returns on every sample and in every state, and does what it does when
the indices are taken for granted. -/
theorem indexed_handle (r : Recorder) (sample : List UInt8) (proc : ProcCwd) :
    ∃ line, Indexed.handle cfg mode texts r sample proc =
      .ok (r.handle cfg mode sample proc, line) := by
  unfold Indexed.handle Recorder.handle
  cases decodeEvent sample with
  | none => exact ⟨none, rfl⟩
  | some ev =>
      obtain ⟨line, rendered⟩ := returns_formatOutputLine ev texts mode.rootTGID
      simp only [indexed_shouldOutput, rendered, ok_bind]
      cases (r.filter.shouldOutput proc ev).2 with
      | false => exact ⟨none, rfl⟩
      | true =>
          cases cfg.summaryOnly with
          | true => exact ⟨none, rfl⟩
          | false => exact ⟨some line, rfl⟩

/-- So does every sequence of rounds. -/
theorem indexed_consume (r : Recorder) (rounds : List (List UInt8 × ProcCwd)) :
    ∃ lines, Indexed.consume cfg mode texts r rounds =
      .ok (rounds.foldl (fun r round => r.handle cfg mode round.1 round.2) r, lines) := by
  induction rounds generalizing r with
  | nil => exact ⟨[], rfl⟩
  | cons round rounds ih =>
      obtain ⟨line, handled⟩ := indexed_handle cfg mode texts r round.1 round.2
      obtain ⟨lines, rest⟩ := ih (r.handle cfg mode round.1 round.2)
      refine ⟨line.toList ++ lines, ?_⟩
      rw [Indexed.consume, handled, ok_bind]
      dsimp only
      rw [rest, ok_bind, List.foldl_cons]
      rfl

end Rounds

/-- Neither the filter nor the rendering leaves an array or a payload, whatever the
event and the state are, and the loop of `Run` returns from its rounds. -/
theorem consumer_never_panics :
    (∀ (f : PathFilter) (proc : ProcCwd),
      Indexed.shouldOutput f proc ev = .ok (f.shouldOutput proc ev)) ∧
    (∀ (texts : ErrnoTexts) (rootTGID : UInt32),
      ∃ line, formatOutputLine texts ev rootTGID = .ok line) ∧
    ∀ (cfg : RunConfig) (mode : TargetMode) (texts : ErrnoTexts) (r : Recorder)
      (rounds : List (List UInt8 × ProcCwd)),
      ∃ lines, Indexed.consume cfg mode texts r rounds =
        .ok (rounds.foldl (fun r round => r.handle cfg mode round.1 round.2) r, lines) :=
  ⟨fun f proc => indexed_shouldOutput ev proc f, returns_formatOutputLine ev, indexed_consume⟩

end Litrace.Trace
