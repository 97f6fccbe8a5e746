import Litrace.Lib.Aggregate
import Litrace.Syscalls
import Litrace.Trace.Summary

/-!
# The table of the summary

`format_summary.go`: the rows and totals of the summary and their text.  The map is iterated
in any order and the sort is not stable, so `Tabulates` says which tables there may be.

There is only one: distinct syscalls have distinct names (`Syscalls.name_injective`), so no two
rows are alike for the sort.  It depends on the events but not on their order, since counts and
durations are sums (`SyscallSummary.of_eq_sum`).

A sort that is not stable may put rows in any order that its comparison does not tell apart.
It compares by time and then by name, so rows that are not told apart are of one syscall, and
there is one row for each.  The only thing that is lost is what `uint64` cannot hold.
-/

namespace Litrace.Trace

open Aggregate
open GoString (ascii)
open Strconv (decimal)

/-! ## Definitions -/

/-- `SummaryRow`. -/
structure SummaryRow where
  syscall : GoString
  calls : UInt64
  errors : UInt64
  totalNs : UInt64
  deriving DecidableEq

/-- The rows and the totals. -/
structure SummaryTable where
  rows : List SummaryRow
  totalCalls : UInt64
  totalErrors : UInt64
  totalNs : UInt64

/-- The row of an entry. -/
def SummaryRow.ofEntry (entry : Int64 × SyscallSummary) : SummaryRow where
  syscall := Syscalls.name entry.1
  calls := entry.2.calls
  errors := entry.2.errors
  totalNs := entry.2.totalNs

/-- The body of the first loop of `FormatSummary`. -/
def SummaryTable.add (table : SummaryTable) (entry : Int64 × SyscallSummary) : SummaryTable where
  rows := table.rows ++ [.ofEntry entry]
  totalCalls := table.totalCalls + entry.2.calls
  totalErrors := table.totalErrors + entry.2.errors
  totalNs := table.totalNs + entry.2.totalNs

/-- The first loop of `FormatSummary`, over the entries in some order. -/
def collectRows (order : List (Int64 × SyscallSummary)) : SummaryTable :=
  order.foldl SummaryTable.add ⟨[], 0, 0, 0⟩

/-- The comparison of the sort. -/
def SummaryRow.less (a b : SummaryRow) : Bool :=
  if a.totalNs ≠ b.totalNs then decide (b.totalNs < a.totalNs) else decide (a.syscall < b.syscall)

/-- The tables that `FormatSummary` may write: for some order of the iteration and some result
of the sort. -/
def Tabulates (summary : GoMap Int64 SyscallSummary) (table : SummaryTable) : Prop :=
  ∃ order rows, summary.Iterates order ∧ Sorts SummaryRow.less (collectRows order).rows rows ∧
    table = { collectRows order with rows := rows }

/-- `summaryUsecsPerCall`. -/
def summaryUsecsPerCall (totalNs calls : UInt64) : UInt64 :=
  if calls = 0 then 0 else totalNs / 1000 / calls

/-- The texts of floating point numbers: `%6.2f` of `summaryPercent`, and `%11.6f` of seconds. -/
structure FloatTexts where
  percent : UInt64 → UInt64 → GoString
  seconds : UInt64 → GoString

/-- `%*d`. -/
def padded (width : ℕ) (n : UInt64) : GoString :=
  let digits := decimal n.toNat
  List.replicate (width - digits.length) 32 ++ digits

/-- A line of the table. -/
def summaryLine (floats : FloatTexts) (allNs totalNs calls errors : UInt64) (label : GoString) :
    GoString :=
  floats.percent totalNs allNs ++ ascii " " ++ floats.seconds totalNs ++ ascii " " ++
    padded 11 (summaryUsecsPerCall totalNs calls) ++ ascii " " ++ padded 9 calls ++ ascii " " ++
    padded 9 errors ++ ascii " " ++ label ++ ascii "\n"

def summaryHead : GoString := ascii "% time     seconds  usecs/call     calls    errors syscall\n"

def summaryRule : GoString :=
  ascii "------ ----------- ----------- --------- --------- ----------------\n"

/-- The text of a table. -/
def SummaryTable.text (floats : FloatTexts) (table : SummaryTable) : GoString :=
  summaryHead ++ summaryRule ++
    (table.rows.map fun row =>
      summaryLine floats table.totalNs row.totalNs row.calls row.errors row.syscall).flatten ++
    summaryRule ++
    summaryLine floats table.totalNs table.totalNs table.totalCalls table.totalErrors
      (ascii "total")

/-- `FormatSummary` may write this text. -/
def FormatSummary (floats : FloatTexts) (summary : GoMap Int64 SyscallSummary) (text : GoString) :
    Prop :=
  ∃ table, Tabulates summary table ∧ text = table.text floats

/-! ## Counts and durations are sums -/

namespace SyscallSummary

theorem ext_fields {s t : SyscallSummary} (calls : s.calls = t.calls) (errors : s.errors = t.errors)
    (totalNs : s.totalNs = t.totalNs) : s = t := by
  cases s
  cases t
  cases calls
  cases errors
  cases totalNs
  rfl

instance : Zero SyscallSummary := ⟨.zero⟩

/-- Field by field. -/
instance : Add SyscallSummary :=
  ⟨fun s t => ⟨s.calls + t.calls, s.errors + t.errors, s.totalNs + t.totalNs⟩⟩

instance : AddCommMonoid SyscallSummary where
  add_assoc _ _ _ :=
    ext_fields (UInt64.add_assoc _ _ _) (UInt64.add_assoc _ _ _) (UInt64.add_assoc _ _ _)
  zero_add _ := ext_fields (UInt64.zero_add _) (UInt64.zero_add _) (UInt64.zero_add _)
  add_zero _ := ext_fields (UInt64.add_zero _) (UInt64.add_zero _) (UInt64.add_zero _)
  add_comm _ _ := ext_fields (UInt64.add_comm _ _) (UInt64.add_comm _ _) (UInt64.add_comm _ _)
  nsmul := nsmulRec

/-- What one event adds. -/
def ofEvent (ev : Event) : SyscallSummary := ⟨1, if ev.ret < 0 then 1 else 0, ev.dur⟩

/-- What events of one syscall add up to is a sum. -/
theorem of_eq_sum (events : List Event) : SyscallSummary.of events = (events.map ofEvent).sum := by
  induction events using List.reverseRecOn with
  | nil => rfl
  | append_singleton events ev ih =>
      rw [of_concat, ih, List.map_append, List.sum_append, List.map_singleton, List.sum_singleton]
      refine ext_fields rfl ?_ rfl
      show (if ev.ret < 0 then _ + 1 else _) = _ + (if ev.ret < 0 then (1 : UInt64) else 0)
      split
      · rfl
      · rw [UInt64.add_zero]

/-- The durations as a number. -/
theorem of_totalNs (events : List Event) :
    (SyscallSummary.of events).totalNs = .ofNat (events.map fun ev => ev.dur.toNat).sum := by
  induction events using List.reverseRecOn with
  | nil => rfl
  | append_singleton events ev ih =>
      rw [of_concat, List.map_append, List.sum_append, UInt64.ofNat_add, ← ih, List.map_singleton,
        List.sum_singleton, UInt64.ofNat_toNat]

end SyscallSummary

/-- The sums do not depend on the order of the events. -/
theorem of_filter_perm {events events' : List Event} (perm : events.Perm events') (id : Int64) :
    SyscallSummary.of (events.filter fun ev => ev.syscallId = id) =
      SyscallSummary.of (events'.filter fun ev => ev.syscallId = id) := by
  rw [SyscallSummary.of_eq_sum, SyscallSummary.of_eq_sum]
  exact congrFun (groupSum_perm perm) id

/-! ## The entries of the map -/

/-- The syscalls that occur. -/
def occurring (events : List Event) : List Int64 := (events.map Event.syscallId).dedup

theorem occurring_nodup (events : List Event) : (occurring events).Nodup := List.nodup_dedup _

theorem mem_occurring {events : List Event} {id : Int64} :
    id ∈ occurring events ↔ events.filter (fun ev => ev.syscallId = id) ≠ [] := by
  rw [occurring, List.mem_dedup, List.mem_map, Ne, List.filter_eq_nil_iff]
  push Not
  exact exists_congr fun ev => and_congr_right fun _ => (decide_eq_true_iff).symm

/-- The entries of the summary in the order of the syscalls that occur. -/
def entriesOf (events : List Event) : List (Int64 × SyscallSummary) :=
  (occurring events).map fun id => (id, .of (events.filter fun ev => ev.syscallId = id))

theorem iterates_entriesOf (events : List Event) :
    (summarize events).Iterates (entriesOf events) := by
  constructor
  · rw [entriesOf, List.map_map]
    exact (List.map_id' (occurring events)).symm ▸ occurring_nodup events
  · intro id stats
    rw [get_summarize, entriesOf, List.mem_map]
    split
    next none =>
      refine iff_of_false ?_ (by simp)
      rintro ⟨id', mem, same⟩
      cases same
      exact mem_occurring.1 mem none
    next some =>
      rw [Option.some.injEq]
      constructor
      · rintro ⟨id', -, same⟩
        cases same
        rfl
      · rintro rfl
        exact ⟨id, mem_occurring.2 some, rfl⟩

/-! ## The loop -/

theorem collectRows_concat (order : List (Int64 × SyscallSummary))
    (entry : Int64 × SyscallSummary) :
    collectRows (order ++ [entry]) = (collectRows order).add entry := by
  rw [collectRows, List.foldl_append]
  rfl

theorem collectRows_rows (order : List (Int64 × SyscallSummary)) :
    (collectRows order).rows = order.map .ofEntry := by
  induction order using List.reverseRecOn with
  | nil => rfl
  | append_singleton order entry ih =>
      rw [collectRows_concat, List.map_append, ← ih]
      rfl

/-- The totals as one sum. -/
def SummaryTable.totals (table : SummaryTable) : SyscallSummary :=
  ⟨table.totalCalls, table.totalErrors, table.totalNs⟩

theorem collectRows_totals (order : List (Int64 × SyscallSummary)) :
    (collectRows order).totals = (order.map Prod.snd).sum := by
  induction order using List.reverseRecOn with
  | nil => rfl
  | append_singleton order entry ih =>
      rw [collectRows_concat, List.map_append, List.sum_append, ← ih, List.map_singleton,
        List.sum_singleton]
      rfl

/-- The totals are those of all events. -/
theorem totals_of_iterates {events : List Event} {order : List (Int64 × SyscallSummary)}
    (iterates : (summarize events).Iterates order) :
    (collectRows order).totals = SyscallSummary.of events := by
  have covers : ∀ ev ∈ events, ev.syscallId ∈ occurring events := by
    intro ev mem
    exact List.mem_dedup.2 (List.mem_map_of_mem mem)
  have groups : (entriesOf events).map Prod.snd = (occurring events).map
      (groupSum Event.syscallId SyscallSummary.ofEvent events) := by
    rw [entriesOf, List.map_map]
    exact List.map_congr_left fun id _ => SyscallSummary.of_eq_sum _
  calc (collectRows order).totals = (order.map Prod.snd).sum := collectRows_totals order
    _ = ((entriesOf events).map Prod.snd).sum :=
      ((iterates.perm (iterates_entriesOf events)).map Prod.snd).sum_eq
    _ = (events.map SyscallSummary.ofEvent).sum := by
      rw [groups, sum_groupSum (occurring_nodup events) covers]
    _ = SyscallSummary.of events := (SyscallSummary.of_eq_sum events).symm

/-! ## The sort -/

namespace SummaryRow

variable {a b c : SummaryRow}

theorem less_iff : less a b = true ↔
    b.totalNs < a.totalNs ∨ a.totalNs = b.totalNs ∧ a.syscall < b.syscall := by
  unfold less
  split
  next other => rw [decide_eq_true_eq, or_iff_left fun h => other h.1]
  next same =>
    rw [not_not] at same
    rw [decide_eq_true_eq, same, and_iff_right rfl, or_iff_right (UInt64.lt_irrefl _)]

theorem not_less_iff : less a b = false ↔
    a.totalNs ≤ b.totalNs ∧ (a.totalNs = b.totalNs → b.syscall ≤ a.syscall) := by
  rw [← Bool.not_eq_true, less_iff, not_or, UInt64.not_lt, not_and, List.not_lt]

theorem less_asymm (h : less a b = true) : less b a = false := by
  rw [less_iff] at h
  rw [not_less_iff]
  rcases h with slower | ⟨same, before⟩
  · exact ⟨UInt64.le_of_lt slower, fun same => absurd (same ▸ slower) (UInt64.lt_irrefl _)⟩
  · exact ⟨same ▸ UInt64.le_refl _, fun _ => List.le_of_lt before⟩

theorem not_less_trans (hab : less b a = false) (hbc : less c b = false) : less c a = false := by
  rw [not_less_iff] at hab hbc ⊢
  refine ⟨UInt64.le_trans hbc.1 hab.1, fun same => ?_⟩
  have middle : b.totalNs = a.totalNs := UInt64.le_antisymm hab.1 (same ▸ hbc.1)
  exact List.le_trans (hab.2 middle) (hbc.2 (same.trans middle.symm))

/-- Rows that the sort does not tell apart have one name. -/
theorem syscall_eq_of_not_less (hab : less a b = false) (hba : less b a = false) :
    a.syscall = b.syscall := by
  rw [not_less_iff] at hab hba
  have same : a.totalNs = b.totalNs := UInt64.le_antisymm hab.1 hba.1
  exact List.le_antisymm (hba.2 same.symm) (hab.2 same)

end SummaryRow

/-! ## The table -/

/-- The row of a syscall: the number of its events, of those that failed, and the sum of their
durations, each modulo `2^64`. -/
def rowOf (events : List Event) (id : Int64) : SummaryRow :=
  let mine := events.filter fun ev => ev.syscallId = id
  { syscall := Syscalls.name id
    calls := .ofNat mine.length
    errors := .ofNat (mine.countP fun ev => ev.ret < 0)
    totalNs := .ofNat (mine.map fun ev => ev.dur.toNat).sum }

/-- The table is the aggregate of the events. -/
structure Faithful (events : List Event) (table : SummaryTable) : Prop where
  /-- There is one row for each syscall that occurs. -/
  rows : table.rows.Perm ((occurring events).map (rowOf events))
  /-- No name occurs twice. -/
  names : (table.rows.map SummaryRow.syscall).Nodup
  /-- The longest come first, and those that took equally long by name. -/
  ordered : table.rows.Pairwise fun a b =>
    b.totalNs < a.totalNs ∨ a.totalNs = b.totalNs ∧ a.syscall < b.syscall
  calls : table.totalCalls = .ofNat events.length
  errors : table.totalErrors = .ofNat (events.countP fun ev => ev.ret < 0)
  totalNs : table.totalNs = .ofNat (events.map fun ev => ev.dur.toNat).sum

theorem ofEntry_entriesOf (events : List Event) :
    (entriesOf events).map .ofEntry = (occurring events).map (rowOf events) := by
  rw [entriesOf, List.map_map]
  refine List.map_congr_left fun id _ => ?_
  show SummaryRow.mk _ _ _ _ = SummaryRow.mk _ _ _ _
  rw [SyscallSummary.of_totalNs]
  rfl

/-- The names of the rows are those of distinct syscalls. -/
theorem names_nodup (events : List Event) :
    (((occurring events).map (rowOf events)).map SummaryRow.syscall).Nodup := by
  rw [List.map_map]
  exact (occurring_nodup events).map Syscalls.name_injective

section

variable {events : List Event} {table : SummaryTable}

/-- The rows before the sort, in any order. -/
theorem collectRows_perm {order : List (Int64 × SyscallSummary)}
    (iterates : (summarize events).Iterates order) :
    (collectRows order).rows.Perm ((occurring events).map (rowOf events)) := by
  rw [collectRows_rows, ← ofEntry_entriesOf]
  exact (iterates.perm (iterates_entriesOf events)).map _

theorem faithful_of_tabulates (tabulates : Tabulates (summarize events) table) :
    Faithful events table := by
  obtain ⟨order, rows, iterates, sorts, rfl⟩ := tabulates
  have perm : rows.Perm ((occurring events).map (rowOf events)) :=
    sorts.1.trans (collectRows_perm iterates)
  have names : (rows.map SummaryRow.syscall).Nodup :=
    (perm.map SummaryRow.syscall).nodup_iff.2 (names_nodup events)
  have totals := totals_of_iterates iterates
  refine ⟨perm, names, ?_, congrArg SyscallSummary.calls totals,
    congrArg SyscallSummary.errors totals, ?_⟩
  · have distinct : rows.Pairwise fun a b => a.syscall ≠ b.syscall := List.pairwise_map.1 names
    refine (sorts.2.and distinct).imp fun {a b} ⟨notLess, ne⟩ => ?_
    rw [← SummaryRow.less_iff]
    by_contra notLess'
    exact ne (SummaryRow.syscall_eq_of_not_less (Bool.eq_false_of_not_eq_true notLess') notLess)
  · exact (congrArg SyscallSummary.totalNs totals).trans (SyscallSummary.of_totalNs events)

/-- There is a table, for some order of the iteration. -/
theorem exists_tabulates (events : List Event) :
    ∃ table, Tabulates (summarize events) table := by
  obtain ⟨rows, sorts⟩ : ∃ rows, Sorts SummaryRow.less (collectRows (entriesOf events)).rows rows :=
    exists_sorts @SummaryRow.less_asymm @SummaryRow.not_less_trans _
  exact ⟨_, entriesOf events, rows, iterates_entriesOf events, sorts, rfl⟩

/-- Whatever the order of the events and of the iterations, the table is the same. -/
theorem Tabulates.unique {events' : List Event} {table' : SummaryTable}
    (perm : events.Perm events') (tabulates : Tabulates (summarize events) table)
    (tabulates' : Tabulates (summarize events') table') : table = table' := by
  have same : summarize events = summarize events' := by
    refine GoMap.ext_get fun id => ?_
    rw [get_summarize, get_summarize, of_filter_perm perm]
    exact if_congr (by rw [← List.length_eq_zero_iff, ← List.length_eq_zero_iff,
      (perm.filter _).length_eq]) rfl rfl
  obtain ⟨order, rows, iterates, sorts, rfl⟩ := tabulates
  obtain ⟨order', rows', iterates', sorts', rfl⟩ := tabulates'
  rw [← same] at iterates'
  have rowsPerm : (collectRows order).rows.Perm (collectRows order').rows :=
    (collectRows_perm iterates).trans (collectRows_perm iterates').symm
  have apart : ∀ a ∈ (collectRows order).rows, ∀ b ∈ (collectRows order).rows,
      a.less b = false → b.less a = false → a = b := by
    intro a memA b memB hab hba
    have names : ((collectRows order).rows.map SummaryRow.syscall).Nodup :=
      ((collectRows_perm iterates).map SummaryRow.syscall).nodup_iff.2 (names_nodup events)
    exact List.inj_on_of_nodup_map names memA memB (SummaryRow.syscall_eq_of_not_less hab hba)
  have totals : (collectRows order).totals = (collectRows order').totals :=
    (totals_of_iterates iterates).trans (totals_of_iterates iterates').symm
  rw [sorts.unique sorts' rowsPerm apart]
  unfold SummaryTable.totals at totals
  injection totals with calls errors totalNs
  show SummaryTable.mk rows' _ _ _ = SummaryTable.mk rows' _ _ _
  rw [calls, errors, totalNs]

/-- **The summary is a faithful aggregate** of the events: there is a table, it has the counts
and sums modulo `2^64` of each syscall that occurs and of all events, in order, and it is the
same for every order of the events, of the iterations over the map and of the sort.

`Tabulates` allows every order of the iteration and every result of a sort that is not stable.
That there is one table for all of them, and for every order of the events, makes the summary a
function of the multiset of the events. -/
theorem summary_is_faithful (events : List Event) :
    (∃ table, Tabulates (summarize events) table) ∧
      (∀ table, Tabulates (summarize events) table → Faithful events table) ∧
      (∀ events', events.Perm events' → ∀ table table', Tabulates (summarize events) table →
        Tabulates (summarize events') table' → table = table') ∧
      (∀ events', events.Perm events' → ∀ floats text text',
        FormatSummary floats (summarize events) text →
          FormatSummary floats (summarize events') text' → text = text') ∧
      Function.Injective Syscalls.name := by
  refine ⟨exists_tabulates events, fun _ => faithful_of_tabulates,
    fun _ perm _ _ => Tabulates.unique perm, ?_, Syscalls.name_injective⟩
  rintro events' perm floats _ _ ⟨table, tabulates, rfl⟩ ⟨table', tabulates', rfl⟩
  rw [tabulates.unique perm tabulates']

/-- Events that are all alike are counted in one row. -/
theorem mem_rows_of_replicate {n : ℕ} {ev : Event} (some : n ≠ 0)
    (faithful : Faithful (List.replicate n ev) table) :
    ∃ row ∈ table.rows, row.syscall = Syscalls.name ev.syscallId ∧ row.calls = .ofNat n := by
  have occurs : ev.syscallId ∈ occurring (List.replicate n ev) :=
    List.mem_dedup.2 (List.mem_map_of_mem (List.mem_replicate.2 ⟨some, rfl⟩))
  refine ⟨_, faithful.rows.symm.subset (List.mem_map_of_mem occurs), rfl, ?_⟩
  show UInt64.ofNat (List.length _) = _
  rw [List.filter_eq_self.2, List.length_replicate]
  intro ev' mem
  rw [List.eq_of_mem_replicate mem]
  exact decide_eq_true rfl

end

/-- **Counters wrap**: of `2^64` events of one syscall the table counts none. -/
theorem calls_wrap_around : ∃ events table, events = List.replicate (2 ^ 64) Event.zero ∧
    Tabulates (summarize events) table ∧ table.totalCalls.toNat ≠ events.length ∧
    ∃ row ∈ table.rows, row.syscall = Syscalls.name Event.zero.syscallId ∧ row.calls = 0 := by
  obtain ⟨table, tabulates⟩ := exists_tabulates (List.replicate (2 ^ 64) Event.zero)
  have faithful := faithful_of_tabulates tabulates
  have wrapped : UInt64.ofNat (2 ^ 64) = 0 := rfl
  obtain ⟨row, mem, called, calls⟩ := mem_rows_of_replicate (by decide) faithful
  refine ⟨_, table, rfl, tabulates, ?_, row, mem, called, calls.trans wrapped⟩
  rw [faithful.calls, List.length_replicate, wrapped]
  decide

end Litrace.Trace
