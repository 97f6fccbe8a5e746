import Litrace.Event
import Litrace.Lib.HashTable
import Mathlib.Data.List.Induction

/-!
# The summary

`summary.go`: what `-c` counts for each syscall.  The counters are 64 bit and wrap
around.  `get_summarize` says what the map holds after any events: an entry for each
syscall that occurs, made of the events of that syscall alone.

The map is built up event by event, as in the source, and `get_summarize` gets rid
of the order: an entry is a fold over the events of its syscall alone.
-/

namespace Litrace.Trace

/-- `syscallSummary`. -/
structure SyscallSummary where
  calls : UInt64
  errors : UInt64
  totalNs : UInt64
  deriving DecidableEq

/-- `syscallSummary{}`. -/
def SyscallSummary.zero : SyscallSummary := ⟨0, 0, 0⟩

/-- `addSummaryEvent`. -/
def addSummaryEvent (summary : GoMap Int64 SyscallSummary) (ev : Event) :
    GoMap Int64 SyscallSummary :=
  let stats := (summary.get ev.syscallId).getD .zero
  summary.set ev.syscallId
    { calls := stats.calls + 1
      errors := if ev.ret < 0 then stats.errors + 1 else stats.errors
      totalNs := stats.totalNs + ev.dur }

/-- The summary of events, one after the other. -/
def summarize (events : List Event) : GoMap Int64 SyscallSummary :=
  events.foldl addSummaryEvent ∅

/-- What events of one syscall add up to. -/
def SyscallSummary.of (events : List Event) : SyscallSummary where
  calls := .ofNat events.length
  errors := .ofNat (events.countP fun ev => ev.ret < 0)
  totalNs := (events.map Event.dur).foldl (· + ·) 0

@[simp] theorem SyscallSummary.of_nil : SyscallSummary.of [] = .zero := rfl

theorem SyscallSummary.of_concat (events : List Event) (ev : Event) :
    SyscallSummary.of (events ++ [ev]) =
      { calls := (SyscallSummary.of events).calls + 1
        errors :=
          if ev.ret < 0 then (SyscallSummary.of events).errors + 1
          else (SyscallSummary.of events).errors
        totalNs := (SyscallSummary.of events).totalNs + ev.dur } := by
  unfold SyscallSummary.of
  congr 1
  · rw [List.length_append, List.length_singleton, UInt64.ofNat_add]
    rfl
  · rw [List.countP_append, List.countP_singleton]
    split
    next failed => rw [if_pos (of_decide_eq_true failed), UInt64.ofNat_add]; rfl
    next fine => rw [if_neg fun failed => fine (decide_eq_true failed), Nat.add_zero]
  · rw [List.map_append, List.map_singleton, List.foldl_append]
    rfl

/-- The entry of a syscall is there if it occurs, and counts its events. -/
theorem get_summarize (events : List Event) (id : Int64) :
    (summarize events).get id =
      if events.filter (fun ev => ev.syscallId = id) = [] then none
      else some (.of (events.filter fun ev => ev.syscallId = id)) := by
  induction events using List.reverseRecOn with
  | nil => rfl
  | append_singleton events ev ih =>
      have last : summarize (events ++ [ev]) = addSummaryEvent (summarize events) ev := by
        rw [summarize, List.foldl_append]
        rfl
      rw [last, addSummaryEvent, GoMap.get_set, List.filter_append]
      by_cases mine : id = ev.syscallId
      · subst mine
        have stats : ((summarize events).get ev.syscallId).getD .zero =
            .of (events.filter fun ev' => ev'.syscallId = ev.syscallId) := by
          rw [ih]
          split
          next none => rw [none, Option.getD_none, SyscallSummary.of_nil]
          next => rw [Option.getD_some]
        have found : [ev].filter (fun ev' => ev'.syscallId = ev.syscallId) = [ev] := by simp
        rw [if_pos rfl, stats, found, if_neg (List.concat_ne_nil _ _), SyscallSummary.of_concat]
      · have other : [ev].filter (fun ev' => ev'.syscallId = id) = [] := by
          simp [Ne.symm mine]
        rw [if_neg mine, ih, other, List.append_nil]

end Litrace.Trace
