import Litrace.Lib.Checked
import Litrace.Trace.PathFilter

/-!
# Descriptors and payloads, with their indices

`findVarArgDesc`, `varPayloadSlice` and `isVarArgEnabled` of `format_var.go` with
every index and slice expression as it stands there, so that it can be said that
none of them leaves its array.  The counts and offsets they use come from the
event as it was decoded and may be anything.

`findVarArgDesc` bounds its loop by the count of the event and by the length of
the array; the slice is taken only after offset and length were compared with the
length of the payload and with the array.  Each guard is needed on some event, as
none of the numbers has been checked before.
-/

namespace Litrace.Trace

namespace Indexed

/-- The rounds of a loop over the descriptors: `i < int(ev.VarCount) && i < len(ev.VarDesc)`. -/
def descRounds (ev : Event) : List ℕ := List.range (min ev.varCount.toNat 6)

/-- `isVarArgEnabled`. -/
def isVarArgEnabled (ev : Event) (idx : ℤ) : Checked Bool := do
  if idx < 0 ∨ 6 ≤ idx then return false
  let found ← (descRounds ev).findSomeM? fun (i : ℕ) => do
    if ((← Checked.index ev.varDesc i).argIndex.toNat : ℤ) = idx then
      return some (decide (VarArgKind.string ≤ (← Checked.index ev.argTypes idx)) &&
        decide ((← Checked.index ev.argTypes idx) ≤ VarArgKind.argv))
    else return none
  return found.getD false

/-- `findVarArgDesc`. -/
def findVarArgDesc (ev : Event) (idx : ℤ) : Checked (Option VarArgDesc) :=
  (descRounds ev).findSomeM? fun (i : ℕ) => do
    let desc ← Checked.index ev.varDesc i
    return if (desc.argIndex.toNat : ℤ) = idx then some desc else none

/-- `varPayloadSlice`. -/
def varPayloadSlice (ev : Event) (desc : VarArgDesc) : Checked (Option GoString) := do
  let payloadLen : ℤ := if 512 < ev.payloadLen.toNat then 512 else ev.payloadLen.toNat
  let start : ℤ := desc.offset.toNat
  let stop : ℤ := start + desc.length.toNat
  if start < 0 ∨ stop < start ∨ payloadLen < stop then return none
  else return some (← Checked.slice ev.payload.toList start stop)

/-- `eventTracePathAt`. -/
def eventTracePathAt (ev : Event) (argIndex : ℤ) : Checked (Option GoString) := do
  match ← findVarArgDesc ev argIndex with
  | none => return none
  | some desc => if desc.flags ≠ VarFlag.none then return none else varPayloadSlice ev desc

end Indexed

/-! ## They stay inside -/

variable (ev : Event)

theorem lt_six_of_mem_descRounds {i : ℕ} (round : i ∈ Indexed.descRounds ev) : i < 6 := by
  have h := List.mem_range.1 round
  omega

/-- The descriptor a round looks at, if it is that of the argument. -/
def descFor (idx : ℤ) (i : ℕ) : Option VarArgDesc :=
  if inside : i < 6 then
    if ((ev.varDesc.get ⟨i, inside⟩).argIndex.toNat : ℤ) = idx then
      some (ev.varDesc.get ⟨i, inside⟩)
    else none
  else none

theorem indexed_findVarArgDesc_eq (idx : ℤ) :
    Indexed.findVarArgDesc ev idx =
      .ok ((Indexed.descRounds ev).findSome? (descFor ev idx)) := by
  unfold Indexed.findVarArgDesc
  refine Checked.findSomeM?_eq_ok fun i round => ?_
  have inside := lt_six_of_mem_descRounds ev round
  rw [Checked.index_natCast ev.varDesc inside, descFor, dif_pos inside]
  rfl

/-- The loop finds the descriptor that `findVarArgDesc` finds. -/
theorem indexed_findVarArgDesc (idx : Fin 6) :
    Indexed.findVarArgDesc ev (idx.val : ℤ) = .ok (findVarArgDesc ev idx) := by
  rw [indexed_findVarArgDesc_eq, Indexed.descRounds]
  have rounds := Checked.findSome?_range_min (n := 6) ev.varCount.toNat fun i =>
    if ((ev.varDesc.get i).argIndex.toNat : ℤ) = (idx.val : ℤ) then some (ev.varDesc.get i)
    else none
  refine congrArg _ (rounds.trans ?_)
  rw [findVarArgDesc, ← List.findSome?_guard, List.map_findSome?]
  congr 1
  funext i
  by_cases before : i.val < ev.varCount.toNat
  · by_cases mine : (ev.varDesc.get i).argIndex.toNat = idx.val
    · simp [before, mine]
    · have apart : ((ev.varDesc.get i).argIndex.toNat : ℤ) ≠ (idx.val : ℤ) := by omega
      simp [before, mine, apart, Option.guard]
  · simp [before]

theorem returns_findVarArgDesc (idx : ℤ) : Checked.Returns (Indexed.findVarArgDesc ev idx) :=
  ⟨_, indexed_findVarArgDesc_eq ev idx⟩

/-- The payload of a descriptor lies in the event's buffer, whatever its offset and
length. -/
theorem indexed_varPayloadSlice (desc : VarArgDesc) :
    Indexed.varPayloadSlice ev desc = .ok (varPayloadSlice ev desc) := by
  have clamp : (if 512 < ev.payloadLen.toNat then (512 : ℤ) else ev.payloadLen.toNat) =
      ((min ev.payloadLen.toNat 512 : ℕ) : ℤ) := by
    split <;> omega
  rw [Indexed.varPayloadSlice, varPayloadSlice, clamp]
  by_cases past : min ev.payloadLen.toNat 512 < desc.offset.toNat + desc.length.toNat
  · rw [if_pos (Or.inr (Or.inr (by omega))), if_pos past]
    rfl
  · have inside : (desc.offset.toNat + desc.length.toNat : ℤ) ≤ ev.payload.toList.length := by
      rw [Vector.length_toList]
      omega
    have size : ((desc.offset.toNat : ℤ) + desc.length.toNat).toNat -
        (desc.offset.toNat : ℤ).toNat = desc.length.toNat := by
      omega
    rw [if_neg (by omega), if_neg past, Checked.slice_eq_ok (by omega) (by omega) inside, size]
    rfl

theorem indexed_eventTracePathAt (argIndex : Fin 6) :
    Indexed.eventTracePathAt ev (argIndex.val : ℤ) = .ok (eventTracePathAt ev argIndex) := by
  rw [Indexed.eventTracePathAt, indexed_findVarArgDesc, Checked.ok_bind, eventTracePathAt]
  cases findVarArgDesc ev argIndex with
  | none => rfl
  | some desc =>
      change (if desc.flags ≠ VarFlag.none then pure none else Indexed.varPayloadSlice ev desc) =
        .ok (if desc.flags ≠ VarFlag.none then none else varPayloadSlice ev desc)
      split
      · rfl
      · exact indexed_varPayloadSlice ev desc

/-- The type of an argument is one of the kinds of variable arguments. -/
def isVarArgKind (typ : UInt8) : Bool :=
  decide (VarArgKind.string ≤ typ) && decide (typ ≤ VarArgKind.argv)

/-- An argument is enabled if it has a descriptor and its type is one of the kinds. -/
theorem indexed_isVarArgEnabled (idx : Fin 6) :
    Indexed.isVarArgEnabled ev (idx.val : ℤ) =
      .ok ((findVarArgDesc ev idx).isSome && isVarArgKind (ev.argTypes.get idx)) := by
  have bounds := idx.isLt
  have rounds : (Indexed.descRounds ev).findSomeM? (fun (i : ℕ) => do
      if ((← Checked.index ev.varDesc i).argIndex.toNat : ℤ) = (idx.val : ℤ) then
        return some (decide (VarArgKind.string ≤ (← Checked.index ev.argTypes (idx.val : ℤ))) &&
          decide ((← Checked.index ev.argTypes (idx.val : ℤ)) ≤ VarArgKind.argv))
      else return none) =
      .ok ((Indexed.descRounds ev).findSome? fun i =>
        (descFor ev idx.val i).map fun _ => isVarArgKind (ev.argTypes.get idx)) := by
    refine Checked.findSomeM?_eq_ok fun i round => ?_
    have inside := lt_six_of_mem_descRounds ev round
    rw [Checked.index_natCast ev.varDesc inside, Checked.index_val, descFor, dif_pos inside,
      Checked.ok_bind]
    by_cases mine : ((ev.varDesc.get ⟨i, inside⟩).argIndex.toNat : ℤ) = (idx.val : ℤ)
    · simp only [mine, if_true]
      rfl
    · simp only [mine, if_false]
      rfl
  have found := indexed_findVarArgDesc ev idx
  rw [indexed_findVarArgDesc_eq, Except.ok.injEq] at found
  rw [Indexed.isVarArgEnabled, if_neg (by omega)]
  simp only [rounds, Checked.ok_bind]
  rw [← Function.comp_def, ← List.map_findSome?, found]
  cases findVarArgDesc ev idx with
  | none => rfl
  | some desc => rfl

end Litrace.Trace
