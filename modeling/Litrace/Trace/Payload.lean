import Litrace.Bpf.SubmittedVars
import Litrace.Trace.PathFilter
import Mathlib.Order.Interval.Finset.Nat

/-!
# The payload of a submitted event is readable

`varPayloadSlice` cuts a variable out of the payload by the offset and the
length of its descriptor, and gives up where they reach behind the payload's
length.  On the events that are submitted it gives up for no variable that was
captured, whichever of the two layouts the descriptor belongs to.

Generic captures lie in slots of 256 bytes and the snapshot of `execve` is
packed, and the length of the payload is that of the last byte used, so that a
descriptor is inside is a fact about all captures of the event together
(`exitEvent_varsDelivered`).  A descriptor may have no bytes at all, if the
pointer was null or could not be read; it is flagged then, and not looked at.
-/

namespace Litrace.Trace

open Bpf Transition

/-- The bytes of the payload a descriptor claims. -/
def byteRange (desc : VarArgDesc) : Finset ℕ :=
  Finset.Ico desc.offset.toNat (desc.offset.toNat + desc.length.toNat)

/-- Each variable of the event is read back as it was captured, unless its
descriptor says that there is nothing to read. -/
structure PayloadReadable (ev : Event) (captured : List Captured) : Prop where
  varCount_le : ev.varCount ≤ 2
  payloadLen_le : ev.payloadLen ≤ 512
  each : ∀ k : Fin 6, k.1 < ev.varCount.toNat → ∃ c, captured[k.1]? = some c ∧
    (ev.varDesc.get k).argIndex = c.argIndex.1.toUInt8 ∧ (ev.varDesc.get k).flags = c.flags ∧
      (Failed (ev.varDesc.get k).flags ∨
        varPayloadSlice ev (ev.varDesc.get k) = some c.bytes)
  disjoint : ∀ j k : Fin 6, j ≠ k → j.1 < ev.varCount.toNat → k.1 < ev.varCount.toNat →
    Disjoint (byteRange (ev.varDesc.get j)) (byteRange (ev.varDesc.get k))

/-- A descriptor that delivers its capture is cut out as it was captured. -/
theorem varPayloadSlice_of_delivers {ev : Event} {desc : VarArgDesc} {c : Captured}
    (bounded : ev.payloadLen.toNat ≤ 512)
    (delivers : DescDelivers ev.payload ev.payloadLen.toNat desc c) (ok : ¬ Failed desc.flags) :
    varPayloadSlice ev desc = some c.bytes := by
  have reach := delivers.reach.resolve_left (by rwa [← delivers.flags])
  have inside : ¬ min ev.payloadLen.toNat 512 < desc.offset.toNat + desc.length.toNat := by
    rw [delivers.length]
    omega
  rw [varPayloadSlice, if_neg inside, delivers.length]
  exact congrArg some delivers.bytes

theorem toNat_toUInt8 (i : Fin 6) : (UInt8.ofNat i.1).toNat = i.1 :=
  Nat.mod_eq_of_lt (show i.1 < 256 by omega)

/-- The descriptor of a captured argument is found. -/
theorem findVarArgDesc_of_delivered {ev : Event} {captured : List Captured}
    (delivered : VarsDelivered ev captured) (k : Fin 6) (h : k.1 < captured.length)
    (first : ∀ (j : ℕ) (before : j < k.1), captured[j].argIndex ≠ captured[k.1].argIndex) :
    findVarArgDesc ev captured[k.1].argIndex = some (ev.varDesc.get k) := by
  rw [findVarArgDesc, Option.map_eq_some_iff]
  have hlen : k.1 < (List.finRange 6).length := by simp
  refine ⟨k, List.find?_eq_some_iff_getElem.mpr ⟨?_, k.1, hlen, by simp, ?_⟩, rfl⟩
  · rw [delivered.varCount, (delivered.each k h).argIndex, toNat_toUInt8, decide_eq_true h,
      Bool.true_and, beq_self_eq_true]
  · intro j before
    have inside : j < captured.length := before.trans h
    have index := (delivered.each ⟨j, before.trans k.2⟩ inside).argIndex
    have other : captured[j].argIndex.1 ≠ captured[k.1].argIndex.1 := fun same =>
      first j before (Fin.ext same)
    have bound : j < (List.finRange 6).length := before.trans hlen
    have nth : (List.finRange 6)[j] = ⟨j, before.trans k.2⟩ := List.getElem_finRange _
    rw [nth, index, toNat_toUInt8]
    simp [other]

/-- The path at a captured argument: the captured bytes, if nothing is flagged. -/
theorem eventTracePathAt_of_delivered {ev : Event} {captured : List Captured}
    (delivered : VarsDelivered ev captured) (k : Fin 6) (h : k.1 < captured.length)
    (first : ∀ (j : ℕ) (before : j < k.1), captured[j].argIndex ≠ captured[k.1].argIndex) :
    eventTracePathAt ev captured[k.1].argIndex =
      if captured[k.1].flags = VarFlag.none then some captured[k.1].bytes else none := by
  have delivers := delivered.each k h
  rw [eventTracePathAt, findVarArgDesc_of_delivered delivered k h first]
  dsimp only
  rw [delivers.flags]
  by_cases clear : captured[k.1].flags = VarFlag.none
  · rw [if_neg (not_not.mpr clear), if_pos clear]
    refine varPayloadSlice_of_delivers delivered.payloadLen delivers ?_
    rw [delivers.flags, clear]
    decide
  · rw [if_pos clear, if_neg clear]

/-- What is captured of a call other than `execve` has a slot of the event, and no slot
before it is of the same argument. -/
theorem exitEvent_slot (mem : UserMemory) (task : Task) (state : SyscallData)
    (ctx : SysExitArgs) (now : UInt64) (snapshot : Option ExecveSnapshot) {c : Capture}
    (captured : c ∈ captures state.syscallId ctx.ret state.args)
    (other : state.syscallId ≠ nrExecve) :
    ∃ cs, VarsDelivered (exitEvent mem task state ctx now snapshot) cs ∧
      ∃ (k : Fin 6) (h : k.1 < cs.length), cs[k.1] = c.outcome mem state.args ∧
        ∀ (j : ℕ) (before : j < k.1), cs[j].argIndex ≠ cs[k.1].argIndex := by
  have fits := fitsSlots_captures state.syscallId ctx.ret state.args
  have delivered := exitEvent_varsDelivered mem task state ctx now snapshot none
    fun h => absurd h other
  rw [capturedVars, if_neg other] at delivered
  obtain ⟨k, hk, hget⟩ := List.getElem_of_mem captured
  have few := length_le_of_fitsSlots fits
  have hk' : k < ((captures state.syscallId ctx.ret state.args).map fun c =>
      c.outcome mem state.args).length := by rwa [List.length_map]
  refine ⟨_, delivered, ⟨k, by omega⟩, hk', ?_, ?_⟩
  · rw [List.getElem_map, hget]
  · intro j before
    have distinct := argIndex_ne_of_fitsSlots fits before hk
    rwa [List.getElem_map, List.getElem_map, Capture.outcome_argIndex,
      Capture.outcome_argIndex]

theorem payloadReadable_of_delivered {ev : Event} {captured : List Captured}
    (delivered : VarsDelivered ev captured) : PayloadReadable ev captured where
  varCount_le := by
    have few := delivered.few
    rw [← delivered.varCount] at few
    exact UInt8.le_iff_toNat_le.mpr few
  payloadLen_le := UInt16.le_iff_toNat_le.mpr delivered.payloadLen
  each := by
    intro k h
    rw [delivered.varCount] at h
    have delivers := delivered.each k h
    refine ⟨captured[k.1], List.getElem?_eq_getElem h, delivers.argIndex, delivers.flags, ?_⟩
    rw [or_iff_not_imp_left]
    exact varPayloadSlice_of_delivers delivered.payloadLen delivers
  disjoint := by
    intro j k ne hj hk
    rw [delivered.varCount] at hj hk
    rw [byteRange, byteRange, Finset.disjoint_left]
    intro i inj ink
    rw [Finset.mem_Ico] at inj ink
    rcases lt_or_gt_of_ne ne with before | after
    · have := delivered.apart j k before hk
      omega
    · have := delivered.apart k j after hj
      omega

/-- **The payload of a submitted event is readable**: in every run, whatever the
call, its arguments, its result and the outcome of each read of user memory.

The statement names what was captured (`capturedVars`) rather than the descriptors that happen to
be in the event, so that an event without descriptors would not satisfy it for nothing. -/
theorem payload_readable (cfg : Bpf.Config) (targets : TargetPids) (hits : List Hit)
    (task : Task) (ctx : SysExitArgs) (now : UInt64) (mem : UserMemory) (reserved : Bool)
    (ev : Event)
    (hsub : submitted cfg (run (Bpf.step cfg) (Maps.load targets) hits)
      (.sysExit task ctx now mem reserved) = some ev) :
    ∃ enter, (ev.syscallId = nrExecve →
        ∃ entered, enter = some entered ∧ EnteredExecve hits ev.tid ev.args entered) ∧
      PayloadReadable ev (capturedVars enter mem ev.syscallId ev.ret ev.args) := by
  obtain ⟨enter, entered, delivered⟩ := submitted_varsDelivered hsub
  exact ⟨enter, entered, payloadReadable_of_delivered delivered⟩

/-- Memory that is zero but for the string `/a`, which every pointer leads to. -/
def slashA : UserMemory where
  probeReadUser _ size := some (Vector.replicate size 0)
  probeReadUserStr _ size := if h : 3 ≤ size then some ⟨[47, 97, 0], h⟩ else none

/-- A sole target executes `/a` without arguments. -/
def execA : List Hit :=
  [.sysEnter ⟨100, 100⟩ ⟨nrExecve, #v[4096, 8192, 0, 0, 0, 0]⟩ 10 slashA]

theorem payload_readable_execA :
    let ev := exitEvent .unmapped ⟨100, 100⟩
      ⟨10, nrExecve, #v[4096, 8192, 0, 0, 0, 0], 1, true⟩ ⟨nrExecve, 0⟩ 11
      (some (captureExecve slashA #v[4096, 8192, 0, 0, 0, 0]))
    ∃ enter, (ev.syscallId = nrExecve →
        ∃ entered, enter = some entered ∧ EnteredExecve execA ev.tid ev.args entered) ∧
      PayloadReadable ev (capturedVars enter .unmapped ev.syscallId ev.ret ev.args) :=
  payload_readable ⟨false, false, ∅⟩ soleTarget execA ⟨100, 100⟩ ⟨nrExecve, 0⟩ 11 .unmapped true
    _ (submitted_eq_some.mpr ⟨_, _, _, _, _, rfl, by decide, rfl, rfl, rfl⟩)

end Litrace.Trace
