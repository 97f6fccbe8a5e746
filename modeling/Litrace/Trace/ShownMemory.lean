import Litrace.Bpf.VarSchema
import Litrace.Trace.CapturedText
import Litrace.Trace.Truncation
import Litrace.Trace.VarPointers

/-!
# What memory held, in the text of an argument

A string or a buffer goes from user memory into a slot of the event, out of its payload and into
the line.  Nothing is lost on the way but what a slot has no room for: the text, unquoted, is what
memory held, and `...` is behind it as soon as the slot is full (`shows_memory`).

The bound of a string is 255 and not 256, as the terminator takes a byte of the slot, and a string
of 255 bytes is marked as cut although it is whole: the helper of the kernel returns the same
count for both.  The arguments of `execve` are captured at another place, with bounds of their
own, and are treated in `Litrace.Trace.ExecveArgv`.
-/

namespace Litrace.Trace

open GoString (ascii)
open Bpf Strconv

/-! ## From memory to the text -/

/-- What the flags and the bytes of a capture say. -/
def flagsView (flags : UInt8) (bytes : List UInt8) : ArgView :=
  if flags &&& VarFlag.nullPointer ≠ 0 then .null
  else if flags &&& VarFlag.readError ≠ 0 then .unreadable
  else .data bytes (flags &&& VarFlag.truncated ≠ 0)

/-- What is shown of a capture. -/
def captureView (mem : UserMemory) (args : Vector UInt64 6) (c : Capture) : ArgView :=
  flagsView (c.outcome mem args).flags (c.outcome mem args).bytes

section Views

variable {mem : UserMemory} {args : Vector UInt64 6} {i : Fin 6} {size : UInt64}

theorem captureView_string :
    captureView mem args (.string i) =
      flagsView (nameFlags mem genericVarSlotSize (args.get i))
        (nameBytes mem genericVarSlotSize (args.get i)) := rfl

theorem captureView_buffer :
    captureView mem args (.buffer i size) =
      flagsView (bufferFlags mem (args.get i) size) (bufferBytes mem (args.get i) size) := rfl

theorem captureView_of_null_string (null : args.get i = 0) :
    captureView mem args (.string i) = .null := by
  have flags : nameFlags mem genericVarSlotSize (args.get i) = VarFlag.nullPointer := if_pos null
  rw [captureView_string, flags]
  rfl

theorem captureView_of_null_buffer (null : args.get i = 0) :
    captureView mem args (.buffer i size) = .null := by
  have flags : bufferFlags mem (args.get i) size = VarFlag.nullPointer := if_pos null
  rw [captureView_buffer, flags]
  rfl

theorem captureView_of_unreadable_string (nonNull : args.get i ≠ 0)
    (unreadable : mem.probeReadUserStr (args.get i) genericVarSlotSize = none) :
    captureView mem args (.string i) = .unreadable := by
  have flags : nameFlags mem genericVarSlotSize (args.get i) = VarFlag.readError :=
    (if_neg nonNull).trans (by rw [unreadable])
  rw [captureView_string, flags]
  rfl

theorem captureView_of_unreadable_buffer (nonNull : args.get i ≠ 0)
    (unreadable : readBuffer mem (args.get i) size = none) :
    captureView mem args (.buffer i size) = .unreadable := by
  have flags : bufferFlags mem (args.get i) size =
      (if genericVarSlotSize < size.toNat then VarFlag.truncated else VarFlag.none) |||
        VarFlag.readError :=
    (if_neg nonNull).trans (by rw [unreadable, Option.isNone_none, if_pos rfl])
  rw [captureView_buffer, flags]
  split <;> rfl

/-- Bytes are shown as cut if the capture was. -/
theorem flagsView_of_bytes (bytes : List UInt8) (cut : Prop) [Decidable cut] :
    flagsView (if cut then VarFlag.truncated else VarFlag.none) bytes = .data bytes cut := by
  by_cases h : cut
  · rw [if_pos h, decide_eq_true h]
    rfl
  · rw [if_neg h, decide_eq_false h]
    rfl

theorem captureView_of_stringAt {s : List UInt8} (str : mem.StringAt (args.get i) s) :
    captureView mem args (.string i) = .data (s.take 255) (255 ≤ s.length) := by
  have slot : 0 < genericVarSlotSize := by decide
  have flags := nameFlags_of_stringAt str slot
  have bytes := nameBytes_of_stringAt str slot
  rw [captureView_string, flags, bytes, flagsView_of_bytes]
  exact congrArg (ArgView.data _) (decide_eq_decide.mpr Nat.succ_le_succ_iff)

theorem captureView_of_bytesAt {bytes : List UInt8} (held : mem.BytesAt (args.get i) bytes)
    (whole : size.toNat = bytes.length) :
    captureView mem args (.buffer i size) =
      .data (bytes.take 256) (256 < bytes.length) := by
  rw [captureView_buffer, bufferFlags_of_bytesAt held whole, bufferBytes_of_bytesAt held whole]
  exact flagsView_of_bytes _ _

end Views

theorem not_failed {flags : UInt8} (nonNull : flags &&& VarFlag.nullPointer = 0)
    (readable : flags &&& VarFlag.readError = 0) : ¬ Failed flags := by
  have either : flags &&& (VarFlag.nullPointer ||| VarFlag.readError) =
      flags &&& VarFlag.nullPointer ||| flags &&& VarFlag.readError := by
    rw [← UInt8.toBitVec_inj]
    simp only [UInt8.toBitVec_and, UInt8.toBitVec_or, BitVec.and_or_distrib_left]
  rw [Failed, either, nonNull, readable]
  decide

/-- The descriptor is that of a capture: it has the flags, and its payload unless they tell that
there is none. -/
structure Records (ev : Event) (desc : VarArgDesc) (c : Captured) : Prop where
  found : findVarArgDesc ev c.argIndex = some desc
  flags : desc.flags = c.flags
  payload : ¬ Failed desc.flags → varPayloadSlice ev desc = some c.bytes

theorem records_of_delivered {ev : Event} {captured : List Captured}
    (delivered : VarsDelivered ev captured) (k : Fin 6) (h : k.1 < captured.length)
    (first : ∀ (j : ℕ) (inside : j < captured.length), j < k.1 →
      captured[j].argIndex ≠ captured[k.1].argIndex) :
    Records ev (ev.varDesc.get k) captured[k.1] where
  found := findVarArgDesc_of_delivered delivered k h fun j before =>
    first j (before.trans h) before
  flags := (delivered.each k h).flags
  payload := varPayloadSlice_of_delivers delivered.payloadLen (delivered.each k h)

/-- A string or a buffer is shown as its capture says. -/
theorem Records.capturedArg {ev : Event} {desc : VarArgDesc} {c : Captured}
    (records : Records ev desc c)
    (code : ev.argTypes.get c.argIndex = VarArgKind.string ∨
      ev.argTypes.get c.argIndex = VarArgKind.bytes) :
    capturedArg ev c.argIndex = some (flagsView c.flags c.bytes) := by
  rw [Trace.capturedArg, records.found]
  dsimp only
  rw [if_pos code, capturedString, flagsView, records.flags]
  split
  next => rfl
  next nonNull =>
    split
    next => rfl
    next readable =>
      have ok := not_failed (not_not.mp nonNull) (not_not.mp readable)
      rw [← records.flags] at ok
      rw [records.payload ok]

section Submitted

variable {cfg : Bpf.Config} {m : Maps} {task : Task} {ctx : SysExitArgs} {now : UInt64}
variable {mem : UserMemory} {reserved : Bool} {ev : Event}

/-- A submitted event has each capture of its call, and the code of its kind. -/
theorem records_of_submitted
    (hsub : submitted cfg m (.sysExit task ctx now mem reserved) = some ev) {c : Capture}
    (captured : c ∈ captures ev.syscallId ev.ret ev.args) :
    ev.argTypes.get c.argIndex = c.kind ∧ ∃ desc, Records ev desc (c.outcome mem ev.args) := by
  obtain ⟨task', ctx', now', mem', state, heq, -, -, -, rfl⟩ := submitted_eq_some.mp hsub
  cases heq
  have header := exitEvent_header mem state task ctx now (m.execveSnapshots task.tid)
  have captured' : c ∈ captures state.syscallId ctx.ret state.args := by
    rwa [header.syscallId, header.ret, header.args] at captured
  have other : state.syscallId ≠ nrExecve := by
    intro exec
    rw [exec] at captured'
    cases captured'
  obtain ⟨cs, delivered, k, h, outcome, first⟩ :=
    exitEvent_slot mem task state ctx now (m.execveSnapshots task.tid) captured' other
  have records := records_of_delivered delivered k h fun j _ before => first j before
  rw [outcome] at records
  rw [header.args]
  exact ⟨exitEvent_code mem task state ctx now _ captured' other, _, records⟩

/-- The text of a captured argument of a submitted event. -/
theorem formatArg_of_captured
    (hsub : submitted cfg m (.sysExit task ctx now mem reserved) = some ev) {c : Capture}
    (captured : c ∈ captures ev.syscallId ev.ret ev.args)
    (shown : DeclaredVar ev.syscallId c.argIndex c.kind) :
    formatArg ev c.argIndex.val = .ok (captureView mem ev.args c).text := by
  obtain ⟨code, desc, records⟩ := records_of_submitted hsub captured
  have kept := records.capturedArg (by
    rw [Capture.outcome_argIndex, code]
    cases c <;> simp [Capture.kind])
  rw [Capture.outcome_argIndex] at kept
  rw [formatArg, formatArgSpecial_of_declared shown, Checked.ok_bind, formatVarArg_eq, kept]
  rfl

/-- A string that was captured is shown as memory had it. -/
theorem shows_string
    (hsub : submitted cfg m (.sysExit task ctx now mem reserved) = some ev) {i : Fin 6}
    (captured : .string i ∈ captures ev.syscallId ev.ret ev.args) :
    formatArg ev i.val = .ok (captureView mem ev.args (.string i)).text :=
  formatArg_of_captured hsub captured (captures_declared _ _ _ _ captured)

theorem shows_buffer
    (hsub : submitted cfg m (.sysExit task ctx now mem reserved) = some ev) {i : Fin 6}
    {size : UInt64} (captured : .buffer i size ∈ captures ev.syscallId ev.ret ev.args) :
    formatArg ev i.val = .ok (captureView mem ev.args (.buffer i size)).text :=
  formatArg_of_captured hsub captured (captures_declared _ _ _ _ captured)

end Submitted

/-- The text is that of bytes: a reader gets them back, and finds behind them what was cut. -/
def ShowsBytes (text : Checked GoString) (bytes : GoString) (cut : Bool) : Prop :=
  ∃ shown, text = .ok shown ∧ unquote shown = some (bytes, dots cut)

theorem showsBytes_data (bytes : GoString) (cut : Bool) :
    ShowsBytes (.ok (ArgView.data bytes cut).text) bytes cut :=
  ⟨_, rfl, unquote_quoteToASCII bytes (dots cut)⟩

/-- **The line shows what memory held**, in every state of the maps and for every submitted
event: of a string that was captured its first 255 bytes, marked as cut from 255 bytes on; of a
buffer its first 256, marked if it has more; a null pointer as `NULL`, and as `<?>` what could not
be read. -/
theorem shows_memory (cfg : Bpf.Config) (m : Maps) (task : Task) (ctx : SysExitArgs)
    (now : UInt64) (mem : UserMemory) (reserved : Bool) (ev : Event)
    (hsub : submitted cfg m (.sysExit task ctx now mem reserved) = some ev) (i : Fin 6) :
    (.string i ∈ captures ev.syscallId ev.ret ev.args →
      (ev.args.get i = 0 → formatArg ev i.val = .ok (ascii "NULL")) ∧
      (ev.args.get i ≠ 0 → mem.probeReadUserStr (ev.args.get i) 256 = none →
        formatArg ev i.val = .ok (ascii "<?>")) ∧
      ∀ s, mem.StringAt (ev.args.get i) s →
        ShowsBytes (formatArg ev i.val) (s.take 255) (255 ≤ s.length)) ∧
    ∀ size, .buffer i size ∈ captures ev.syscallId ev.ret ev.args →
      (ev.args.get i = 0 → formatArg ev i.val = .ok (ascii "NULL")) ∧
      (ev.args.get i ≠ 0 → readBuffer mem (ev.args.get i) size = none →
        formatArg ev i.val = .ok (ascii "<?>")) ∧
      ∀ bytes, mem.BytesAt (ev.args.get i) bytes → size.toNat = bytes.length →
        ShowsBytes (formatArg ev i.val) (bytes.take 256) (256 < bytes.length) := by
  refine ⟨fun captured => ?_, fun size captured => ?_⟩
  · rw [shows_string hsub captured]
    refine ⟨fun null => ?_, fun nonNull unreadable => ?_, fun s str => ?_⟩
    · rw [captureView_of_null_string null]
      rfl
    · rw [captureView_of_unreadable_string nonNull unreadable]
      rfl
    · rw [captureView_of_stringAt str]
      exact showsBytes_data _ _
  · rw [shows_buffer hsub captured]
    refine ⟨fun null => ?_, fun nonNull unreadable => ?_, fun bytes held whole => ?_⟩
    · rw [captureView_of_null_buffer null]
      rfl
    · rw [captureView_of_unreadable_buffer nonNull unreadable]
      rfl
    · rw [captureView_of_bytesAt held whole]
      exact showsBytes_data _ _

/-- A sole target has entered `open("/a", 0, 0)`. -/
def enteredOpen : Maps :=
  Bpf.step ⟨false, false, ∅⟩ (Maps.load soleTarget)
    (.sysEnter ⟨100, 100⟩ ⟨nrOpen, openedA.args⟩ 10 memoryA)

theorem shows_memory_openedA :
    ShowsBytes (formatArg (exitEvent memoryA ⟨100, 100⟩ openedA ⟨nrOpen, 3⟩ 11 none) 0)
      [47, 97] false :=
  ((shows_memory ⟨false, false, ∅⟩ enteredOpen ⟨100, 100⟩ ⟨nrOpen, 3⟩ 11 memoryA true _
      (submitted_eq_some.mpr ⟨_, _, _, _, _, rfl, by decide, rfl, rfl, rfl⟩) 0).1
    (by decide)).2.2 [47, 97] memoryA_stringAt

end Litrace.Trace
