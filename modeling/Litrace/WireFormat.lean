import Litrace.Event
import Litrace.Lib.Abi

/-!
# The wire format of events

The BPF side writes `struct event` as the compiler lays it out; the Go side
reads the fields of `Event` one after the other.  The two agree because no
member of `struct event` needs padding in front of it: the one padding byte
lies behind the last member, where `DecodeEvent` does not look.

The layout is not assumed but computed from the members and their alignments
(`Litrace.Lib.Abi`), and the padding holds arbitrary bytes, as the ring buffer
does not clear what it hands out.  The reader is `decodeEvent`, which knows
nothing of alignments.  That a record is read back is one direction; the other,
that nothing else is read as this event, says that the sample is no poorer
than the event.
-/

namespace Litrace

open Bytes Abi

/-! ## The C layout -/

/-- The members of `struct var_arg_desc`. -/
def varArgDescMembers : List (Abi.Field VarArgDesc) :=
  [⟨UInt8, u8, VarArgDesc.argIndex⟩, ⟨UInt8, u8, VarArgDesc.flags⟩,
    ⟨UInt16, u16, VarArgDesc.offset⟩, ⟨UInt16, u16, VarArgDesc.length⟩,
    ⟨UInt16, u16, VarArgDesc.reserved⟩]

/-- The members of `struct event`. -/
def eventMembers : List (Abi.Field Event) :=
  [⟨UInt64, u64, Event.ts⟩, ⟨UInt64, u64, Event.dur⟩, ⟨Int64, i64, Event.syscallId⟩,
    ⟨Int64, i64, Event.ret⟩, ⟨Vector UInt64 6, array u64 6, Event.args⟩,
    ⟨Vector VarArgDesc 6, array (struct varArgDescMembers) 6, Event.varDesc⟩,
    ⟨Vector UInt8 512, array u8 512, Event.payload⟩, ⟨UInt32, u32, Event.pid⟩,
    ⟨UInt32, u32, Event.tid⟩, ⟨UInt32, u32, Event.seq⟩, ⟨UInt16, u16, Event.payloadLen⟩,
    ⟨UInt8, u8, Event.argCount⟩, ⟨UInt8, u8, Event.varCount⟩,
    ⟨Vector UInt8 6, array u8 6, Event.argTypes⟩, ⟨UInt8, u8, Event.eventFlags⟩]

/-- `struct event`. -/
def eventLayout : Layout Event := struct eventMembers

example : offsets 0 varArgDescMembers = [0, 1, 2, 4, 6] := rfl

example : offsets 0 eventMembers =
    [0, 8, 16, 24, 32, 80, 128, 640, 644, 648, 652, 654, 655, 656, 662] := rfl

/-! ## Reading it -/

/-- The errors of `io.ReadFull`. -/
inductive ReadError
  | eof
  | unexpectedEof
  deriving DecidableEq

/-- `DecodeEvent` with both of its results: a sample that is too short gives the
zero event and the error of `binary.Read`. -/
def decodeEventResult (raw : List UInt8) : Event × Option ReadError :=
  match readEvent raw with
  | some (ev, _) => (ev, none)
  | none => (.zero, some (if raw = [] then .eof else .unexpectedEof))

/-- The consumer goes on with an event exactly where there is no error. -/
theorem decodeEvent_eq_some_iff (raw : List UInt8) (ev : Event) :
    decodeEvent raw = some ev ↔ decodeEventResult raw = (ev, none) := by
  rw [decodeEvent, decodeEventResult]
  cases readEvent raw with
  | none => simp
  | some p => simp

/-- A descriptor needs no padding at all. -/
theorem readBy_varArgDesc : ReadBy (struct varArgDescMembers) readVarArgDesc := by
  intro padding addr v rest
  have tail : (struct varArgDescMembers).encode padding addr v ++ rest =
      encodeFields padding addr v 0 varArgDescMembers ++ rest :=
    congrArg (· ++ rest) (List.append_nil _)
  rw [tail, readVarArgDesc, varArgDescMembers]
  rw [readBy_u8.member rfl, readBy_u8.member rfl,
    readBy_u16.member rfl, readBy_u16.member rfl,
    readBy_u16.member rfl]
  rfl

/-- What `readEvent` leaves of the bytes of an event is the padding behind it. -/
theorem readEvent_encode (padding : ℕ → UInt8) (addr : ℕ) (ev : Event) :
    readEvent (eventLayout.encode padding addr ev) = some (ev, [padding (addr + 663)]) := by
  change readEvent (encodeFields padding addr ev 0 eventMembers ++ [padding (addr + 663)]) = _
  rw [readEvent, eventMembers]
  rw [readBy_u64.member rfl, readBy_u64.member rfl, readBy_i64.member rfl,
    readBy_i64.member rfl, (readBy_array readBy_u64 6).member rfl,
    (readBy_array readBy_varArgDesc 6).member rfl, (readBy_array readBy_u8 512).member rfl,
    readBy_u32.member rfl, readBy_u32.member rfl, readBy_u32.member rfl,
    readBy_u16.member rfl, readBy_u8.member rfl, readBy_u8.member rfl,
    (readBy_array readBy_u8 6).member rfl, readBy_u8.member rfl]
  rfl

/-! ## Samples that are too short -/

open Reader in
theorem takes_varArgDesc : Takes readVarArgDesc 8 :=
  takes_u8.bind fun _ => takes_u8.bind fun _ => takes_u16.bind fun _ =>
    takes_u16.bind fun _ => takes_u16.map _

open Reader in
/-- The fields of an `Event` take 663 bytes. -/
theorem takes_event : Takes readEvent 663 :=
  takes_u64.bind fun _ => takes_u64.bind fun _ => takes_i64.bind fun _ =>
    takes_i64.bind fun _ => (takes_vector takes_u64 6).bind fun _ =>
    (takes_vector takes_varArgDesc 6).bind fun _ =>
    (takes_vector takes_u8 512).bind fun _ => takes_u32.bind fun _ =>
    takes_u32.bind fun _ => takes_u32.bind fun _ => takes_u16.bind fun _ =>
    takes_u8.bind fun _ => takes_u8.bind fun _ => (takes_vector takes_u8 6).bind fun _ =>
    takes_u8.map _

theorem decodeEventResult_of_short {raw : List UInt8} (short : raw.length < 663) :
    ∃ err, decodeEventResult raw = (.zero, some err) := by
  rw [decodeEventResult, (takes_event raw).2 short]
  exact ⟨_, rfl⟩

theorem decodeEventResult_of_long {raw : List UInt8} (long : 663 ≤ raw.length) :
    ∃ ev, decodeEventResult raw = (ev, none) := by
  obtain ⟨ev, read⟩ := (takes_event raw).1 long
  exact ⟨ev, by rw [decodeEventResult, read]⟩

/-- **The wire format.**  What `DecodeEvent` gets from the bytes of a
`struct event` is the event, whatever the padding; it fails, with the zero
event, exactly on samples shorter than the packed fields.

The address at which the record lies is arbitrary, as the padding bytes are found by address. -/
theorem decodeEvent_wire_format :
    (∀ (padding : ℕ → UInt8) (addr : ℕ) (ev : Event),
      (eventLayout.encode padding addr ev).length = 664 ∧
        decodeEventResult (eventLayout.encode padding addr ev) = (ev, none)) ∧
    (∀ raw : List UInt8,
      (∃ err, decodeEventResult raw = (.zero, some err)) ↔ raw.length < 663) ∧
    (∀ raw : List UInt8, 663 ≤ raw.length → ∃ ev, decodeEventResult raw = (ev, none)) := by
  refine ⟨fun padding addr ev => ⟨eventLayout.length_encode padding addr ev, ?_⟩,
    fun raw => ⟨?_, decodeEventResult_of_short⟩, fun raw => decodeEventResult_of_long⟩
  · rw [decodeEventResult, readEvent_encode]
  · rintro ⟨err, failed⟩
    by_contra long
    obtain ⟨ev, decoded⟩ := decodeEventResult_of_long (Nat.le_of_not_lt long)
    rw [decoded] at failed
    cases failed

/-! ## Reading loses nothing -/

open Reader in
theorem writtenBy_varArgDesc : WrittenBy (struct varArgDescMembers) readVarArgDesc := by
  intro padding addr bs v rest read
  obtain ⟨argIndex, bs₁, h₁, read⟩ := bind_eq_some.mp read
  obtain ⟨flags, bs₂, h₂, read⟩ := bind_eq_some.mp read
  obtain ⟨offset, bs₃, h₃, read⟩ := bind_eq_some.mp read
  obtain ⟨length, bs₄, h₄, read⟩ := bind_eq_some.mp read
  obtain ⟨reserved, bs₅, h₅, read⟩ := bind_eq_some.mp read
  cases read
  have packed : (struct varArgDescMembers).encode padding addr
        ⟨argIndex, flags, offset, length, reserved⟩ =
      encodeFields padding addr ⟨argIndex, flags, offset, length, reserved⟩ 0 varArgDescMembers :=
    List.append_nil _
  rw [packed]
  exact writtenBy_u8.member rfl h₁ (writtenBy_u8.member rfl h₂ (writtenBy_u16.member rfl h₃
    (writtenBy_u16.member rfl h₄ (writtenBy_u16.member rfl h₅ rfl))))

/-- The members without the padding behind the last. -/
def packedEvent (ev : Event) : List UInt8 := encodeFields (fun _ => 0) 0 ev 0 eventMembers

theorem length_packedEvent (ev : Event) : (packedEvent ev).length = 663 :=
  length_encodeFields eventMembers (fun _ => 0) 0 ev 0

open Reader in
/-- What `readEvent` takes are the members of the event. -/
theorem packedEvent_of_read {raw rest : List UInt8} {ev : Event}
    (read : readEvent raw = some (ev, rest)) : packedEvent ev ++ rest = raw := by
  obtain ⟨ts, bs₁, h₁, read⟩ := bind_eq_some.mp read
  obtain ⟨dur, bs₂, h₂, read⟩ := bind_eq_some.mp read
  obtain ⟨syscallId, bs₃, h₃, read⟩ := bind_eq_some.mp read
  obtain ⟨ret, bs₄, h₄, read⟩ := bind_eq_some.mp read
  obtain ⟨args, bs₅, h₅, read⟩ := bind_eq_some.mp read
  obtain ⟨varDesc, bs₆, h₆, read⟩ := bind_eq_some.mp read
  obtain ⟨payload, bs₇, h₇, read⟩ := bind_eq_some.mp read
  obtain ⟨pid, bs₈, h₈, read⟩ := bind_eq_some.mp read
  obtain ⟨tid, bs₉, h₉, read⟩ := bind_eq_some.mp read
  obtain ⟨seq, bs₁₀, h₁₀, read⟩ := bind_eq_some.mp read
  obtain ⟨payloadLen, bs₁₁, h₁₁, read⟩ := bind_eq_some.mp read
  obtain ⟨argCount, bs₁₂, h₁₂, read⟩ := bind_eq_some.mp read
  obtain ⟨varCount, bs₁₃, h₁₃, read⟩ := bind_eq_some.mp read
  obtain ⟨argTypes, bs₁₄, h₁₄, read⟩ := bind_eq_some.mp read
  obtain ⟨eventFlags, bs₁₅, h₁₅, read⟩ := bind_eq_some.mp read
  cases read
  rw [packedEvent, eventMembers]
  refine writtenBy_u64.member rfl h₁ ?_
  refine writtenBy_u64.member rfl h₂ ?_
  refine writtenBy_i64.member rfl h₃ ?_
  refine writtenBy_i64.member rfl h₄ ?_
  refine (writtenBy_array writtenBy_u64 6).member rfl h₅ ?_
  refine (writtenBy_array writtenBy_varArgDesc 6).member rfl h₆ ?_
  refine (writtenBy_array writtenBy_u8 512).member rfl h₇ ?_
  refine writtenBy_u32.member rfl h₈ ?_
  refine writtenBy_u32.member rfl h₉ ?_
  refine writtenBy_u32.member rfl h₁₀ ?_
  refine writtenBy_u16.member rfl h₁₁ ?_
  refine writtenBy_u8.member rfl h₁₂ ?_
  refine writtenBy_u8.member rfl h₁₃ ?_
  refine (writtenBy_array writtenBy_u8 6).member rfl h₁₄ ?_
  exact writtenBy_u8.member rfl h₁₅ rfl

/-- An event is read from its members. -/
theorem packedEvent_injective : Function.Injective packedEvent := by
  intro ev ev' same
  have read : ∀ ev, readEvent (packedEvent ev ++ [0]) = some (ev, [0]) :=
    fun ev => readEvent_encode (fun _ => 0) 0 ev
  have both := read ev
  rw [same, read ev'] at both
  cases both
  rfl

/-- **`DecodeEvent` loses nothing.**  The samples it makes an event from are those that begin
with the members of this event as C lays them out, so two samples that differ in the first 663
bytes are never taken for the same event. -/
theorem decodeEvent_eq_some_iff_prefix (raw : List UInt8) (ev : Event) :
    decodeEvent raw = some ev ↔ packedEvent ev <+: raw := by
  constructor
  · intro decoded
    obtain ⟨⟨ev, rest⟩, read, rfl⟩ := Option.map_eq_some_iff.mp decoded
    exact ⟨rest, packedEvent_of_read read⟩
  · rintro ⟨rest, rfl⟩
    have long : 663 ≤ (packedEvent ev ++ rest).length := by
      rw [List.length_append, length_packedEvent]
      exact Nat.le_add_right 663 _
    obtain ⟨ev', read⟩ := (takes_event _).1 long
    -- Both events are as long, so their members are the same bytes.
    have same := List.append_inj (packedEvent_of_read read)
      (by rw [length_packedEvent, length_packedEvent])
    rw [decodeEvent, read, packedEvent_injective same.1]
    rfl

end Litrace
