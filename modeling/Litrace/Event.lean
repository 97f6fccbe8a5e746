import Litrace.Lib.Bytes
import Mathlib.Algebra.GroupWithZero.Nat

/-!
# The event record

`struct event` of `types.h` and `type Event` of `decode.go` are one record with
the same fields in the same order, so both sides of the ring buffer share the
structure `Event` here.  They differ in their layout as bytes: `decodeEvent` is
the packed reading the Go side performs.

The argument codes are plain bytes on both sides: `enum arg_type` and
`enum var_arg_kind` are stored in the same byte with overlapping values.

`decodeEvent` is written with the readers of `Litrace.Lib.Bytes`, field by
field in the order of `type Event`, as `binary.Read` goes through a structure.
It is total: a sample that is too short is `none`.
-/

namespace Litrace

/-! ## Codes -/

namespace ArgType

def none : UInt8 := 0
def int : UInt8 := 1
def uint : UInt8 := 2
def fd : UInt8 := 3
def mode : UInt8 := 4
def flags : UInt8 := 5
def off : UInt8 := 6
def ptr : UInt8 := 7
def raw : UInt8 := 255

end ArgType

namespace VarArgKind

def string : UInt8 := 1
def bytes : UInt8 := 2
def argv : UInt8 := 3

end VarArgKind

namespace VarFlag

def none : UInt8 := 0
def truncated : UInt8 := 1
def readError : UInt8 := 2
def nullPointer : UInt8 := 4

end VarFlag

/-- `EVENT_FLAG_PROCESS_CLONE`, `eventFlagProcessClone`. -/
def eventFlagProcessClone : UInt8 := 1

/-! ## Records -/

/-- The six arguments are named by literals of `Fin 6`. -/
instance neZeroSix : NeZero 6 := ⟨Nat.succ_ne_zero 5⟩

/-- `struct var_arg_desc`, `VarArgDesc`. -/
structure VarArgDesc where
  argIndex : UInt8
  flags : UInt8
  offset : UInt16
  length : UInt16
  reserved : UInt16
  deriving DecidableEq

/-- The descriptor with every field zero. -/
def VarArgDesc.zero : VarArgDesc := ⟨0, VarFlag.none, 0, 0, 0⟩

/-- `struct event`, `Event`. -/
structure Event where
  ts : UInt64
  dur : UInt64
  syscallId : Int64
  ret : Int64
  args : Vector UInt64 6
  varDesc : Vector VarArgDesc 6
  payload : Vector UInt8 512
  pid : UInt32
  tid : UInt32
  seq : UInt32
  payloadLen : UInt16
  argCount : UInt8
  varCount : UInt8
  argTypes : Vector UInt8 6
  eventFlags : UInt8
  deriving DecidableEq

/-- `Event{}`. -/
def Event.zero : Event where
  ts := 0
  dur := 0
  syscallId := 0
  ret := 0
  args := Vector.replicate 6 0
  varDesc := Vector.replicate 6 .zero
  payload := Vector.replicate 512 0
  pid := 0
  tid := 0
  seq := 0
  payloadLen := 0
  argCount := 0
  varCount := 0
  argTypes := Vector.replicate 6 ArgType.none
  eventFlags := 0

/-- `eventCreatesProcess`. -/
def eventCreatesProcess (ev : Event) : Bool :=
  ev.eventFlags &&& eventFlagProcessClone != 0

/-! ## Decoding -/

open Bytes

/-- One descriptor, field by field. -/
def readVarArgDesc : Reader VarArgDesc := do
  let argIndex ← Reader.u8
  let flags ← Reader.u8
  let offset ← Reader.u16
  let length ← Reader.u16
  let reserved ← Reader.u16
  return { argIndex, flags, offset, length, reserved }

/-- `binary.Read` of an `Event` in little-endian order: the fields one after
the other, without padding. -/
def readEvent : Reader Event := do
  let ts ← Reader.u64
  let dur ← Reader.u64
  let syscallId ← Reader.i64
  let ret ← Reader.i64
  let args ← Reader.vector Reader.u64 6
  let varDesc ← Reader.vector readVarArgDesc 6
  let payload ← Reader.vector Reader.u8 512
  let pid ← Reader.u32
  let tid ← Reader.u32
  let seq ← Reader.u32
  let payloadLen ← Reader.u16
  let argCount ← Reader.u8
  let varCount ← Reader.u8
  let argTypes ← Reader.vector Reader.u8 6
  let eventFlags ← Reader.u8
  return { ts, dur, syscallId, ret, args, varDesc, payload, pid, tid, seq,
           payloadLen, argCount, varCount, argTypes, eventFlags }

/-- `DecodeEvent`; bytes after the record are ignored, and a sample that is too
short is an error. -/
def decodeEvent (raw : List UInt8) : Option Event :=
  (readEvent raw).map Prod.fst

end Litrace
