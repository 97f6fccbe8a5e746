import Litrace.Bpf.Syscall

/-!
# Capturing arguments from user memory

The helpers of `tracer.c` that copy strings, buffers and argument vectors out
of the traced program: `append_var_string` and `append_var_bytes` into the two
fixed slots of an event, `append_execve_var_string` and
`append_execve_var_argv` into the packed snapshot taken when `execve` is
entered, and `capture_vars`, the part of `trace_sys_exit` that decides which of
them runs for which system call.

User memory is an oracle, `UserMemory`: each read fails or returns bytes.  One
oracle serves one execution of a program, so a read repeated within it gives
the same result.

What the later modules use of this one is that capturing changes no field of
the event but the payload and its descriptors (`captureVars_header`).

Every function keeps the tests of its C text in their order, a test that is
made twice included, so that the two can be read side by side.  What the tests
amount to is said by theorems elsewhere: `Litrace.Bpf.CapturePlan` turns
`capture_vars` into a table, and `Litrace.Bpf.ArgvCapture` takes the packed
snapshot apart.

Buffers are vectors of the C sizes, and offsets and lengths are machine
integers.  A byte written behind the end of its buffer would be dropped; that
nothing of a capture is lost in this way is part of what
`Litrace.Bpf.CapturePlan` proves of it.
-/

namespace Litrace.Bpf

open Bytes

/-! ## User memory -/

/-- What the two probe helpers return during one execution of a program.  A
string read returns at most `size` bytes, the terminator included; the count
the helper returns is their number. -/
structure UserMemory where
  /-- `bpf_probe_read_user`. -/
  probeReadUser : (ptr : UInt64) → (size : ℕ) → Option (Vector UInt8 size)
  /-- `bpf_probe_read_user_str`. -/
  probeReadUserStr : (ptr : UInt64) → (size : ℕ) →
    Option { bytes : List UInt8 // bytes.length ≤ size }

namespace UserMemory

/-- Memory in which every read fails. -/
def unmapped : UserMemory where
  probeReadUser _ _ := none
  probeReadUserStr _ _ := none

/-- A 64-bit word of user memory. -/
def readU64 (mem : UserMemory) (ptr : UInt64) : Option UInt64 :=
  (mem.probeReadUser ptr 8).map fun word => UInt64.ofNat (leNat word.toList)

/-- A string read into a buffer: the buffer afterwards, and the count.  A
failed read leaves zero bytes. -/
def readStrInto {n : ℕ} (mem : UserMemory) (buf : Vector UInt8 n) (off size : ℕ)
    (ptr : UInt64) : Vector UInt8 n × Option ℕ :=
  match mem.probeReadUserStr ptr size with
  | none => (zeroAt buf off size, none)
  | some str => (writeAt buf off str.1, some str.1.length)

/-- A read of `size` bytes into a buffer, and whether it succeeded. -/
def readInto {n : ℕ} (mem : UserMemory) (buf : Vector UInt8 n) (off size : ℕ)
    (ptr : UInt64) : Vector UInt8 n × Bool :=
  match mem.probeReadUser ptr size with
  | none => (zeroAt buf off size, false)
  | some bytes => (writeAt buf off bytes.toList, true)

end UserMemory

/-! ## Limits of `types.h` -/

/-- `GENERIC_VAR_SLOT_SIZE`. -/
def genericVarSlotSize : ℕ := 256

/-- `MAX_EXECVE_ARGV`. -/
def maxExecveArgv : ℕ := 8

/-- `MAX_EXECVE_ARG_STR`. -/
def maxExecveArgStr : ℕ := 128

/-- `MAX_EXECVE_STATE_VARS`. -/
def maxExecveStateVars : ℕ := 2

/-- `MAX_EXECVE_STATE_PAYLOAD`. -/
def maxExecveStatePayload : ℕ := 256

/-- `sizeof(struct stat)` on x86_64. -/
def sizeofStat : UInt64 := 144

/-- `sizeof(struct statx)`. -/
def sizeofStatx : UInt64 := 256

/-! ## The two slots of an event -/

/-- The descriptor a capture into slot `var_count` starts from.

There are two slots of fixed size, so the second starts in the middle even if the first is not
filled. -/
def slotDesc (e : Event) (argIndex : UInt8) : VarArgDesc where
  argIndex := argIndex
  flags := VarFlag.none
  offset := if e.varCount = 0 then 0 else genericVarSlotSize.toUInt16
  length := 0
  reserved := 0

/-- Store the descriptor of slot `var_count` and count it. -/
def commitDesc (e : Event) (desc : VarArgDesc) : Event :=
  { e with
    varDesc := e.varDesc.setIfInBounds e.varCount.toNat desc
    varCount := e.varCount + 1 }

/-- `append_var_string`. -/
def appendVarString (mem : UserMemory) (e : Event) (argIndex : UInt8)
    (ptr : UInt64) : Event :=
  if 2 ≤ e.varCount then e
  else
    let desc := slotDesc e argIndex
    if ptr = 0 then
      commitDesc e { desc with flags := desc.flags ||| VarFlag.nullPointer }
    else
      match mem.readStrInto e.payload desc.offset.toNat genericVarSlotSize ptr with
      | (payload, none) =>
          commitDesc { e with payload }
            { desc with flags := desc.flags ||| VarFlag.readError }
      | (payload, some copied) =>
          let flags :=
            if copied = genericVarSlotSize then desc.flags ||| VarFlag.truncated
            else desc.flags
          let length := if 0 < copied then (copied - 1).toUInt16 else desc.length
          let stop := desc.offset + length
          commitDesc
            { e with
              payload
              payloadLen := if e.payloadLen < stop then stop else e.payloadLen }
            { desc with flags, length }

/-- `append_var_bytes`.  The `else if` repeats the test of the first branch the
other way round, with the copy size already clamped. -/
def appendVarBytes (mem : UserMemory) (e : Event) (argIndex : UInt8)
    (ptr size : UInt64) : Event :=
  if 2 ≤ e.varCount then e
  else
    let desc := slotDesc e argIndex
    if ptr = 0 then
      commitDesc e { desc with flags := desc.flags ||| VarFlag.nullPointer }
    else
      let available := genericVarSlotSize
      let toCopy := if size.toNat < available then size.toNat else available
      let flags :=
        if size.toNat < available then desc.flags
        else if available < size.toNat then desc.flags ||| VarFlag.truncated
        else desc.flags
      if toCopy = 0 then commitDesc e { desc with flags }
      else
        match mem.readInto e.payload desc.offset.toNat toCopy ptr with
        | (payload, false) =>
            commitDesc { e with payload }
              { desc with flags := flags ||| VarFlag.readError }
        | (payload, true) =>
            let stop := desc.offset + toCopy.toUInt16
            commitDesc
              { e with
                payload
                payloadLen := if e.payloadLen < stop then stop else e.payloadLen }
              { desc with flags, length := toCopy.toUInt16 }

/-! ## The execve snapshot -/

/-- `struct execve_snapshot`. -/
structure ExecveSnapshot where
  varDesc : Vector VarArgDesc 2
  payload : Vector UInt8 256
  payloadLen : UInt16
  varCount : UInt8
  deriving DecidableEq

/-- The zeroed snapshot. -/
def ExecveSnapshot.zero : ExecveSnapshot where
  varDesc := Vector.replicate 2 VarArgDesc.zero
  payload := Vector.replicate 256 0
  payloadLen := 0
  varCount := 0

/-- Store the descriptor of the next variable and count it. -/
def ExecveSnapshot.commit (snap : ExecveSnapshot) (desc : VarArgDesc) :
    ExecveSnapshot :=
  { snap with
    varDesc := snap.varDesc.setIfInBounds snap.varCount.toNat desc
    varCount := snap.varCount + 1 }

/-- `append_execve_var_string`. -/
def appendExecveVarString (mem : UserMemory) (snap : ExecveSnapshot)
    (argIndex : UInt8) (ptr : UInt64) : ExecveSnapshot :=
  if maxExecveStateVars ≤ snap.varCount.toNat then snap
  else
    let desc : VarArgDesc := ⟨argIndex, VarFlag.none, 0, 0, 0⟩
    if ptr = 0 then
      snap.commit { desc with flags := desc.flags ||| VarFlag.nullPointer }
    else
      match mem.readStrInto snap.payload 0 maxExecveArgStr ptr with
      | (payload, none) =>
          { snap with payload }.commit
            { desc with flags := desc.flags ||| VarFlag.readError }
      | (payload, some count) =>
          let copied := min count maxExecveArgStr
          let flags :=
            if copied = maxExecveArgStr then desc.flags ||| VarFlag.truncated
            else desc.flags
          if 0 < copied then
            let length := (copied - 1).toUInt16
            { snap with payload, payloadLen := length }.commit { desc with flags, length }
          else { snap with payload }.commit { desc with flags }

/-- The variables of the argument loop: the payload, the cursor into it, the
descriptor's flags, and whether all slots were used. -/
structure ArgvLoop where
  payload : Vector UInt8 256
  cursor : ℕ
  flags : UInt8
  exhaustedArgvSlots : Bool

/-- The loop over the first slots of `argv`, with `n` iterations left.

The recursion is on the slots that are left, as the number of rounds is fixed and every early end
leaves the loop. -/
def argvLoop (mem : UserMemory) (argv : UInt64) : ℕ → ArgvLoop → ArgvLoop
  | 0, st => st
  | n + 1, st =>
      let i := maxExecveArgv - (n + 1)
      match mem.readU64 (argv + 8 * i.toUInt64) with
      | none =>
          { st with flags := st.flags ||| VarFlag.readError, exhaustedArgvSlots := false }
      | some argPtr =>
          -- The null pointer ends the vector.
          if argPtr = 0 then { st with exhaustedArgvSlots := false }
          else if maxExecveStatePayload - maxExecveArgStr < st.cursor then
            { st with
              flags := st.flags ||| VarFlag.truncated
              exhaustedArgvSlots := false }
          else
            match mem.readStrInto st.payload st.cursor maxExecveArgStr argPtr with
            | (payload, none) =>
                { st with
                  payload
                  flags := st.flags ||| VarFlag.readError
                  exhaustedArgvSlots := false }
            | (payload, some count) =>
                let copied := min count maxExecveArgStr
                let st := { st with payload, cursor := st.cursor + copied }
                if copied = maxExecveArgStr then
                  { st with
                    flags := st.flags ||| VarFlag.truncated
                    exhaustedArgvSlots := false }
                else argvLoop mem argv n st

/-- `append_execve_var_argv`. -/
def appendExecveVarArgv (mem : UserMemory) (snap : ExecveSnapshot)
    (argIndex : UInt8) (argv : UInt64) : ExecveSnapshot :=
  if maxExecveStateVars ≤ snap.varCount.toNat then snap
  else
    let desc : VarArgDesc := ⟨argIndex, VarFlag.none, snap.payloadLen, 0, 0⟩
    if argv = 0 then
      snap.commit { desc with flags := desc.flags ||| VarFlag.nullPointer }
    else
      let start := snap.payloadLen.toNat
      if maxExecveStatePayload ≤ start then
        snap.commit { desc with flags := desc.flags ||| VarFlag.truncated }
      else
        let st := argvLoop mem argv maxExecveArgv
          { payload := snap.payload, cursor := start, flags := desc.flags,
            exhaustedArgvSlots := true }
        -- A ninth pointer is only looked at, to tell a full vector from a cut one.
        let flags :=
          if st.exhaustedArgvSlots then
            match mem.readU64 (argv + 8 * maxExecveArgv.toUInt64) with
            | none => st.flags ||| VarFlag.readError
            | some nextPtr =>
                if nextPtr = 0 then st.flags else st.flags ||| VarFlag.truncated
          else st.flags
        let snap := { snap with payload := st.payload }
        if start < st.cursor then
          { snap with payloadLen := st.cursor.toUInt16 }.commit
            { desc with flags, length := (st.cursor - start).toUInt16 }
        else snap.commit { desc with flags }

/-- The snapshot `trace_sys_enter` takes of an `execve` call. -/
def captureExecve (mem : UserMemory) (args : Vector UInt64 6) : ExecveSnapshot :=
  let snapshot := appendExecveVarString mem ExecveSnapshot.zero 0 args[0]
  appendExecveVarArgv mem snapshot 1 args[1]

/-! ## Filling an event -/

/-- `set_syscall_arg_schema`: the first entry for the call, or six raw words. -/
def setSyscallArgSchema (syscallId : Int64) (e : Event) : Event :=
  match syscallSchemas.find? fun schema => schema.syscallId = syscallId with
  | some schema => { e with argCount := schema.argCount, argTypes := schema.argTypes }
  | none => { e with argCount := 6, argTypes := Vector.replicate 6 ArgType.raw }

/-- A captured string argument: `append_var_string`, then its code.

The code says that the argument is a string whether or not it could be read; the flags of its
descriptor tell. -/
def captureString (mem : UserMemory) (args : Vector UInt64 6) (i : Fin 6) (e : Event) :
    Event :=
  let e := appendVarString mem e i.1.toUInt8 (args.get i)
  { e with argTypes := e.argTypes.set i VarArgKind.string }

/-- A captured result structure: `append_var_bytes`, then its code. -/
def captureStruct (mem : UserMemory) (args : Vector UInt64 6) (i : Fin 6)
    (size : UInt64) (e : Event) : Event :=
  let e := appendVarBytes mem e i.1.toUInt8 (args.get i) size
  { e with argTypes := e.argTypes.set i VarArgKind.bytes }

/-- The snapshot copied into the event, or two unreadable variables.

The snapshot was taken when the call was entered, since a successful `execve` has replaced the
memory when it returns. -/
def copyExecveSnapshot (snapshot : Option ExecveSnapshot) (e : Event) : Event :=
  match snapshot with
  | some snapshot =>
      { e with
        payloadLen := snapshot.payloadLen
        varCount := snapshot.varCount
        varDesc := (e.varDesc.set 0 snapshot.varDesc[0]).set 1 snapshot.varDesc[1]
        payload := writeAt e.payload 0 snapshot.payload.toList }
  | none =>
      { e with
        varCount := 2
        varDesc :=
          (e.varDesc.set 0 { e.varDesc[0] with argIndex := 0, flags := VarFlag.readError }).set 1
            { e.varDesc[1] with argIndex := 1, flags := VarFlag.readError } }

/-- The captures of `trace_sys_exit`, test by test in source order. -/
def captureVars (mem : UserMemory) (id ret : Int64) (args : Vector UInt64 6)
    (snapshot : Option ExecveSnapshot) (e : Event) : Event :=
  let e := if id = nrOpen then captureString mem args 0 e else e
  let e := if id = nrOpenat then captureString mem args 1 e else e
  let e :=
    if id = nrOpenat2 ∨ id = nrNewfstatat ∨ id = nrFaccessat ∨ id = nrStatx
        ∨ id = nrFaccessat2 then
      captureString mem args 1 e
    else e
  let e :=
    if id = nrAccess ∨ id = nrNewstat ∨ id = nrNewlstat then captureString mem args 0 e
    else e
  -- The results are there only if the call succeeded.
  let e :=
    if id = nrNewfstat ∧ 0 ≤ ret then captureStruct mem args 1 sizeofStat e else e
  let e :=
    if (id = nrNewstat ∨ id = nrNewlstat) ∧ 0 ≤ ret then
      captureStruct mem args 1 sizeofStat e
    else e
  let e :=
    if id = nrNewfstatat ∧ 0 ≤ ret then captureStruct mem args 2 sizeofStat e else e
  let e :=
    if id = nrStatx ∧ 0 ≤ ret then captureStruct mem args 4 sizeofStatx e else e
  let e := if id = nrChdir ∨ id = nrUnlink then captureString mem args 0 e else e
  let e :=
    if id = nrRename then captureString mem args 1 (captureString mem args 0 e) else e
  let e := if id = nrUnlinkat then captureString mem args 1 e else e
  let e :=
    if id = nrRenameat ∨ id = nrRenameat2 then
      captureString mem args 3 (captureString mem args 1 e)
    else e
  -- By now `execve` has replaced the memory the arguments were in.
  let e := if id = nrExecve then copyExecveSnapshot snapshot e else e
  let e := if id = nrWrite then appendVarBytes mem e 1 args[1] args[2] else e
  if id = nrRead ∧ 0 ≤ ret then appendVarBytes mem e 1 args[1] ret.toUInt64 else e

/-! ## The header is left alone -/

/-- The fields of an event that no capture touches. -/
structure SameHeader (e e' : Event) : Prop where
  ts : e'.ts = e.ts
  dur : e'.dur = e.dur
  syscallId : e'.syscallId = e.syscallId
  ret : e'.ret = e.ret
  args : e'.args = e.args
  pid : e'.pid = e.pid
  tid : e'.tid = e.tid
  seq : e'.seq = e.seq
  eventFlags : e'.eventFlags = e.eventFlags

namespace SameHeader

@[refl] theorem refl (e : Event) : SameHeader e e :=
  ⟨rfl, rfl, rfl, rfl, rfl, rfl, rfl, rfl, rfl⟩

theorem trans {e₁ e₂ e₃ : Event} (h : SameHeader e₁ e₂) (h' : SameHeader e₂ e₃) :
    SameHeader e₁ e₃ :=
  ⟨h'.ts.trans h.ts, h'.dur.trans h.dur, h'.syscallId.trans h.syscallId,
    h'.ret.trans h.ret, h'.args.trans h.args, h'.pid.trans h.pid, h'.tid.trans h.tid,
    h'.seq.trans h.seq, h'.eventFlags.trans h.eventFlags⟩

/-- A conditional capture keeps the header if the capture does. -/
theorem ite {p : Prop} [Decidable p] {e e' : Event} (h : SameHeader e e') :
    SameHeader e (if p then e' else e) := by
  split
  · exact h
  · exact refl e

end SameHeader

/-- A captured string touches the payload and its descriptor only. -/
theorem appendVarString_header (mem : UserMemory) (e : Event) (i : UInt8) (ptr : UInt64) :
    SameHeader e (appendVarString mem e i ptr) := by
  unfold appendVarString
  dsimp only
  repeat' split
  all_goals exact ⟨rfl, rfl, rfl, rfl, rfl, rfl, rfl, rfl, rfl⟩

/-- A captured buffer touches the payload and its descriptor only. -/
theorem appendVarBytes_header (mem : UserMemory) (e : Event) (i : UInt8)
    (ptr size : UInt64) : SameHeader e (appendVarBytes mem e i ptr size) := by
  unfold appendVarBytes
  dsimp only
  repeat' split
  all_goals exact ⟨rfl, rfl, rfl, rfl, rfl, rfl, rfl, rfl, rfl⟩

theorem captureString_header (mem : UserMemory) (args : Vector UInt64 6) (i : Fin 6)
    (e : Event) : SameHeader e (captureString mem args i e) :=
  (appendVarString_header mem e i.1.toUInt8 (args.get i)).trans
    ⟨rfl, rfl, rfl, rfl, rfl, rfl, rfl, rfl, rfl⟩

theorem captureStruct_header (mem : UserMemory) (args : Vector UInt64 6) (i : Fin 6)
    (size : UInt64) (e : Event) : SameHeader e (captureStruct mem args i size e) :=
  (appendVarBytes_header mem e i.1.toUInt8 (args.get i) size).trans
    ⟨rfl, rfl, rfl, rfl, rfl, rfl, rfl, rfl, rfl⟩

/-- The snapshot brings its payload, not its own header: the event keeps the numbers of the call
that returns. -/
theorem copyExecveSnapshot_header (snapshot : Option ExecveSnapshot) (e : Event) :
    SameHeader e (copyExecveSnapshot snapshot e) := by
  cases snapshot <;> exact ⟨rfl, rfl, rfl, rfl, rfl, rfl, rfl, rfl, rfl⟩

/-- The schema sets the types of the arguments and their number, which the header does not hold. -/
theorem setSyscallArgSchema_header (id : Int64) (e : Event) :
    SameHeader e (setSyscallArgSchema id e) := by
  unfold setSyscallArgSchema
  split <;> exact ⟨rfl, rfl, rfl, rfl, rfl, rfl, rfl, rfl, rfl⟩

/-- Capturing changes the payload, its descriptors and the argument codes, and
nothing else of the event. -/
theorem captureVars_header (mem : UserMemory) (id ret : Int64) (args : Vector UInt64 6)
    (snapshot : Option ExecveSnapshot) (e : Event) :
    SameHeader e (captureVars mem id ret args snapshot e) := by
  have str := fun i e => captureString_header mem args i e
  have struct := fun i size e => captureStruct_header mem args i size e
  have bytes := fun ptr size e => appendVarBytes_header mem e 1 ptr size
  unfold captureVars
  refine SameHeader.trans ?_ (bytes _ _ _).ite
  refine SameHeader.trans ?_ (bytes _ _ _).ite
  refine SameHeader.trans ?_ (copyExecveSnapshot_header snapshot _).ite
  refine SameHeader.trans ?_ ((str 1 _).trans (str 3 _)).ite
  refine SameHeader.trans ?_ (str 1 _).ite
  refine SameHeader.trans ?_ ((str 0 _).trans (str 1 _)).ite
  refine SameHeader.trans ?_ (str 0 _).ite
  refine SameHeader.trans ?_ (struct 4 _ _).ite
  refine SameHeader.trans ?_ (struct 2 _ _).ite
  refine SameHeader.trans ?_ (struct 1 _ _).ite
  refine SameHeader.trans ?_ (struct 1 _ _).ite
  refine SameHeader.trans ?_ (str 0 _).ite
  refine SameHeader.trans ?_ (str 1 _).ite
  refine SameHeader.trans ?_ (str 1 _).ite
  exact (str 0 _).ite

end Litrace.Bpf
