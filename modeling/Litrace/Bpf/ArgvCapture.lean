import Litrace.Bpf.Capture

/-!
# What the execve snapshot holds

The snapshot of an `execve` call is packed: the file name without its
terminator, and right behind it the argument strings, each with its terminator.
The first string overwrites the terminator of the file name.

`readName` is the string a name capture delivers, `argvRead` the strings the
argument loop copies and the reason it stops.  Neither mentions a buffer.  The
snapshot agrees with them (`captureExecve_holds`): this is the only fact about
`append_execve_var_string` and `append_execve_var_argv` that is used later on.

The loop in the source works on a payload and a cursor that only moves forward,
and it ends for one of four reasons.  `ArgvLoop.Reads` ties this to `argvRead`:
the bytes before the old cursor are untouched, those between the old and the
new one are the copied strings, and the flags are those of the reason.  The
reason alone decides the flags, but for one case.  A loop that has used all its
slots cannot tell by itself whether there was more, so the source looks at the
pointer behind them (`argvLookAhead`).

What the strings are is left open here, as user memory is an arbitrary oracle.
That they are those of a vector in memory is added in
`Litrace.Bpf.ReadableMemory`.
-/

namespace Litrace.Bpf

open Bytes

/-! ## Names -/

/-- The string at `ptr` as a capture of at most `size` bytes delivers it, without
the last byte the helper wrote; `none` for a null pointer and a failed read. -/
def readName (mem : UserMemory) (size : ℕ) (ptr : UInt64) : Option (List UInt8) :=
  if ptr = 0 then none
  else (mem.probeReadUserStr ptr size).map fun str => str.1.dropLast

/-- The flags such a capture sets. -/
def nameFlags (mem : UserMemory) (size : ℕ) (ptr : UInt64) : UInt8 :=
  if ptr = 0 then VarFlag.nullPointer
  else
    match mem.probeReadUserStr ptr size with
    | none => VarFlag.readError
    | some str => if str.1.length = size then VarFlag.truncated else VarFlag.none

/-- The bytes that are delivered, none where there is no string. -/
def nameBytes (mem : UserMemory) (size : ℕ) (ptr : UInt64) : List UInt8 :=
  (readName mem size ptr).getD []

/-- A captured string is shorter than its slot, which also holds its end. -/
theorem length_nameBytes (mem : UserMemory) (size : ℕ) (ptr : UInt64) :
    (nameBytes mem size ptr).length ≤ size - 1 := by
  unfold nameBytes readName
  split
  · exact Nat.zero_le _
  · cases hstr : mem.probeReadUserStr ptr size with
    | none => exact Nat.zero_le _
    | some str =>
        have hlen := str.2
        simp only [Option.map_some, Option.getD_some, List.length_dropLast]
        omega

/-! ## Argument vectors -/

/-- Why the copying of an argument vector ends. -/
inductive ArgvStop where
  /-- A pointer or a string could not be read. -/
  | unreadable
  /-- The null pointer was reached. -/
  | complete
  /-- A string filled its share, or no share was left. -/
  | cut
  /-- Every slot was used. -/
  | slotsUsed
  deriving DecidableEq

/-- The flags that go with the reason. -/
def ArgvStop.flags : ArgvStop → UInt8
  | unreadable => VarFlag.readError
  | cut => VarFlag.truncated
  | complete | slotsUsed => VarFlag.none

/-- The strings the loop copies with `n` iterations left and the cursor at
`cursor`, terminators included, and why it stops. -/
def argvRead (mem : UserMemory) (argv : UInt64) : ℕ → ℕ → List (List UInt8) × ArgvStop
  | 0, _ => ([], .slotsUsed)
  | n + 1, cursor =>
      match mem.readU64 (argv + 8 * (maxExecveArgv - (n + 1)).toUInt64) with
      | none => ([], .unreadable)
      | some argPtr =>
          if argPtr = 0 then ([], .complete)
          else if maxExecveStatePayload - maxExecveArgStr < cursor then ([], .cut)
          else
            match mem.probeReadUserStr argPtr maxExecveArgStr with
            | none => ([], .unreadable)
            | some str =>
                if str.1.length = maxExecveArgStr then ([str.1], .cut)
                else
                  let rest := argvRead mem argv n (cursor + str.1.length)
                  (str.1 :: rest.1, rest.2)

/-- The look at the pointer behind the last slot. -/
def argvLookAhead (mem : UserMemory) (argv : UInt64) : ArgvStop → ArgvStop
  | .slotsUsed =>
      match mem.readU64 (argv + 8 * maxExecveArgv.toUInt64) with
      | none => .unreadable
      | some nextPtr => if nextPtr = 0 then .complete else .cut
  | stop => stop

/-- The strings copied behind a file name of `start` bytes. -/
def argvCopies (mem : UserMemory) (argv : UInt64) (start : ℕ) : List (List UInt8) :=
  if argv = 0 then [] else (argvRead mem argv maxExecveArgv start).1

/-- The flags of the vector's descriptor. -/
def argvFlags (mem : UserMemory) (argv : UInt64) (start : ℕ) : UInt8 :=
  if argv = 0 then VarFlag.nullPointer
  else (argvLookAhead mem argv (argvRead mem argv maxExecveArgv start).2).flags

/-! ## The loop -/

/-- From `st` the loop gets to `st'` by copying `read.1`. -/
structure ArgvLoop.Reads (st st' : ArgvLoop) (read : List (List UInt8) × ArgvStop) : Prop where
  cursor : st'.cursor = st.cursor + read.1.flatten.length
  room : st'.cursor ≤ maxExecveStatePayload
  flags : st'.flags = st.flags ||| read.2.flags
  exhausted : st'.exhaustedArgvSlots = decide (read.2 = .slotsUsed)
  copied : slice st'.payload st.cursor read.1.flatten.length = read.1.flatten
  kept : ∀ off len, off + len ≤ st.cursor →
    slice st'.payload off len = slice st.payload off len

/-- A loop that stops without a copy. -/
theorem ArgvLoop.Reads.stop {st st' : ArgvLoop} {stop : ArgvStop}
    (room : st.cursor ≤ maxExecveStatePayload) (cursor : st'.cursor = st.cursor)
    (flags : st'.flags = st.flags ||| stop.flags)
    (exhausted : st'.exhaustedArgvSlots = decide (stop = .slotsUsed))
    (kept : ∀ off len, off + len ≤ st.cursor →
      slice st'.payload off len = slice st.payload off len) :
    st.Reads st' ([], stop) where
  cursor := cursor
  room := by omega
  flags := flags
  exhausted := exhausted
  copied := by simp [slice]
  kept := kept

/-- One copy, and then what the loop does from behind it. -/
theorem ArgvLoop.Reads.cons {st mid st' : ArgvLoop} {str : List UInt8}
    {rest : List (List UInt8) × ArgvStop} (rests : mid.Reads st' rest)
    (fits : st.cursor + str.length ≤ maxExecveStatePayload)
    (payload : mid.payload = writeAt st.payload st.cursor str)
    (cursor : mid.cursor = st.cursor + str.length) (flags : mid.flags = st.flags) :
    st.Reads st' (str :: rest.1, rest.2) where
  cursor := by rw [rests.cursor, cursor, List.flatten_cons, List.length_append, Nat.add_assoc]
  room := rests.room
  flags := by rw [rests.flags, flags]
  exhausted := rests.exhausted
  copied := by
    rw [List.flatten_cons, List.length_append, slice_append, ← cursor, rests.copied,
      rests.kept _ _ (le_of_eq cursor.symm), payload, slice_writeAt_self (n := 256) fits le_rfl,
      List.take_length]
  kept := by
    intro off len before
    rw [rests.kept off len (by omega), payload, slice_writeAt_of_disjoint (.inl before)]

/-- What the loop has done when it stops, by induction on the slots left: it has packed what
`argvRead` lists, and its flags say why it stopped. -/
theorem argvLoop_reads (mem : UserMemory) (argv : UInt64) (n : ℕ) (st : ArgvLoop)
    (room : st.cursor ≤ maxExecveStatePayload) (running : st.exhaustedArgvSlots = true) :
    st.Reads (argvLoop mem argv n st) (argvRead mem argv n st.cursor) := by
  induction n generalizing st with
  | zero =>
      have flags : st.flags = st.flags ||| ArgvStop.slotsUsed.flags := by
        simp [ArgvStop.flags, VarFlag.none]
      exact .stop room rfl flags running fun _ _ _ => rfl
  | succ n ih =>
      rw [argvLoop, argvRead]
      cases mem.readU64 (argv + 8 * (maxExecveArgv - (n + 1)).toUInt64) with
      | none => exact .stop room rfl rfl rfl fun _ _ _ => rfl
      | some argPtr =>
          dsimp only
          split
          · exact .stop room rfl (by simp [ArgvStop.flags, VarFlag.none]) rfl fun _ _ _ => rfl
          split
          · exact .stop room rfl rfl rfl fun _ _ _ => rfl
          next hnull space =>
            rw [UserMemory.readStrInto]
            cases mem.probeReadUserStr argPtr maxExecveArgStr with
            | none =>
                refine .stop room rfl rfl rfl fun off len before => ?_
                exact slice_writeAt_of_disjoint (.inl before)
            | some str =>
                have hlen := str.2
                have fits : st.cursor + str.1.length ≤ maxExecveStatePayload := by
                  simp only [maxExecveStatePayload, maxExecveArgStr] at *
                  omega
                simp only [Nat.min_eq_left hlen]
                split
                · have stops : ArgvLoop.Reads
                      { st with
                        payload := writeAt st.payload st.cursor str.1
                        cursor := st.cursor + str.1.length }
                      { st with
                        payload := writeAt st.payload st.cursor str.1
                        cursor := st.cursor + str.1.length
                        flags := st.flags ||| VarFlag.truncated
                        exhaustedArgvSlots := false } ([], .cut) :=
                    .stop fits rfl rfl rfl fun _ _ _ => rfl
                  exact .cons stops fits rfl rfl rfl
                · exact .cons (ih _ fits running) fits rfl rfl rfl

/-- Only a loop that used all slots looks ahead. -/
theorem ArgvLoop.Reads.flags_lookAhead {st st' : ArgvLoop} {read : List (List UInt8) × ArgvStop}
    (reads : st.Reads st' read) (clear : st.flags = VarFlag.none) (mem : UserMemory)
    (argv : UInt64) :
    (if st'.exhaustedArgvSlots = true then
      match mem.readU64 (argv + 8 * maxExecveArgv.toUInt64) with
      | none => st'.flags ||| VarFlag.readError
      | some nextPtr => if nextPtr = 0 then st'.flags else st'.flags ||| VarFlag.truncated
    else st'.flags) = (argvLookAhead mem argv read.2).flags := by
  rw [reads.exhausted, reads.flags, clear]
  cases read.2 with
  | slotsUsed =>
      rw [argvLookAhead, decide_eq_true rfl, if_pos rfl]
      cases mem.readU64 (argv + 8 * maxExecveArgv.toUInt64) with
      | none => rfl
      | some nextPtr =>
          dsimp only
          split <;> rfl
  | unreadable | complete | cut => rfl

/-! ## The snapshot -/

/-- The snapshot packs `name` and, right behind it, `packed`; its two
descriptors say so and carry the flags. -/
structure ExecveSnapshot.Holds (snap : ExecveSnapshot) (name packed : List UInt8)
    (nameFlags argvFlags : UInt8) : Prop where
  varCount : snap.varCount = 2
  nameDesc : snap.varDesc.get 0 = ⟨0, nameFlags, 0, name.length.toUInt16, 0⟩
  argvDesc : snap.varDesc.get 1 =
    ⟨1, argvFlags, name.length.toUInt16, packed.length.toUInt16, 0⟩
  payloadLen : snap.payloadLen = (name.length + packed.length).toUInt16
  room : name.length + packed.length ≤ maxExecveStatePayload
  bytes : slice snap.payload 0 (name.length + packed.length) = name ++ packed

/-- Each part is read back at its place. -/
theorem ExecveSnapshot.Holds.slices {snap : ExecveSnapshot} {name packed : List UInt8}
    {flags flags' : UInt8} (holds : snap.Holds name packed flags flags') :
    slice snap.payload 0 name.length = name ∧
      slice snap.payload name.length packed.length = packed := by
  have bytes := holds.bytes
  have room := holds.room
  rw [maxExecveStatePayload] at room
  rw [slice_append, Nat.zero_add] at bytes
  exact List.append_inj bytes (length_slice (by omega))

/-- The snapshot between its two captures. -/
def ExecveSnapshot.named (payload : Vector UInt8 256) (name : List UInt8) (flags : UInt8) :
    ExecveSnapshot where
  varDesc := #v[⟨0, flags, 0, name.length.toUInt16, 0⟩, VarArgDesc.zero]
  payload := payload
  payloadLen := name.length.toUInt16
  varCount := 1

/-- The file name comes first. -/
theorem appendExecveVarString_zero (mem : UserMemory) (file : UInt64) :
    ∃ payload : Vector UInt8 256,
      appendExecveVarString mem ExecveSnapshot.zero 0 file =
        .named payload (nameBytes mem maxExecveArgStr file)
          (nameFlags mem maxExecveArgStr file) ∧
      slice payload 0 (nameBytes mem maxExecveArgStr file).length =
        nameBytes mem maxExecveArgStr file := by
  unfold appendExecveVarString nameBytes readName nameFlags
  rw [if_neg (by decide)]
  dsimp only
  by_cases null : file = 0
  · rw [if_pos null, if_pos null, if_pos null]
    exact ⟨_, rfl, rfl⟩
  · rw [if_neg null, if_neg null, if_neg null, UserMemory.readStrInto]
    cases mem.probeReadUserStr file maxExecveArgStr with
    | none => exact ⟨_, rfl, rfl⟩
    | some str =>
        have hlen := str.2
        have read : slice (writeAt ExecveSnapshot.zero.payload 0 str.1) 0
            str.1.dropLast.length = str.1.dropLast := by
          have fits : 0 + str.1.length ≤ 256 := by
            simp only [maxExecveArgStr] at hlen
            omega
          rw [List.length_dropLast, slice_writeAt_self fits (Nat.sub_le _ _),
            List.dropLast_eq_take]
        simp only [Nat.min_eq_left hlen, Option.map_some, Option.getD_some]
        refine ⟨_, ?_, read⟩
        rw [ExecveSnapshot.named, List.length_dropLast]
        -- Nothing copied leaves the zero length, which is one less than none.
        split
        · split <;> rfl
        next empty =>
          rw [Nat.eq_zero_of_not_pos empty]
          rfl

/-- The descriptor of the vector makes the snapshot complete. -/
theorem ExecveSnapshot.Holds.of_commit {snap : ExecveSnapshot} {len : UInt16}
    {name packed : List UInt8} {flags flags' descFlags : UInt8} (varCount : snap.varCount = 1)
    (nameDesc : snap.varDesc.get 0 = ⟨0, flags, 0, name.length.toUInt16, 0⟩)
    (argvFlags : descFlags = flags') (argvLen : len = packed.length.toUInt16)
    (payloadLen : snap.payloadLen = (name.length + packed.length).toUInt16)
    (room : name.length + packed.length ≤ maxExecveStatePayload)
    (bytes : slice snap.payload 0 (name.length + packed.length) = name ++ packed) :
    (snap.commit ⟨1, descFlags, name.length.toUInt16, len, 0⟩).Holds name packed flags
      flags' where
  varCount := by rw [commit, varCount]; rfl
  nameDesc := by
    rw [← nameDesc]
    exact Vector.getElem_setIfInBounds_ne _ (by rw [varCount]; decide)
  argvDesc := by
    rw [← argvFlags, ← argvLen, commit, varCount]
    exact Vector.getElem_setIfInBounds_self (by decide)
  payloadLen := payloadLen
  room := room
  bytes := bytes

/-- The vector starts behind the file name. -/
theorem payloadLen_appendExecveVarString (mem : UserMemory) (file : UInt64) :
    (appendExecveVarString mem ExecveSnapshot.zero 0 file).payloadLen.toNat =
      (nameBytes mem maxExecveArgStr file).length := by
  obtain ⟨payload, hname, -⟩ := appendExecveVarString_zero mem file
  have short := length_nameBytes mem maxExecveArgStr file
  rw [maxExecveArgStr] at short
  rw [hname]
  exact Nat.mod_eq_of_lt (show _ < 65536 by rw [maxExecveArgStr]; omega)

/-- The vector is copied right behind the file name. -/
theorem appendExecveVarArgv_named (mem : UserMemory) (argv : UInt64)
    {payload : Vector UInt8 256} {name : List UInt8} (flags : UInt8)
    (short : name.length < maxExecveArgStr) (read : slice payload 0 name.length = name) :
    (appendExecveVarArgv mem (.named payload name flags) 1 argv).Holds name
      (argvCopies mem argv name.length).flatten flags
      (argvFlags mem argv name.length) := by
  rw [maxExecveArgStr] at short
  have start : name.length.toUInt16.toNat = name.length := Nat.mod_eq_of_lt (by omega)
  have room : name.length ≤ 256 := by omega
  have slots : ¬ maxExecveStateVars ≤ (ExecveSnapshot.named payload name flags).varCount.toNat := by
    show ¬ 2 ≤ 1
    omega
  unfold appendExecveVarArgv argvCopies argvFlags
  rw [if_neg slots]
  by_cases null : argv = 0
  · rw [if_pos null, if_pos null, if_pos null]
    refine .of_commit rfl rfl UInt8.zero_or rfl rfl room ?_
    simpa [ExecveSnapshot.named] using read
  · have left : ¬ 256 ≤ name.length := by omega
    have reads := argvLoop_reads mem argv maxExecveArgv
      { payload, cursor := name.length, flags := VarFlag.none, exhaustedArgvSlots := true }
      room rfl
    simp only [if_neg null, ExecveSnapshot.named, start, maxExecveStatePayload, if_neg left]
    have flagged := reads.flags_lookAhead rfl mem argv
    have cursor := reads.cursor
    have full := reads.room
    have front := reads.kept 0 name.length (le_of_eq (Nat.zero_add _))
    have behind := reads.copied
    dsimp only at cursor behind front
    have bytes : slice (argvLoop mem argv maxExecveArgv
        { payload, cursor := name.length, flags := VarFlag.none,
          exhaustedArgvSlots := true }).payload 0 (name.length +
        (argvRead mem argv maxExecveArgv name.length).1.flatten.length) =
        name ++ (argvRead mem argv maxExecveArgv name.length).1.flatten := by
      rw [slice_append, front, read, Nat.zero_add, behind]
    rw [cursor] at full ⊢
    -- A vector of no bytes leaves the length of the payload as it was.
    split
    · exact .of_commit rfl rfl flagged (by rw [Nat.add_sub_cancel_left]) rfl full bytes
    next empty =>
      have none : (argvRead mem argv maxExecveArgv name.length).1.flatten.length = 0 := by omega
      exact .of_commit rfl rfl flagged (by rw [none]; rfl) (by rw [none]; rfl) full bytes

/-- **The snapshot of a call holds its file name and its argument strings**, one
right behind the other. -/
theorem captureExecve_holds (mem : UserMemory) (args : Vector UInt64 6) :
    (captureExecve mem args).Holds (nameBytes mem maxExecveArgStr (args.get 0))
      (argvCopies mem (args.get 1)
        (nameBytes mem maxExecveArgStr (args.get 0)).length).flatten
      (nameFlags mem maxExecveArgStr (args.get 0))
      (argvFlags mem (args.get 1)
        (nameBytes mem maxExecveArgStr (args.get 0)).length) := by
  obtain ⟨payload, hname, read⟩ := appendExecveVarString_zero mem (args.get 0)
  have short := length_nameBytes mem maxExecveArgStr (args.get 0)
  rw [captureExecve]
  have hname' : appendExecveVarString mem ExecveSnapshot.zero 0 args[0] = _ := hname
  rw [hname']
  exact appendExecveVarArgv_named mem _ _ (by rw [maxExecveArgStr] at short ⊢; omega) read

end Litrace.Bpf
