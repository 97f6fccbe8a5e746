import Litrace.Bpf.ReadableMemory
import Litrace.Trace.Format
import Litrace.Trace.Payload
import Litrace.Trace.Truncation

/-!
# Argument vectors from user memory to the line

The vector of an `execve` call is packed behind its file name when the call is
entered, copied into the event when it returns, and split again when it is
rendered.  What comes out is what the argument loop copied: the vector itself, or
a beginning of it with a flag that says why it ends there.

An unreadable pointer or string is seen only if the loop gets to it.  Eight slots,
the share of an argument and the room that is left for one may each end the loop
before, and then the vector counts as truncated.

The decoder is not told where the arguments begin or how many there are.  The
beginning is the offset in the descriptor, behind the file name without its
terminator, and the end is given by its length: the last terminator is not part of
it, so that splitting at the zero bytes gives one part for each argument, an empty
one for an empty argument.
-/

namespace Litrace.Trace

open Bpf Bytes UserMemory
open GoString (ascii)
open Strconv (quoteToASCII join)

/-! ## What the loop copies -/

/-- A beginning of `args`, of whose last argument only the first 127 bytes may be
left. -/
def CutPrefix (parts args : List GoString) : Prop :=
  ∃ k, parts = args.take k ∨
    ∃ arg, args[k]? = some arg ∧ parts = args.take k ++ [arg.take (maxExecveArgStr - 1)]

/-- An argument that was copied whole stands in front of the rest. -/
theorem CutPrefix.cons {parts args : List GoString} (cut : CutPrefix parts args)
    (arg : GoString) : CutPrefix (arg :: parts) (arg :: args) := by
  obtain ⟨k, rfl | ⟨last, hlast, rfl⟩⟩ := cut
  · exact ⟨k + 1, .inl List.take_succ_cons.symm⟩
  · exact ⟨k + 1, .inr ⟨last, hlast, rfl⟩⟩

/-- Capturing gets to what follows the arguments. -/
def Reaches (last : ArgvEnd) (start : ℕ) (args : List GoString) : Prop :=
  CopiedWhole start args ∧ args.length ≤ maxExecveArgv ∧
    (last = .badString → args.length < maxExecveArgv ∧
      start + packedLen args ≤ maxExecveStatePayload - maxExecveArgStr)

section Fit

variable {last : ArgvEnd} {start n cursor : ℕ} {args : List GoString}

theorem argvFit_nil : (argvFit last n cursor []).1 = [] := by
  cases n with
  | zero => rfl
  | succ n =>
      cases last with
      | nullPointer => rfl
      | badArray => rfl
      | badString =>
          rw [argvFit]
          split <;> rfl

/-- The loop copies a beginning of the vector. -/
theorem cutPrefix_argvFit (last : ArgvEnd) (n cursor : ℕ) (args : List GoString) :
    CutPrefix (argvFit last n cursor args).1 args := by
  induction args generalizing n cursor with
  | nil =>
      exact ⟨0, .inl argvFit_nil⟩
  | cons arg args ih =>
      cases n with
      | zero => exact ⟨0, .inl rfl⟩
      | succ n =>
          rw [argvFit]
          split
          · exact ⟨0, .inl rfl⟩
          split
          · exact ⟨0, .inr ⟨arg, rfl, rfl⟩⟩
          · exact (ih n (cursor + (arg.length + 1))).cons arg

/-- Arguments the loop copies are free of separators. -/
theorem nulFree_argvFit (free : ∀ arg ∈ args, 0 ∉ arg) :
    ∀ part ∈ (argvFit last n cursor args).1, 0 ∉ part := by
  obtain ⟨k, whole | ⟨arg, harg, cut⟩⟩ := cutPrefix_argvFit last n cursor args
  · intro part mem
    rw [whole] at mem
    exact free part (List.mem_of_mem_take mem)
  · intro part mem
    rw [cut, List.mem_append, List.mem_singleton] at mem
    rcases mem with mem | rfl
    · exact free part (List.mem_of_mem_take mem)
    · exact fun zero => free arg (List.mem_of_getElem? harg) (List.mem_of_mem_take zero)

/-- What the loop and the look ahead find behind the last argument. -/
theorem fitLookAhead_nil (slots : args.length ≤ maxExecveArgv) :
    fitLookAhead last args (argvFit last (maxExecveArgv - args.length) cursor []).2 =
      match last with
      | .nullPointer => .complete
      | .badArray => .unreadable
      | .badString =>
          if args.length < maxExecveArgv ∧ cursor ≤ maxExecveStatePayload - maxExecveArgStr then
            .unreadable
          else .cut := by
  rcases Nat.eq_or_lt_of_le slots with full | free
  · rw [full, Nat.sub_self, argvFit]
    refine (if_neg (Nat.not_lt.mpr slots)).trans ?_
    cases last with
    | nullPointer | badArray => rfl
    | badString => rw [if_neg fun h => lt_irrefl _ h.1]
  · obtain ⟨left, hleft⟩ := Nat.exists_eq_succ_of_ne_zero (Nat.sub_ne_zero_of_lt free)
    rw [hleft]
    cases last with
    | nullPointer | badArray => rfl
    | badString =>
        rw [argvFit]
        by_cases room : cursor ≤ maxExecveStatePayload - maxExecveArgStr
        · rw [if_neg (Nat.not_lt.mpr room), if_pos ⟨free, room⟩]
          rfl
        · rw [if_pos (Nat.lt_of_not_le room), if_neg fun h => room h.2]
          rfl

/-- A vector with more arguments than slots counts as truncated. -/
theorem fitLookAhead_of_more (more : maxExecveArgv < args.length) :
    fitLookAhead last args (argvFit last maxExecveArgv start args).2 = .cut := by
  by_cases whole : CopiedWhole start (args.take maxExecveArgv)
  · have taken : (args.take maxExecveArgv).length = maxExecveArgv :=
      List.length_take_of_le (le_of_lt more)
    have fit := argvFit_of_copiedWhole last whole (args.drop maxExecveArgv)
      (le_of_eq taken)
    rw [List.take_append_drop, taken, Nat.sub_self, argvFit] at fit
    rw [fit]
    exact if_pos more
  · rw [argvFit_of_not_copiedWhole whole]
    rfl

/-- Where capturing gets to the end, it copies the vector and sees what follows. -/
theorem fit_of_reaches (reaches : Reaches last start args) :
    (argvFit last maxExecveArgv start args).1 = args ∧
      fitLookAhead last args (argvFit last maxExecveArgv start args).2 =
        if last = .nullPointer then .complete else .unreadable := by
  obtain ⟨whole, slots, string⟩ := reaches
  have fit := argvFit_of_copiedWhole last whole [] slots
  rw [List.append_nil, argvFit_nil, List.append_nil] at fit
  rw [fit]
  refine ⟨rfl, (fitLookAhead_nil slots).trans ?_⟩
  cases last with
  | nullPointer | badArray => rfl
  | badString => exact if_pos (string rfl)

/-- Where it does not, the vector counts as truncated. -/
theorem fit_of_not_reaches (misses : ¬ Reaches last start args) :
    fitLookAhead last args (argvFit last maxExecveArgv start args).2 = .cut := by
  by_cases slots : args.length ≤ maxExecveArgv
  · by_cases whole : CopiedWhole start args
    · have fit := argvFit_of_copiedWhole last whole [] slots
      rw [List.append_nil] at fit
      rw [fit]
      refine (fitLookAhead_nil slots).trans ?_
      cases last with
      | nullPointer | badArray => exact absurd ⟨whole, slots, fun h => nomatch h⟩ misses
      | badString => exact if_neg fun reached => misses ⟨whole, slots, fun _ => reached⟩
    · rw [argvFit_of_not_copiedWhole (by rwa [List.take_of_length_le slots])]
      rfl
  · exact fitLookAhead_of_more (Nat.lt_of_not_le slots)

end Fit

/-! ## From the payload to the line -/

/-- Splitting gives back what was packed. -/
theorem splitNul_packed {args : List GoString} (free : ∀ arg ∈ args, 0 ∉ arg) :
    splitNul (packed args) = args := by
  induction args with
  | nil => rfl
  | cons arg args ih =>
      rw [packed_cons, splitNul_append_cons (free arg List.mem_cons_self),
        ih fun other mem => free other (List.mem_cons_of_mem arg mem)]

/-- The vector of a copied snapshot is cut out of the payload, whatever its flags. -/
theorem varPayloadSlice_of_copied {ev : Event} {name argv : List UInt8} {flags flags' : UInt8}
    (copied : SnapshotCopied ev name argv flags flags') :
    varPayloadSlice ev (ev.varDesc.get 1) = some argv := by
  have room := copied.room
  rw [maxExecveStatePayload] at room
  have nameLen : name.length.toUInt16.toNat = name.length := Nat.mod_eq_of_lt (by omega)
  have argvLen : argv.length.toUInt16.toNat = argv.length := Nat.mod_eq_of_lt (by omega)
  have inside : ¬ min ev.payloadLen.toNat 512 < name.length + argv.length := by
    rw [copied.payloadLen]
    omega
  rw [copied.argvDesc, varPayloadSlice]
  dsimp only
  rw [nameLen, argvLen, if_neg inside]
  exact congrArg some copied.behind

/-- The second descriptor of the snapshot is that of the vector. -/
theorem findVarArgDesc_of_copied {ev : Event} {name argv : List UInt8} {flags flags' : UInt8}
    (copied : SnapshotCopied ev name argv flags flags') :
    findVarArgDesc ev 1 = some (ev.varDesc.get 1) := by
  refine findVarArgDesc_of_delivered copied.delivers 1 (Nat.lt_succ_self 1) ?_
  intro j before
  obtain rfl : j = 0 := Nat.lt_one_iff.1 before
  exact fun same => nomatch same

/-- `formatVarArgv` around the parts. -/
def renderArgv (parts : List GoString) (flags : UInt8) : GoString :=
  let parts := parts.map quoteToASCII
  let parts := if flags &&& VarFlag.readError ≠ 0 then parts ++ [ascii "<?>"] else parts
  let rendered := ascii "[" ++ join parts (ascii ", ") ++ ascii "]"
  if flags &&& VarFlag.truncated ≠ 0 then rendered ++ ascii "..." else rendered

/-- The text is made of the parts and the flags alone. -/
theorem formatVarArgv_eq {ev : Event} {desc : VarArgDesc} {payload : GoString}
    (nonNull : desc.flags &&& VarFlag.nullPointer = 0)
    (read : varPayloadSlice ev desc = some payload) :
    formatVarArgv ev desc = .ok (renderArgv (splitNul payload) desc.flags) := by
  rw [formatVarArgv, if_neg (not_not.mpr nonNull), indexed_varPayloadSlice, read,
    Checked.ok_bind]
  dsimp only
  rw [argvParts_eq, Checked.ok_bind]
  rfl

/-- The vector of `execve` is typed as one. -/
theorem argTypes_execve (e : Event) :
    (setSyscallArgSchema nrExecve e).argTypes.get 1 = VarArgKind.argv := by
  have schema : (syscallSchemas.find? fun schema => schema.syscallId = nrExecve) =
      some (.entry nrExecve [VarArgKind.string, VarArgKind.argv, VarArgKind.argv]) := by
    decide
  rw [setSyscallArgSchema, schema]
  rfl

section Execve

variable {enter : UserMemory} (mem : UserMemory) (task : Task) {state : SyscallData}
variable (ctx : SysExitArgs) (now : UInt64)

/-- An `execve` event copies the snapshot of its call. -/
theorem exitEvent_execve (exec : state.syscallId = nrExecve) :
    SnapshotCopied (exitEvent mem task state ctx now (some (captureExecve enter state.args)))
        (nameBytes enter maxExecveArgStr (state.args.get 0))
        (argvCopies enter (state.args.get 1)
          (nameBytes enter maxExecveArgStr (state.args.get 0)).length).flatten
        (nameFlags enter maxExecveArgStr (state.args.get 0))
        (argvFlags enter (state.args.get 1)
          (nameBytes enter maxExecveArgStr (state.args.get 0)).length) ∧
      (exitEvent mem task state ctx now (some (captureExecve enter state.args))).argTypes.get 1 =
        VarArgKind.argv := by
  rw [exitEvent, captureVars_eq_captures, if_pos exec, exec]
  exact ⟨copyExecveSnapshot_copied (captureExecve_holds enter state.args) _,
    argTypes_execve (eventHeader mem task state ctx now)⟩

/-- A descriptor with flags of a stop is not flagged as a null pointer. -/
theorem flags_nonNull (stop : ArgvStop) : stop.flags &&& VarFlag.nullPointer = 0 := by
  cases stop <;> rfl

/-- What is read back of the vector of an `execve` call: what the loop copied of it. -/
theorem execve_parts {vector : List GoString} {last : ArgvEnd} (exec : state.syscallId = nrExecve)
    (at' : enter.ArgvAt (state.args.get 1) vector last) :
    let fit := argvFit last maxExecveArgv
      (nameBytes enter maxExecveArgStr (state.args.get 0)).length vector
    let ev := exitEvent mem task state ctx now (some (captureExecve enter state.args))
    findVarArgDesc ev 1 = some (ev.varDesc.get 1) ∧
      varPayloadSlice ev (ev.varDesc.get 1) = some (packed fit.1) ∧
      argvParts (packed fit.1) = .ok fit.1 ∧
      (ev.varDesc.get 1).flags = (fitLookAhead last vector fit.2).flags ∧
      formatArg ev 1 = .ok (renderArgv fit.1 (ev.varDesc.get 1).flags) := by
  intro fit ev
  obtain ⟨copied, typed⟩ := exitEvent_execve mem task ctx now exec
  rw [argvCopies_of_argvAt at', ← packed, argvFlags_of_argvAt at'] at copied
  have found : findVarArgDesc ev 1 = some (ev.varDesc.get 1) :=
    findVarArgDesc_of_copied copied
  have read := varPayloadSlice_of_copied copied
  have free : ∀ part ∈ fit.1, 0 ∉ part := by
    refine nulFree_argvFit fun arg mem => ?_
    obtain ⟨i, inside, rfl⟩ := List.getElem_of_mem mem
    obtain ⟨ptr, -, str⟩ := at'.arg i inside
    exact str.nulFree
  have flags : (ev.varDesc.get 1).flags = (fitLookAhead last vector fit.2).flags := by
    rw [copied.argvDesc]
  have unformatted : formatArgSpecial ev 1 = .ok none := by
    have header := exitEvent_header mem state task ctx now (some (captureExecve enter state.args))
    have call : ev.syscallId = nrExecve := header.syscallId.trans exec
    have left : LeftToOthers ev.syscallId 1 := .inl (by rw [call]; decide)
    exact formatArgSpecial_of_left left
  refine ⟨found, read, ?_, flags, ?_⟩
  · rw [argvParts_eq, splitNul_packed free]
  · have rendered := formatVarArgv_eq (by rw [flags]; exact flags_nonNull _) read
    have variable' := formatVarArg_of_argv found typed
    rw [rendered, splitNul_packed free] at variable'
    rw [formatArg, unformatted, Checked.ok_bind]
    exact congrArg (· >>= _) variable'

/-! ## The round trip -/

/-- `VAR_FLAG_READ_ERROR` is set. -/
def Unreadable (flags : UInt8) : Prop := flags &&& VarFlag.readError ≠ 0

instance (flags : UInt8) : Decidable (Unreadable flags) := by
  unfold Unreadable
  infer_instance

/-- **The vector of an `execve` call comes back** as it was, or as a beginning of
it that is flagged.  Where memory stops being readable and capturing gets there,
the readable arguments and the marker are printed; where it does not get there,
the vector counts as truncated.

`start` is the length of the captured file name, so the bounds depend on it as in the code.
Whether capturing gets to the place where memory ends is a condition on the strings before it
(`Reaches`). -/
theorem execve_argv_round_trip (enter mem : UserMemory) (task : Task) (state : SyscallData)
    (ctx : SysExitArgs) (now : UInt64) (vector : List GoString) (last : ArgvEnd)
    (exec : state.syscallId = nrExecve)
    (at' : enter.ArgvAt (state.args.get 1) vector last) :
    let start := (nameBytes enter maxExecveArgStr (state.args.get 0)).length
    let ev := exitEvent mem task state ctx now (some (captureExecve enter state.args))
    ∃ desc payload parts, findVarArgDesc ev 1 = some desc ∧
      varPayloadSlice ev desc = some payload ∧ argvParts payload = .ok parts ∧
      formatArg ev 1 = .ok (renderArgv parts desc.flags) ∧
      CutPrefix parts vector ∧
      (¬ Truncated desc.flags → ¬ Unreadable desc.flags → last = .nullPointer ∧ parts = vector) ∧
      (last ≠ .nullPointer → Reaches last start vector →
        parts = vector ∧ Unreadable desc.flags ∧ ¬ Truncated desc.flags) ∧
      (last ≠ .nullPointer → ¬ Reaches last start vector →
        Truncated desc.flags ∧ ¬ Unreadable desc.flags) := by
  intro start ev
  obtain ⟨found, read, parted, flags, rendered⟩ := execve_parts mem task ctx now exec at'
  refine ⟨_, _, _, found, read, parted, rendered, cutPrefix_argvFit last _ start vector, ?_, ?_,
    ?_⟩
  · intro uncut readable
    rw [flags] at uncut readable
    by_cases reaches : Reaches last start vector
    · obtain ⟨whole, stop⟩ := fit_of_reaches reaches
      rw [stop] at readable
      by_cases null : last = .nullPointer
      · exact ⟨null, whole⟩
      · rw [if_neg null] at readable
        exact absurd (by decide) readable
    · rw [fit_of_not_reaches reaches] at uncut
      exact absurd (by decide) uncut
  · intro unended reaches
    obtain ⟨whole, stop⟩ := fit_of_reaches reaches
    rw [flags, stop, if_neg unended]
    exact ⟨whole, by decide, by decide⟩
  · intro unended misses
    rw [flags, fit_of_not_reaches misses]
    exact ⟨by decide, by decide⟩

end Execve

/-- The file `/a`, and at 8192 an array of nine pointers to `a`, behind which memory
cannot be read. -/
def memoryNine : UserMemory :=
  .table (fun ptr => if 8192 ≤ ptr ∧ ptr < 8264 then some (leBytes 8 12288) else none)
    (fun ptr => if ptr = 4096 then some [47, 97] else if ptr = 12288 then some [97] else none)

theorem memoryNine_argvAt : memoryNine.ArgvAt 8192 (List.replicate 9 [97]) .badArray where
  nonNull := by decide
  arg := by
    intro i inside
    rw [List.length_replicate] at inside
    have pointers : ∀ i < 9, 8192 ≤ 8192 + 8 * i.toUInt64 ∧ 8192 + 8 * i.toUInt64 < 8264 := by
      decide
    refine ⟨12288, UserMemory.readU64_table (if_pos (pointers i inside)), ?_⟩
    rw [List.getElem_replicate]
    exact UserMemory.stringAt_table rfl (by decide) (show 0 ∉ [97] by decide)
  behind := by decide

/-- Of the nine arguments a beginning is printed that is flagged as truncated. -/
theorem execve_argv_round_trip_memoryNine :
    let ev := exitEvent .unmapped ⟨100, 100⟩
      ⟨10, nrExecve, #v[4096, 8192, 0, 0, 0, 0], 1, true⟩ ⟨nrExecve, 0⟩ 11
      (some (captureExecve memoryNine #v[4096, 8192, 0, 0, 0, 0]))
    ∃ desc payload parts, findVarArgDesc ev 1 = some desc ∧
      varPayloadSlice ev desc = some payload ∧ argvParts payload = .ok parts ∧
      formatArg ev 1 = .ok (renderArgv parts desc.flags) ∧
      CutPrefix parts (List.replicate 9 [97]) ∧
      Truncated desc.flags ∧ ¬ Unreadable desc.flags := by
  intro ev
  obtain ⟨desc, payload, parts, found, read, parted, rendered, cut, -, -, missed⟩ :=
    execve_argv_round_trip memoryNine .unmapped ⟨100, 100⟩
      ⟨10, nrExecve, #v[4096, 8192, 0, 0, 0, 0], 1, true⟩ ⟨nrExecve, 0⟩ 11
      (List.replicate 9 [97]) .badArray rfl memoryNine_argvAt
  -- There are eight slots.
  have misses := missed nofun fun reaches => absurd reaches.2.1 (by decide)
  exact ⟨desc, payload, parts, found, read, parted, rendered, cut, misses⟩

/-- An array that cannot be read behind its ninth pointer: eight arguments come out,
without the marker. -/
theorem unreadable_behind_the_slots :
    let args : Vector UInt64 6 := #v[4096, 8192, 0, 0, 0, 0]
    let ev := exitEvent .unmapped ⟨100, 100⟩ ⟨10, nrExecve, args, 1, true⟩ ⟨nrExecve, 0⟩ 11
      (some (captureExecve memoryNine args))
    memoryNine.ArgvAt 8192 (List.replicate 9 [97]) .badArray ∧
      ∃ desc payload, findVarArgDesc ev 1 = some desc ∧ varPayloadSlice ev desc = some payload ∧
        argvParts payload = .ok (List.replicate 8 [97]) ∧ ¬ Unreadable desc.flags := by
  intro args ev
  have fit : argvFit .badArray maxExecveArgv (nameBytes memoryNine maxExecveArgStr 4096).length
      (List.replicate 9 [97]) = (List.replicate 8 [97], .slotsUsed) := by
    decide
  have exec : (⟨10, nrExecve, args, 1, true⟩ : SyscallData).syscallId = nrExecve := rfl
  obtain ⟨found, read, parted, flags, -⟩ := execve_parts .unmapped ⟨100, 100⟩ ⟨nrExecve, 0⟩ 11 exec
    memoryNine_argvAt
  have slots : (argvFit .badArray maxExecveArgv
      (nameBytes memoryNine maxExecveArgStr (args.get 0)).length (List.replicate 9 [97])) =
      (List.replicate 8 [97], .slotsUsed) := fit
  rw [slots] at read parted flags
  refine ⟨memoryNine_argvAt, _, _, found, read, parted, ?_⟩
  rw [flags]
  decide

end Litrace.Trace
