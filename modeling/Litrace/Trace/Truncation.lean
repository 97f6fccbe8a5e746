import Litrace.Bpf.ReadableMemory
import Litrace.Trace.Payload

/-!
# False alarms of the truncation flag

`VAR_FLAG_TRUNCATED` is to say that something of the source is missing.  The
string helper returns the same count for a string that just fits and for one
that was cut, and the captures take the full count for a cut: a string that
fills its slot to the last byte is flagged although it is captured whole.  The
path filter ignores a flagged path, so such a path never matches.

Each capture has its own boundary.  `append_var_bytes` compares sizes and is
never wrong.

For each kind of capture the flag is compared with what memory held, under the
documented behaviour of the helper.  The boundaries are the sizes of the slots
less the terminator, and each false alarm is a whole source that ends exactly
there.
-/

namespace Litrace.Trace

open Bpf Bytes Filepath

/-! ## The flag -/

/-- `VAR_FLAG_TRUNCATED` is set. -/
def Truncated (flags : UInt8) : Prop := flags &&& VarFlag.truncated ≠ 0

instance (flags : UInt8) : Decidable (Truncated flags) := by
  unfold Truncated
  infer_instance

/-- The flag is set only if something of the source is missing. -/
def Honest {α : Type} (flags : UInt8) (captured source : α) : Prop :=
  Truncated flags → captured ≠ source

/-- The descriptor is flagged only if the payload lacks something of the source. -/
def HonestDesc {n : ℕ} (payload : Vector UInt8 n) (desc : VarArgDesc) (source : List UInt8) :
    Prop :=
  Honest desc.flags (slice payload desc.offset.toNat desc.length.toNat) source

/-- The slot the next capture into the event goes to. -/
def nextSlot (ev : Event) (room : ev.varCount.toNat < 2) : Fin 6 :=
  ⟨ev.varCount.toNat, by omega⟩

/-- What an append leaves in its slot. -/
theorem honestDesc_of_appends {reads : Prop} {ev ev' : Event} {c : Captured}
    (room : ev.varCount.toNat < 2) (appends : Appends reads ev c ev') (source : List UInt8) :
    HonestDesc ev'.payload (ev'.varDesc.get (nextSlot ev room)) source ↔
      Honest c.flags c.bytes source := by
  rw [appends.desc (k := nextSlot ev room) rfl, HonestDesc]
  show Honest c.flags (slice ev'.payload (slotDesc ev c.argIndex.1.toUInt8).offset.toNat
    c.bytes.length.toUInt16.toNat) source ↔ _
  rw [slotDesc_offset room, appends.length, appends.bytes room]

/-- What a snapshot holds for its two descriptors. -/
theorem honestDesc_of_holds {snap : ExecveSnapshot} {name packed source : List UInt8}
    {flags flags' : UInt8} (holds : snap.Holds name packed flags flags') :
    (HonestDesc snap.payload (snap.varDesc.get 0) source ↔ Honest flags name source) ∧
      (HonestDesc snap.payload (snap.varDesc.get 1) source ↔ Honest flags' packed source) := by
  obtain ⟨nameRead, packedRead⟩ := holds.slices
  have room := holds.room
  rw [maxExecveStatePayload] at room
  have nameLen : name.length.toUInt16.toNat = name.length := Nat.mod_eq_of_lt (by omega)
  have packedLen : packed.length.toUInt16.toNat = packed.length := Nat.mod_eq_of_lt (by omega)
  rw [HonestDesc, HonestDesc, holds.nameDesc, holds.argvDesc]
  refine ⟨?_, ?_⟩
  · show Honest flags (slice snap.payload 0 name.length.toUInt16.toNat) source ↔ _
    rw [nameLen, nameRead]
  · show Honest flags' (slice snap.payload name.length.toUInt16.toNat
      packed.length.toUInt16.toNat) source ↔ _
    rw [nameLen, packedLen, packedRead]

section Strings

variable {mem : UserMemory} {ptr : UInt64} {s : List UInt8}

/-- A capture of a string is wrong about exactly one length. -/
theorem honest_name_iff (str : mem.StringAt ptr s) {size : ℕ} (pos : 0 < size) :
    Honest (nameFlags mem size ptr) (nameBytes mem size ptr) s ↔ s.length + 1 ≠ size := by
  rw [Honest, nameFlags_of_stringAt str pos, nameBytes_of_stringAt str pos]
  constructor
  · intro honest full
    refine honest ?_ (List.take_of_length_le (by omega))
    rw [if_pos (le_of_eq full.symm)]
    decide
  · intro ne flagged whole
    have fits : ¬ size ≤ s.length + 1 := by
      have := congrArg List.length whole
      rw [List.length_take] at this
      omega
    rw [if_neg fits] at flagged
    exact flagged rfl

/-- A buffer is read as far as a slot goes. -/
theorem readBuffer_of_bytesAt {size : UInt64} {bytes : List UInt8} (at' : mem.BytesAt ptr bytes)
    (exact' : size.toNat = bytes.length) :
    readBuffer mem ptr size = some (bytes.take genericVarSlotSize) := by
  rw [readBuffer]
  split
  next empty =>
    have none : bytes = [] := List.length_eq_zero_iff.mp (by rw [← exact', empty]; rfl)
    rw [none, List.take_nil]
  next some =>
    rw [at'.read _ (by omega), exact']
    congr 1
    exact List.take_eq_take_iff.mpr (by omega)

/-- A buffer is compared with the size of its slot, so its flag is right. -/
theorem bufferFlags_of_bytesAt {size : UInt64} {bytes : List UInt8} (at' : mem.BytesAt ptr bytes)
    (exact' : size.toNat = bytes.length) :
    bufferFlags mem ptr size =
      if genericVarSlotSize < bytes.length then VarFlag.truncated else VarFlag.none := by
  rw [bufferFlags, if_neg at'.nonNull, readBuffer_of_bytesAt at' exact', exact']
  exact UInt8.or_zero

theorem bufferBytes_of_bytesAt {size : UInt64} {bytes : List UInt8} (at' : mem.BytesAt ptr bytes)
    (exact' : size.toNat = bytes.length) :
    bufferBytes mem ptr size = bytes.take genericVarSlotSize := by
  rw [bufferBytes, if_neg at'.nonNull, readBuffer_of_bytesAt at' exact', Option.getD_some]

/-- A capture of a buffer is never wrong. -/
theorem honest_buffer {size : UInt64} {bytes : List UInt8} (at' : mem.BytesAt ptr bytes)
    (exact' : size.toNat = bytes.length) :
    Honest (bufferFlags mem ptr size) (bufferBytes mem ptr size) bytes := by
  rw [bufferFlags_of_bytesAt at' exact', bufferBytes_of_bytesAt at' exact']
  intro flagged whole
  have fits : ¬ genericVarSlotSize < bytes.length := by
    have := congrArg List.length whole
    rw [List.length_take] at this
    omega
  rw [if_neg fits] at flagged
  exact flagged rfl

end Strings

/-! ## Argument vectors -/

section Argv

variable {n cursor : ℕ} {arg : List UInt8} {args : List (List UInt8)}

/-- The last argument fills its share to the last byte, and all before it were
copied whole within `n` slots. -/
def LastFills (n cursor : ℕ) (args : List (List UInt8)) : Prop :=
  ∃ init last, args = init ++ [last] ∧ init.length < n ∧ CopiedWhole cursor init ∧
    cursor + packedLen init ≤ maxExecveStatePayload - maxExecveArgStr ∧
      last.length + 1 = maxExecveArgStr

/-- Only the last argument can fill its share without being cut; one before it ends the copying. -/
theorem lastFills_cons :
    LastFills (n + 1) cursor (arg :: args) ↔
      cursor ≤ maxExecveStatePayload - maxExecveArgStr ∧
        (args = [] ∧ arg.length + 1 = maxExecveArgStr ∨
          arg.length + 1 < maxExecveArgStr ∧
            LastFills n (cursor + (arg.length + 1)) args) := by
  constructor
  · rintro ⟨init, last, heq, slots, whole, room, fills⟩
    cases init with
    | nil =>
        obtain ⟨rfl, rfl⟩ := List.cons_eq_cons.mp heq
        exact ⟨room, .inl ⟨rfl, fills⟩⟩
    | cons first init =>
        obtain ⟨rfl, rfl⟩ := List.cons_eq_cons.mp heq
        obtain ⟨room', short, whole⟩ := whole
        refine ⟨room', .inr ⟨short, init, last, rfl, Nat.lt_of_succ_lt_succ slots, whole, ?_,
          fills⟩⟩
        rwa [packedLen_cons, ← Nat.add_assoc] at room
  · rintro ⟨room, ⟨rfl, fills⟩ | ⟨short, init, last, rfl, slots, whole, room', fills⟩⟩
    · exact ⟨[], arg, rfl, Nat.succ_pos n, trivial, room, fills⟩
    · refine ⟨arg :: init, last, rfl, Nat.succ_lt_succ slots, ⟨room, short, whole⟩, ?_, fills⟩
      rwa [packedLen_cons, ← Nat.add_assoc]

/-- A vector that the loop takes for cut is all there exactly if its last
argument just fits. -/
theorem packed_eq_iff (cut : (argvFit .nullPointer n cursor args).2 = .cut) :
    packed (argvFit .nullPointer n cursor args).1 = packed args ↔ LastFills n cursor args := by
  induction args generalizing n cursor with
  | nil => cases n <;> cases cut
  | cons arg args ih =>
      cases n with
      | zero => cases cut
      | succ n =>
          rw [lastFills_cons]
          rw [argvFit] at cut ⊢
          split
          next full =>
            -- No byte of the vector was copied, and it has at least one.
            refine iff_of_false (fun none => ?_) fun fits => full.not_ge fits.1
            rw [packed_nil, packed_cons] at none
            exact List.append_ne_nil_of_right_ne_nil _ (List.cons_ne_nil _ _) none.symm
          next room =>
            rw [if_neg room] at cut
            split
            next long =>
              have hlen : (packed [arg.take (maxExecveArgStr - 1)]).length = maxExecveArgStr := by
                rw [maxExecveArgStr] at *
                rw [← packedLen, packedLen_cons, packedLen_nil, List.length_take]
                omega
              constructor
              · intro whole
                have all := congrArg List.length whole
                rw [hlen, ← packedLen, packedLen_cons] at all
                refine ⟨Nat.not_lt.mp room, .inl ⟨?_, by omega⟩⟩
                cases args with
                | nil => rfl
                | cons next args =>
                    rw [packedLen_cons] at all
                    omega
              · rintro ⟨-, ⟨rfl, fills⟩ | ⟨short, -⟩⟩
                · rw [List.take_of_length_le (by omega)]
                · exact absurd long (Nat.not_le.mpr short)
            next short =>
              rw [if_neg short] at cut
              rw [packed_cons, packed_cons, List.append_cancel_left_eq, List.cons_inj_right,
                ih cut]
              constructor
              · exact fun fills => ⟨Nat.not_lt.mp room, .inr ⟨Nat.not_le.mp short, fills⟩⟩
              · rintro ⟨-, ⟨-, fills⟩ | ⟨-, fills⟩⟩
                · exact absurd (le_of_eq fills.symm) short
                · exact fills

/-- Such a vector is taken for cut. -/
theorem LastFills.cut (fills : LastFills n cursor args) :
    (argvFit .nullPointer n cursor args).2 = .cut := by
  obtain ⟨init, last, rfl, slots, whole, room, full⟩ := fills
  rw [argvFit_of_copiedWhole _ whole [last] (le_of_lt slots)]
  obtain ⟨left, hleft⟩ := Nat.exists_eq_succ_of_ne_zero (Nat.sub_ne_zero_of_lt slots)
  rw [hleft, argvFit, if_neg (Nat.not_lt.mpr room), if_pos (le_of_eq full.symm)]

theorem packedLen_take_lt (h : n < args.length) : packedLen (args.take n) < packedLen args := by
  induction args generalizing n with
  | nil => cases h
  | cons arg args ih =>
      cases n with
      | zero =>
          rw [List.take_zero, packedLen_nil, packedLen_cons]
          omega
      | succ n =>
          have := ih (Nat.lt_of_succ_lt_succ h)
          rw [List.take_succ_cons, packedLen_cons, packedLen_cons]
          omega

/-- A capture of a vector is wrong about those whose last argument just fits. -/
theorem honest_argv_iff {mem : UserMemory} {argv : UInt64}
    (at' : mem.ArgvAt argv args .nullPointer) (start : ℕ) :
    Honest (argvFlags mem argv start) (argvCopies mem argv start).flatten (packed args) ↔
      ¬ LastFills maxExecveArgv start args := by
  rw [Honest, argvFlags_of_argvAt at', argvCopies_of_argvAt at', ← packed]
  by_cases hstop : (argvFit .nullPointer maxExecveArgv start args).2 = .cut
  · have flagged : Truncated (ArgvStop.cut).flags := by decide
    rw [hstop, ← packed_eq_iff hstop]
    exact ⟨fun honest => honest flagged, fun ne _ => ne⟩
  · refine iff_of_true (fun flagged whole => ?_) fun fills => hstop fills.cut
    -- The look ahead is what is left to set the flag, and then an argument is missing.
    cases used : (argvFit .nullPointer maxExecveArgv start args).2 with
    | slotsUsed =>
        rw [used, fitLookAhead] at flagged
        rw [(length_of_slotsUsed used).2] at whole
        by_cases more : maxExecveArgv < args.length
        · exact absurd (congrArg List.length whole) (ne_of_lt (packedLen_take_lt more))
        · rw [if_neg more] at flagged
          exact flagged rfl
    | cut => exact hstop used
    | complete =>
        have clear : ¬ Truncated ArgvStop.complete.flags := by decide
        rw [used] at flagged
        exact clear flagged
    | unreadable =>
        have clear : ¬ Truncated ArgvStop.unreadable.flags := by decide
        rw [used] at flagged
        exact clear flagged

end Argv

/-! ## Paths -/

/-- Whether the path filter gets to see a captured path. -/
theorem eventTracePathAt_exitEvent (mem : UserMemory) (task : Task) (state : SyscallData)
    (ctx : SysExitArgs) (now : UInt64) (snapshot : Option ExecveSnapshot) {i : Fin 6}
    (captured : .string i ∈ captures state.syscallId ctx.ret state.args) :
    eventTracePathAt (exitEvent mem task state ctx now snapshot) i =
      if nameFlags mem genericVarSlotSize (state.args.get i) = VarFlag.none then
        some (nameBytes mem genericVarSlotSize (state.args.get i))
      else none := by
  have other : state.syscallId ≠ nrExecve := by
    intro exec
    rw [exec] at captured
    cases captured
  obtain ⟨cs, delivered, k, h, outcome, first⟩ :=
    exitEvent_slot mem task state ctx now snapshot captured other
  have path := eventTracePathAt_of_delivered delivered k h first
  rw [outcome] at path
  exact path

section Paths

variable {mem : UserMemory} {s : List UInt8} {path : Option GoString}

/-- A path that fits its slot is seen unless it fills it. -/
theorem delivered_iff {ptr : UInt64} (str : mem.StringAt ptr s) (fits : s.length ≤ 255) :
    (if nameFlags mem genericVarSlotSize ptr = VarFlag.none then
      some (nameBytes mem genericVarSlotSize ptr) else none) =
      if s.length = 255 then none else some s := by
  rw [nameFlags_of_stringAt str (by decide), nameBytes_of_stringAt str (by decide),
    genericVarSlotSize, List.take_of_length_le fits]
  by_cases full : s.length = 255
  · rw [if_pos (show 256 ≤ s.length + 1 by omega), if_pos full]
    rfl
  · rw [if_neg (show ¬ 256 ≤ s.length + 1 by omega), if_neg full]
    rfl

/-- An absolute path that is selected is matched as soon as it is seen. -/
theorem matchesPathAt_of_isAbs (st : PathStates) (proc : ProcCwd) {ev : Event} {i : Fin 6}
    (abs : isAbs s) (selected : clean s ∈ st.paths) {hidden : Prop}
    [Decidable hidden] (seen : eventTracePathAt ev i = if hidden then none else some s) :
    (st.matchesPathAt proc ev i).2 = true ↔ ¬ hidden := by
  have some : s ≠ [] := by
    rintro rfl
    cases abs
  unfold PathStates.matchesPathAt PathStates.resolvePathAt PathStates.resolvePath
  rw [seen]
  by_cases hide : hidden
  · simp [hide]
  · simp [hide, some, abs, selected]

end Paths

/-! ## When the flag is honest -/

/-- **The truncation flag is honest but for sources that just fit**: a string of
255 bytes in a slot, a file name of 127 bytes, a vector whose last argument has
127 bytes.  A path of 255 bytes is kept from the path filter.

Each part has its own premise about memory and its own bound.  The condition is on the length of
what was in memory, before it was captured, and the flag is what is found in the event. -/
theorem truncation_honest_iff (mem : UserMemory) :
    (∀ (ev : Event) (room : ev.varCount.toNat < 2) (i : Fin 6) (ptr : UInt64)
      (s : List UInt8), mem.StringAt ptr s →
        let ev' := appendVarString mem ev i.1.toUInt8 ptr
        (HonestDesc ev'.payload (ev'.varDesc.get (nextSlot ev room)) s ↔ s.length ≠ 255)) ∧
    (∀ (ev : Event) (room : ev.varCount.toNat < 2) (i : Fin 6) (ptr size : UInt64)
      (bytes : List UInt8), mem.BytesAt ptr bytes → size.toNat = bytes.length →
        let ev' := appendVarBytes mem ev i.1.toUInt8 ptr size
        HonestDesc ev'.payload (ev'.varDesc.get (nextSlot ev room)) bytes) ∧
    (∀ (args : Vector UInt64 6) (s : List UInt8), mem.StringAt (args.get 0) s →
      let snap := captureExecve mem args
      (HonestDesc snap.payload (snap.varDesc.get 0) s ↔ s.length ≠ 127)) ∧
    (∀ (args : Vector UInt64 6) (vector : List (List UInt8)),
      mem.ArgvAt (args.get 1) vector .nullPointer →
        let named := appendExecveVarString mem ExecveSnapshot.zero 0 (args.get 0)
        let snap := captureExecve mem args
        (HonestDesc snap.payload (snap.varDesc.get 1) (packed vector) ↔
          ¬ LastFills maxExecveArgv named.payloadLen.toNat vector)) ∧
    (∀ (task : Task) (state : SyscallData) (ctx : SysExitArgs) (now : UInt64)
      (snapshot : Option ExecveSnapshot) (i : Fin 6) (s : List UInt8),
      .string i ∈ captures state.syscallId ctx.ret state.args →
      mem.StringAt (state.args.get i) s → s.length ≤ 255 →
        let ev := exitEvent mem task state ctx now snapshot
        (eventTracePathAt ev i = some s ↔ s.length ≠ 255) ∧
        (isAbs s → ∀ (st : PathStates) (proc : ProcCwd), clean s ∈ st.paths →
          ((st.matchesPathAt proc ev i).2 = true ↔ s.length ≠ 255))) := by
  refine ⟨?_, ?_, ?_, ?_, ?_⟩
  · intro ev room i ptr s str
    dsimp only
    rw [honestDesc_of_appends room (appendVarString_appends mem room i ptr),
      honest_name_iff str (by decide), genericVarSlotSize]
    omega
  · intro ev room i ptr size bytes at' exact'
    exact (honestDesc_of_appends room (appendVarBytes_appends mem room i ptr size) bytes).mpr
      (honest_buffer at' exact')
  · intro args s str
    dsimp only
    rw [(honestDesc_of_holds (captureExecve_holds mem args)).1, honest_name_iff str (by decide),
      maxExecveArgStr]
    omega
  · intro args vector at'
    dsimp only
    rw [(honestDesc_of_holds (captureExecve_holds mem args)).2, honest_argv_iff at',
      payloadLen_appendExecveVarString]
  · intro task state ctx now snapshot i s captured str fits
    have seen := (eventTracePathAt_exitEvent mem task state ctx now snapshot captured).trans
      (delivered_iff str fits)
    refine ⟨?_, fun abs st proc selected => matchesPathAt_of_isAbs st proc abs selected seen⟩
    rw [seen]
    split
    next full => simp [full]
    next other => simp [other]

/-- `/a` at 4096, and a vector with the only argument `a` at 8192. -/
def memoryA : UserMemory :=
  .table (fun ptr => if ptr = 8192 then some (leBytes 8 12288)
      else if ptr = 8200 then some (leBytes 8 0) else none)
    (fun ptr => if ptr = 4096 then some [47, 97] else if ptr = 12288 then some [97] else none)

theorem memoryA_stringAt : memoryA.StringAt 4096 [47, 97] :=
  UserMemory.stringAt_table rfl (by decide) (by decide)

theorem memoryA_argvAt : memoryA.ArgvAt 8192 [[97]] .nullPointer where
  nonNull := by decide
  arg := by
    intro i h
    rw [List.length_singleton, Nat.lt_one_iff] at h
    subst h
    exact ⟨12288, UserMemory.readU64_table rfl,
      UserMemory.stringAt_table rfl (by decide) (show 0 ∉ [97] by decide)⟩
  behind := UserMemory.readU64_table rfl

theorem room_zero : Event.zero.varCount.toNat < 2 := by decide

/-- `open("/a", 0, 0)`, which returned 3. -/
def openedA : SyscallData := ⟨10, nrOpen, #v[4096, 0, 0, 0, 0, 0], 1, true⟩

theorem truncation_honest_iff_memoryA :
    (let ev := exitEvent memoryA ⟨100, 100⟩ openedA ⟨nrOpen, 3⟩ 11 none
     eventTracePathAt ev 0 = some [47, 97] ↔ [47, 97].length ≠ 255) ∧
    (let ev' := appendVarString memoryA Event.zero 0 4096
     HonestDesc ev'.payload (ev'.varDesc.get (nextSlot Event.zero room_zero)) [47, 97] ↔
      [47, 97].length ≠ 255) ∧
    (let ev' := appendVarBytes memoryA Event.zero 1 8192 8
     HonestDesc ev'.payload (ev'.varDesc.get (nextSlot Event.zero room_zero))
      (leBytes 8 12288)) ∧
    (let snap := captureExecve memoryA #v[4096, 8192, 0, 0, 0, 0]
     HonestDesc snap.payload (snap.varDesc.get 0) [47, 97] ↔ [47, 97].length ≠ 127) ∧
    (let snap := captureExecve memoryA #v[4096, 8192, 0, 0, 0, 0]
     let named := appendExecveVarString memoryA ExecveSnapshot.zero 0 4096
     HonestDesc snap.payload (snap.varDesc.get 1) (packed [[97]]) ↔
      ¬ LastFills maxExecveArgv named.payloadLen.toNat [[97]]) :=
  ⟨((truncation_honest_iff memoryA).2.2.2.2 ⟨100, 100⟩ openedA ⟨nrOpen, 3⟩ 11 none 0 [47, 97]
      (by decide) memoryA_stringAt (by decide)).1,
    (truncation_honest_iff memoryA).1 Event.zero room_zero 0 4096 [47, 97] memoryA_stringAt,
    (truncation_honest_iff memoryA).2.1 Event.zero room_zero 1 8192 8 _
      (UserMemory.bytesAt_table rfl (by decide)) rfl,
    (truncation_honest_iff memoryA).2.2.1 #v[4096, 8192, 0, 0, 0, 0] [47, 97] memoryA_stringAt,
    (truncation_honest_iff memoryA).2.2.2.1 #v[4096, 8192, 0, 0, 0, 0] [[97]] memoryA_argvAt⟩

/-- A path of 255 bytes. -/
def path255 : List UInt8 := 47 :: List.replicate 254 97

/-- Memory with that path at 4096. -/
def memory255 : UserMemory :=
  .table (fun _ => none) fun ptr => if ptr = 4096 then some path255 else none

/-- A path of 255 bytes fits its slot, is captured to the last byte, is flagged,
and is kept from the path filter. -/
theorem path255_is_hidden :
    let ev' := appendVarString memory255 Event.zero 0 4096
    let ev := exitEvent memory255 ⟨100, 100⟩ openedA ⟨nrOpen, 3⟩ 11 none
    memory255.StringAt 4096 path255 ∧ path255.length = 255 ∧
      ¬ HonestDesc ev'.payload (ev'.varDesc.get (nextSlot Event.zero room_zero)) path255 ∧
      eventTracePathAt ev 0 = none := by
  intro ev' ev
  have str : memory255.StringAt 4096 path255 :=
    UserMemory.stringAt_table rfl (by decide) (by decide)
  have full : path255.length = 255 := by rw [path255, List.length_cons, List.length_replicate]
  refine ⟨str, full, ?_, ?_⟩
  · have appends := appendVarString_appends memory255 room_zero 0 4096
    refine mt (honestDesc_of_appends room_zero appends path255).mp ?_
    rw [honest_name_iff str (by decide), full]
    decide
  · have seen := (eventTracePathAt_exitEvent memory255 ⟨100, 100⟩ openedA ⟨nrOpen, 3⟩ 11 none
      (i := 0) (by decide)).trans (delivered_iff str (le_of_eq full))
    rwa [if_pos full] at seen

end Litrace.Trace
