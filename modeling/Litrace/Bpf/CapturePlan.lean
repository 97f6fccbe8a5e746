import Litrace.Bpf.ArgvCapture

/-!
# The captures of a call, as a plan

`capture_vars` is a sequence of tests.  Read as a whole it says for each call
which arguments are captured and how: `captures` is that table, and
`captureVars_eq_captures` says the tests compute it.  No call has more than two
captures, and `execve` has none of its own, since it copies its snapshot.

A capture comes to flags and bytes (`Capture.outcome`), whatever the event it is
made into.  An event whose slots are filled holds the outcomes of its captures,
one in each slot (`SlotsFilled`), and filling the next slot keeps that.

The plan is there for the sake of proofs.  What can be said about captured data
(it is readable memory, it is cut honestly, two captures do not overlap) does
not depend on the call, whereas `capture_vars` tests for each call by number.  So
the tests are gone through once, for `captures`, and everything else is an
induction over a list of captures that `FitsSlots`.

`VarsDelivered` is what the other modules use: each capture is delivered by its
own descriptor, and no two descriptors are of one argument.  The consumer looks
for the first descriptor of an argument, so without the latter it might show the
wrong one.
-/

namespace Litrace.Bpf

open Bytes

/-! ## The plan -/

/-- A capture into a slot of the event. -/
inductive Capture where
  /-- A string, whose argument is marked as one. -/
  | string (argIndex : Fin 6)
  /-- A result structure, whose argument is marked as bytes. -/
  | struct (argIndex : Fin 6) (size : UInt64)
  /-- A buffer; the table of schemas marks its argument already. -/
  | buffer (argIndex : Fin 6) (size : UInt64)
  deriving DecidableEq

/-- The argument a capture is of. -/
def Capture.argIndex : Capture → Fin 6
  | string i | struct i _ | buffer i _ => i

/-- Make the capture. -/
def Capture.run (mem : UserMemory) (args : Vector UInt64 6) : Capture → Event → Event
  | string i, e => captureString mem args i e
  | struct i size, e => captureStruct mem args i size e
  | buffer i size, e => appendVarBytes mem e i.1.toUInt8 (args.get i) size

/-- What is captured of a call other than `execve`. -/
def captures (id ret : Int64) (args : Vector UInt64 6) : List Capture :=
  if id ∈ [nrOpen, nrAccess, nrChdir, nrUnlink] then [.string 0]
  else if id ∈ [nrOpenat, nrOpenat2, nrFaccessat, nrFaccessat2, nrUnlinkat] then [.string 1]
  else if id ∈ [nrNewstat, nrNewlstat] then
    .string 0 :: if 0 ≤ ret then [.struct 1 sizeofStat] else []
  else if id = nrNewfstat then if 0 ≤ ret then [.struct 1 sizeofStat] else []
  else if id = nrNewfstatat then
    .string 1 :: if 0 ≤ ret then [.struct 2 sizeofStat] else []
  else if id = nrStatx then
    .string 1 :: if 0 ≤ ret then [.struct 4 sizeofStatx] else []
  else if id = nrRename then [.string 0, .string 1]
  else if id ∈ [nrRenameat, nrRenameat2] then [.string 1, .string 3]
  else if id = nrWrite then [.buffer 1 (args.get 2)]
  else if id = nrRead then if 0 ≤ ret then [.buffer 1 ret.toUInt64] else []
  else []

/-- The calls that `capture_vars` tests for. -/
def capturedCalls : List Int64 :=
  [nrOpen, nrAccess, nrChdir, nrUnlink, nrOpenat, nrOpenat2, nrFaccessat, nrFaccessat2,
    nrUnlinkat, nrNewstat, nrNewlstat, nrNewfstat, nrNewfstatat, nrStatx, nrRename,
    nrRenameat, nrRenameat2, nrWrite, nrRead, nrExecve]

/-- The tests of `capture_vars` compute the plan. -/
theorem captureVars_eq_captures (mem : UserMemory) (id ret : Int64) (args : Vector UInt64 6)
    (snapshot : Option ExecveSnapshot) (e : Event) :
    captureVars mem id ret args snapshot e =
      if id = nrExecve then copyExecveSnapshot snapshot e
      else (captures id ret args).foldl (fun e c => c.run mem args e) e := by
  by_cases captured : id ∈ capturedCalls
  · simp only [capturedCalls, List.mem_cons, List.not_mem_nil, or_false] at captured
    unfold captureVars captures
    -- With the number known, every test but that of the result computes.
    generalize Int64.decLe 0 ret = success
    rcases captured with rfl | rfl | rfl | rfl | rfl | rfl | rfl | rfl | rfl | rfl | rfl |
      rfl | rfl | rfl | rfl | rfl | rfl | rfl | rfl | rfl <;>
    cases success <;> rfl
  · simp only [capturedCalls, List.mem_cons, List.not_mem_nil, or_false, not_or] at captured
    simp [captureVars, captures, captured]

/-- The capture copies something: a string always has its terminator. -/
def Capture.NonEmpty : Capture → Prop
  | string _ => True
  | struct _ size | buffer _ size => size ≠ 0

/-- Two captures at most, of different arguments, and the second one is not an
empty buffer. -/
def FitsSlots : List Capture → Prop
  | [] | [_] => True
  | [c, d] => c.argIndex ≠ d.argIndex ∧ d.NonEmpty
  | _ => False

/-- Every plan of the table fits its slots, for every return value: the plans are listed and checked
one by one. -/
theorem fitsSlots_captures (id ret : Int64) (args : Vector UInt64 6) :
    FitsSlots (captures id ret args) := by
  unfold captures
  repeat' refine iteInduction (motive := FitsSlots) (fun _ => ?_) (fun _ => ?_)
  all_goals first | trivial | skip
  -- What is left are the calls whose result is captured if they succeed.
  all_goals
    split
    · exact ⟨by decide, show (_ : UInt64) ≠ 0 by decide⟩
    · trivial

/-- No call captures more than two arguments. -/
theorem length_le_of_fitsSlots {plan : List Capture} (fits : FitsSlots plan) :
    plan.length ≤ 2 := by
  match plan, fits with
  | [], _ => exact Nat.zero_le _
  | [_], _ => exact Nat.le_succ _
  | [_, _], _ => exact le_rfl

/-- No argument is captured twice. -/
theorem argIndex_ne_of_fitsSlots {plan : List Capture} (fits : FitsSlots plan) {j k : ℕ}
    (before : j < k) (h : k < plan.length) : plan[j].argIndex ≠ plan[k].argIndex := by
  match plan, fits with
  | [_], _ =>
      rw [List.length_singleton] at h
      omega
  | [c, d], fits =>
      have h : k < 2 := h
      have hj : j = 0 := by omega
      have hk : k = 1 := by omega
      subst hj hk
      exact fits.1

/-! ## What a capture comes to -/

/-- What a capture comes to: the flags of its descriptor and the bytes it delivers. -/
structure Captured where
  argIndex : Fin 6
  flags : UInt8
  bytes : List UInt8

/-- The bytes a buffer capture reads, at most a slot of them. -/
def readBuffer (mem : UserMemory) (ptr size : UInt64) : Option (List UInt8) :=
  if size = 0 then some []
  else (mem.probeReadUser ptr (min size.toNat genericVarSlotSize)).map Vector.toList

/-- The flags of a buffer capture. -/
def bufferFlags (mem : UserMemory) (ptr size : UInt64) : UInt8 :=
  if ptr = 0 then VarFlag.nullPointer
  else
    (if genericVarSlotSize < size.toNat then VarFlag.truncated else VarFlag.none) |||
      (if (readBuffer mem ptr size).isNone then VarFlag.readError else VarFlag.none)

/-- The bytes a buffer capture delivers. -/
def bufferBytes (mem : UserMemory) (ptr size : UInt64) : List UInt8 :=
  if ptr = 0 then [] else (readBuffer mem ptr size).getD []

/-- What the capture comes to. -/
def Capture.outcome (mem : UserMemory) (args : Vector UInt64 6) : Capture → Captured
  | string i =>
      ⟨i, nameFlags mem genericVarSlotSize (args.get i),
        nameBytes mem genericVarSlotSize (args.get i)⟩
  | struct i size | buffer i size =>
      ⟨i, bufferFlags mem (args.get i) size, bufferBytes mem (args.get i) size⟩

@[simp] theorem Capture.outcome_argIndex (mem : UserMemory) (args : Vector UInt64 6)
    (c : Capture) : (c.outcome mem args).argIndex = c.argIndex := by
  cases c <;> rfl

/-- The descriptor is flagged as having no bytes to show. -/
def Failed (flags : UInt8) : Prop :=
  flags &&& (VarFlag.nullPointer ||| VarFlag.readError) ≠ 0

instance (flags : UInt8) : Decidable (Failed flags) := by
  unfold Failed
  infer_instance

theorem failed_readError : Failed VarFlag.readError := by decide

theorem failed_nullPointer : Failed VarFlag.nullPointer := by decide

/-! ## Filling the slots -/

/-- The descriptor delivers what its capture came to. -/
structure DescDelivers {n : ℕ} (payload : Vector UInt8 n) (payloadLen : ℕ)
    (desc : VarArgDesc) (c : Captured) : Prop where
  argIndex : desc.argIndex = c.argIndex.1.toUInt8
  flags : desc.flags = c.flags
  length : desc.length.toNat = c.bytes.length
  bytes : slice payload desc.offset.toNat c.bytes.length = c.bytes
  reach : Failed c.flags ∨ desc.offset.toNat + c.bytes.length ≤ payloadLen

/-- The event holds the captures in its slots, in order. -/
structure SlotsFilled (e : Event) (cs : List Captured) : Prop where
  varCount : e.varCount.toNat = cs.length
  payloadLen : e.payloadLen.toNat ≤ genericVarSlotSize * cs.length
  slot : ∀ (k : Fin 6) (h : k.1 < cs.length),
    (e.varDesc.get k).offset.toNat = genericVarSlotSize * k.1 ∧
      cs[k.1].bytes.length ≤ genericVarSlotSize ∧
      DescDelivers e.payload e.payloadLen.toNat (e.varDesc.get k) cs[k.1]

/-! ### One append -/

/-- `e'` is `e` with `c` appended.  The end of the payload is behind the bytes,
unless the capture does not read (`reads`) a single one. -/
structure Appends (reads : Prop) (e : Event) (c : Captured) (e' : Event) : Prop where
  varCount : e'.varCount = e.varCount + 1
  varDesc : ∀ k : Fin 6, e'.varDesc.get k =
    if e.varCount.toNat = k.1 then
      { slotDesc e c.argIndex.1.toUInt8 with
        flags := c.flags, length := c.bytes.length.toUInt16 }
    else e.varDesc.get k
  short : c.bytes.length ≤ genericVarSlotSize
  payload : ∃ bytes, bytes.length ≤ genericVarSlotSize ∧ c.bytes = bytes.take c.bytes.length ∧
    e'.payload = writeAt e.payload (genericVarSlotSize * e.varCount.toNat) bytes
  grows : e.payloadLen.toNat ≤ e'.payloadLen.toNat
  bounded : e'.payloadLen.toNat ≤
    max e.payloadLen.toNat (genericVarSlotSize * (e.varCount.toNat + 1))
  reach : Failed c.flags ∨ (¬ reads ∧ c.bytes = []) ∨
    genericVarSlotSize * e.varCount.toNat + c.bytes.length ≤ e'.payloadLen.toNat

section Append

variable {e : Event}

/-- A slot starts where its number says. -/
theorem slotDesc_offset (room : e.varCount.toNat < 2) (i : UInt8) :
    (slotDesc e i).offset.toNat = genericVarSlotSize * e.varCount.toNat := by
  unfold slotDesc
  dsimp only
  split
  next none =>
    rw [none]
    rfl
  next some =>
    have one : e.varCount.toNat = 1 := by
      have pos : e.varCount.toNat ≠ 0 := fun h => some (UInt8.toNat_inj.mp h)
      omega
    rw [one]
    rfl

@[simp] theorem slotDesc_flags_or (e : Event) (i flags : UInt8) :
    (slotDesc e i).flags ||| flags = flags :=
  UInt8.zero_or

theorem not_two_le (room : e.varCount.toNat < 2) : ¬ 2 ≤ e.varCount := by
  rw [UInt8.le_iff_toNat_le]
  exact Nat.not_le.mpr room

theorem commitDesc_get (e : Event) (desc : VarArgDesc) (k : Fin 6) :
    (commitDesc e desc).varDesc.get k =
      if e.varCount.toNat = k.1 then desc else e.varDesc.get k :=
  Vector.getElem_setIfInBounds k.2

/-- A capture that delivers nothing still takes its slot. -/
theorem Appends.commit_empty {reads : Prop} (i : Fin 6) {payload : Vector UInt8 512}
    {bytes : List UInt8} {flags : UInt8}
    (written : payload = writeAt e.payload (genericVarSlotSize * e.varCount.toNat) bytes)
    (fits : bytes.length ≤ genericVarSlotSize) (failed : Failed flags ∨ ¬ reads) :
    Appends reads e ⟨i, flags, []⟩
      (commitDesc { e with payload } { slotDesc e i.1.toUInt8 with flags }) where
  varCount := rfl
  varDesc := fun k => commitDesc_get _ _ k
  short := Nat.zero_le _
  payload := ⟨bytes, fits, rfl, written⟩
  grows := le_rfl
  bounded := le_max_left _ _
  reach := failed.imp_right fun h => .inl ⟨h, rfl⟩

/-- A capture that delivers bytes moves the end of the payload behind them. -/
theorem Appends.commit_bytes (reads : Prop) (room : e.varCount.toNat < 2) (i : Fin 6)
    {bytes : List UInt8} (flags : UInt8) (len : ℕ) (fits : bytes.length ≤ genericVarSlotSize)
    (short : len ≤ bytes.length) :
    let stop := (slotDesc e i.1.toUInt8).offset + len.toUInt16
    Appends reads e ⟨i, flags, bytes.take len⟩
      (commitDesc
        { e with
          payload := writeAt e.payload (genericVarSlotSize * e.varCount.toNat) bytes
          payloadLen := if e.payloadLen < stop then stop else e.payloadLen }
        { slotDesc e i.1.toUInt8 with flags, length := len.toUInt16 }) := by
  intro stop
  have offset := slotDesc_offset room i.1.toUInt8
  rw [genericVarSlotSize] at *
  have hlen : len.toUInt16.toNat = len := Nat.mod_eq_of_lt (by omega)
  have htake : (bytes.take len).length = len := List.length_take_of_le short
  have hstop : stop.toNat = 256 * e.varCount.toNat + len := by
    show ((slotDesc e i.1.toUInt8).offset + len.toUInt16).toNat = _
    rw [UInt16.toNat_add, offset, hlen]
    exact Nat.mod_eq_of_lt (by omega)
  have hend : (if e.payloadLen < stop then stop else e.payloadLen).toNat =
      max e.payloadLen.toNat stop.toNat := by
    split
    next less =>
      rw [UInt16.lt_iff_toNat_lt] at less
      exact (max_eq_right (le_of_lt less)).symm
    next more =>
      rw [UInt16.lt_iff_toNat_lt, not_lt] at more
      exact (max_eq_left more).symm
  refine ⟨rfl, ?_, ?_, ⟨bytes, fits, ?_, rfl⟩, ?_, ?_, .inr (.inr ?_)⟩
  · intro k
    rw [htake]
    exact commitDesc_get _ _ k
  · rw [htake]
    exact le_trans short fits
  · rw [htake]
  · exact le_of_le_of_eq (le_max_left _ _) hend.symm
  · refine le_of_eq_of_le hend ?_
    rw [hstop, genericVarSlotSize]
    omega
  · rw [htake]
    exact le_trans (le_of_eq hstop.symm) (le_of_le_of_eq (le_max_right _ _) hend.symm)

/-- What one captured string adds to an event with a free slot. -/
theorem appendVarString_appends (mem : UserMemory) (room : e.varCount.toNat < 2) (i : Fin 6)
    (ptr : UInt64) :
    Appends True e
      ⟨i, nameFlags mem genericVarSlotSize ptr, nameBytes mem genericVarSlotSize ptr⟩
      (appendVarString mem e i.1.toUInt8 ptr) := by
  have offset := slotDesc_offset room i.1.toUInt8
  unfold appendVarString nameFlags nameBytes readName
  rw [if_neg (not_two_le room)]
  dsimp only
  by_cases null : ptr = 0
  · simp only [if_pos null, slotDesc_flags_or]
    exact .commit_empty i (writeAt_nil _ _).symm (Nat.zero_le _) (.inl failed_nullPointer)
  · simp only [if_neg null, offset, UserMemory.readStrInto]
    cases mem.probeReadUserStr ptr genericVarSlotSize with
    | none =>
        simp only [slotDesc_flags_or]
        exact .commit_empty i rfl (le_of_eq List.length_replicate) (.inl failed_readError)
    | some str =>
        have appended := Appends.commit_bytes True room i
          (if str.1.length = genericVarSlotSize then VarFlag.truncated
            else VarFlag.none) (str.1.length - 1) str.2 (Nat.sub_le _ _)
        -- An empty copy keeps the zero length, which is one less than none.
        have length : (if 0 < str.1.length then (str.1.length - 1).toUInt16
            else (slotDesc e i.1.toUInt8).length) = (str.1.length - 1).toUInt16 := by
          split
          · rfl
          next empty =>
            rw [Nat.eq_zero_of_not_pos empty]
            rfl
        rw [← List.dropLast_eq_take] at appended
        simp only [slotDesc_flags_or, length, Option.map_some, Option.getD_some]
        exact appended

/-- The number of bytes `append_var_bytes` asks for. -/
theorem bytesLen_eq (size : ℕ) :
    (if size < genericVarSlotSize then size else genericVarSlotSize) =
      min size genericVarSlotSize := by
  split
  next below => exact (Nat.min_eq_left (le_of_lt below)).symm
  next above => exact (Nat.min_eq_right (not_lt.mp above)).symm

/-- Its flag as long as nothing has failed. -/
theorem bytesFlags_eq (argIndex : UInt8) (size : ℕ) :
    (if size < genericVarSlotSize then (slotDesc e argIndex).flags
      else if genericVarSlotSize < size then VarFlag.truncated
      else (slotDesc e argIndex).flags) =
      if genericVarSlotSize < size then VarFlag.truncated else VarFlag.none := by
  split
  next below =>
    rw [if_neg (lt_asymm below)]
    rfl
  next => rfl

/-- What one captured buffer adds to an event with a free slot; a buffer of no bytes adds its
descriptor only, and so reads nothing. -/
theorem appendVarBytes_appends (mem : UserMemory) (room : e.varCount.toNat < 2) (i : Fin 6)
    (ptr size : UInt64) :
    Appends (size ≠ 0) e ⟨i, bufferFlags mem ptr size, bufferBytes mem ptr size⟩
      (appendVarBytes mem e i.1.toUInt8 ptr size) := by
  have offset := slotDesc_offset room i.1.toUInt8
  unfold appendVarBytes bufferFlags bufferBytes readBuffer
  rw [if_neg (not_two_le room)]
  dsimp only
  by_cases null : ptr = 0
  · simp only [if_pos null, slotDesc_flags_or]
    exact .commit_empty i (writeAt_nil _ _).symm (Nat.zero_le _) (.inl failed_nullPointer)
  · have flags := bytesFlags_eq (e := e) i.1.toUInt8 size.toNat
    have clear : ∀ flags : UInt8, flags ||| VarFlag.none = flags := fun _ => UInt8.or_zero
    rw [bytesLen_eq]
    simp only [if_neg null, offset, slotDesc_flags_or, flags, UserMemory.readInto]
    by_cases empty : size = 0
    · have none : min size.toNat genericVarSlotSize = 0 := by
        rw [empty]
        rfl
      simp only [if_pos empty, if_pos none, Option.isNone_some, Bool.false_eq_true, if_false,
        clear, Option.getD_some]
      exact .commit_empty i (writeAt_nil _ _).symm (Nat.zero_le _) (.inr fun h => h empty)
    · have some : min size.toNat genericVarSlotSize ≠ 0 := by
        have pos : size.toNat ≠ 0 := fun h => empty (UInt64.toNat_inj.mp h)
        rw [genericVarSlotSize]
        omega
      simp only [if_neg empty, if_neg some]
      cases mem.probeReadUser ptr (min size.toNat genericVarSlotSize) with
      | none =>
          have failed : ∀ flags : UInt8, flags = VarFlag.truncated ∨ flags = VarFlag.none →
              Failed (flags ||| VarFlag.readError) := by
            rintro _ (rfl | rfl) <;> decide
          refine .commit_empty i rfl ?_ (.inl (failed _ ?_))
          · rw [List.length_replicate]
            exact Nat.min_le_right _ _
          · split
            · exact .inl rfl
            · exact .inr rfl
      | some bytes =>
          have full : bytes.toList.length = min size.toNat genericVarSlotSize :=
            Vector.length_toList
          have appended := Appends.commit_bytes (size ≠ 0) room i
            (if genericVarSlotSize < size.toNat then VarFlag.truncated
              else VarFlag.none) (min size.toNat genericVarSlotSize)
            (le_of_eq_of_le full (Nat.min_le_right _ _)) (le_of_eq full.symm)
          rw [List.take_of_length_le (le_of_eq full)] at appended
          simp only [Option.map_some, Option.isNone_some, Bool.false_eq_true, if_false, clear,
            Option.getD_some]
          exact appended

/-- A capture appends what it comes to. -/
theorem Capture.run_appends (mem : UserMemory) (args : Vector UInt64 6)
    (room : e.varCount.toNat < 2) (c : Capture) :
    Appends c.NonEmpty e (c.outcome mem args) (c.run mem args e) := by
  cases c with
  | string i =>
      have := appendVarString_appends mem room i (args.get i)
      exact ⟨this.varCount, this.varDesc, this.short, this.payload, this.grows, this.bounded,
        this.reach⟩
  | struct i size =>
      have := appendVarBytes_appends mem room i (args.get i) size
      exact ⟨this.varCount, this.varDesc, this.short, this.payload, this.grows, this.bounded,
        this.reach⟩
  | buffer i size => exact appendVarBytes_appends mem room i (args.get i) size

/-- The descriptor of an append. -/
theorem Appends.desc {reads : Prop} {c : Captured} {e' : Event} (appends : Appends reads e c e')
    {k : Fin 6} (slot : e.varCount.toNat = k.1) :
    e'.varDesc.get k =
      { slotDesc e c.argIndex.1.toUInt8 with
        flags := c.flags, length := c.bytes.length.toUInt16 } :=
  (appends.varDesc k).trans (if_pos slot)

theorem Appends.length {reads : Prop} {c : Captured} {e' : Event}
    (appends : Appends reads e c e') : c.bytes.length.toUInt16.toNat = c.bytes.length := by
  have short := appends.short
  rw [genericVarSlotSize] at short
  exact Nat.mod_eq_of_lt (by omega)

/-- The bytes of an append are in its slot. -/
theorem Appends.bytes {reads : Prop} {c : Captured} {e' : Event}
    (appends : Appends reads e c e') (room : e.varCount.toNat < 2) :
    slice e'.payload (genericVarSlotSize * e.varCount.toNat) c.bytes.length = c.bytes := by
  obtain ⟨bytes, fits, front, written⟩ := appends.payload
  have short : c.bytes.length ≤ bytes.length := by
    rw [front, List.length_take]
    exact Nat.min_le_right _ _
  rw [genericVarSlotSize] at *
  rw [written, slice_writeAt_self (by omega) short]
  exact front.symm

end Append

/-! ### Slot after slot -/

section Slots

variable {e e' : Event} {cs : List Captured}

/-- One more capture keeps the slots filled in order.  A buffer of no bytes may only come first,
which is what `fits` asks: behind another capture its slot may lie beyond the payload. -/
theorem SlotsFilled.append {reads : Prop} {c : Captured} (filled : SlotsFilled e cs)
    (room : cs.length < 2) (appends : Appends reads e c e') (fits : cs = [] ∨ reads) :
    SlotsFilled e' (cs ++ [c]) := by
  have count := filled.varCount
  have room' : e.varCount.toNat < 2 := by omega
  have offset := slotDesc_offset room' c.argIndex.1.toUInt8
  have bytes := appends.bytes room'
  have short := appends.short
  obtain ⟨written, fit, -, payload⟩ := appends.payload
  rw [count] at offset bytes payload
  -- Nothing at all is in reach even of an empty payload, if it is in the first slot.
  have reach : Failed c.flags ∨
      genericVarSlotSize * cs.length + c.bytes.length ≤ e'.payloadLen.toNat := by
    refine appends.reach.imp_right ?_
    rintro (⟨unread, empty⟩ | reach)
    · rw [fits.resolve_right unread, empty]
      exact Nat.zero_le _
    · rwa [count] at reach
  rw [genericVarSlotSize] at *
  refine ⟨?_, ?_, ?_⟩
  · rw [appends.varCount, UInt8.toNat_add, count, List.length_append, List.length_singleton]
    exact Nat.mod_eq_of_lt (show cs.length + 1 < 256 by omega)
  · have bounded := appends.bounded
    have before := filled.payloadLen
    rw [List.length_append, List.length_singleton]
    rw [genericVarSlotSize] at *
    omega
  · intro k h
    by_cases last : cs.length = k.1
    · have here : (cs ++ [c])[k.1] = c := by simp [← last]
      rw [here, appends.desc (count.trans last), ← last]
      refine ⟨offset, short, rfl, rfl, appends.length, ?_, ?_⟩
      · rw [offset]
        exact bytes
      · rwa [offset]
    · have before : k.1 < cs.length := by
        simp only [List.length_append, List.length_singleton] at h
        omega
      obtain ⟨hoff, hlen, del⟩ := filled.slot k before
      rw [genericVarSlotSize] at hoff hlen
      have apart : (e.varDesc.get k).offset.toNat + cs[k.1].bytes.length ≤
          256 * cs.length := by omega
      rw [appends.varDesc k, if_neg fun h => last (count.symm.trans h),
        List.getElem_append_left before]
      refine ⟨hoff, hlen, del.argIndex, del.flags, del.length, ?_, ?_⟩
      · rw [payload]
        exact (slice_writeAt_of_disjoint (.inl apart)).trans del.bytes
      · exact del.reach.imp_right fun hreach => le_trans hreach appends.grows

/-- The captures of a call fill the slots one by one. -/
theorem slotsFilled_foldl (mem : UserMemory) (args : Vector UInt64 6)
    (empty : SlotsFilled e []) {plan : List Capture} (fits : FitsSlots plan) :
    SlotsFilled (plan.foldl (fun e c => c.run mem args e) e)
      (plan.map fun c => c.outcome mem args) := by
  have none : e.varCount.toNat < 2 := by
    rw [empty.varCount]
    decide
  have first : ∀ c : Capture, SlotsFilled (c.run mem args e) [c.outcome mem args] := fun c =>
    empty.append (by decide) (c.run_appends mem args none) (.inl rfl)
  match plan, fits with
  | [], _ => exact empty
  | [c], _ => exact first c
  | [c, d], fits =>
      have one : (c.run mem args e).varCount.toNat < 2 := by
        rw [(first c).varCount]
        exact Nat.lt_succ_self 1
      exact (first c).append (Nat.lt_succ_self 1) (d.run_appends mem args one) (.inr fits.2)

end Slots

/-! ## What an event delivers -/

/-- What the snapshot of an `execve` call came to. -/
def snapshotVars (enter : UserMemory) (args : Vector UInt64 6) : List Captured :=
  let name := nameBytes enter maxExecveArgStr (args.get 0)
  [⟨0, nameFlags enter maxExecveArgStr (args.get 0), name⟩,
    ⟨1, argvFlags enter (args.get 1) name.length,
      (argvCopies enter (args.get 1) name.length).flatten⟩]

/-- What was captured of a call: `mem` is user memory when it returns, `enter`
user memory when the snapshot was taken, if one was. -/
def capturedVars (enter : Option UserMemory) (mem : UserMemory) (id ret : Int64)
    (args : Vector UInt64 6) : List Captured :=
  if id = nrExecve then
    match enter with
    | some enter => snapshotVars enter args
    | none => [⟨0, VarFlag.readError, []⟩, ⟨1, VarFlag.readError, []⟩]
  else (captures id ret args).map fun c => c.outcome mem args

/-- The descriptors of an event deliver the captures: each its own, and no two
share a byte of the payload. -/
structure VarsDelivered (e : Event) (cs : List Captured) : Prop where
  varCount : e.varCount.toNat = cs.length
  few : cs.length ≤ 2
  payloadLen : e.payloadLen.toNat ≤ 512
  each : ∀ (k : Fin 6) (h : k.1 < cs.length),
    DescDelivers e.payload e.payloadLen.toNat (e.varDesc.get k) cs[k.1]
  apart : ∀ j k : Fin 6, j < k → k.1 < cs.length →
    (e.varDesc.get j).offset.toNat + (e.varDesc.get j).length.toNat ≤
      (e.varDesc.get k).offset.toNat

/-- Filled slots are what the reader of the event finds there. -/
theorem SlotsFilled.delivers {e : Event} {cs : List Captured} (filled : SlotsFilled e cs)
    (few : cs.length ≤ 2) : VarsDelivered e cs where
  varCount := filled.varCount
  few := few
  payloadLen := by
    have := filled.payloadLen
    rw [genericVarSlotSize] at this
    omega
  each := fun k h => (filled.slot k h).2.2
  apart := by
    intro j k before h
    have before : j.1 < k.1 := before
    obtain ⟨hoff, hlen, del⟩ := filled.slot j (by omega)
    obtain ⟨hoff', -, -⟩ := filled.slot k h
    rw [hoff, hoff', del.length]
    rw [genericVarSlotSize] at *
    omega

/-- Two descriptors, one behind the other. -/
theorem VarsDelivered.pair {e : Event} {c d : Captured} (varCount : e.varCount = 2)
    (payloadLen : e.payloadLen.toNat ≤ 512)
    (first : DescDelivers e.payload e.payloadLen.toNat (e.varDesc.get 0) c)
    (second : DescDelivers e.payload e.payloadLen.toNat (e.varDesc.get 1) d)
    (behind : (e.varDesc.get 0).offset.toNat + (e.varDesc.get 0).length.toNat ≤
      (e.varDesc.get 1).offset.toNat) : VarsDelivered e [c, d] where
  varCount := by
    rw [varCount]
    rfl
  few := le_rfl
  payloadLen := payloadLen
  each := by
    intro k h
    match k, h with
    | 0, _ => exact first
    | 1, _ => exact second
  apart := by
    intro j k before h
    have before : j.1 < k.1 := before
    have h : k.1 < 2 := h
    have hj : j = 0 := by ext; simp; omega
    have hk : k = 1 := by ext; simp; omega
    rw [hj, hk]
    exact behind

/-- The event has a snapshot at the front of its payload: the name, and the packed
arguments right behind it. -/
structure SnapshotCopied (e : Event) (name packed : List UInt8) (flags flags' : UInt8) :
    Prop where
  varCount : e.varCount = 2
  nameDesc : e.varDesc.get 0 = ⟨0, flags, 0, name.length.toUInt16, 0⟩
  argvDesc : e.varDesc.get 1 = ⟨1, flags', name.length.toUInt16, packed.length.toUInt16, 0⟩
  payloadLen : e.payloadLen.toNat = name.length + packed.length
  room : name.length + packed.length ≤ maxExecveStatePayload
  front : slice e.payload 0 name.length = name
  behind : slice e.payload name.length packed.length = packed

/-- A snapshot that holds a name and packed arguments puts exactly these in the event. -/
theorem copyExecveSnapshot_copied {snap : ExecveSnapshot} {name packed : List UInt8}
    {flags flags' : UInt8} (holds : snap.Holds name packed flags flags') (e : Event) :
    SnapshotCopied (copyExecveSnapshot (some snap) e) name packed flags flags' := by
  have room := holds.room
  rw [maxExecveStatePayload] at room
  obtain ⟨nameRead, packedRead⟩ := holds.slices
  exact
    { varCount := holds.varCount
      nameDesc := by
        rw [← holds.nameDesc]
        show ((e.varDesc.set 0 snap.varDesc[0]).set 1 snap.varDesc[1])[0] = snap.varDesc[0]
        simp
      argvDesc := by
        rw [← holds.argvDesc]
        show ((e.varDesc.set 0 snap.varDesc[0]).set 1 snap.varDesc[1])[1] = snap.varDesc[1]
        simp
      payloadLen := by
        show snap.payloadLen.toNat = _
        rw [holds.payloadLen]
        exact Nat.mod_eq_of_lt (by omega)
      room := holds.room
      front := (slice_writeAt_toList (by decide) (by omega)).trans nameRead
      behind := (slice_writeAt_toList (by decide) (by omega)).trans packedRead }

/-- A copied snapshot is delivered as the name and the arguments, in this order. -/
theorem SnapshotCopied.delivers {e : Event} {name packed : List UInt8} {flags flags' : UInt8}
    (copied : SnapshotCopied e name packed flags flags') :
    VarsDelivered e [⟨0, flags, name⟩, ⟨1, flags', packed⟩] := by
  have room := copied.room
  rw [maxExecveStatePayload] at room
  have nameLen : name.length.toUInt16.toNat = name.length := Nat.mod_eq_of_lt (by omega)
  have packedLen : packed.length.toUInt16.toNat = packed.length := Nat.mod_eq_of_lt (by omega)
  have whole := copied.payloadLen
  refine .pair copied.varCount (by omega) ?_ ?_ ?_
  · rw [copied.nameDesc]
    exact ⟨rfl, rfl, nameLen, copied.front, .inr (by rw [whole]; simp)⟩
  · rw [copied.argvDesc]
    refine ⟨rfl, rfl, packedLen, by rw [nameLen]; exact copied.behind, .inr ?_⟩
    rw [whole, nameLen]
  · rw [copied.nameDesc, copied.argvDesc, nameLen]
    exact le_of_eq (Nat.zero_add _)

/-- A copied snapshot delivers what it holds. -/
theorem copyExecveSnapshot_delivers {snap : ExecveSnapshot} {name packed : List UInt8}
    {flags flags' : UInt8} (holds : snap.Holds name packed flags flags') (e : Event) :
    VarsDelivered (copyExecveSnapshot (some snap) e)
      [⟨0, flags, name⟩, ⟨1, flags', packed⟩] :=
  (copyExecveSnapshot_copied holds e).delivers

/-- Without a snapshot both variables are unreadable. -/
theorem copyExecveSnapshot_none_delivers {e : Event}
    (clear : e.varDesc = Vector.replicate 6 VarArgDesc.zero) (empty : e.payloadLen = 0) :
    VarsDelivered (copyExecveSnapshot none e)
      [⟨0, VarFlag.readError, []⟩, ⟨1, VarFlag.readError, []⟩] := by
  have desc0 : (copyExecveSnapshot none e).varDesc.get 0 =
      ⟨0, VarFlag.readError, 0, 0, 0⟩ := by
    rw [copyExecveSnapshot, clear]
    rfl
  have desc1 : (copyExecveSnapshot none e).varDesc.get 1 =
      ⟨1, VarFlag.readError, 0, 0, 0⟩ := by
    rw [copyExecveSnapshot, clear]
    rfl
  have whole : (copyExecveSnapshot none e).payloadLen = 0 := empty
  refine .pair rfl (by rw [whole]; decide) ?_ ?_ ?_
  · rw [desc0]
    exact ⟨rfl, rfl, rfl, rfl, .inl failed_readError⟩
  · rw [desc1]
    exact ⟨rfl, rfl, rfl, rfl, .inl failed_readError⟩
  · rw [desc0, desc1]
    exact le_rfl

end Litrace.Bpf
