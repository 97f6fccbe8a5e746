import Litrace.Bpf.ArgvCapture

/-!
# Strings and argument vectors in user memory

What it means that user memory holds a string, a buffer or an argument vector
(`StringAt`, `BytesAt`, `ArgvAt`), with the string helper as it is documented:
it copies at most `size` bytes, the terminator included.  A vector ends with its
null pointer, or where memory stops being readable.

On such memory the argument loop depends on the strings alone: `argvFit` is what
it copies of them, and why it stops.

The predicates say of the oracle what the helpers of the kernel promise about
memory that holds such data; nothing is said about other addresses, so a vector
may lie amid memory that cannot be read.  `table` makes memory that satisfies
them, and thereby shows that they can be satisfied, several at once.

`CopiedWhole` is the condition on the strings alone under which nothing is cut:
each finds room behind those before it, and none fills its share of 128 bytes.
-/

namespace Litrace.Bpf

open Bytes

namespace UserMemory

/-- The string `s` with its terminator at `ptr`. -/
structure StringAt (mem : UserMemory) (ptr : UInt64) (s : List UInt8) : Prop where
  nonNull : ptr ≠ 0
  nulFree : 0 ∉ s
  read : ∀ size, 0 < size →
    (mem.probeReadUserStr ptr size).map Subtype.val = some (s.take (size - 1) ++ [0])

/-- The bytes at `ptr`. -/
structure BytesAt (mem : UserMemory) (ptr : UInt64) (bytes : List UInt8) : Prop where
  nonNull : ptr ≠ 0
  read : ∀ size, size ≤ bytes.length →
    (mem.probeReadUser ptr size).map Vector.toList = some (bytes.take size)

/-- What follows the readable arguments of a vector. -/
inductive ArgvEnd where
  | nullPointer
  /-- The array cannot be read on. -/
  | badArray
  /-- The next string cannot be read. -/
  | badString
  deriving DecidableEq

/-- The array at `argv` leads to the strings `args`, and then to `last`. -/
structure ArgvAt (mem : UserMemory) (argv : UInt64) (args : List (List UInt8))
    (last : ArgvEnd) : Prop where
  nonNull : argv ≠ 0
  arg : ∀ (i : ℕ) (h : i < args.length), ∃ ptr,
    mem.readU64 (argv + 8 * i.toUInt64) = some ptr ∧ mem.StringAt ptr args[i]
  behind : match last with
    | .nullPointer => mem.readU64 (argv + 8 * args.length.toUInt64) = some 0
    | .badArray => mem.readU64 (argv + 8 * args.length.toUInt64) = none
    | .badString => ∃ ptr, ptr ≠ 0 ∧
        mem.readU64 (argv + 8 * args.length.toUInt64) = some ptr ∧
        mem.probeReadUserStr ptr maxExecveArgStr = none

/-! ## Memory given by tables -/

/-- Memory in which some addresses hold a buffer and some a string. -/
def table (buffers strings : UInt64 → Option (List UInt8)) : UserMemory where
  probeReadUser ptr size :=
    match buffers ptr with
    | none => none
    | some bytes =>
        if h : size ≤ bytes.length then
          some ⟨(bytes.take size).toArray, by rw [List.size_toArray, List.length_take_of_le h]⟩
        else none
  probeReadUserStr ptr size :=
    match strings ptr with
    | none => none
    | some s => some ⟨(s.take (size - 1) ++ [0]).take size, List.length_take_le _ _⟩

section Table

variable {buffers strings : UInt64 → Option (List UInt8)} {ptr : UInt64}

/-- A table of strings is a memory that holds each of them. -/
theorem stringAt_table {s : List UInt8} (held : strings ptr = some s) (nonNull : ptr ≠ 0)
    (nulFree : 0 ∉ s) : (table buffers strings).StringAt ptr s where
  nonNull := nonNull
  nulFree := nulFree
  read := by
    intro size pos
    have short : (s.take (size - 1) ++ [0]).length ≤ size := by
      rw [List.length_append, List.length_take, List.length_singleton]
      omega
    simp only [table, held, Option.map_some, List.take_of_length_le short]

/-- A table of buffers is a memory that holds each of them. -/
theorem bytesAt_table {bytes : List UInt8} (held : buffers ptr = some bytes)
    (nonNull : ptr ≠ 0) : (table buffers strings).BytesAt ptr bytes where
  nonNull := nonNull
  read := by
    intro size fits
    simp [table, held, fits]

theorem readU64_table {word : UInt64} (held : buffers ptr = some (leBytes 8 word.toNat)) :
    (table buffers strings).readU64 ptr = some word := by
  have all : (leBytes 8 word.toNat).take 8 = leBytes 8 word.toNat :=
    List.take_of_length_le (le_of_eq (length_leBytes _ _))
  simp [readU64, table, held, all, leNat_leBytes]

end Table

end UserMemory

open UserMemory

/-! ## What is captured -/

section Strings

variable {mem : UserMemory} {ptr : UInt64} {s bytes : List UInt8}

/-- A capture of at most `size` bytes keeps all but one of them. -/
theorem nameBytes_of_stringAt (at' : mem.StringAt ptr s) {size : ℕ} (pos : 0 < size) :
    nameBytes mem size ptr = s.take (size - 1) := by
  obtain ⟨str, hstr, hval⟩ := Option.map_eq_some_iff.mp (at'.read size pos)
  rw [nameBytes, readName, if_neg at'.nonNull, hstr, Option.map_some, Option.getD_some, hval,
    List.dropLast_concat]

/-- The flag is set as soon as the string fills what the terminator leaves. -/
theorem nameFlags_of_stringAt (at' : mem.StringAt ptr s) {size : ℕ} (pos : 0 < size) :
    nameFlags mem size ptr = if size ≤ s.length + 1 then VarFlag.truncated else VarFlag.none := by
  obtain ⟨str, hstr, hval⟩ := Option.map_eq_some_iff.mp (at'.read size pos)
  have hlen : str.1.length = min (size - 1) s.length + 1 := by
    rw [hval, List.length_append, List.length_take, List.length_singleton]
  rw [nameFlags, if_neg at'.nonNull, hstr]
  dsimp only
  by_cases fills : size ≤ s.length + 1
  · rw [if_pos fills, if_pos (by omega)]
  · rw [if_neg fills, if_neg (by omega)]

end Strings

/-! ## The argument loop on strings -/

/-- What the loop copies of `args`, without terminators, with `n` iterations left
and the cursor at `cursor`, and why it stops. -/
def argvFit (last : ArgvEnd) : ℕ → ℕ → List (List UInt8) → List (List UInt8) × ArgvStop
  | 0, _, _ => ([], .slotsUsed)
  | _ + 1, cursor, [] =>
      match last with
      | .nullPointer => ([], .complete)
      | .badArray => ([], .unreadable)
      | .badString =>
          -- The room is looked at before the string is.
          if maxExecveStatePayload - maxExecveArgStr < cursor then ([], .cut)
          else ([], .unreadable)
  | n + 1, cursor, arg :: args =>
      if maxExecveStatePayload - maxExecveArgStr < cursor then ([], .cut)
      else if maxExecveArgStr ≤ arg.length + 1 then ([arg.take (maxExecveArgStr - 1)], .cut)
      else
        let rest := argvFit last n (cursor + (arg.length + 1)) args
        (arg :: rest.1, rest.2)

/-- What the look behind the last slot finds. -/
def fitLookAhead (last : ArgvEnd) (args : List (List UInt8)) : ArgvStop → ArgvStop
  | .slotsUsed =>
      if maxExecveArgv < args.length then .cut
      else
        match last with
        | .nullPointer => .complete
        | .badArray => .unreadable
        | .badString => .cut
  | stop => stop

section Argv

variable {mem : UserMemory} {argv : UInt64} {args : List (List UInt8)} {last : ArgvEnd}

/-- The loop at the `i`-th slot, where `i` arguments have been copied. -/
theorem argvRead_eq_argvFit (at' : mem.ArgvAt argv args last) {n : ℕ} (slots : n ≤ maxExecveArgv)
    (cursor : ℕ) (copied : maxExecveArgv - n ≤ args.length) :
    argvRead mem argv n cursor =
      (((argvFit last n cursor (args.drop (maxExecveArgv - n))).1.map fun arg => arg ++ [0]),
        (argvFit last n cursor (args.drop (maxExecveArgv - n))).2) := by
  induction n generalizing cursor with
  | zero => rfl
  | succ n ih =>
      rw [argvRead]
      generalize hi : maxExecveArgv - (n + 1) = i at copied
      have next : maxExecveArgv - n = i + 1 := by omega
      rcases Nat.eq_or_lt_of_le copied with all | more
      · have behind := at'.behind
        rw [← all] at behind
        rw [List.drop_of_length_le (le_of_eq all.symm)]
        cases last with
        | nullPointer =>
            simp only [behind]
            rfl
        | badArray =>
            simp only [behind]
            rfl
        | badString =>
            obtain ⟨ptr, nonNull, hread, unreadable⟩ := behind
            rw [argvFit]
            simp only [hread, if_neg nonNull, unreadable]
            split <;> rfl
      · obtain ⟨ptr, hread, str⟩ := at'.arg i more
        rw [List.drop_eq_getElem_cons more, argvFit]
        simp only [hread, if_neg str.nonNull]
        split
        · rfl
        · obtain ⟨copy, hcopy, hval⟩ := Option.map_eq_some_iff.mp
            (str.read maxExecveArgStr (by decide))
          have hlen : copy.1.length = min (maxExecveArgStr - 1) args[i].length + 1 := by
            rw [hval, List.length_append, List.length_take, List.length_singleton]
          simp only [hcopy]
          by_cases fills : maxExecveArgStr ≤ args[i].length + 1
          · rw [if_pos (by omega), if_pos fills, hval]
            rfl
          · have whole : copy.1 = args[i] ++ [0] := by
              rw [hval, List.take_of_length_le (by omega)]
            rw [if_neg (by omega), if_neg fills, ih (by omega) _ (by omega), next, whole,
              List.length_append, List.length_singleton]
            rfl

/-- What the loop copies from a readable vector: the arguments that fit, each with its end. -/
theorem argvCopies_of_argvAt (at' : mem.ArgvAt argv args last) (start : ℕ) :
    argvCopies mem argv start =
      (argvFit last maxExecveArgv start args).1.map fun arg => arg ++ [0] := by
  rw [argvCopies, if_neg at'.nonNull, argvRead_eq_argvFit at' le_rfl start (Nat.zero_le _)]
  rfl

/-- A loop that used all its slots had an argument for each. -/
theorem length_of_slotsUsed {n cursor : ℕ} (used : (argvFit last n cursor args).2 = .slotsUsed) :
    n ≤ args.length ∧ (argvFit last n cursor args).1 = args.take n := by
  induction n generalizing cursor args with
  | zero => exact ⟨Nat.zero_le _, rfl⟩
  | succ n ih =>
      cases args with
      | nil =>
          cases last with
          | nullPointer => cases used
          | badArray => cases used
          | badString =>
              rw [argvFit] at used
              split at used <;> cases used
      | cons arg args =>
          rw [argvFit] at used ⊢
          split at used
          · cases used
          split at used
          · cases used
          next room short =>
            obtain ⟨slots, taken⟩ := ih used
            rw [if_neg room, if_neg short, List.length_cons, List.take_succ_cons]
            exact ⟨Nat.succ_le_succ slots, congrArg (arg :: ·) taken⟩

/-- The look at the ninth slot says whether the vector goes on, when all eight slots were used. -/
theorem argvLookAhead_eq_fit (at' : mem.ArgvAt argv args last) {stop : ArgvStop}
    (used : stop = .slotsUsed → maxExecveArgv ≤ args.length) :
    argvLookAhead mem argv stop = fitLookAhead last args stop := by
  cases stop with
  | slotsUsed =>
      unfold argvLookAhead fitLookAhead
      dsimp only
      rcases Nat.eq_or_lt_of_le (used rfl) with all | more
      · have behind := at'.behind
        rw [← all] at behind
        rw [if_neg (by omega)]
        cases last with
        | nullPointer =>
            simp only [behind]
            rfl
        | badArray => simp only [behind]
        | badString =>
            obtain ⟨ptr, nonNull, hread, -⟩ := behind
            simp only [hread, if_neg nonNull]
      · obtain ⟨ptr, hread, str⟩ := at'.arg maxExecveArgv more
        simp only [if_pos more, hread, if_neg str.nonNull]
  | unreadable | complete | cut => rfl

/-- The flags of a readable vector depend on its arguments and its end, not on where they lie. -/
theorem argvFlags_of_argvAt (at' : mem.ArgvAt argv args last) (start : ℕ) :
    argvFlags mem argv start =
      (fitLookAhead last args (argvFit last maxExecveArgv start args).2).flags := by
  rw [argvFlags, if_neg at'.nonNull, argvRead_eq_argvFit at' le_rfl start (Nat.zero_le _)]
  rw [← argvLookAhead_eq_fit at' fun used => (length_of_slotsUsed used).1]
  rfl

end Argv

/-! ## Which vectors are copied whole -/

/-- The arguments as they are packed into the payload, each with its terminator. -/
def packed (args : List (List UInt8)) : List UInt8 :=
  (args.map fun arg => arg ++ [0]).flatten

@[simp] theorem packed_nil : packed [] = [] := rfl

@[simp] theorem packed_cons (arg : List UInt8) (args : List (List UInt8)) :
    packed (arg :: args) = arg ++ 0 :: packed args := by
  simp [packed]

/-- The length of the packed arguments. -/
def packedLen (args : List (List UInt8)) : ℕ := (packed args).length

@[simp] theorem packedLen_nil : packedLen [] = 0 := rfl

@[simp] theorem packedLen_cons (arg : List UInt8) (args : List (List UInt8)) :
    packedLen (arg :: args) = arg.length + 1 + packedLen args := by
  rw [packedLen, packed_cons, List.length_append, List.length_cons, packedLen]
  omega

/-- From `cursor` on each argument finds room and does not fill its share. -/
def CopiedWhole : ℕ → List (List UInt8) → Prop
  | _, [] => True
  | cursor, arg :: args =>
      cursor ≤ maxExecveStatePayload - maxExecveArgStr ∧ arg.length + 1 < maxExecveArgStr ∧
        CopiedWhole (cursor + (arg.length + 1)) args

instance decidableCopiedWhole : (cursor : ℕ) → (args : List (List UInt8)) →
    Decidable (CopiedWhole cursor args)
  | _, [] => isTrue trivial
  | cursor, arg :: args =>
      have := decidableCopiedWhole (cursor + (arg.length + 1)) args
      inferInstanceAs (Decidable (_ ∧ _ ∧ _))

section Fit

variable {last : ArgvEnd} {n cursor : ℕ} {args : List (List UInt8)}

/-- A vector that is copied whole is followed by what its end comes to. -/
theorem argvFit_of_copiedWhole (last : ArgvEnd) (whole : CopiedWhole cursor args)
    (rest : List (List UInt8)) (slots : args.length ≤ n) :
    argvFit last n cursor (args ++ rest) =
      (args ++ (argvFit last (n - args.length) (cursor + packedLen args) rest).1,
        (argvFit last (n - args.length) (cursor + packedLen args) rest).2) := by
  induction args generalizing n cursor with
  | nil => rfl
  | cons arg args ih =>
      obtain ⟨room, short, whole⟩ := whole
      cases n with
      | zero => cases slots
      | succ n =>
          rw [List.cons_append, argvFit, if_neg (Nat.not_lt.mpr room),
            if_neg (Nat.not_le.mpr short), ih whole (Nat.le_of_succ_le_succ slots),
            List.length_cons, Nat.succ_sub_succ, packedLen_cons, Nat.add_assoc cursor]
          rfl

/-- A vector that is not copied whole is cut within it. -/
theorem argvFit_of_not_copiedWhole (cut : ¬ CopiedWhole cursor (args.take n)) :
    (argvFit last n cursor args).2 = .cut := by
  induction args generalizing n cursor with
  | nil =>
      rw [List.take_nil] at cut
      exact absurd trivial cut
  | cons arg args ih =>
      cases n with
      | zero => exact absurd trivial cut
      | succ n =>
          rw [argvFit]
          split
          · rfl
          split
          · rfl
          next room short =>
            refine ih fun whole => cut ?_
            rw [List.take_succ_cons]
            exact ⟨Nat.not_lt.mp room, Nat.not_le.mp short, whole⟩

end Fit

end Litrace.Bpf
