import Mathlib.Algebra.GroupWithZero.Nat
import Mathlib.Data.Nat.Basic

/-!
# Byte buffers and little-endian integers

Fixed-size byte buffers with writes at an offset, little-endian numbers, and a
small reader monad that consumes a byte string field by field.

Reads and writes are described by `slice`, and the lemmas come in pairs: a
slice of what was written is what was written, and a slice elsewhere is as
before.  With these two a sequence of writes is never unfolded.  A reader says
how many bytes it takes (`Takes`), from which follows where the next one
begins.
-/

namespace Bytes

/-- The number a byte string stands for, least significant byte first. -/
def leNat : List UInt8 → ℕ
  | [] => 0
  | b :: bs => b.toNat + 256 * leNat bs

/-- The `k` least significant bytes of a number, in that order. -/
def leBytes : ℕ → ℕ → List UInt8
  | 0, _ => []
  | k + 1, n => UInt8.ofNat n :: leBytes k (n / 256)

@[simp] theorem length_leBytes (k n : ℕ) : (leBytes k n).length = k := by
  induction k generalizing n with
  | zero => rfl
  | succ k ih => rw [leBytes, List.length_cons, ih]

/-- The bytes of a number stand for it, as far as they go. -/
theorem leNat_leBytes (k n : ℕ) : leNat (leBytes k n) = n % 256 ^ k := by
  induction k generalizing n with
  | zero => rw [Nat.pow_zero, Nat.mod_one]; rfl
  | succ k ih =>
      rw [leBytes, leNat, ih, Nat.pow_succ', Nat.mod_mul]
      rfl

/-- A byte string has the bytes of the number it stands for. -/
theorem leBytes_leNat (bs : List UInt8) : leBytes bs.length (leNat bs) = bs := by
  induction bs with
  | nil => rfl
  | cons b bs ih =>
      have low : UInt8.ofNat (b.toNat + 256 * leNat bs) = b := by
        rw [← UInt8.toNat_inj, UInt8.toNat_ofNat', Nat.add_mul_mod_self_left]
        exact Nat.mod_eq_of_lt b.toNat_lt
      have high : (b.toNat + 256 * leNat bs) / 256 = leNat bs := by
        have := b.toNat_lt
        omega
      rw [List.length_cons, leBytes, leNat, low, high, ih]

/-- The value of a list of bytes is bounded by their number. -/
theorem leNat_lt (bs : List UInt8) : leNat bs < 256 ^ bs.length := by
  induction bs with
  | nil => exact Nat.one_pos
  | cons b bs ih =>
      have := b.toNat_lt
      rw [leNat, List.length_cons, pow_succ]
      omega

/-- A buffer with `bytes` written at `off`; what does not fit is dropped. -/
def writeAt {n : ℕ} (buf : Vector UInt8 n) (off : ℕ) (bytes : List UInt8) :
    Vector UInt8 n :=
  Vector.ofFn fun i =>
    if off ≤ i.1 then (bytes[i.1 - off]?).getD (buf.get i) else buf.get i

/-- A buffer with `len` zero bytes written at `off`. -/
def zeroAt {n : ℕ} (buf : Vector UInt8 n) (off len : ℕ) : Vector UInt8 n :=
  writeAt buf off (List.replicate len 0)

/-- The `len` bytes of a buffer from `off` on, fewer where the buffer ends. -/
def slice {n : ℕ} (buf : Vector UInt8 n) (off len : ℕ) : List UInt8 :=
  (buf.toList.drop off).take len

section Slices

variable {n : ℕ} {buf : Vector UInt8 n} {off len : ℕ} {bytes : List UInt8}

theorem get_eq_getElem (buf : Vector UInt8 n) {j : ℕ} (h : j < n) : buf.get ⟨j, h⟩ = buf[j] :=
  rfl

/-- A write, position by position; what does not fit in the buffer is dropped. -/
theorem getElem?_toList_writeAt (buf : Vector UInt8 n) (off : ℕ) (bytes : List UInt8) (j : ℕ) :
    (writeAt buf off bytes).toList[j]? =
      if off ≤ j ∧ j < off + bytes.length ∧ j < n then bytes[j - off]?
      else buf.toList[j]? := by
  by_cases inside : j < n
  · simp only [writeAt, Vector.getElem?_toList, Vector.getElem?_eq_getElem inside,
      Vector.getElem_ofFn, get_eq_getElem, inside, and_true]
    by_cases past : off ≤ j
    · by_cases before : j < off + bytes.length
      · have hget : j - off < bytes.length := by omega
        simp [past, before, hget]
      · have hget : bytes.length ≤ j - off := by omega
        simp [past, before, hget]
    · simp [past]
  · simp [inside]

/-- A slice, position by position. -/
theorem getElem?_slice (buf : Vector UInt8 n) (off len j : ℕ) :
    (slice buf off len)[j]? = if j < len then buf.toList[off + j]? else none := by
  rw [slice, List.getElem?_take]
  split
  · rw [List.getElem?_drop]
  · rfl

theorem length_slice (fits : off + len ≤ n) : (slice buf off len).length = len := by
  simp only [slice, List.length_take, List.length_drop, Vector.length_toList]
  omega

/-- A write of nothing changes nothing. -/
@[simp] theorem writeAt_nil (buf : Vector UInt8 n) (off : ℕ) : writeAt buf off [] = buf := by
  ext j hj
  simp [writeAt, get_eq_getElem]

/-- What was written is read back, as far as one looks. -/
theorem slice_writeAt_self (fits : off + bytes.length ≤ n) (short : len ≤ bytes.length) :
    slice (writeAt buf off bytes) off len = bytes.take len := by
  ext1 j
  rw [getElem?_slice, getElem?_toList_writeAt, List.getElem?_take]
  split
  next before =>
    rw [if_pos (by omega), Nat.add_sub_cancel_left]
  next => rfl

/-- A write leaves what lies before it and behind it alone. -/
theorem slice_writeAt_of_disjoint {at' : ℕ}
    (apart : off + len ≤ at' ∨ at' + bytes.length ≤ off) :
    slice (writeAt buf at' bytes) off len = slice buf off len := by
  ext1 j
  rw [getElem?_slice, getElem?_toList_writeAt, getElem?_slice]
  split
  next before => rw [if_neg (by omega)]
  next => rfl

/-- Adjacent slices make one slice. -/
theorem slice_append (buf : Vector UInt8 n) (off len len' : ℕ) :
    slice buf off (len + len') = slice buf off len ++ slice buf (off + len) len' := by
  rw [slice, List.take_add, List.drop_drop]
  rfl

/-- A buffer copied to the front of another is read there as it was. -/
theorem slice_writeAt_toList {k : ℕ} {src : Vector UInt8 k} (room : k ≤ n)
    (fits : off + len ≤ k) :
    slice (writeAt buf 0 src.toList) off len = slice src off len := by
  ext1 j
  rw [getElem?_slice, getElem?_toList_writeAt, getElem?_slice, Vector.length_toList]
  split
  next before => rw [if_pos (by omega), Nat.sub_zero]
  next => rfl

end Slices

/-- A reader consumes a prefix of a byte string, or fails when it is too short. -/
abbrev Reader := StateT (List UInt8) Option

namespace Reader

/-- The next `n` bytes. -/
def bytes (n : ℕ) : Reader (List UInt8) := fun bs =>
  if n ≤ bs.length then some (bs.take n, bs.drop n) else none

def u8 : Reader UInt8 := do
  return UInt8.ofNat (leNat (← bytes 1))

def u16 : Reader UInt16 := do
  return UInt16.ofNat (leNat (← bytes 2))

def u32 : Reader UInt32 := do
  return UInt32.ofNat (leNat (← bytes 4))

def u64 : Reader UInt64 := do
  return UInt64.ofNat (leNat (← bytes 8))

/-- A signed 64-bit integer, in two's complement. -/
def i64 : Reader Int64 := do
  return (← u64).toInt64

/-- `n` consecutive values of one kind. -/
def vector {α : Type} (item : Reader α) : (n : ℕ) → Reader (Vector α n)
  | 0 => return #v[]
  | n + 1 => do
      let init ← vector item n
      return init.push (← item)

variable {α β : Type}

/-- The reader takes exactly `n` bytes, and fails where there are fewer. -/
def Takes (r : Reader α) (n : ℕ) : Prop :=
  ∀ bs : List UInt8,
    (n ≤ bs.length → ∃ v, r bs = some (v, bs.drop n)) ∧ (bs.length < n → r bs = none)

/-- What a reader followed by another gets. -/
theorem bind_eq_some {r : Reader α} {next : α → Reader β} {bs : List UInt8}
    {result : β × List UInt8} :
    (r >>= next) bs = some result ↔
      ∃ v rest, r bs = some (v, rest) ∧ next v rest = some result := by
  change (r bs).bind (fun p => next p.1 p.2) = some result ↔ _
  rw [Option.bind_eq_some_iff]
  exact Prod.exists

theorem takes_pure (v : α) : Takes (pure v) 0 := fun _ =>
  ⟨fun _ => ⟨v, rfl⟩, fun short => absurd short (Nat.not_lt_zero _)⟩

/-- What two readers in sequence take, adds up. -/
theorem Takes.bind {r : Reader α} {next : α → Reader β} {n m : ℕ} (first : Takes r n)
    (second : ∀ v, Takes (next v) m) : Takes (r >>= next) (n + m) := by
  intro bs
  have run : (r >>= next) bs = (r bs).bind fun p => next p.1 p.2 := rfl
  refine ⟨fun enough => ?_, fun short => ?_⟩
  · obtain ⟨v, hv⟩ := (first bs).1 (le_trans (Nat.le_add_right n m) enough)
    obtain ⟨w, hw⟩ := (second v (bs.drop n)).1 (by rw [List.length_drop]; omega)
    refine ⟨w, ?_⟩
    rw [run, hv, Option.bind_some, hw, List.drop_drop]
  · by_cases enough : n ≤ bs.length
    · obtain ⟨v, hv⟩ := (first bs).1 enough
      rw [run, hv, Option.bind_some]
      exact (second v (bs.drop n)).2 (by rw [List.length_drop]; omega)
    · rw [run, (first bs).2 (Nat.lt_of_not_le enough), Option.bind_none]

theorem takes_bytes (n : ℕ) : Takes (bytes n) n := fun _ =>
  ⟨fun enough => ⟨_, if_pos enough⟩, fun short => if_neg (Nat.not_le.2 short)⟩

theorem Takes.map {r : Reader α} {n : ℕ} (takes : Takes r n) (f : α → β) :
    Takes (do return f (← r)) n :=
  takes.bind fun v => takes_pure (f v)

theorem takes_u8 : Takes u8 1 := (takes_bytes 1).map _
theorem takes_u16 : Takes u16 2 := (takes_bytes 2).map _
theorem takes_u32 : Takes u32 4 := (takes_bytes 4).map _
theorem takes_u64 : Takes u64 8 := (takes_bytes 8).map _
theorem takes_i64 : Takes i64 8 := takes_u64.map _

/-- A vector takes its items' bytes as often as it has items. -/
theorem takes_vector {item : Reader α} {k : ℕ} (takes : Takes item k) (n : ℕ) :
    Takes (vector item n) (k * n) := by
  induction n with
  | zero => exact takes_pure _
  | succ n ih => exact ih.bind fun init => takes.map init.push

end Reader

end Bytes
