import Litrace.Lib.Bytes

/-!
# Memory layouts of C types

What the x86_64 ABI says of integers, arrays and structures: how many bytes a
value takes, how it is aligned, and which bytes hold it.  Padding has no value
of its own, so an encoding is given the padding byte of every address.

Against it stands `ReadBy`: a reader that gets the values back from their
encodings, one after the other.

A layout is a structure with its own laws: an encoding has the size of the
layout wherever it lies, so offsets can be added up without looking into a
member.  Offsets are computed from sizes and alignments; a caller states the
members only, and where the padding is follows.
-/

namespace Abi

open Bytes

/-- The layout of a C type whose values are the `α`s. -/
structure Layout (α : Type) where
  size : ℕ
  align : ℕ
  align_pos : 0 < align
  /-- The bytes of a value at an address, by the padding byte of every address. -/
  encode : (ℕ → UInt8) → ℕ → α → List UInt8
  length_encode : ∀ padding addr v, (encode padding addr v).length = size

/-- A member of a C structure whose values are the `σ`s. -/
structure Field (σ : Type) where
  type : Type
  layout : Layout type
  get : σ → type

/-- The first address from `off` on that is a multiple of `align`. -/
def alignUp (off align : ℕ) : ℕ := (off + align - 1) / align * align

/-- `n` padding bytes from an address on. -/
def pad (padding : ℕ → UInt8) (addr n : ℕ) : List UInt8 :=
  (List.range n).map fun i => padding (addr + i)

@[simp] theorem length_pad (padding : ℕ → UInt8) (addr n : ℕ) :
    (pad padding addr n).length = n := by
  rw [pad, List.length_map, List.length_range]

@[simp] theorem pad_zero (padding : ℕ → UInt8) (addr : ℕ) : pad padding addr 0 = [] := rfl

/-- Aligning never goes back. -/
theorem le_alignUp {off align : ℕ} (pos : 0 < align) : off ≤ alignUp off align := by
  have h := Nat.div_add_mod' (off + align - 1) align
  have hmod := Nat.mod_lt (off + align - 1) pos
  rw [alignUp]
  omega

/-! ## Integers and arrays -/

section Layouts

variable {α σ : Type}

/-- An integer type of `n` bytes, little-endian and aligned to its size. -/
def scalar (n : ℕ) (pos : 0 < n) (toNat : α → ℕ) : Layout α where
  size := n
  align := n
  align_pos := pos
  encode := fun _ _ v => leBytes n (toNat v)
  length_encode := fun _ _ v => length_leBytes n (toNat v)

def u8 : Layout UInt8 := scalar 1 (Nat.succ_pos 0) UInt8.toNat
def u16 : Layout UInt16 := scalar 2 (Nat.succ_pos 1) UInt16.toNat
def u32 : Layout UInt32 := scalar 4 (Nat.succ_pos 3) UInt32.toNat
def u64 : Layout UInt64 := scalar 8 (Nat.succ_pos 7) UInt64.toNat
def i64 : Layout Int64 := scalar 8 (Nat.succ_pos 7) fun v => v.toUInt64.toNat

/-- The elements of an array one after the other. -/
def encodeArray (item : Layout α) (padding : ℕ → UInt8) (addr : ℕ) :
    {n : ℕ} → Vector α n → List UInt8
  | 0, _ => []
  | n + 1, vs => encodeArray item padding addr vs.pop ++
      item.encode padding (addr + item.size * n) vs.back

/-- An array is as long as its items together: there is no padding between them. -/
theorem length_encodeArray (item : Layout α) (padding : ℕ → UInt8) (addr : ℕ) {n : ℕ}
    (vs : Vector α n) : (encodeArray item padding addr vs).length = item.size * n := by
  induction n with
  | zero => rfl
  | succ n ih =>
      rw [encodeArray, List.length_append, ih vs.pop, item.length_encode, Nat.mul_succ]

def array (item : Layout α) (n : ℕ) : Layout (Vector α n) where
  size := item.size * n
  align := item.align
  align_pos := item.align_pos
  encode := fun padding addr vs => encodeArray item padding addr vs
  length_encode := fun padding addr vs => length_encodeArray item padding addr vs

/-! ## Structures -/

/-- Where the members from offset `off` on begin. -/
def offsets : ℕ → List (Field σ) → List ℕ
  | _, [] => []
  | off, f :: fs =>
      alignUp off f.layout.align :: offsets (alignUp off f.layout.align + f.layout.size) fs

/-- Where the last of the members from offset `off` on ends. -/
def endOf : ℕ → List (Field σ) → ℕ
  | off, [] => off
  | off, f :: fs => endOf (alignUp off f.layout.align + f.layout.size) fs

/-- The largest alignment of the members. -/
def alignOf (fields : List (Field σ)) : ℕ :=
  fields.foldr (fun f align => max f.layout.align align) 1

/-- The members from offset `off` on of a structure at `addr`, each behind the
padding that aligns it. -/
def encodeFields (padding : ℕ → UInt8) (addr : ℕ) (v : σ) : ℕ → List (Field σ) → List UInt8
  | _, [] => []
  | off, f :: fs =>
      let at' := alignUp off f.layout.align
      pad padding (addr + off) (at' - off) ++ f.layout.encode padding (addr + at') (f.get v) ++
        encodeFields padding addr v (at' + f.layout.size) fs

/-- The fields end behind where they start. -/
theorem le_endOf (fields : List (Field σ)) (off : ℕ) : off ≤ endOf off fields := by
  induction fields generalizing off with
  | nil => exact le_rfl
  | cons f fs ih =>
      calc off ≤ alignUp off f.layout.align := le_alignUp f.layout.align_pos
        _ ≤ alignUp off f.layout.align + f.layout.size := Nat.le_add_right _ _
        _ ≤ endOf off (f :: fs) := ih _

/-- The bytes of a list of fields, the padding between them included. -/
theorem length_encodeFields (fields : List (Field σ)) (padding : ℕ → UInt8) (addr : ℕ) (v : σ)
    (off : ℕ) :
    (encodeFields padding addr v off fields).length = endOf off fields - off := by
  induction fields generalizing off with
  | nil => exact (Nat.sub_self off).symm
  | cons f fs ih =>
      have hf : off ≤ alignUp off f.layout.align := le_alignUp f.layout.align_pos
      have hfs := le_endOf fs (alignUp off f.layout.align + f.layout.size)
      simp only [encodeFields, endOf, List.length_append, length_pad, f.layout.length_encode, ih]
      omega

theorem alignOf_pos (fields : List (Field σ)) : 0 < alignOf fields := by
  induction fields with
  | nil => exact Nat.one_pos
  | cons f fs ih => exact lt_of_lt_of_le ih (le_max_right _ _)

/-- The size of a structure: a multiple of its alignment. -/
def sizeOfFields (fields : List (Field σ)) : ℕ := alignUp (endOf 0 fields) (alignOf fields)

/-- The members of a structure and the padding behind the last. -/
def encodeStruct (fields : List (Field σ)) (padding : ℕ → UInt8) (addr : ℕ) (v : σ) :
    List UInt8 :=
  encodeFields padding addr v 0 fields ++
    pad padding (addr + endOf 0 fields) (sizeOfFields fields - endOf 0 fields)

/-- The bytes of a structure, the padding behind its last field included. -/
theorem length_encodeStruct (fields : List (Field σ)) (padding : ℕ → UInt8) (addr : ℕ) (v : σ) :
    (encodeStruct fields padding addr v).length = sizeOfFields fields := by
  have h : endOf 0 fields ≤ sizeOfFields fields := le_alignUp (alignOf_pos fields)
  rw [encodeStruct, List.length_append, length_encodeFields, length_pad]
  omega

/-- A structure: its members in order, each aligned, then padding to a multiple
of the largest alignment. -/
def struct (fields : List (Field σ)) : Layout σ where
  size := sizeOfFields fields
  align := alignOf fields
  align_pos := alignOf_pos fields
  encode := encodeStruct fields
  length_encode := length_encodeStruct fields

/-! ## Reading encodings back -/

/-- The reader gets every value back from its encoding, and stops behind it. -/
def ReadBy (l : Layout α) (r : Reader α) : Prop :=
  ∀ padding addr v rest, r (l.encode padding addr v ++ rest) = some (v, rest)

/-- Reading on behind a value that was read back. -/
theorem ReadBy.bind {β : Type} {l : Layout α} {r : Reader α} (reads : ReadBy l r)
    (next : α → Reader β) (padding : ℕ → UInt8) (addr : ℕ) (v : α) (rest : List UInt8) :
    (r >>= next) (l.encode padding addr v ++ rest) = next v rest := by
  change (r (l.encode padding addr v ++ rest)).bind (fun p => next p.1 p.2) = _
  rw [reads padding addr v rest, Option.bind_some]

/-- Reading a member that needs no padding in front of it. -/
theorem ReadBy.member {β : Type} {l : Layout α} {r : Reader α} (reads : ReadBy l r)
    {get : σ → α} {fields : List (Field σ)} {next : α → Reader β} {padding : ℕ → UInt8}
    {addr off : ℕ} {v : σ} {rest : List UInt8} (packed : alignUp off l.align = off) :
    (r >>= next) (encodeFields padding addr v off (⟨α, l, get⟩ :: fields) ++ rest) =
      next (get v) (encodeFields padding addr v (off + l.size) fields ++ rest) := by
  have split : encodeFields padding addr v off (⟨α, l, get⟩ :: fields) =
      l.encode padding (addr + off) (get v) ++
        encodeFields padding addr v (off + l.size) fields := by
    simp only [encodeFields, packed, Nat.sub_self, pad_zero, List.nil_append]
  rw [split, List.append_assoc]
  exact reads.bind next padding (addr + off) (get v) _

/-- An integer is read back by the reader of its bytes that undoes `toNat`. -/
theorem readBy_scalar {n : ℕ} {pos : 0 < n} {toNat : α → ℕ} {ofNat : ℕ → α}
    (bounded : ∀ v, toNat v < 256 ^ n)
    (undo : ∀ v, ofNat (toNat v) = v) :
    ReadBy (scalar n pos toNat) (do return ofNat (leNat (← Reader.bytes n))) := by
  intro padding addr v rest
  have bytes : Reader.bytes n (leBytes n (toNat v) ++ rest) =
      some (leBytes n (toNat v), rest) := by
    rw [Reader.bytes, if_pos (by simp), List.take_left' (length_leBytes n _),
      List.drop_left' (length_leBytes n _)]
  change (Reader.bytes n (leBytes n (toNat v) ++ rest)).bind
    (fun p => some (ofNat (leNat p.1), p.2)) = _
  rw [bytes, Option.bind_some, leNat_leBytes, Nat.mod_eq_of_lt (bounded v), undo]

theorem readBy_u8 : ReadBy u8 Reader.u8 :=
  readBy_scalar UInt8.toNat_lt fun _ => UInt8.ofNat_toNat

theorem readBy_u16 : ReadBy u16 Reader.u16 :=
  readBy_scalar UInt16.toNat_lt fun _ => UInt16.ofNat_toNat

theorem readBy_u32 : ReadBy u32 Reader.u32 :=
  readBy_scalar UInt32.toNat_lt fun _ => UInt32.ofNat_toNat

theorem readBy_u64 : ReadBy u64 Reader.u64 :=
  readBy_scalar UInt64.toNat_lt fun _ => UInt64.ofNat_toNat

theorem readBy_i64 : ReadBy i64 Reader.i64 := by
  intro padding addr v rest
  exact readBy_u64.bind _ padding addr v.toUInt64 rest

/-- An array is read item by item. -/
theorem readBy_array {item : Layout α} {r : Reader α} (reads : ReadBy item r) (n : ℕ) :
    ReadBy (array item n) (Reader.vector r n) := by
  induction n with
  | zero =>
      intro padding addr vs rest
      obtain rfl : vs = #v[] := Vector.eq_empty
      rfl
  | succ n ih =>
      intro padding addr vs rest
      have init := ih.bind (fun init => do return init.push (← r)) padding addr vs.pop
        (item.encode padding (addr + item.size * n) vs.back ++ rest)
      have last := reads.bind (fun last => pure (vs.pop.push last)) padding
        (addr + item.size * n) vs.back rest
      calc Reader.vector r (n + 1) ((array item (n + 1)).encode padding addr vs ++ rest)
          = Reader.vector r (n + 1) ((array item n).encode padding addr vs.pop ++
              (item.encode padding (addr + item.size * n) vs.back ++ rest)) :=
            congrArg _ (List.append_assoc _ _ _)
        _ = some (vs.pop.push vs.back, rest) := init.trans last
        _ = some (vs, rest) := by rw [Vector.push_pop_back]

/-! ## Encoding what was read -/

/-- What the reader takes is the encoding of the value it gets. -/
def WrittenBy (l : Layout α) (r : Reader α) : Prop :=
  ∀ padding addr bs v rest, r bs = some (v, rest) → l.encode padding addr v ++ rest = bs

/-- Encoding a member that needs no padding in front of it. -/
theorem WrittenBy.member {l : Layout α} {r : Reader α} (written : WrittenBy l r) {get : σ → α}
    {fields : List (Field σ)} {padding : ℕ → UInt8} {addr off : ℕ} {v : σ}
    {bs tail rest : List UInt8} (packed : alignUp off l.align = off)
    (read : r bs = some (get v, tail))
    (others : encodeFields padding addr v (off + l.size) fields ++ rest = tail) :
    encodeFields padding addr v off (⟨α, l, get⟩ :: fields) ++ rest = bs := by
  have split : encodeFields padding addr v off (⟨α, l, get⟩ :: fields) =
      l.encode padding (addr + off) (get v) ++
        encodeFields padding addr v (off + l.size) fields := by
    simp only [encodeFields, packed, Nat.sub_self, pad_zero, List.nil_append]
  rw [split, List.append_assoc, others]
  exact written padding (addr + off) bs (get v) tail read

/-- What is read as a number writes back to the bytes it came from. -/
theorem writtenBy_scalar {n : ℕ} {pos : 0 < n} {toNat : α → ℕ} {ofNat : ℕ → α}
    (undo : ∀ k < 256 ^ n, toNat (ofNat k) = k) :
    WrittenBy (scalar n pos toNat) (do return ofNat (leNat (← Reader.bytes n))) := by
  intro padding addr bs v rest read
  obtain ⟨taken, rest', bytes, last⟩ := Reader.bind_eq_some.mp read
  cases last
  unfold Reader.bytes at bytes
  split at bytes
  next long =>
    cases bytes
    have length : (bs.take n).length = n := List.length_take_of_le long
    have value : toNat (ofNat (leNat (bs.take n))) = leNat (bs.take n) :=
      undo _ (by simpa only [length] using leNat_lt (bs.take n))
    calc leBytes n (toNat (ofNat (leNat (bs.take n)))) ++ bs.drop n
        = leBytes (bs.take n).length (leNat (bs.take n)) ++ bs.drop n := by rw [value, length]
      _ = bs.take n ++ bs.drop n := by rw [leBytes_leNat]
      _ = bs := List.take_append_drop n bs
  next => cases bytes

theorem writtenBy_u8 : WrittenBy u8 Reader.u8 :=
  writtenBy_scalar fun _ => UInt8.toNat_ofNat_of_lt'

theorem writtenBy_u16 : WrittenBy u16 Reader.u16 :=
  writtenBy_scalar fun _ => UInt16.toNat_ofNat_of_lt'

theorem writtenBy_u32 : WrittenBy u32 Reader.u32 :=
  writtenBy_scalar fun _ => UInt32.toNat_ofNat_of_lt'

theorem writtenBy_u64 : WrittenBy u64 Reader.u64 :=
  writtenBy_scalar fun _ => UInt64.toNat_ofNat_of_lt'

theorem writtenBy_i64 : WrittenBy i64 Reader.i64 := by
  intro padding addr bs v rest read
  obtain ⟨unsigned, rest', read', last⟩ := Reader.bind_eq_some.mp read
  cases last
  exact writtenBy_u64 padding addr bs unsigned rest read'

/-- An array is written back item by item, by induction on its length. -/
theorem writtenBy_array {item : Layout α} {r : Reader α} (written : WrittenBy item r) (n : ℕ) :
    WrittenBy (array item n) (Reader.vector r n) := by
  induction n with
  | zero =>
      intro padding addr bs vs rest read
      cases read
      rfl
  | succ n ih =>
      intro padding addr bs vs rest read
      obtain ⟨init, tail, first, read⟩ := Reader.bind_eq_some.mp read
      obtain ⟨v, rest', item', last⟩ := Reader.bind_eq_some.mp read
      cases last
      have back : (init.push v).back = v := by simp [Vector.back]
      calc encodeArray item padding addr (init.push v) ++ rest
          = encodeArray item padding addr init ++
              (item.encode padding (addr + item.size * n) v ++ rest) := by
            rw [encodeArray, Vector.pop_push, back, List.append_assoc]
        _ = encodeArray item padding addr init ++ tail := by rw [written _ _ _ _ _ item']
        _ = bs := ih padding addr bs init tail first

end Layouts

end Abi
