import Litrace.Lib.Cover
import Litrace.Trace.Format

/-!
# Rendering flags

`formatFlags` goes through a table in its order and takes the entries off the value whose bits
are all left; what remains it writes in hexadecimal.  It is a cover of the set of bits
(`takes_foldl`), so no bit is lost and none is printed twice (`Lossless`).

The parts of the text can be told apart, since no name has the separator or looks like a
number, so the rendering determines the value (`formatFlags_injective`).

With general covers (`Litrace.Lib.Cover`) the loop is one walk along a table over sets of
bits.  That an entry is printed only if all its bits are left, and not merely some, is what
keeps a composite flag and its parts apart: the table has the composite first, so `O_SYNC` is
printed as such and not as `O_DSYNC` with a remainder.
-/

namespace Litrace.Trace

open GoString (ascii)
open Strconv Word Cover

/-! ## What is printed -/

/-- The names that the loop of `formatFlags` collects. -/
def flagNames (raw : UInt64) (table : List NamedValue) : List GoString :=
  (table.foldl takeFlag ([], raw)).1

/-- The bits that the loop leaves. -/
def flagRest (raw : UInt64) (table : List NamedValue) : UInt64 :=
  (table.foldl takeFlag ([], raw)).2

/-- The entries of the table whose names are printed. -/
def printedFlags (raw : UInt64) (table : List NamedValue) : List NamedValue :=
  table.filter fun entry => entry.name ∈ flagNames raw table

/-- The remainder, where it is printed. -/
def restPart (raw : UInt64) (table : List NamedValue) : List GoString :=
  if flagRest raw table ≠ 0 ∨ (flagNames raw table).length = 0 then
    [hex (flagRest raw table).toNat]
  else []

/-- What is printed of a value tells all of it, and nothing twice. -/
structure Lossless (raw : UInt64) (zero : GoString) (table : List NamedValue) : Prop where
  /-- The text consists of the names and the remainder. -/
  text : formatFlags raw zero table = if raw = 0 ∧ zero ≠ [] then zero
    else join ((printedFlags raw table).map NamedValue.name ++ restPart raw table) (ascii "|")
  /-- The values printed are pairwise disjoint. -/
  disjoint : ((printedFlags raw table).map NamedValue.value ++ [flagRest raw table]).Pairwise
    fun v w => v &&& w = 0
  /-- Together they are the value. -/
  union : ((printedFlags raw table).map NamedValue.value).foldr (· ||| ·) (flagRest raw table) = raw
  /-- A name is printed only if all its bits are set. -/
  contained : ∀ entry ∈ printedFlags raw table, raw &&& entry.value = entry.value
  /-- None is a subset of another. -/
  incomparable : (printedFlags raw table).Pairwise fun e f =>
    e.value &&& f.value ≠ e.value ∧ e.value &&& f.value ≠ f.value
  /-- Bits that no entry has are in the remainder. -/
  unknown : ∀ u, (∀ entry ∈ table, u &&& entry.value = 0) → u &&& flagRest raw table = u &&& raw

/-! ## The loop is a cover -/

/-- The bits of an entry. -/
def entryBits (entry : NamedValue) : Set ℕ := bits entry.value

/-- The loop takes entries off the set of bits. -/
theorem takes_foldl (table : List NamedValue) (names : List GoString) (raw : UInt64) :
    ∃ taken, (table.foldl takeFlag (names, raw)).1 = names ++ taken.map NamedValue.name ∧
      Takes entryBits table (bits raw) taken (bits (table.foldl takeFlag (names, raw)).2) := by
  induction table generalizing names raw with
  | nil => exact ⟨[], (List.append_nil names).symm, Takes.nil _⟩
  | cons entry table ih =>
      rw [List.foldl_cons, takeFlag]
      split
      next zero =>
        obtain ⟨taken, collected, takes⟩ := ih names raw
        exact ⟨taken, collected, takes.skip (.inl (bits_eq_bot_iff.2 zero))⟩
      next nonzero =>
        split
        next below =>
          obtain ⟨taken, collected, takes⟩ := ih (names ++ [entry.name]) (raw &&& ~~~entry.value)
          rw [bits_clear] at takes
          refine ⟨entry :: taken, ?_, ?_⟩
          · rw [collected, List.append_assoc, List.map_cons, List.singleton_append]
          · exact takes.take (mt bits_eq_bot_iff.1 nonzero) (and_eq_right_iff.1 below)
        next above =>
          obtain ⟨taken, collected, takes⟩ := ih names raw
          exact ⟨taken, collected, takes.skip (.inr (mt and_eq_right_iff.2 above))⟩

/-- With distinct names the entries taken are those whose names are printed. -/
theorem filter_eq_of_sublist {table taken : List NamedValue}
    (distinct : (table.map NamedValue.name).Nodup) (sub : taken.Sublist table) :
    (table.filter fun entry => entry.name ∈ taken.map NamedValue.name) = taken := by
  induction sub with
  | slnil => rfl
  | cons entry sub ih =>
      obtain ⟨fresh, distinct⟩ := List.nodup_cons.1 distinct
      rw [List.filter_cons_of_neg, ih distinct]
      exact fun mem => fresh ((sub.map NamedValue.name).subset (of_decide_eq_true mem))
  | @cons_cons taken table entry sub ih =>
      obtain ⟨fresh, distinct⟩ := List.nodup_cons.1 distinct
      rw [List.filter_cons_of_pos]
      swap
      · exact decide_eq_true List.mem_cons_self
      congr 1
      conv_rhs => rw [← ih distinct]
      refine List.filter_congr fun other mem => ?_
      have ne : other.name ≠ entry.name := by
        intro same
        exact fresh (same ▸ List.mem_map_of_mem mem)
      rw [List.map_cons, decide_eq_decide, List.mem_cons, or_iff_right ne]

/-- The text joins the names and the remainder. -/
theorem formatFlags_eq {raw : UInt64} {zero : GoString} {table : List NamedValue} :
    formatFlags raw zero table = if raw = 0 ∧ zero ≠ [] then zero
      else join (flagNames raw table ++ restPart raw table) (ascii "|") := by
  unfold formatFlags restPart
  split
  · rfl
  · show join (if flagRest raw table ≠ 0 ∨ (flagNames raw table).length = 0 then
      flagNames raw table ++ [hex (flagRest raw table).toNat] else flagNames raw table) _ = _
    split
    · rfl
    · rw [List.append_nil]

section

variable (raw : UInt64) {table : List NamedValue} (distinct : (table.map NamedValue.name).Nodup)

include distinct

/-- The loop takes the entries off in order, and what it leaves is the remainder. -/
theorem takes_printed : flagNames raw table = (printedFlags raw table).map NamedValue.name ∧
    Takes entryBits table (bits raw) (printedFlags raw table) (bits (flagRest raw table)) := by
  obtain ⟨taken, collected, takes⟩ := takes_foldl table [] raw
  have names : flagNames raw table = taken.map NamedValue.name := collected
  have printed : printedFlags raw table = taken := by
    rw [printedFlags, names]
    exact filter_eq_of_sublist distinct takes.sublist
  rw [printed]
  exact ⟨names, takes⟩

/-- All that a cover gives, in the words of the value and its bits. -/
theorem lossless (zero : GoString) : Lossless raw zero table := by
  obtain ⟨names, takes⟩ := takes_printed raw distinct
  refine ⟨?_, ?_, ?_, ?_, ?_, ?_⟩
  · rw [← names]
    exact formatFlags_eq
  · rw [List.pairwise_append, List.pairwise_map]
    refine ⟨takes.pairwise_disjoint.imp and_eq_zero_iff.2, List.pairwise_singleton _ _, ?_⟩
    intro v mem w last
    obtain ⟨entry, printed, rfl⟩ := List.mem_map.1 mem
    rw [List.mem_singleton.1 last]
    exact and_eq_zero_iff.2 (takes.disjoint_rest entry printed)
  · have bitwise : ∀ entries : List NamedValue,
        bits ((entries.map NamedValue.value).foldr (· ||| ·) (flagRest raw table)) =
          entries.foldr (fun entry acc => entryBits entry ⊔ acc) (bits (flagRest raw table)) := by
      intro entries
      induction entries with
      | nil => rfl
      | cons entry entries ih =>
          rw [List.map_cons, List.foldr_cons, bits_or, ih]
          rfl
    exact bits_injective ((bitwise _).trans takes.sup_eq)
  · exact fun entry printed => and_eq_right_iff.2 (takes.le entry printed)
  · refine takes.pairwise_disjoint.imp_of_mem fun {e f} printed printed' apart => ⟨?_, ?_⟩
    · rw [Ne, and_eq_zero_iff.2 apart]
      exact fun zero => takes.ne_bot e printed (bits_eq_bot_iff.2 zero.symm)
    · rw [Ne, and_eq_zero_iff.2 apart]
      exact fun zero => takes.ne_bot f printed' (bits_eq_bot_iff.2 zero.symm)
  · intro u apart
    have left := takes.inf_rest fun entry mem => and_eq_zero_iff.1 (apart entry mem)
    rwa [← bits_and, ← bits_and, bits_injective.eq_iff] at left

end

/-! ## The parts of the text -/

/-- A part without the separator that does not look like a number. -/
def Plain (part : GoString) : Prop := 124 ∉ part ∧ ¬ ascii "0x" <+: part

instance (part : GoString) : Decidable (Plain part) := by
  unfold Plain
  infer_instance

theorem bar_notMem_hex (n : ℕ) : 124 ∉ hex n := by
  have digit : ∀ k < 16, digitByte k ≠ 124 := by decide
  have mark : (124 : UInt8) ∉ ascii "0x" := by decide
  rw [hex_natCast, List.mem_append, not_or]
  exact ⟨mark, notMem_digits (by decide) (by decide) digit n⟩

/-- A remainder is recognised by its first two bytes. -/
theorem not_plain_hex (n : ℕ) : ¬ Plain (hex n) := by
  intro plain
  rw [hex_natCast] at plain
  exact plain.2 (List.prefix_append _ _)

/-- What is printed, in parts. -/
def flagParts (raw : UInt64) (zero : GoString) (table : List NamedValue) : List GoString :=
  if raw = 0 ∧ zero ≠ [] then [zero] else flagNames raw table ++ restPart raw table

section

variable {raw raw' : UInt64} {zero : GoString} {table : List NamedValue}

theorem formatFlags_eq_join :
    formatFlags raw zero table = join (flagParts raw zero table) [124] := by
  rw [formatFlags_eq, flagParts]
  split
  · rw [join, List.intercalate_singleton]
  · rfl

/-- Something is always printed, for zero as well. -/
theorem flagParts_ne_nil (raw : UInt64) (zero : GoString) (table : List NamedValue) :
    flagParts raw zero table ≠ [] := by
  unfold flagParts restPart
  split
  · exact List.cons_ne_nil _ _
  · split
    next => exact List.append_ne_nil_of_right_ne_nil _ (List.cons_ne_nil _ _)
    next shown =>
      rw [List.append_nil]
      exact fun none => shown (.inr (List.length_eq_zero_iff.2 none))

theorem mem_restPart {part : GoString} (mem : part ∈ restPart raw table) :
    ∃ n : ℕ, part = hex n := by
  unfold restPart at mem
  split at mem
  · exact ⟨_, List.mem_singleton.1 mem⟩
  · cases mem

/-- The remainder can be read off its part. -/
theorem flagRest_eq (same : restPart raw table = restPart raw' table) :
    flagRest raw table = flagRest raw' table := by
  unfold restPart at same
  split at same <;> split at same
  next => exact UInt64.toNat_inj.1 (Int.natCast_inj.1 (hex_injective (List.cons.inj same).1))
  next => cases same
  next => cases same
  next hidden hidden' =>
    rw [not_or, not_not] at hidden hidden'
    rw [hidden.1, hidden'.1]

theorem mem_flagNames {part : GoString} (mem : part ∈ flagNames raw table) :
    ∃ entry ∈ table, entry.name = part := by
  obtain ⟨taken, collected, takes⟩ := takes_foldl table [] raw
  rw [flagNames, collected] at mem
  obtain ⟨entry, inside, same⟩ := List.mem_map.1 mem
  exact ⟨entry, takes.sublist.subset inside, same⟩

/-- Of no bits there are no names. -/
theorem flagNames_zero (table : List NamedValue) : flagNames 0 table = [] := by
  obtain ⟨taken, collected, takes⟩ := takes_foldl table [] 0
  have none : taken = [] := by
    refine List.eq_nil_iff_forall_not_mem.2 fun entry mem => takes.ne_bot entry mem ?_
    exact le_bot_iff.1 (bits_zero ▸ takes.le entry mem)
  rw [flagNames, collected, none]
  rfl

variable (distinct : (table.map NamedValue.name).Nodup) (plain : ∀ entry ∈ table, Plain entry.name)

include distinct in
/-- Names and remainder determine the value. -/
theorem eq_of_parts (names : flagNames raw table = flagNames raw' table)
    (rest : flagRest raw table = flagRest raw' table) : raw = raw' := by
  have printed : printedFlags raw table = printedFlags raw' table := by
    rw [printedFlags, names, ← printedFlags]
  rw [← (lossless raw distinct []).union, printed, rest]
  exact (lossless raw' distinct []).union

include plain in
/-- The names are the plain parts. -/
theorem filter_parts (raw : UInt64) : (flagNames raw table ++ restPart raw table).filter Plain =
    flagNames raw table := by
  have names : ∀ part ∈ flagNames raw table, decide (Plain part) = true := by
    intro part mem
    obtain ⟨entry, inside, rfl⟩ := mem_flagNames mem
    exact decide_eq_true (plain entry inside)
  have rest : ∀ part ∈ restPart raw table, ¬ decide (Plain part) = true := by
    intro part mem
    obtain ⟨n, rfl⟩ := mem_restPart mem
    exact mt of_decide_eq_true (not_plain_hex n)
  rw [List.filter_append, List.filter_eq_self.2 names, List.filter_eq_nil_iff.2 rest,
    List.append_nil]

include plain in
theorem bar_notMem_parts (plainZero : zero ≠ [] → Plain zero) :
    ∀ part ∈ flagParts raw zero table, 124 ∉ part := by
  intro part mem
  unfold flagParts at mem
  split at mem
  next isZero =>
    rw [List.mem_singleton.1 mem]
    exact (plainZero isZero.2).1
  next =>
    rcases List.mem_append.1 mem with name | rest
    · obtain ⟨entry, inside, rfl⟩ := mem_flagNames name
      exact (plain entry inside).1
    · obtain ⟨n, rfl⟩ := mem_restPart rest
      exact bar_notMem_hex n

include distinct plain in
/-- From the parts the value is put together again: names have one value each, and the remainder
is a number. -/
theorem flagParts_injective (plainZero : zero ≠ [] → Plain zero)
    (fresh : zero ∉ table.map NamedValue.name) :
    Function.Injective fun raw => flagParts raw zero table := by
  have other : ∀ raw, [zero] ≠ flagNames raw table ++ restPart raw table ∨ zero = [] := by
    intro raw
    rw [or_iff_not_imp_right]
    intro some same
    have mem : zero ∈ flagNames raw table ++ restPart raw table := by
      rw [← same]
      exact List.mem_singleton_self zero
    rcases List.mem_append.1 mem with name | rest
    · obtain ⟨entry, inside, same⟩ := mem_flagNames name
      exact fresh (same ▸ List.mem_map_of_mem inside)
    · obtain ⟨n, same⟩ := mem_restPart rest
      exact not_plain_hex n (same ▸ plainZero some)
  intro raw raw' same
  dsimp only [flagParts] at same
  split at same <;> split at same
  next isZero isZero' => rw [isZero.1, isZero'.1]
  next isZero _ => exact absurd same ((other raw').resolve_right isZero.2)
  next _ isZero => exact absurd same.symm ((other raw).resolve_right isZero.2)
  next =>
    have names : flagNames raw table = flagNames raw' table := by
      rw [← filter_parts plain raw, same, filter_parts plain raw']
    rw [names] at same
    exact eq_of_parts distinct names (flagRest_eq (List.append_cancel_left same))

include distinct plain in
/-- The text determines the value. -/
theorem formatFlags_injective (plainZero : zero ≠ [] → Plain zero)
    (fresh : zero ∉ table.map NamedValue.name) :
    Function.Injective fun raw => formatFlags raw zero table := by
  intro raw raw' same
  dsimp only at same
  rw [formatFlags_eq_join, formatFlags_eq_join] at same
  exact flagParts_injective distinct plain plainZero fresh
    (join_inj (bar_notMem_parts plain plainZero) (bar_notMem_parts plain plainZero)
      (flagParts_ne_nil raw zero table) (flagParts_ne_nil raw' zero table) same)

include distinct in
/-- When a name is printed: all its bits are set, and none belongs to an entry printed before
it. -/
theorem mem_flagNames_iff {before behind : List NamedValue} {entry : NamedValue}
    (place : table = before ++ entry :: behind) (nonzero : entry.value ≠ 0) :
    entry.name ∈ flagNames raw table ↔ raw &&& entry.value = entry.value ∧
      ∀ other ∈ before, other.name ∈ flagNames raw table → entry.value &&& other.value = 0 := by
  subst place
  obtain ⟨names, takes⟩ := takes_printed raw distinct
  have printed : ∀ other ∈ before ++ entry :: behind,
      (other.name ∈ flagNames raw (before ++ entry :: behind) ↔
        other ∈ printedFlags raw (before ++ entry :: behind)) := by
    intro other mem
    rw [printedFlags, List.mem_filter, decide_eq_true_eq, and_iff_right mem]
  rw [printed entry (List.mem_append_right _ List.mem_cons_self),
    takes.mem_iff distinct.of_map, and_iff_right]
  · refine and_congr and_eq_right_iff.symm (forall₂_congr fun other mem => ?_)
    rw [printed other (List.mem_append_left _ mem)]
    exact imp_congr_right fun _ => and_eq_zero_iff.symm
  · exact mt bits_eq_bot_iff.1 nonzero

/-- Of two entries, one contained in the other, the larger one is printed when all its bits are
set, and the smaller one when only its own are. -/
def Precedes (raw : UInt64) (parts : List GoString) (whole part : NamedValue) : Prop :=
  (whole.name ∈ parts ↔ raw &&& whole.value = whole.value) ∧
    (part.name ∈ parts ↔ raw &&& part.value = part.value ∧ raw &&& whole.value ≠ whole.value)

include distinct in
/-- An entry that comes before what it contains takes precedence, if no other entry touches
them. -/
theorem precedes_of_apart {before between behind : List NamedValue} {whole part : NamedValue}
    (place : table = before ++ whole :: (between ++ part :: behind)) (nonzero : part.value ≠ 0)
    (inside : whole.value &&& part.value = part.value)
    (apart : ∀ other ∈ before, whole.value &&& other.value = 0)
    (apart' : ∀ other ∈ before ++ between, part.value &&& other.value = 0) :
    Precedes raw (flagNames raw table) whole part := by
  have some : whole.value ≠ 0 := by
    intro zero
    rw [zero, UInt64.zero_and] at inside
    exact nonzero inside.symm
  have first : whole.name ∈ flagNames raw table ↔ raw &&& whole.value = whole.value := by
    rw [mem_flagNames_iff distinct place some]
    exact and_iff_left fun other mem _ => apart other mem
  have place' : table = (before ++ whole :: between) ++ part :: behind := by
    rw [place, List.append_assoc, List.cons_append]
  refine ⟨first, ?_⟩
  rw [mem_flagNames_iff distinct place' nonzero]
  refine and_congr_right fun _ => Iff.trans ?_ (not_congr first)
  constructor
  · intro others printed
    have zero := others whole (List.mem_append_right _ List.mem_cons_self) printed
    rw [UInt64.and_comm, inside] at zero
    exact nonzero zero
  · intro missing other mem printed
    rcases List.mem_append.1 mem with early | late
    · exact apart' other (List.mem_append_left _ early)
    · rcases List.mem_cons.1 late with rfl | later
      · exact absurd printed missing
      · exact apart' other (List.mem_append_right _ later)

end

/-! ## The flags of `open` and `mmap` -/

theorem formatMmapProt_eq (raw : UInt64) :
    formatMmapProt raw = formatFlags raw (ascii "PROT_NONE") mmapProtFlags := by
  unfold formatMmapProt
  split
  next zero => rw [formatFlags_eq, if_pos ⟨zero, by decide⟩]
  next nonzero =>
    rw [formatFlags_eq, formatFlags_eq, if_neg fun h => nonzero h.1, if_neg fun h => nonzero h.1]

theorem formatMmapProt_injective : Function.Injective formatMmapProt := by
  have render : Function.Injective fun raw =>
      formatFlags raw (ascii "PROT_NONE") mmapProtFlags :=
    formatFlags_injective (by decide) (by decide) (fun _ => by decide) (by decide)
  intro raw raw' same
  rw [formatMmapProt_eq, formatMmapProt_eq] at same
  exact render same

theorem formatMmapFlags_injective : Function.Injective formatMmapFlags :=
  formatFlags_injective (by decide) (by decide) (fun some => absurd rfl some)
    (by decide)

theorem openModeFlags_distinct : (openModeFlags.map NamedValue.name).Nodup := by
  decide

theorem openModeFlags_plain : ∀ entry ∈ openModeFlags, Plain entry.name := by
  decide

/-- The access mode can be read off its text. -/
theorem formatEnum_injective {table : List NamedValue}
    (distinct : (table.map NamedValue.name).Nodup) (plain : ∀ entry ∈ table, Plain entry.name) :
    Function.Injective fun raw => formatEnum raw table fun v => hex v.toNat := by
  intro raw raw' same
  dsimp only [formatEnum] at same
  have value : ∀ {raw : UInt64} {entry : NamedValue},
      (table.find? fun entry => entry.value = raw) = some entry → entry.value = raw := by
    intro raw entry found
    simpa using List.find?_some found
  split at same <;> split at same
  next e found _ e' found' =>
    have entry : e = e' := List.inj_on_of_nodup_map distinct (List.mem_of_find?_eq_some found)
      (List.mem_of_find?_eq_some found') same
    rw [← value found, ← value found', entry]
  next e found _ _ =>
    exact absurd (same ▸ plain e (List.mem_of_find?_eq_some found)) (not_plain_hex _)
  next e found =>
    exact absurd (same.symm ▸ plain e (List.mem_of_find?_eq_some found)) (not_plain_hex _)
  next => exact UInt64.toNat_inj.1 (Int.natCast_inj.1 (hex_injective same))

/-- The text of the access mode. -/
def accessPart (raw : UInt64) : GoString :=
  formatEnum (raw &&& Unix.oAccmode) openModeAccess fun v => hex v.toNat

/-- The other flags. -/
def otherFlags (raw : UInt64) : UInt64 := raw &&& ~~~Unix.oAccmode

/-- What is printed of the flags of `open`, in parts. -/
def openParts (raw : UInt64) : List GoString :=
  accessPart raw :: if otherFlags raw = 0 then [] else flagParts (otherFlags raw) [] openModeFlags

/-- The access mode comes first and is no flag, as it is a number of two bits. -/
theorem formatOpenFlags_eq_join (raw : UInt64) :
    formatOpenFlags raw = join (openParts raw) [124] := by
  show (if otherFlags raw = 0 then accessPart raw
    else accessPart raw ++ ascii "|" ++ formatFlags (otherFlags raw) [] openModeFlags) = _
  rw [openParts]
  split
  · rw [join, List.intercalate_singleton]
  · rw [formatFlags_eq_join]
    obtain ⟨part, parts, some⟩ := List.exists_cons_of_ne_nil
      (flagParts_ne_nil (otherFlags raw) [] openModeFlags)
    rw [some, join_cons_cons, List.append_assoc]
    rfl

/-- Three of the four access modes have names. -/
theorem accessPart_cases (raw : UInt64) :
    (∃ entry ∈ openModeAccess, accessPart raw = entry.name) ∨ ∃ n : ℕ, accessPart raw = hex n := by
  unfold accessPart formatEnum
  split
  next entry found => exact .inl ⟨entry, List.mem_of_find?_eq_some found, rfl⟩
  next => exact .inr ⟨_, rfl⟩

theorem bar_notMem_openParts (raw : UInt64) : ∀ part ∈ openParts raw, 124 ∉ part := by
  have plain : ∀ entry ∈ openModeAccess, Plain entry.name := by decide
  refine List.forall_mem_cons.2 ⟨?_, ?_⟩
  · rcases accessPart_cases raw with ⟨entry, mem, same⟩ | ⟨n, same⟩
    · rw [same]
      exact (plain entry mem).1
    · rw [same]
      exact bar_notMem_hex n
  · split
    · exact List.forall_mem_nil _
    · exact bar_notMem_parts openModeFlags_plain fun some => absurd rfl some

/-- Access mode and other flags make up the value. -/
theorem accmode_or_others (raw : UInt64) :
    raw &&& Unix.oAccmode ||| otherFlags raw = raw := by
  refine bits_injective ?_
  rw [otherFlags, bits_or, bits_and, bits_clear]
  exact sup_inf_sdiff _ _

theorem formatOpenFlags_injective : Function.Injective formatOpenFlags := by
  intro raw raw' same
  rw [formatOpenFlags_eq_join, formatOpenFlags_eq_join] at same
  have parts := join_inj (bar_notMem_openParts raw) (bar_notMem_openParts raw')
    (List.cons_ne_nil _ _) (List.cons_ne_nil _ _) same
  obtain ⟨access, others⟩ := List.cons.inj parts
  have mode : raw &&& Unix.oAccmode = raw' &&& Unix.oAccmode :=
    formatEnum_injective (by decide) (by decide) access
  have rest : otherFlags raw = otherFlags raw' := by
    split at others <;> split at others
    next zero zero' => rw [zero, zero']
    next => exact absurd others.symm (flagParts_ne_nil _ _ _)
    next => exact absurd others (flagParts_ne_nil _ _ _)
    next =>
      exact flagParts_injective openModeFlags_distinct openModeFlags_plain
        (fun some => absurd rfl some) (by decide) others
  rw [← accmode_or_others raw, mode, rest, accmode_or_others]

/-! ## Composite flags -/

/-- The names in the text are those that the loop collects. -/
theorem mem_openParts_iff (raw : UInt64) {entry : NamedValue} (mem : entry ∈ openModeFlags) :
    entry.name ∈ openParts raw ↔ entry.name ∈ flagNames (otherFlags raw) openModeFlags := by
  have plain := openModeFlags_plain entry mem
  have apart : ∀ access ∈ openModeAccess, ∀ entry ∈ openModeFlags, entry.name ≠ access.name := by
    decide
  have other : entry.name ≠ accessPart raw := by
    rcases accessPart_cases raw with ⟨access, inside, same⟩ | ⟨n, same⟩
    · rw [same]
      exact apart access inside entry mem
    · rw [same]
      exact fun same => not_plain_hex n (same ▸ plain)
  rw [openParts, List.mem_cons, or_iff_right other]
  split
  next zero =>
    rw [zero, flagNames_zero]
  next =>
    rw [flagParts, if_neg fun h => h.2 rfl, List.mem_append, or_iff_left]
    intro rest
    obtain ⟨n, same⟩ := mem_restPart rest
    exact not_plain_hex n (same ▸ plain)

/-- The access mode touches no other flag. -/
theorem otherFlags_and {raw v : UInt64} (apart : v &&& Unix.oAccmode = 0) :
    otherFlags raw &&& v = v ↔ raw &&& v = v := by
  rw [and_eq_right_iff, and_eq_right_iff, otherFlags, bits_clear, le_sdiff]
  exact and_iff_left (and_eq_zero_iff.1 apart)

/-- Precedence among the flags is precedence in the text. -/
theorem precedes_openParts {raw : UInt64} {whole part : NamedValue} (memW : whole ∈ openModeFlags)
    (memP : part ∈ openModeFlags) (apartW : whole.value &&& Unix.oAccmode = 0)
    (apartP : part.value &&& Unix.oAccmode = 0)
    (precedes : Precedes (otherFlags raw) (flagNames (otherFlags raw) openModeFlags) whole part) :
    Precedes raw (openParts raw) whole part := by
  unfold Precedes at precedes ⊢
  rwa [mem_openParts_iff raw memW, mem_openParts_iff raw memP, Ne, ← otherFlags_and apartW,
    ← otherFlags_and apartP]

/-- `O_SYNC`. -/
def oSync : NamedValue := ⟨0x101000, ascii "O_SYNC"⟩

/-- `O_DSYNC`. -/
def oDsync : NamedValue := ⟨0x1000, ascii "O_DSYNC"⟩

/-- `O_TMPFILE`. -/
def oTmpfile : NamedValue := ⟨Unix.oTmpfile, ascii "O_TMPFILE"⟩

/-- `O_DIRECTORY`. -/
def oDirectory : NamedValue := ⟨0x10000, ascii "O_DIRECTORY"⟩

/-- `O_SYNC` contains `O_DSYNC`. -/
theorem sync_precedes_dsync (raw : UInt64) : Precedes raw (openParts raw) oSync oDsync := by
  have place : openModeFlags = openModeFlags.take 11 ++ oSync ::
      ((openModeFlags.drop 12).take 2 ++ oDsync :: openModeFlags.drop 15) := rfl
  have memW : oSync ∈ openModeFlags := place ▸ List.mem_append_right _ List.mem_cons_self
  have memP : oDsync ∈ openModeFlags := by
    rw [place]
    refine List.mem_append_right _ (List.mem_cons_of_mem _ ?_)
    exact List.mem_append_right _ List.mem_cons_self
  exact precedes_openParts memW memP (by decide) (by decide)
    (precedes_of_apart openModeFlags_distinct place (by decide) (by decide) (by decide)
      (by decide))

/-- `O_TMPFILE` contains `O_DIRECTORY`. -/
theorem tmpfile_precedes_directory (raw : UInt64) :
    Precedes raw (openParts raw) oTmpfile oDirectory := by
  have place : openModeFlags = openModeFlags.take 12 ++ oTmpfile ::
      ([] ++ oDirectory :: openModeFlags.drop 14) := rfl
  have memW : oTmpfile ∈ openModeFlags := place ▸ List.mem_append_right _ List.mem_cons_self
  have memP : oDirectory ∈ openModeFlags := by
    rw [place]
    exact List.mem_append_right _ (List.mem_cons_of_mem _ List.mem_cons_self)
  exact precedes_openParts memW memP (by decide) (by decide)
    (precedes_of_apart openModeFlags_distinct place (by decide) (by decide) (by decide)
      (by decide))

/-- Unknown bits are in the number at the end. -/
theorem unknown_openParts {raw u : UInt64} (mode : u &&& Unix.oAccmode = 0)
    (apart : ∀ entry ∈ openModeFlags, u &&& entry.value = 0) (set : u &&& raw ≠ 0) :
    ∃ rest : UInt64, hex rest.toNat ∈ openParts raw ∧ u &&& rest = u &&& raw := by
  have others : u &&& otherFlags raw = u &&& raw := by
    refine bits_injective ?_
    rw [otherFlags, bits_and, bits_clear, ← inf_sdiff_assoc,
      ((and_eq_zero_iff.1 mode).mono_left inf_le_left).sdiff_eq_left, bits_and]
  have left : u &&& flagRest (otherFlags raw) openModeFlags = u &&& raw :=
    ((lossless (otherFlags raw) openModeFlags_distinct []).unknown u apart).trans others
  refine ⟨flagRest (otherFlags raw) openModeFlags, ?_, left⟩
  have rest : flagRest (otherFlags raw) openModeFlags ≠ 0 := by
    intro zero
    rw [zero, UInt64.and_zero] at left
    exact set left.symm
  have some : otherFlags raw ≠ 0 := by
    intro zero
    rw [zero, UInt64.and_zero] at others
    exact set others.symm
  rw [openParts, if_neg some, flagParts, if_neg fun h => h.2 rfl, restPart, if_pos (.inl rest)]
  exact List.mem_cons_of_mem _ (List.mem_append_right _ (List.mem_singleton_self _))

/-- **Rendering flags loses nothing**: of every value and every table with distinct names what
is printed is pairwise disjoint and makes up the value; so the renderings of the flags of `open`
and `mmap` determine them.  A flag composed of others takes precedence over them. -/
theorem flag_rendering_lossless :
    (∀ (raw : UInt64) (zero : GoString) (table : List NamedValue),
      (table.map NamedValue.name).Nodup → Lossless raw zero table) ∧
    Function.Injective formatOpenFlags ∧ Function.Injective formatMmapProt ∧
    Function.Injective formatMmapFlags ∧
    ∀ raw, formatOpenFlags raw = join (openParts raw) (ascii "|") ∧
      (∀ part ∈ openParts raw, 124 ∉ part) ∧
      Precedes raw (openParts raw) oSync oDsync ∧
      Precedes raw (openParts raw) oTmpfile oDirectory ∧
      ∀ u, u &&& Unix.oAccmode = 0 → (∀ entry ∈ openModeFlags, u &&& entry.value = 0) →
        u &&& raw ≠ 0 →
          ∃ rest : UInt64, hex rest.toNat ∈ openParts raw ∧ u &&& rest = u &&& raw :=
  ⟨fun raw zero _ distinct => lossless raw distinct zero, formatOpenFlags_injective,
    formatMmapProt_injective, formatMmapFlags_injective, fun raw =>
    ⟨formatOpenFlags_eq_join raw, bar_notMem_openParts raw, sync_precedes_dsync raw,
      tmpfile_precedes_directory raw, fun _ => unknown_openParts⟩⟩

end Litrace.Trace
