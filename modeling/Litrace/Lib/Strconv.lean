import Litrace.Lib.Filepath
import Mathlib.Algebra.Group.Int.Defs
import Mathlib.Data.Nat.Basic

/-!
# Text

The verbs of `fmt` for numbers, `strings.Join`, `strconv.QuoteToASCII` with the
decoding of UTF-8 it rests on, and `strconv.Atoi`.

The functions are written from their documentation.  `decodeRune` has the table
of first bytes of the language's decoder, as its treatment of invalid bytes
(one byte at a time, as the replacement rune) is visible in quoted text.
-/

namespace Strconv

/-! ## Numbers -/

/-- The digits of a number in a base. -/
def digits (base n : ℕ) : GoString := (Nat.toDigits base n).map fun c => c.toNat.toUInt8

/-- A number with its sign in a base, as `%d` and `%x` write it. -/
def signed (base : ℕ) (v : ℤ) : GoString :=
  if v < 0 then GoString.ascii "-" ++ digits base v.natAbs else digits base v.natAbs

/-- `%d`. -/
def decimal (v : ℤ) : GoString := signed 10 v

/-- `0x%x`. -/
def hex (v : ℤ) : GoString := GoString.ascii "0x" ++ signed 16 v

/-- `%#03o`: three digits at least, and a leading zero. -/
def octal (n : ℕ) : GoString :=
  let ds := digits 8 n
  let ds := List.replicate (3 - ds.length) 48 ++ ds
  if ds.head? = some 48 then ds else 48 :: ds

example : (decimal (-12), hex 255, octal 0, octal 7, octal 420) =
    (GoString.ascii "-12", GoString.ascii "0xff", GoString.ascii "000", GoString.ascii "007",
      GoString.ascii "0644") := by decide

/-- The byte of a digit. -/
def digitByte (k : ℕ) : UInt8 := k.digitChar.toNat.toUInt8

/-- What the byte of a digit stands for. -/
def digitValue (b : UInt8) : ℕ := if b < 58 then b.toNat - 48 else b.toNat - 87

/-- What the digits of a number stand for. -/
def digitsValue (base : ℕ) (ds : GoString) : ℕ :=
  ds.foldl (fun acc b => acc * base + digitValue b) 0

section Digits

variable {base n : ℕ}

theorem digits_of_lt (small : n < base) : digits base n = [digitByte n] := by
  rw [digits, Nat.toDigits_of_lt_base small]
  rfl

/-- The digits of a large number: those of its quotient, then the last. -/
theorem digits_of_le (pos : 1 < base) (large : base ≤ n) :
    digits base n = digits base (n / base) ++ [digitByte (n % base)] := by
  rw [digits, Nat.toDigits_of_base_le pos large, List.map_append]
  rfl

/-- A property of single digits, and of digits with one more behind them, holds of
the digits of a number. -/
theorem digits_induction {motive : ℕ → GoString → Prop} (pos : 1 < base)
    (one : ∀ n < base, motive n [digitByte n])
    (more : ∀ n, base ≤ n → motive (n / base) (digits base (n / base)) →
      motive n (digits base (n / base) ++ [digitByte (n % base)])) (n : ℕ) :
    motive n (digits base n) := by
  induction n using Nat.strongRecOn with
  | ind n ih =>
      rcases Nat.lt_or_ge n base with small | large
      · rw [digits_of_lt small]
        exact one n small
      · rw [digits_of_le pos large]
        exact more n large (ih _ (Nat.div_lt_self (by omega) pos))

theorem digitValue_digitByte : ∀ k < 16, digitValue (digitByte k) = k := by decide

theorem digitByte_ne_sign : ∀ k < 16, digitByte k ≠ 45 := by decide

/-- The digits of a number stand for it. -/
theorem digitsValue_digits (pos : 1 < base) (bound : base ≤ 16) (n : ℕ) :
    digitsValue base (digits base n) = n := by
  refine digits_induction (motive := fun n ds => digitsValue base ds = n) pos ?_ ?_ n
  · intro n small
    rw [digitsValue, List.foldl_cons, List.foldl_nil, Nat.zero_mul, Nat.zero_add,
      digitValue_digitByte n (by omega)]
  · intro n large ih
    have digit : n % base < 16 := lt_of_lt_of_le (Nat.mod_lt n (by omega)) bound
    rw [digitsValue] at ih ⊢
    rw [List.foldl_append, ih, List.foldl_cons, List.foldl_nil, digitValue_digitByte _ digit]
    exact Nat.div_add_mod' n base

/-- What is not the byte of a digit is not among the digits. -/
theorem notMem_digits (pos : 1 < base) (bound : base ≤ 16) {b : UInt8}
    (other : ∀ k < 16, digitByte k ≠ b) (n : ℕ) : b ∉ digits base n := by
  refine digits_induction (motive := fun _ ds => b ∉ ds) pos ?_ ?_ n
  · intro n small
    rw [List.mem_singleton]
    exact (other n (by omega)).symm
  · intro n large ih
    have digit : n % base < 16 := lt_of_lt_of_le (Nat.mod_lt n (by omega)) bound
    rw [List.mem_append, List.mem_singleton, not_or]
    exact ⟨ih, (other _ digit).symm⟩

/-- No digit is the sign. -/
theorem sign_notMem_digits (pos : 1 < base) (bound : base ≤ 16) (n : ℕ) : 45 ∉ digits base n :=
  notMem_digits pos bound digitByte_ne_sign n

/-- Numbers that are written alike are the same. -/
theorem signed_injective (pos : 1 < base) (bound : base ≤ 16) :
    Function.Injective (signed base) := by
  have value : Function.Injective (digits base) :=
    Function.LeftInverse.injective (digitsValue_digits pos bound)
  have unsigned : ∀ (n : ℕ) (ds : GoString), digits base n ≠ GoString.ascii "-" ++ ds := by
    intro n ds same
    refine sign_notMem_digits pos bound n ?_
    rw [same]
    exact List.mem_cons_self
  intro v w same
  rw [signed, signed] at same
  split at same <;> split at same
  next negV negW =>
    have := value (List.append_cancel_left same)
    omega
  next => exact absurd same.symm (unsigned _ _)
  next => exact absurd same (unsigned _ _)
  next posV posW =>
    have := value same
    omega

/-- Different numbers are written differently in decimal. -/
theorem decimal_injective : Function.Injective decimal :=
  signed_injective (by decide) (by decide)

theorem hex_natCast (n : ℕ) : hex n = GoString.ascii "0x" ++ digits 16 n := by
  rw [hex, signed, if_neg (by omega), Int.natAbs_natCast]

/-- Different numbers are written differently in hexadecimal. -/
theorem hex_injective : Function.Injective hex := fun _ _ same =>
  signed_injective (by decide) (by decide) (List.append_cancel_left same)

/-- Leading zeros do not count. -/
theorem digitsValue_zeros (k : ℕ) (ds : GoString) :
    digitsValue base (List.replicate k 48 ++ ds) = digitsValue base ds := by
  induction k with
  | zero => rfl
  | succ k ih =>
      have zero : 0 * base + digitValue 48 = 0 := by
        rw [Nat.zero_mul]
        rfl
      rw [List.replicate_succ, List.cons_append, digitsValue, List.foldl_cons, zero]
      exact ih

theorem digitsValue_octal (n : ℕ) : digitsValue 8 (octal n) = n := by
  have padded : digitsValue 8 (List.replicate (3 - (digits 8 n).length) 48 ++ digits 8 n) = _ :=
    digitsValue_zeros _ (digits 8 n)
  rw [digitsValue_digits (by decide) (by decide)] at padded
  rw [octal]
  split
  next => exact padded
  next => exact (digitsValue_zeros 1 _).trans padded

/-- What is neither the sign nor a digit is not in a number. -/
theorem notMem_decimal {b : UInt8} (noSign : b ≠ 45) (other : ∀ k < 16, digitByte k ≠ b) (v : ℤ) :
    b ∉ decimal v := by
  have ds := notMem_digits (by decide : 1 < 10) (by decide) other v.natAbs
  rw [decimal, signed]
  split
  · exact List.not_mem_cons_of_ne_of_not_mem noSign ds
  · exact ds

/-- An octal number holds digits only. -/
theorem notMem_octal {b : UInt8} (other : ∀ k < 16, digitByte k ≠ b) (n : ℕ) : b ∉ octal n := by
  have zero : b ≠ 48 := (other 0 (by decide)).symm
  have padded : b ∉ List.replicate (3 - (digits 8 n).length) 48 ++ digits 8 n := by
    rw [List.mem_append, not_or]
    exact ⟨fun pad => zero (List.eq_of_mem_replicate pad),
      notMem_digits (by decide) (by decide) other n⟩
  rw [octal]
  split
  · exact padded
  · exact List.not_mem_cons_of_ne_of_not_mem zero padded

theorem octal_injective : Function.Injective octal :=
  Function.LeftInverse.injective digitsValue_octal

end Digits

/-- `strings.Join`. -/
def join (parts : List GoString) (sep : GoString) : GoString := sep.intercalate parts

section Join

variable {b : UInt8}

theorem join_cons_cons (p q : GoString) (ps : List GoString) :
    join (p :: q :: ps) [b] = p ++ b :: join (q :: ps) [b] := by
  rw [join, List.intercalate_cons_cons, List.append_assoc]
  rfl

/-- The first separator is where the first part ends. -/
theorem append_sep_inj {p q s t : GoString} (hp : b ∉ p) (hq : b ∉ q)
    (same : p ++ b :: s = q ++ b :: t) : p = q ∧ s = t := by
  have inside : ∀ {p q s t as : GoString}, b ∉ q → q = p ++ as → b :: s = as ++ b :: t →
      p = q ∧ s = t := by
    rintro p q s t (_ | ⟨c, as⟩) free rfl rest
    · rw [List.nil_append, List.cons.injEq] at rest
      exact ⟨(List.append_nil p).symm, rest.2⟩
    · rw [List.cons_append, List.cons.injEq] at rest
      refine absurd ?_ free
      rw [rest.1]
      exact List.mem_append_right _ List.mem_cons_self
  rcases List.append_eq_append_iff.1 same with ⟨as, longer, rest⟩ | ⟨as, longer, rest⟩
  · exact inside hq longer rest
  · obtain ⟨parts, rests⟩ := inside hp longer rest
    exact ⟨parts.symm, rests.symm⟩

/-- Parts without the separator can be told from what they are joined to. -/
theorem join_inj {ps qs : List GoString} (hp : ∀ p ∈ ps, b ∉ p) (hq : ∀ q ∈ qs, b ∉ q)
    (someP : ps ≠ []) (someQ : qs ≠ []) (same : join ps [b] = join qs [b]) : ps = qs := by
  have longer : ∀ {p q q' : GoString} {qs : List GoString}, b ∉ p →
      join [p] [b] ≠ join (q :: q' :: qs) [b] := by
    intro p q q' qs free same
    rw [join_cons_cons, join, List.intercalate_singleton] at same
    rw [same] at free
    exact free (List.mem_append_right _ List.mem_cons_self)
  induction ps generalizing qs with
  | nil => exact absurd rfl someP
  | cons p ps ih =>
      obtain ⟨headP, tailP⟩ := List.forall_mem_cons.1 hp
      cases qs with
      | nil => exact absurd rfl someQ
      | cons q qs =>
          obtain ⟨headQ, tailQ⟩ := List.forall_mem_cons.1 hq
          cases ps with
          | nil =>
              cases qs with
              | nil =>
                  rw [join, join, List.intercalate_singleton, List.intercalate_singleton] at same
                  rw [same]
              | cons q' qs => exact absurd same (longer headP)
          | cons p' ps =>
              cases qs with
              | nil => exact absurd same.symm (longer headQ)
              | cons q' qs =>
                  rw [join_cons_cons, join_cons_cons] at same
                  obtain ⟨rfl, rest⟩ := append_sep_inj headP headQ same
                  rw [ih tailP tailQ (List.cons_ne_nil p' ps) (List.cons_ne_nil q' qs) rest]

end Join

/-! ## UTF-8 -/

/-- `utf8.RuneError`. -/
def runeError : ℕ := 0xFFFD

/-- A byte in the given range. -/
def within (b : UInt8) (lo hi : UInt8) : Bool := decide (lo ≤ b ∧ b ≤ hi)

/-- The range of the second byte, by the first: `acceptRanges`. -/
def acceptRange (b : UInt8) : UInt8 × UInt8 :=
  if b = 0xE0 then (0xA0, 0xBF)
  else if b = 0xED then (0x80, 0x9F)
  else if b = 0xF0 then (0x90, 0xBF)
  else if b = 0xF4 then (0x80, 0x8F)
  else (0x80, 0xBF)

/-- The number of bytes the first byte asks for, 0 where it cannot be a first byte. -/
def runeWidth (b : UInt8) : ℕ :=
  if b < 0x80 then 1
  else if within b 0xC2 0xDF then 2
  else if within b 0xE0 0xEF then 3
  else if within b 0xF0 0xF4 then 4
  else 0

/-- The low six bits of a byte. -/
def payloadBits (b : UInt8) : ℕ := b.toNat % 64

/-- The second byte is one that may follow the first. -/
def accepts (b c : UInt8) : Bool := within c (acceptRange b).1 (acceptRange b).2

/-- A byte that continues a rune behind the second. -/
def continues (c : UInt8) : Bool := within c 0x80 0xBF

/-- A decoded rune, or `RuneError` of width 1. -/
def runeIf (valid : Bool) (rune width : ℕ) : ℕ × ℕ :=
  if valid then (rune, width) else (runeError, 1)

/-- `utf8.DecodeRuneInString` on a string that begins with `b`. -/
def decodeRune (b : UInt8) (bs : GoString) : ℕ × ℕ :=
  match runeWidth b, bs with
  | 1, _ => (b.toNat, 1)
  | 2, c :: _ => runeIf (accepts b c) (b.toNat % 32 * 64 + payloadBits c) 2
  | 3, c :: d :: _ =>
      runeIf (accepts b c && continues d)
        (b.toNat % 16 * 4096 + payloadBits c * 64 + payloadBits d) 3
  | 4, c :: d :: e :: _ =>
      runeIf (accepts b c && continues d && continues e)
        (b.toNat % 8 * 262144 + payloadBits c * 4096 + payloadBits d * 64 + payloadBits e) 4
  | _, _ => (runeError, 1)

theorem runeIf_width_pos (valid : Bool) (rune : ℕ) {width : ℕ} (pos : 0 < width) :
    0 < (runeIf valid rune width).2 := by
  cases valid with
  | false => exact Nat.one_pos
  | true => exact pos

/-- A rune has at least one byte, so the loop over a string goes forward. -/
theorem decodeRune_width_pos (b : UInt8) (bs : GoString) : 0 < (decodeRune b bs).2 := by
  unfold decodeRune
  split
  · exact Nat.one_pos
  · exact runeIf_width_pos _ _ Nat.two_pos
  · exact runeIf_width_pos _ _ (Nat.succ_pos 2)
  · exact runeIf_width_pos _ _ (Nat.succ_pos 3)
  · exact Nat.one_pos

/-- A rune takes at least one byte, so decoding ends. -/
theorem length_drop_rune_lt (b : UInt8) (bs : GoString) :
    ((b :: bs).drop (decodeRune b bs).2).length < (b :: bs).length := by
  have width := decodeRune_width_pos b bs
  rw [List.length_drop, List.length_cons]
  omega

/-! ## Quoting -/

/-- `n` lower-case hexadecimal digits. -/
def lowerhex : ℕ → ℕ → GoString
  | 0, _ => []
  | n + 1, v => lowerhex n (v / 16) ++ digits 16 (v % 16)

/-- The letter of a single-character escape. -/
def escapeLetter (r : ℕ) : Option UInt8 :=
  match r with
  | 7 => some 97
  | 8 => some 98
  | 12 => some 102
  | 10 => some 110
  | 13 => some 114
  | 9 => some 116
  | 11 => some 118
  | _ => none

/-- `appendEscapedRune` with the quote `"` and `ASCIIonly`. -/
def escapedRune (r : ℕ) : GoString :=
  if r = 34 ∨ r = 92 then [92, r.toUInt8]
  else if 32 ≤ r ∧ r < 127 then [r.toUInt8]
  else
    match escapeLetter r with
    | some letter => [92, letter]
    | none =>
        if r < 32 ∨ r = 127 then GoString.ascii "\\x" ++ lowerhex 2 r
        else if r < 65536 then GoString.ascii "\\u" ++ lowerhex 4 r
        else GoString.ascii "\\U" ++ lowerhex 8 r

/-- The loop of `strconv.QuoteToASCII`. -/
def quoteRunes : GoString → GoString
  | [] => []
  | b :: bs =>
      (if (decodeRune b bs).1 = runeError ∧ (decodeRune b bs).2 = 1 then
        GoString.ascii "\\x" ++ lowerhex 2 b.toNat
      else escapedRune (decodeRune b bs).1) ++
        quoteRunes ((b :: bs).drop (decodeRune b bs).2)
termination_by s => s.length
decreasing_by exact length_drop_rune_lt b bs

/-- `strconv.QuoteToASCII`. -/
def quoteToASCII (s : GoString) : GoString := 34 :: quoteRunes s ++ [34]

/-! ## Numbers from text -/

/-- A number without its sign. -/
def unsignedPart : GoString → GoString
  | 43 :: ds => ds
  | 45 :: ds => ds
  | ds => ds

/-- Decimal digits, after a sign or none. -/
def Decimal (s : GoString) : Prop :=
  unsignedPart s ≠ [] ∧ ∀ b ∈ unsignedPart s, within b 48 57 = true

instance (s : GoString) : Decidable (Decimal s) :=
  @instDecidableAnd _ _ inferInstance (List.decidableBAll _ _)

/-- What a decimal number stands for. -/
def decimalValue (s : GoString) : ℤ :=
  if s.head? = some 45 then -(digitsValue 10 (unsignedPart s) : ℤ)
  else digitsValue 10 (unsignedPart s)

/-- `strconv.Atoi` for an `int` of 64 bits; `none` is an error of syntax or range. -/
def atoi (s : GoString) : Option Int64 :=
  if Decimal s ∧ -2 ^ 63 ≤ decimalValue s ∧ decimalValue s < 2 ^ 63 then
    some (.ofInt (decimalValue s))
  else none

/-- When a text is a number of sixty-four bits, and which. -/
theorem atoi_eq_some_iff {s : GoString} {v : Int64} :
    atoi s = some v ↔ Decimal s ∧ decimalValue s = v.toInt := by
  unfold atoi
  split
  next fits =>
    rw [Option.some.injEq, and_iff_right fits.1, ← Int64.toInt_inj,
      Int64.toInt_ofInt_of_le fits.2.1 fits.2.2]
  next fails =>
    refine iff_of_false nofun ?_
    rintro ⟨decimal, value⟩
    exact fails ⟨decimal, value ▸ v.le_toInt, value ▸ v.toInt_lt⟩

example : (atoi (GoString.ascii "+042"), atoi (GoString.ascii "-1"), atoi (GoString.ascii "4_2"),
    atoi (GoString.ascii "9223372036854775808")) = (some 42, some (-1), none, none) := by
  decide

end Strconv
