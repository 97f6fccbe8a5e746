import Litrace.Lib.Strconv
import Mathlib.Algebra.GroupWithZero.Nat

/-!
# Reading quoted strings

`strconv.QuoteToASCII` writes a string between quotation marks, with escapes for what is not
printable ASCII.  Reading goes the other way: `unquote` takes the escapes back, up to the
closing mark.  It gives back every string, also one that is not valid UTF-8, and whatever is
behind the mark (`unquoteBody_quoteRunes`).

The reader follows the grammar of escapes, not the writer: it accepts `\x`, `\u` and `\U`
with their digits and the letter escapes wherever they stand.  The proof goes rune by rune,
as the writer does, and its main point is a byte that does not begin valid UTF-8: it is
written as `\x` with two digits and must come back as this byte, whereas a rune of the same
value comes back as two bytes.
-/

namespace Strconv

open GoString (ascii)

/-! ## UTF-8 -/

/-- `utf8.AppendRune`, for runes that are no surrogates. -/
def encodeRune (r : ℕ) : GoString :=
  if r < 0x80 then [r.toUInt8]
  else if r < 0x800 then [(0xC0 + r / 64).toUInt8, (0x80 + r % 64).toUInt8]
  else if r < 0x10000 then
    [(0xE0 + r / 4096).toUInt8, (0x80 + r / 64 % 64).toUInt8, (0x80 + r % 64).toUInt8]
  else
    [(0xF0 + r / 262144).toUInt8, (0x80 + r / 4096 % 64).toUInt8, (0x80 + r / 64 % 64).toUInt8,
      (0x80 + r % 64).toUInt8]

theorem within_iff {b lo hi : UInt8} :
    within b lo hi = true ↔ lo.toNat ≤ b.toNat ∧ b.toNat ≤ hi.toNat := by
  simp [within, UInt8.le_iff_toNat_le]

/-- A byte of a given value. -/
theorem toUInt8_eq {n : ℕ} {b : UInt8} (eq : n = b.toNat) : n.toUInt8 = b := by
  rw [eq]
  exact UInt8.ofNat_toNat

/-- A byte that continues a rune. -/
theorem continues_toNat {c : UInt8} (h : continues c = true) : 128 ≤ c.toNat ∧ c.toNat < 192 := by
  obtain ⟨low, high⟩ := within_iff.mp h
  exact ⟨low, Nat.lt_succ_of_le high⟩

/-- The second byte of a rune, which is never coded longer than it has to be. -/
theorem accepts_toNat {b c : UInt8} (h : accepts b c = true) :
    128 ≤ c.toNat ∧ c.toNat < 192 ∧ (b = 0xE0 → 160 ≤ c.toNat) ∧ (b = 0xF0 → 144 ≤ c.toNat) := by
  unfold accepts acceptRange at h
  split_ifs at h with e0 ed f0 f4 <;> obtain ⟨low, high⟩ := within_iff.mp h <;>
    simp only [UInt8.reduceToNat] at low high
  · exact ⟨by omega, by omega, fun _ => low, fun f0 => absurd (e0.symm.trans f0) (by decide)⟩
  · exact ⟨by omega, by omega, fun e0' => absurd e0' e0,
      fun f0 => absurd (ed.symm.trans f0) (by decide)⟩
  · exact ⟨by omega, by omega, fun e0' => absurd e0' e0, fun _ => low⟩
  · exact ⟨by omega, by omega, fun e0' => absurd e0' e0, fun f0' => absurd f0' f0⟩
  · exact ⟨by omega, by omega, fun e0' => absurd e0' e0, fun f0' => absurd f0' f0⟩

/-- What the first byte of a rune is, by the number of its bytes. -/
theorem runeWidth_cases (b : UInt8) :
    (runeWidth b = 1 ∧ b.toNat < 128) ∨ (runeWidth b = 2 ∧ 194 ≤ b.toNat ∧ b.toNat ≤ 223) ∨
      (runeWidth b = 3 ∧ 224 ≤ b.toNat ∧ b.toNat ≤ 239) ∨
        (runeWidth b = 4 ∧ 240 ≤ b.toNat ∧ b.toNat ≤ 244) ∨ runeWidth b = 0 := by
  unfold runeWidth
  split_ifs with one two three four
  · exact .inl ⟨rfl, UInt8.lt_iff_toNat_lt.mp one⟩
  · exact .inr (.inl ⟨rfl, within_iff.mp two⟩)
  · exact .inr (.inr (.inl ⟨rfl, within_iff.mp three⟩))
  · exact .inr (.inr (.inr (.inl ⟨rfl, within_iff.mp four⟩)))
  · exact .inr (.inr (.inr (.inr rfl)))

/-- Two bytes that decode to a rune are its encoding. -/
theorem encodeRune_two {b c : UInt8} (width : runeWidth b = 2) (second : accepts b c = true) :
    encodeRune (b.toNat % 32 * 64 + payloadBits c) = [b, c] := by
  have first := runeWidth_cases b
  obtain ⟨lowC, highC, -, -⟩ := accepts_toNat second
  rw [payloadBits, encodeRune, if_neg (by omega), if_pos (by omega),
    toUInt8_eq (b := b) (by omega), toUInt8_eq (b := c) (by omega)]

/-- Three bytes that decode to a rune are its encoding. -/
theorem encodeRune_three {b c d : UInt8} (width : runeWidth b = 3) (second : accepts b c = true)
    (third : continues d = true) :
    encodeRune (b.toNat % 16 * 4096 + payloadBits c * 64 + payloadBits d) = [b, c, d] := by
  have first := runeWidth_cases b
  obtain ⟨lowC, highC, short, -⟩ := accepts_toNat second
  obtain ⟨lowD, highD⟩ := continues_toNat third
  have wide : 0x800 ≤ b.toNat % 16 * 4096 + c.toNat % 64 * 64 + d.toNat % 64 := by
    by_cases e0 : b.toNat = 224
    · have := short (UInt8.toNat_inj.mp e0)
      omega
    · omega
  simp only [payloadBits]
  rw [encodeRune, if_neg (by omega), if_neg (by omega), if_pos (by omega),
    toUInt8_eq (b := b) (by omega), toUInt8_eq (b := c) (by omega), toUInt8_eq (b := d) (by omega)]

/-- Four bytes that decode to a rune are its encoding. -/
theorem encodeRune_four {b c d e : UInt8} (width : runeWidth b = 4) (second : accepts b c = true)
    (third : continues d = true) (fourth : continues e = true) :
    encodeRune (b.toNat % 8 * 262144 + payloadBits c * 4096 + payloadBits d * 64 +
      payloadBits e) = [b, c, d, e] := by
  have first := runeWidth_cases b
  obtain ⟨lowC, highC, -, short⟩ := accepts_toNat second
  obtain ⟨lowD, highD⟩ := continues_toNat third
  obtain ⟨lowE, highE⟩ := continues_toNat fourth
  have wide : 0x10000 ≤ b.toNat % 8 * 262144 + c.toNat % 64 * 4096 + d.toNat % 64 * 64 +
      e.toNat % 64 := by
    by_cases f0 : b.toNat = 240
    · have := short (UInt8.toNat_inj.mp f0)
      omega
    · omega
  simp only [payloadBits]
  rw [encodeRune, if_neg (by omega), if_neg (by omega), if_neg (by omega),
    toUInt8_eq (b := b) (by omega), toUInt8_eq (b := c) (by omega),
    toUInt8_eq (b := d) (by omega), toUInt8_eq (b := e) (by omega)]

/-- What is decoded is coded as it was. -/
theorem encodeRune_decodeRune {b : UInt8} {bs : GoString}
    (valid : ¬ ((decodeRune b bs).1 = runeError ∧ (decodeRune b bs).2 = 1)) :
    encodeRune (decodeRune b bs).1 = (b :: bs).take (decodeRune b bs).2 := by
  have invalid : ∀ {rune width : ℕ} {ok : Bool},
      ¬ ((runeIf ok rune width).1 = runeError ∧ (runeIf ok rune width).2 = 1) → ok = true := by
    intro rune width ok valid
    cases ok with
    | false => exact absurd ⟨rfl, rfl⟩ valid
    | true => rfl
  unfold decodeRune at valid ⊢
  split at valid
  next width =>
    have first := runeWidth_cases b
    rw [encodeRune, if_pos (by omega), toUInt8_eq rfl]
    rfl
  next c _ width =>
    have second := invalid valid
    rw [second]
    exact encodeRune_two width second
  next c d _ width =>
    have both := invalid valid
    rw [both]
    obtain ⟨second, third⟩ := Bool.and_eq_true_iff.mp both
    exact encodeRune_three width second third
  next c d e _ width =>
    have all := invalid valid
    rw [all]
    obtain ⟨front, fourth⟩ := Bool.and_eq_true_iff.mp all
    obtain ⟨second, third⟩ := Bool.and_eq_true_iff.mp front
    exact encodeRune_four width second third fourth
  next => exact absurd ⟨rfl, rfl⟩ valid

/-- A rune has at most 21 bits. -/
theorem decodeRune_lt (b : UInt8) (bs : GoString) : (decodeRune b bs).1 < 2 ^ 21 := by
  have runeIf_lt : ∀ {rune width : ℕ} {ok : Bool}, rune < 2 ^ 21 →
      (runeIf ok rune width).1 < 2 ^ 21 := by
    intro rune width ok small
    cases ok with
    | false => exact show runeError < 2 ^ 21 by decide
    | true => exact small
  have := b.toNat_lt
  unfold decodeRune payloadBits
  split
  · omega
  · exact runeIf_lt (by omega)
  · exact runeIf_lt (by omega)
  · exact runeIf_lt (by omega)
  · exact show runeError < 2 ^ 21 by decide

/-! ## Hexadecimal digits -/

theorem length_lowerhex (n v : ℕ) : (lowerhex n v).length = n := by
  induction n generalizing v with
  | zero => rfl
  | succ n ih =>
      rw [lowerhex, List.length_append, ih, digits_of_lt (Nat.mod_lt v (by decide))]
      rfl

/-- A number in hexadecimal is read back, up to the digits there is room for. -/
theorem digitsValue_lowerhex (n v : ℕ) : digitsValue 16 (lowerhex n v) = v % 16 ^ n := by
  induction n generalizing v with
  | zero => exact (Nat.mod_one v).symm
  | succ n ih =>
      have digit : v % 16 < 16 := Nat.mod_lt v (by decide)
      have front : (lowerhex n (v / 16)).foldl (fun acc b => acc * 16 + digitValue b) 0 =
          v / 16 % 16 ^ n := ih (v / 16)
      rw [lowerhex, digits_of_lt digit, digitsValue, List.foldl_append, front, List.foldl_cons,
        List.foldl_nil, digitValue_digitByte _ digit, Nat.pow_succ', Nat.mod_mul]
      omega

/-- Every byte of hexadecimal digits is the byte of a digit. -/
theorem mem_lowerhex {n v : ℕ} {b : UInt8} (mem : b ∈ lowerhex n v) :
    ∃ k < 16, digitByte k = b := by
  induction n generalizing v with
  | zero => cases mem
  | succ n ih =>
      have digit : v % 16 < 16 := Nat.mod_lt v (by decide)
      rw [lowerhex, digits_of_lt digit, List.mem_append, List.mem_singleton] at mem
      rcases mem with mem | rfl
      · exact ih mem
      · exact ⟨v % 16, digit, rfl⟩

/-! ## Reading -/

/-- A number of `n` hexadecimal digits, and what is behind it. -/
def hexNumber (n : ℕ) (s : GoString) : Option (ℕ × GoString) :=
  if n ≤ s.length then some (digitsValue 16 (s.take n), s.drop n) else none

/-- What a letter behind a backslash stands for. -/
def unescapeLetter (b : UInt8) : UInt8 :=
  match b with
  | 97 => 7
  | 98 => 8
  | 102 => 12
  | 110 => 10
  | 114 => 13
  | 116 => 9
  | 118 => 11
  | b => b

/-- The bytes of an escape, whose backslash has been read, and what is behind it. -/
def unquoteEscape : GoString → Option (GoString × GoString)
  | [] => none
  | b :: s =>
      if b = 120 then (hexNumber 2 s).map fun p => ([p.1.toUInt8], p.2)
      else if b = 117 then (hexNumber 4 s).map fun p => (encodeRune p.1, p.2)
      else if b = 85 then (hexNumber 8 s).map fun p => (encodeRune p.1, p.2)
      else some ([unescapeLetter b], s)

theorem length_of_hexNumber {n v : ℕ} {s rest : GoString} (read : hexNumber n s = some (v, rest)) :
    rest.length ≤ s.length := by
  unfold hexNumber at read
  split at read
  · cases read
    rw [List.length_drop]
    exact Nat.sub_le _ _
  · cases read

theorem length_of_map_hexNumber {n : ℕ} {f : ℕ → GoString} {s bytes rest : GoString}
    (read : ((hexNumber n s).map fun p => (f p.1, p.2)) = some (bytes, rest)) :
    rest.length ≤ s.length := by
  obtain ⟨⟨v, rest'⟩, number, same⟩ := Option.map_eq_some_iff.mp read
  cases same
  exact length_of_hexNumber number

/-- An escape is read from the front, which leaves less: this is what ends the recursion of
`unquote`. -/
theorem length_of_unquoteEscape {s bytes rest : GoString}
    (read : unquoteEscape s = some (bytes, rest)) : rest.length ≤ s.length := by
  cases s with
  | nil => cases read
  | cons b s =>
      refine Nat.le_succ_of_le ?_
      rw [unquoteEscape] at read
      split_ifs at read
      · exact length_of_map_hexNumber (f := fun v => [v.toUInt8]) read
      · exact length_of_map_hexNumber read
      · exact length_of_map_hexNumber read
      · cases read
        exact le_rfl

/-- The string up to the closing quotation mark, and what is behind the mark. -/
def unquoteBody : GoString → Option (GoString × GoString)
  | [] => none
  | b :: s =>
      if b = 34 then some ([], s)
      else if b = 92 then
        match _ : unquoteEscape s with
        | none => none
        | some (bytes, rest) => (unquoteBody rest).map fun p => (bytes ++ p.1, p.2)
      else (unquoteBody s).map fun p => (b :: p.1, p.2)
termination_by s => s.length
decreasing_by
  · exact Nat.lt_succ_of_le (length_of_unquoteEscape ‹_›)
  · exact Nat.lt_succ_self s.length

/-- The string that is quoted at the beginning, and what is behind it. -/
def unquote : GoString → Option (GoString × GoString)
  | 34 :: s => unquoteBody s
  | _ => none

/-! ## Quoting and reading -/

/-- Reading continues behind some text with the given bytes. -/
def ReadsAs (text bytes : GoString) : Prop :=
  ∀ s, unquoteBody (text ++ s) = (unquoteBody s).map fun p => (bytes ++ p.1, p.2)

/-- A character that is neither a quote nor a backslash stands for itself. -/
theorem readsAs_plain {b : UInt8} (noMark : b ≠ 34) (noEscape : b ≠ 92) : ReadsAs [b] [b] := by
  intro s
  rw [List.singleton_append, unquoteBody, if_neg noMark, if_neg noEscape]
  rfl

/-- An escape is read as its bytes. -/
theorem readsAs_escape {text bytes : GoString}
    (escape : ∀ s, unquoteEscape (text ++ s) = some (bytes, s)) :
    ReadsAs (92 :: text) bytes := by
  intro s
  rw [List.cons_append, unquoteBody, if_neg (by decide), if_pos rfl]
  split
  next none => cases none.symm.trans (escape s)
  next bytes' rest some =>
    cases some.symm.trans (escape s)
    rfl

theorem readsAs_letter {b : UInt8} (noNumber : b ≠ 120 ∧ b ≠ 117 ∧ b ≠ 85) :
    ReadsAs [92, b] [unescapeLetter b] := by
  refine readsAs_escape fun s => ?_
  rw [List.singleton_append, unquoteEscape, if_neg noNumber.1, if_neg noNumber.2.1,
    if_neg noNumber.2.2]

/-- A number written with its digits is read from them, whatever follows. -/
theorem hexNumber_lowerhex {n v : ℕ} (small : v < 16 ^ n) (s : GoString) :
    hexNumber n (lowerhex n v ++ s) = some (v, s) := by
  have length := length_lowerhex n v
  rw [hexNumber, if_pos (by simp [length]), List.take_left' length, List.drop_left' length,
    digitsValue_lowerhex, Nat.mod_eq_of_lt small]

theorem readsAs_byte {v : ℕ} (small : v < 256) :
    ReadsAs (ascii "\\x" ++ lowerhex 2 v) [v.toUInt8] := by
  show ReadsAs (92 :: 120 :: lowerhex 2 v) [v.toUInt8]
  refine readsAs_escape fun s => ?_
  rw [List.cons_append, unquoteEscape, if_pos rfl, hexNumber_lowerhex (by omega)]
  rfl

theorem readsAs_rune {v : ℕ} (small : v < 65536) :
    ReadsAs (ascii "\\u" ++ lowerhex 4 v) (encodeRune v) := by
  show ReadsAs (92 :: 117 :: lowerhex 4 v) (encodeRune v)
  refine readsAs_escape fun s => ?_
  rw [List.cons_append, unquoteEscape, if_neg (by decide), if_pos rfl,
    hexNumber_lowerhex (by omega)]
  rfl

theorem readsAs_longRune {v : ℕ} (small : v < 2 ^ 32) :
    ReadsAs (ascii "\\U" ++ lowerhex 8 v) (encodeRune v) := by
  show ReadsAs (92 :: 85 :: lowerhex 8 v) (encodeRune v)
  refine readsAs_escape fun s => ?_
  rw [List.cons_append, unquoteEscape, if_neg (by decide), if_neg (by decide), if_pos rfl,
    hexNumber_lowerhex (by omega)]
  rfl

/-- The letter of an escape stands for its rune. -/
theorem escapeLetter_spec {r : ℕ} {letter : UInt8} (known : escapeLetter r = some letter) :
    (letter ≠ 120 ∧ letter ≠ 117 ∧ letter ≠ 85) ∧ encodeRune r = [unescapeLetter letter] := by
  unfold escapeLetter at known
  split at known <;> cases known <;> exact ⟨by decide, by decide⟩

/-- What `appendEscapedRune` writes is read as the rune. -/
theorem readsAs_escapedRune {r : ℕ} (small : r < 2 ^ 21) :
    ReadsAs (escapedRune r) (encodeRune r) := by
  have single : r < 128 → encodeRune r = [r.toUInt8] := fun ascii => if_pos ascii
  unfold escapedRune
  split
  next mark =>
    rcases mark with rfl | rfl
    · exact readsAs_letter (by decide)
    · exact readsAs_letter (by decide)
  next noMark =>
    rw [not_or] at noMark
    split
    next printable =>
      rw [single (by omega)]
      have byte : r.toUInt8.toNat = r :=
        UInt8.toNat_ofNat_of_lt' (printable.2.trans (by decide))
      refine readsAs_plain (fun eq => noMark.1 ?_) fun eq => noMark.2 ?_
      · rw [← byte, eq]
        rfl
      · rw [← byte, eq]
        rfl
    next =>
      split
      next letter known =>
        obtain ⟨noNumber, eq⟩ := escapeLetter_spec known
        rw [eq]
        exact readsAs_letter noNumber
      next =>
        split
        next control =>
          rw [single (by omega)]
          exact readsAs_byte (by omega)
        next =>
          split
          next short => exact readsAs_rune short
          next => exact readsAs_longRune (by omega)

/-- **What is quoted can be read**, and reading stops at the closing mark. -/
theorem unquoteBody_quoteRunes (s rest : GoString) :
    unquoteBody (quoteRunes s ++ 34 :: rest) = some (s, rest) := by
  induction s using quoteRunes.induct with
  | case1 =>
      rw [quoteRunes, List.nil_append, unquoteBody, if_pos rfl]
  | case2 b bs ih =>
      rw [quoteRunes, List.append_assoc]
      split
      next invalid =>
        rw [invalid.2] at ih ⊢
        rw [readsAs_byte b.toNat_lt, ih, toUInt8_eq rfl]
        rfl
      next valid =>
        rw [readsAs_escapedRune (decodeRune_lt b bs), ih, encodeRune_decodeRune valid,
          Option.map_some, List.take_append_drop]

/-- The round trip of quoting: the reader gives the text back, and stops behind the closing
quote. -/
theorem unquote_quoteToASCII (s rest : GoString) :
    unquote (quoteToASCII s ++ rest) = some (s, rest) := by
  rw [quoteToASCII, List.cons_append, List.cons_append, List.append_assoc]
  exact unquoteBody_quoteRunes s rest

/-! ## What is between the marks -/

/-- Printable ASCII. -/
def printable (b : UInt8) : Bool := within b 32 126

/-- Text between quotation marks: a mark is there behind a backslash only. -/
inductive Quoted : GoString → Prop
  | nil : Quoted []
  | byte {b : UInt8} {s : GoString} (shown : printable b = true) (noMark : b ≠ 34)
      (noEscape : b ≠ 92) (rest : Quoted s) : Quoted (b :: s)
  | escape {b : UInt8} {s : GoString} (shown : printable b = true) (rest : Quoted s) :
      Quoted (92 :: b :: s)

theorem Quoted.append {s t : GoString} (hs : Quoted s) (ht : Quoted t) : Quoted (s ++ t) := by
  induction hs with
  | nil => exact ht
  | byte shown noMark noEscape _ ih => exact .byte shown noMark noEscape ih
  | escape shown _ ih => exact .escape shown ih

theorem Quoted.printable {s : GoString} (hs : Quoted s) :
    ∀ b ∈ s, Strconv.printable b = true := by
  induction hs with
  | nil => exact nofun
  | byte shown _ _ _ ih => exact List.forall_mem_cons.mpr ⟨shown, ih⟩
  | escape shown _ ih =>
      exact List.forall_mem_cons.mpr ⟨by decide, List.forall_mem_cons.mpr ⟨shown, ih⟩⟩

theorem digitByte_quoted : ∀ k < 16, printable (digitByte k) = true ∧ digitByte k ≠ 34 ∧
    digitByte k ≠ 92 := by decide

theorem quoted_of_digits {s : GoString} (digits : ∀ b ∈ s, ∃ k < 16, digitByte k = b) :
    Quoted s := by
  induction s with
  | nil => exact .nil
  | cons b s ih =>
      obtain ⟨⟨k, small, rfl⟩, others⟩ := List.forall_mem_cons.mp digits
      obtain ⟨shown, noMark, noEscape⟩ := digitByte_quoted k small
      exact .byte shown noMark noEscape (ih others)

theorem quoted_lowerhex {letter : UInt8} (shown : printable letter = true) (n v : ℕ) :
    Quoted (92 :: letter :: lowerhex n v) :=
  .escape shown (quoted_of_digits fun _ mem => mem_lowerhex mem)

/-- No escape holds a bare quote. -/
theorem quoted_escapedRune (r : ℕ) : Quoted (escapedRune r) := by
  unfold escapedRune
  split
  next mark =>
    refine .escape ?_ .nil
    rcases mark with rfl | rfl <;> decide
  next noMark =>
    rw [not_or] at noMark
    split
    next shown =>
      have byte : r.toUInt8.toNat = r := UInt8.toNat_ofNat_of_lt' (shown.2.trans (by decide))
      refine .byte (within_iff.mpr ?_) (fun eq => noMark.1 ?_) (fun eq => noMark.2 ?_) .nil
      · rw [byte]
        exact ⟨shown.1, Nat.le_of_lt_succ shown.2⟩
      · rw [← byte, eq]
        rfl
      · rw [← byte, eq]
        rfl
    next =>
      split
      next letter known =>
        refine .escape ?_ .nil
        unfold escapeLetter at known
        split at known <;> cases known <;> decide
      next =>
        split
        · exact quoted_lowerhex (by decide) 2 r
        · split
          · exact quoted_lowerhex (by decide) 4 r
          · exact quoted_lowerhex (by decide) 8 r

/-- The inside of a quoted text, by recursion on its runes. -/
theorem quoted_quoteRunes (s : GoString) : Quoted (quoteRunes s) := by
  induction s using quoteRunes.induct with
  | case1 =>
      rw [quoteRunes]
      exact .nil
  | case2 b bs ih =>
      rw [quoteRunes]
      refine Quoted.append ?_ ih
      split
      · exact quoted_lowerhex (by decide) 2 b.toNat
      · exact quoted_escapedRune _

example : quoteToASCII [99, 195, 169, 255, 34] = ascii "\"c\\u00e9\\xff\\\"\"" := by
  decide +kernel

end Strconv
