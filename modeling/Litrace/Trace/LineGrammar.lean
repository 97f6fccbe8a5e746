import Litrace.Lib.Nesting
import Litrace.Trace.Flags
import Mathlib.Data.Bool.AllAny

/-!
# The texts of arguments

Whatever an event holds, the text of an argument has one of a few forms (`ArgText`): a word, a
quoted string, a list of quoted strings, or the summary of a captured structure.  What is
captured shows up between quotation marks only, with everything escaped that is not printable,
so no text has a newline and each is an item of a list (`ArgText.shown`, `ArgText.item`).

The grammar is larger than what is ever written: it admits any word without the few bytes that
a reader looks for.  This makes it stable; a new name in a table or another number format is a
word as well.  Only where captured bytes get into a text its form has to be known exactly, and
there it is the quotation that keeps them in.
-/

namespace Litrace.Trace

open GoString (ascii)
open Strconv Nesting Checked

/-! ## Words -/

/-- A byte of a word. -/
def wordByte (b : UInt8) : Bool := printable b && calm b && !stops b && b != 32 && b != 40

/-- A name, a number, or some of these. -/
def Word (s : GoString) : Prop := s ≠ [] ∧ ∀ b ∈ s, wordByte b = true

instance (s : GoString) : Decidable (Word s) :=
  @instDecidableAnd _ _ inferInstance (List.decidableBAll _ _)

/-- Every byte can be shown on one line. -/
def Shown (s : GoString) : Prop := ∀ b ∈ s, printable b = true

instance (s : GoString) : Decidable (Shown s) := List.decidableBAll _ _

/-- What is shown may be put together in any way; only single bytes matter. -/
theorem Shown.append {s t : GoString} (hs : Shown s) (ht : Shown t) : Shown (s ++ t) := by
  intro b mem
  rcases List.mem_append.mp mem with mem | mem
  · exact hs b mem
  · exact ht b mem

theorem shown_join {texts : List GoString} {sep : GoString} (each : ∀ text ∈ texts, Shown text)
    (hsep : Shown sep) : Shown (join texts sep) := by
  induction texts with
  | nil => exact nofun
  | cons text texts ih =>
      obtain ⟨first, others⟩ := List.forall_mem_cons.mp each
      cases texts with
      | nil =>
          rw [join, List.intercalate_singleton]
          exact first
      | cons text' texts =>
          rw [join, List.intercalate_cons_cons]
          exact (first.append hsep).append (ih others)

section

variable {s t : GoString}

/-- The bytes of a word are none that a reader of the line looks for. -/
theorem wordByte_spec {b : UInt8} (h : wordByte b = true) :
    printable b = true ∧ calm b = true ∧ stops b = false ∧ b ≠ 32 ∧ b ≠ 40 := by
  simp only [wordByte, Bool.and_eq_true, Bool.not_eq_true', bne_iff_ne] at h
  exact ⟨h.1.1.1.1, h.1.1.1.2, h.1.1.2, h.1.2, h.2⟩

theorem Word.shown (word : Word s) : Shown s := fun b mem => (wordByte_spec (word.2 b mem)).1

/-- A reader passes a word without a change of its state, at any depth. -/
theorem Word.passes (word : Word s) (depth : ℕ) :
    Passes (.outside depth) s (.outside depth) :=
  passes_plain (fun b mem => ⟨(wordByte_spec (word.2 b mem)).2.1,
    (wordByte_spec (word.2 b mem)).2.2.1⟩) depth

theorem Word.append (hs : Word s) (ht : Word t) : Word (s ++ t) := by
  refine ⟨List.append_ne_nil_of_left_ne_nil hs.1 t, fun b mem => ?_⟩
  rcases List.mem_append.mp mem with mem | mem
  · exact hs.2 b mem
  · exact ht.2 b mem

/-- In the bases that are used a digit is a figure or a small letter. -/
theorem word_digits {base : ℕ} (pos : 1 < base) (bound : base ≤ 16) (n : ℕ) :
    Word (digits base n) := by
  have digit : ∀ k < 16, wordByte (digitByte k) = true := by decide
  refine digits_induction (motive := fun _ ds => Word ds) pos ?_ ?_ n
  · intro n small
    refine ⟨List.cons_ne_nil _ _, fun b mem => ?_⟩
    rw [List.mem_singleton.mp mem]
    exact digit n (by omega)
  · intro n large ih
    refine ih.append ⟨List.cons_ne_nil _ _, fun b mem => ?_⟩
    rw [List.mem_singleton.mp mem]
    exact digit _ (lt_of_lt_of_le (Nat.mod_lt n (by omega)) bound)

theorem word_signed {base : ℕ} (pos : 1 < base) (bound : base ≤ 16) (v : ℤ) :
    Word (signed base v) := by
  unfold signed
  split
  · exact Word.append (s := ascii "-") (by decide) (word_digits pos bound _)
  · exact word_digits pos bound _

theorem word_decimal (v : ℤ) : Word (decimal v) := word_signed (by decide) (by decide) v

theorem word_hex (v : ℤ) : Word (hex v) :=
  Word.append (s := ascii "0x") (by decide) (word_signed (by decide) (by decide) v)

theorem word_octal (n : ℕ) : Word (octal n) := by
  have ds : Word (digits 8 n) := word_digits (by decide) (by decide) n
  have zeros : ∀ b ∈ List.replicate (3 - (digits 8 n).length) (48 : UInt8), wordByte b = true := by
    intro b mem
    rw [List.eq_of_mem_replicate mem]
    decide
  have padded : Word (List.replicate (3 - (digits 8 n).length) 48 ++ digits 8 n) := by
    refine ⟨List.append_ne_nil_of_right_ne_nil _ ds.1, fun b mem => ?_⟩
    rcases List.mem_append.mp mem with mem | mem
    · exact zeros b mem
    · exact ds.2 b mem
  rw [octal]
  split
  · exact padded
  · exact Word.append (s := [48]) (by decide) padded

/-- Words with bars between them are a word. -/
theorem word_join {words : List GoString} (some : words ≠ []) (each : ∀ w ∈ words, Word w) :
    Word (join words [124]) := by
  induction words with
  | nil => exact absurd rfl some
  | cons w words ih =>
      obtain ⟨first, others⟩ := List.forall_mem_cons.mp each
      cases words with
      | nil =>
          rw [join, List.intercalate_singleton]
          exact first
      | cons w' words =>
          rw [join_cons_cons]
          exact first.append (Word.append (s := [124]) (by decide)
            (ih (List.cons_ne_nil w' words) others))

end

/-! ### Names and flags -/

/-- Names joined by bars are one word, and the remainder is a number. -/
theorem word_formatFlags {table : List NamedValue} (names : ∀ entry ∈ table, Word entry.name)
    (raw : UInt64) : Word (formatFlags raw [] table) := by
  rw [formatFlags_eq_join]
  refine word_join (flagParts_ne_nil raw [] table) fun part mem => ?_
  rw [flagParts, if_neg (by simp)] at mem
  rcases List.mem_append.mp mem with mem | mem
  · obtain ⟨entry, known, rfl⟩ := mem_flagNames mem
    exact names entry known
  · obtain ⟨n, rfl⟩ := mem_restPart mem
    exact word_hex n

theorem word_formatOpenFlags (raw : UInt64) : Word (formatOpenFlags raw) := by
  have access : Word (accessPart raw) := by
    rcases accessPart_cases raw with ⟨entry, mem, eq⟩ | ⟨n, eq⟩
    · have names : ∀ entry ∈ openModeAccess, Word entry.name := by decide
      exact eq ▸ names entry mem
    · exact eq ▸ word_hex n
  show Word (if otherFlags raw = 0 then accessPart raw
    else accessPart raw ++ ascii "|" ++ formatFlags (otherFlags raw) [] openModeFlags)
  split
  · exact access
  · exact (access.append (by decide)).append (word_formatFlags (by decide) _)

theorem word_formatPtr (raw : UInt64) : Word (formatPtr raw) := by
  unfold formatPtr
  split
  · decide
  · exact word_hex _

theorem word_formatMode (raw : UInt64) : Word (formatMode raw) := word_octal _

theorem word_formatDirFD (raw : UInt64) : Word (formatDirFD raw) := by
  unfold formatDirFD
  dsimp only
  split
  · decide
  · exact word_decimal _

theorem word_formatWhence (raw : UInt64) : Word (formatWhence raw) := by
  unfold formatWhence
  dsimp only
  repeat' split
  all_goals first | exact word_decimal _ | decide

theorem word_formatMmapProt (raw : UInt64) : Word (formatMmapProt raw) := by
  unfold formatMmapProt
  split
  · decide
  · exact word_formatFlags (by decide) raw

theorem word_formatMmapFlags (raw : UInt64) : Word (formatMmapFlags raw) :=
  word_formatFlags (by decide) raw

theorem word_formatStatMode (mode : UInt32) : Word (formatStatMode mode) := by
  unfold formatStatMode
  dsimp only
  split
  · exact word_octal _
  next known =>
    have type : formatStatFileType mode ≠ [] → Word (formatStatFileType mode) := by
      unfold formatStatFileType
      dsimp only
      repeat' split
      all_goals first | exact fun _ => (by decide) | exact fun none => absurd rfl none
    exact ((type known).append (by decide)).append (word_octal _)

/-- Whatever its type, a value that is not captured is rendered as a number or as names. -/
theorem word_formatRaw (id : Int64) (idx : ℤ) (typ : UInt8) (raw : UInt64) :
    Word (formatRaw id idx typ raw) := by
  unfold formatRaw
  refine iteInduction (motive := Word) (fun _ => word_decimal _) fun _ => ?_
  refine iteInduction (motive := Word) (fun _ => ?_) fun _ => ?_
  · exact iteInduction (motive := Word) (fun _ => word_formatWhence _) fun _ => word_decimal _
  refine iteInduction (motive := Word) (fun _ => word_decimal _) fun _ => ?_
  refine iteInduction (motive := Word) (fun _ => word_formatMode _) fun _ => ?_
  refine iteInduction (motive := Word) (fun _ => word_hex _) fun _ => ?_
  refine iteInduction (motive := Word) (fun _ => word_decimal _) fun _ => ?_
  refine iteInduction (motive := Word) (fun _ => word_formatPtr _) fun _ => ?_
  refine iteInduction (motive := Word) (fun _ => word_hex _) fun _ => ?_
  exact iteInduction (motive := Word) (fun _ => by decide) fun _ => word_hex _

/-! ### Names of syscalls -/

theorem wordByte_of_nameByte {b : UInt8} (name : Syscalls.nameByte b = true) :
    wordByte b = true := by
  have all : ∀ n < 256, Syscalls.nameByte (UInt8.ofNat n) = true →
      wordByte (UInt8.ofNat n) = true := by
    decide +kernel
  have byte := all b.toNat b.toNat_lt
  rw [UInt8.ofNat_toNat] at byte
  exact byte name

/-- The names in the table are words. -/
theorem word_entries : ∀ entry ∈ Syscalls.entries, Word entry.name := fun entry mem =>
  ⟨(Syscalls.entries_names.2 entry mem).2.1, fun _ inside =>
    wordByte_of_nameByte (Syscalls.nameByte_of_mem_entries mem inside)⟩

/-- The name of a syscall is in the table or made from its number. -/
theorem word_name (id : Int64) : Word (Syscalls.name id) := by
  unfold Syscalls.name
  split
  next name known =>
    obtain ⟨entry, mem, -, rfl⟩ := Syscalls.exists_of_idToName known
    exact word_entries entry mem
  next => exact Word.append (by decide) (word_hex _)

/-! ## The grammar -/

/-- The text of an argument. -/
inductive ArgText : GoString → Prop
  | word {s : GoString} (h : Word s) : ArgText s
  | quoted (s : GoString) : ArgText (quoteToASCII s)
  | list {items : List GoString} (each : ∀ item ∈ items, Word item ∨ ∃ s, item = quoteToASCII s) :
      ArgText (91 :: join items (ascii ", ") ++ [93])
  | braces {s : GoString} (shown : Shown s) (calm : ∀ b ∈ s, Nesting.calm b = true) :
      ArgText (123 :: s ++ [125])
  | dots {s : GoString} (cut : ArgText s) : ArgText (s ++ ascii "...")

/-- Quotation makes everything printable, whatever bytes were captured. -/
theorem shown_quoteToASCII (s : GoString) : Shown (quoteToASCII s) := by
  have mark : Shown [34] := by decide
  exact (mark.append (quoted_quoteRunes s).printable).append mark

/-- **An argument does not leave its line.** -/
theorem ArgText.shown {s : GoString} (text : ArgText s) : Shown s := by
  induction text with
  | word h => exact h.shown
  | quoted s => exact shown_quoteToASCII s
  | @list items each =>
      have inside : Shown (join items (ascii ", ")) := by
        refine shown_join (fun item mem => ?_) (by decide)
        rcases each item mem with word | ⟨s, rfl⟩
        · exact word.shown
        · exact shown_quoteToASCII s
      exact (Shown.append (s := [91]) (by decide) inside).append (by decide)
  | braces shown _ => exact (Shown.append (s := [123]) (by decide) shown).append (by decide)
  | dots _ ih => exact ih.append (by decide)

/-- **An argument is an item**: a reader can tell where it ends. -/
theorem ArgText.item {s : GoString} (text : ArgText s) : Item s := by
  induction text with
  | word h => exact h.passes 0
  | quoted s => exact passes_quoteToASCII s 0
  | list each =>
      refine passes_brackets (by decide) (by decide) (passes_join fun item mem => ?_)
      rcases each item mem with word | ⟨s, rfl⟩
      · exact word.passes 1
      · exact passes_quoteToASCII s 1
  | braces _ calm => exact passes_brackets (by decide) (by decide) (passes_calm calm 0)
  | dots _ ih =>
      exact Passes.append ih (passes_plain (List.all_iff_forall_prop.mp (by decide)) 0)

theorem ArgText.ne_nil {s : GoString} (text : ArgText s) : s ≠ [] := by
  cases text with
  | word h => exact h.1
  | quoted s => exact List.cons_ne_nil _ _
  | list => exact List.cons_ne_nil _ _
  | braces => exact List.cons_ne_nil _ _
  | dots => exact List.append_ne_nil_of_right_ne_nil _ (by decide)

/-! ## Each argument has such a text -/

section

variable {ev : Event} {idx : ℤ}

/-- The dots behind a text that was cut do not change its form. -/
theorem ArgText.cut {s : GoString} (text : ArgText s) (p : Prop) [Decidable p] :
    ArgText (if p then s ++ ascii "..." else s) := by
  split
  · exact text.dots
  · exact text

theorem yields_formatVarString (desc : VarArgDesc) : Yields (formatVarString ev desc) ArgText := by
  unfold formatVarString
  refine .ite (fun _ => yields_pure (.word (by decide))) fun _ => ?_
  refine .ite (fun _ => yields_pure (.word (by decide))) fun _ => ?_
  refine yields_bind fun payload => ?_
  cases payload with
  | none => exact yields_pure (.word (by decide))
  | some payload => exact yields_pure ((ArgText.quoted payload).cut _)

theorem yields_formatVarArgv (desc : VarArgDesc) : Yields (formatVarArgv ev desc) ArgText := by
  unfold formatVarArgv
  refine .ite (fun _ => yields_pure (.word (by decide))) fun _ => ?_
  refine yields_bind fun payload => ?_
  cases payload with
  | none => exact yields_pure (.word (by decide))
  | some payload =>
      refine yields_bind fun parts => yields_pure ?_
      refine ArgText.cut (.list fun item mem => ?_) _
      have quoted : ∀ item ∈ parts.map quoteToASCII, Word item ∨ ∃ s, item = quoteToASCII s := by
        intro item mem
        obtain ⟨s, -, rfl⟩ := List.mem_map.mp mem
        exact .inr ⟨s, rfl⟩
      split at mem
      · rcases List.mem_append.mp mem with mem | mem
        · exact quoted item mem
        · rw [List.mem_singleton.mp mem]
          exact .inl (by decide)
      · exact quoted item mem

/-- The text of an argument, if there is one. -/
def OptText (text : Option GoString) : Prop := ∀ s, text = some s → ArgText s

theorem optText_none : OptText none := nofun

theorem optText_some {s : GoString} (text : ArgText s) : OptText (some s) := by
  rintro _ ⟨⟩
  exact text

/-- A captured argument has one of the forms for captured data, or none if it is left to the
others. -/
theorem yields_formatVarArg : Yields (formatVarArg ev idx) OptText := by
  unfold formatVarArg
  refine yields_bind fun enabled => .ite (fun _ => yields_pure optText_none) fun _ => ?_
  refine yields_bind fun desc => ?_
  cases desc with
  | none => exact yields_pure optText_none
  | some desc =>
      refine yields_bind fun typ => ?_
      have read : Yields (formatVarString ev desc) ArgText := yields_formatVarString desc
      have string := read.bind fun s text => yields_pure (P := OptText) (optText_some text)
      refine .ite (fun _ => string) fun _ => .ite (fun _ => string) fun _ => ?_
      refine .ite (fun _ => ?_) fun _ => yields_pure (optText_some (.word (by decide)))
      exact (yields_formatVarArgv desc).bind fun s text => yields_pure (optText_some text)

/-- The status of a file is shown if it can be decoded, and otherwise the marker for what could not
be read. -/
theorem yields_formatStatArg {decode : GoString → Checked (Option GoString)}
    (decodes : ∀ payload, Yields (decode payload) OptText) (result : ℤ) :
    Yields (formatStatArg result decode ev idx) OptText := by
  unfold formatStatArg
  refine .ite (fun _ => yields_pure optText_none) fun _ => yields_bind fun desc => ?_
  cases desc with
  | none => exact yields_pure optText_none
  | some desc =>
      have unknown : OptText (some (ascii "<?>")) := optText_some (.word (by decide))
      refine .ite (fun _ => yields_pure unknown) fun _ => yields_bind fun payload => ?_
      cases payload with
      | none => exact yields_pure unknown
      | some payload =>
          refine (decodes payload).bind fun text h => yields_pure ?_
          cases text with
          | none => exact unknown
          | some s => exact h

theorem yields_formatAtStatArg {decode : GoString → Checked (Option GoString)}
    (decodes : ∀ payload, Yields (decode payload) OptText) (result : ℤ) :
    Yields (formatAtStatArg result decode ev idx) OptText := by
  unfold formatAtStatArg
  refine .ite (fun _ => yields_bind fun raw => ?_) fun _ => yields_formatStatArg decodes result
  exact yields_pure (optText_some (.word (word_formatDirFD raw)))

/-- A mode and a size in braces. -/
theorem argText_stat (before between : GoString) {mode size : GoString} (hm : Word mode)
    (hs : Word size) (hb : ∀ b ∈ before ++ between ++ ascii ", ...",
      printable b = true ∧ calm b = true) :
    ArgText (123 :: before ++ mode ++ between ++ size ++ ascii ", ...\x7d") := by
  have all : ∀ b ∈ before ++ mode ++ between ++ size ++ ascii ", ...",
      printable b = true ∧ calm b = true := by
    intro b mem
    simp only [List.mem_append] at mem hb
    rcases mem with (((mem | mem) | mem) | mem) | mem
    · exact hb b (.inl (.inl mem))
    · exact ⟨hm.shown b mem, (wordByte_spec (hm.2 b mem)).2.1⟩
    · exact hb b (.inl (.inr mem))
    · exact ⟨hs.shown b mem, (wordByte_spec (hs.2 b mem)).2.1⟩
    · exact hb b (.inr mem)
  have close : ascii ", ...\x7d" = ascii ", ..." ++ [125] := rfl
  rw [close, ← List.append_assoc]
  exact .braces (fun b mem => (all b mem).1) fun b mem => (all b mem).2

theorem yields_formatCapturedStat (payload : GoString) :
    Yields (formatCapturedStat payload) OptText := by
  unfold formatCapturedStat
  refine .ite (fun _ => yields_pure optText_none) fun _ => yields_bind fun st => ?_
  refine yields_pure (optText_some ?_)
  exact argText_stat (ascii "st_mode=") (ascii ", st_size=") (word_formatStatMode _)
    (word_decimal _) (List.all_iff_forall_prop.mp (by decide))

theorem yields_formatCapturedStatx (payload : GoString) :
    Yields (formatCapturedStatx payload) OptText := by
  unfold formatCapturedStatx
  refine .ite (fun _ => yields_pure optText_none) fun _ => yields_bind fun stx => ?_
  refine yields_pure (optText_some ?_)
  exact argText_stat (ascii "stx_mode=") (ascii ", stx_size=") (word_formatStatMode _)
    (word_decimal _) (List.all_iff_forall_prop.mp (by decide))

theorem yields_formatMmapArg : Yields (formatMmapArg ev idx) OptText := by
  have word : ∀ {f : UInt64 → GoString}, (∀ raw, Word (f raw)) →
      Yields (Checked.index ev.args idx >>= fun raw => pure (some (f raw))) OptText :=
    fun words => yields_bind fun raw => yields_pure (optText_some (.word (words raw)))
  unfold formatMmapArg
  refine .ite (fun _ => word word_formatPtr) fun _ => ?_
  refine .ite (fun _ => word word_formatMmapProt) fun _ => ?_
  exact .ite (fun _ => word word_formatMmapFlags) fun _ => yields_pure optText_none

theorem yields_formatOpenArg (flagsIdx dirfdIdx : ℤ) :
    Yields (formatOpenArg flagsIdx dirfdIdx ev idx) OptText := by
  unfold formatOpenArg
  refine .ite (fun _ => yields_bind fun raw => ?_) fun _ => ?_
  · exact yields_pure (optText_some (.word (word_formatOpenFlags raw)))
  · refine .ite (fun _ => yields_bind fun raw => ?_) fun _ => yields_pure optText_none
    exact yields_pure (optText_some (.word (word_formatDirFD raw)))

/-- Every formatter of the table has such texts. -/
theorem yields_formatter : ∀ entry ∈ syscallFormatters, ∀ format ∈ entry.2.formatArg,
    Yields (format ev idx) OptText := by
  simp only [syscallFormatters, List.forall_mem_cons, Option.mem_some_iff, forall_eq']
  refine ⟨yields_formatMmapArg, yields_formatOpenArg 1 (-1), yields_formatOpenArg 2 0, ?_⟩
  refine ⟨?_, ?_, ?_, ?_, ?_, by simp⟩
  · exact yields_formatStatArg yields_formatCapturedStat 1
  · exact yields_formatStatArg yields_formatCapturedStat 1
  · exact yields_formatStatArg yields_formatCapturedStat 1
  · exact yields_formatAtStatArg yields_formatCapturedStat 2
  · exact yields_formatAtStatArg yields_formatCapturedStatx 4

/-- The formatters of single syscalls are gone through one by one. -/
theorem yields_formatArgSpecial : Yields (formatArgSpecial ev idx) OptText := by
  unfold formatArgSpecial
  split
  next format known =>
    obtain ⟨formatter, found, some⟩ := Option.bind_eq_some_iff.mp known
    obtain ⟨before, behind, table, -⟩ := List.lookup_eq_some_iff.mp found
    have mem : (ev.syscallId, formatter) ∈ syscallFormatters := by
      rw [table]
      exact List.mem_append_right before List.mem_cons_self
    exact yields_formatter _ mem format some
  next => exact yields_pure optText_none

/-- **The text of any argument of any event.** -/
theorem yields_formatArg (ev : Event) (idx : ℤ) : Yields (formatArg ev idx) ArgText := by
  unfold formatArg
  refine yields_formatArgSpecial.bind fun special h => ?_
  cases special with
  | some text => exact yields_pure (h text rfl)
  | none =>
      refine yields_formatVarArg.bind fun captured h => ?_
      cases captured with
      | some text => exact yields_pure (h text rfl)
      | none =>
          refine yields_bind fun typ => yields_bind fun raw => yields_pure ?_
          exact .word (word_formatRaw ev.syscallId idx typ raw)

end

end Litrace.Trace
