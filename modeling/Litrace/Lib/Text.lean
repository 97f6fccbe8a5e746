import Mathlib.Data.List.Basic
import Mathlib.Data.List.Infix

/-!
# Text

Strings as lists of characters, with the operations of Python's `str` that take them apart
into words and put them together again.  A word is a maximal run without whitespace.

The main facts say where the characters of a result come from: those of the words are the
characters that are not whitespace (`exists_mem_words`), and replacing keeps a character that
occurs on both sides (`mem_replace`).  Lines and lists that were joined are taken apart again
(`filledLines_joinLines`, `listParts_joinList`).

Replacing goes from left to right and never looks at what it has put in, so it is a recursion
over the text with a count of the characters still to be skipped.
-/

/-- A string: a sequence of characters. -/
abbrev Text := List Char

namespace Text

/-! ## Whitespace and words -/

/-- `str.isspace`, for one character. -/
def isSpace (c : Char) : Bool :=
  let n := c.toNat
  9 ≤ n && n ≤ 13 || 28 ≤ n && n ≤ 32 || 8192 ≤ n && n ≤ 8202 ||
    n ∈ [133, 160, 5760, 8232, 8233, 8239, 8287, 12288]

/-- `str.split`, at whitespace. -/
def words : Text → List Text
  | [] => []
  | c :: rest =>
      if isSpace c then words rest
      else
        match rest.head?, words rest with
        | some d, w :: ws => if isSpace d then [c] :: w :: ws else (c :: w) :: ws
        | _, ws => [c] :: ws

/-- `str.strip`. -/
def strip (s : Text) : Text := ((s.dropWhile isSpace).reverse.dropWhile isSpace).reverse

/-- `" ".join`. -/
def join : List Text → Text
  | [] => []
  | [w] => w
  | w :: ws => w ++ ' ' :: join ws

/-! ## Replacing -/

/-- Replace, after the first `skip` characters, which belong to an occurrence. -/
def replaceFrom (old new : Text) : ℕ → Text → Text
  | _, [] => []
  | skip + 1, _ :: rest => replaceFrom old new skip rest
  | 0, c :: rest =>
      if old <+: c :: rest then new ++ replaceFrom old new (old.length - 1) rest
      else c :: replaceFrom old new 0 rest

/-- `str.replace`, of a string that is not empty: occurrences from left to right, which do not
overlap. -/
def replace (old new : Text) (s : Text) : Text := replaceFrom old new 0 s

/-- `str.lstrip` of one character. -/
def lstrip (c : Char) (s : Text) : Text := s.dropWhile (· == c)

/-- `str.removesuffix`. -/
def removeSuffix (suffix s : Text) : Text :=
  if suffix <:+ s then s.take (s.length - suffix.length) else s

/-! ## Searching for words -/

/-- `\b` between two characters, either of which may be missing: a word character on one side
only. -/
def boundary (isWord : Char → Bool) (before after : Option Char) : Bool :=
  before.any isWord != after.any isWord

/-- `re.search` of `\b(?:..)\b`, with the alternatives `ws`, none of them empty; `before` is the
character in front. -/
def searchFrom (isWord : Char → Bool) (ws : List Text) : Option Char → Text → Bool
  | _, [] => false
  | before, c :: rest =>
      boundary isWord before (some c) && (ws.any fun w =>
        decide (w <+: c :: rest) && boundary isWord w.getLast? ((c :: rest).drop w.length).head?) ||
      searchFrom isWord ws (some c) rest

/-- `re.search` of `\b(?:..)\b`. -/
def search (isWord : Char → Bool) (ws : List Text) (s : Text) : Bool :=
  searchFrom isWord ws none s

/-! ## Characters of the results -/

/-- A character that occurs on both sides of a replacement occurs afterwards if it did before. -/
theorem mem_replaceFrom {old new : Text} {c : Char} (hold : c ∈ old) (hnew : c ∈ new) (skip : ℕ)
    (s : Text) : c ∈ replaceFrom old new skip s ↔ c ∈ s.drop skip := by
  induction s generalizing skip with
  | nil =>
      rw [List.drop_nil]
      cases skip with
      | zero => exact Iff.rfl
      | succ skip => exact Iff.rfl
  | cons d rest ih =>
      cases skip with
      | succ skip => exact ih skip
      | zero =>
          rw [replaceFrom]
          split
          next occurs =>
            exact iff_of_true (List.mem_append_left _ hnew) (occurs.subset hold)
          next => rw [List.mem_cons, List.drop_zero, List.mem_cons, ih 0, List.drop_zero]

/-- A replacement that keeps a character neither brings it in nor loses it. -/
theorem mem_replace {old new : Text} {c : Char} (hold : c ∈ old) (hnew : c ∈ new) (s : Text) :
    c ∈ replace old new s ↔ c ∈ s :=
  mem_replaceFrom hold hnew 0 s

/-- Only blanks are brought in by a join. -/
theorem mem_join {ws : List Text} {c : Char} (notSpace : c ≠ ' ') :
    c ∈ join ws ↔ ∃ w ∈ ws, c ∈ w := by
  induction ws with
  | nil => exact iff_of_false List.not_mem_nil fun ⟨_, mem, _⟩ => List.not_mem_nil mem
  | cons w ws ih =>
      rw [List.exists_mem_cons_iff, ← ih]
      cases ws with
      | nil => exact (or_iff_left List.not_mem_nil).symm
      | cons w' ws =>
          rw [join, List.mem_append, List.mem_cons, or_iff_right notSpace]
          exact List.cons_ne_nil w' ws

theorem ne_of_isSpace {c d : Char} (notSpace : isSpace c = false) (space : isSpace d = true) :
    c ≠ d := by
  rintro rfl
  rw [space] at notSpace
  cases notSpace

/-- The words of a text have its characters other than whitespace. -/
theorem exists_mem_words {s : Text} {c : Char} (notSpace : isSpace c = false) :
    (∃ w ∈ words s, c ∈ w) ↔ c ∈ s := by
  induction s with
  | nil => exact iff_of_false (fun ⟨_, mem, _⟩ => List.not_mem_nil mem) List.not_mem_nil
  | cons d rest ih =>
      rw [List.mem_cons, ← ih]
      conv_lhs => unfold words
      split
      next space =>
        rw [or_iff_right (ne_of_isSpace notSpace space)]
      next =>
        split
        next e w ws hhead hwords =>
          split
          · rw [List.exists_mem_cons_iff, List.mem_singleton, hwords]
          · rw [hwords, List.exists_mem_cons_iff, List.exists_mem_cons_iff, List.mem_cons, or_assoc]
        next =>
          rw [List.exists_mem_cons_iff, List.mem_singleton]

/-- Stripping drops whitespace only. -/
theorem mem_dropSpaces {s : Text} {c : Char} (notSpace : isSpace c = false) :
    c ∈ s.dropWhile isSpace ↔ c ∈ s := by
  induction s with
  | nil => exact Iff.rfl
  | cons d rest ih =>
      rw [List.dropWhile_cons]
      split
      next space =>
        rw [ih, List.mem_cons, or_iff_right (ne_of_isSpace notSpace space)]
      next => exact Iff.rfl

/-- Only white space is lost by stripping. -/
theorem mem_strip {s : Text} {c : Char} (notSpace : isSpace c = false) : c ∈ strip s ↔ c ∈ s := by
  rw [strip, List.mem_reverse, mem_dropSpaces notSpace, List.mem_reverse, mem_dropSpaces notSpace]

example : words "  struct  pollfd *ufds ".toList =
    ["struct".toList, "pollfd".toList, "*ufds".toList] := by decide

/-! ## Lines and lists -/

/-- `"\n".join`. -/
def joinLines (ls : List Text) : Text := ['\n'].intercalate ls

/-- The lines with something on them. -/
def filledLines (s : Text) : List Text := (s.splitOn '\n').filter fun line => line ≠ []

/-- A line break between two texts separates their lines. -/
theorem filledLines_append (s t : Text) :
    filledLines (s ++ '\n' :: t) = filledLines s ++ filledLines t := by
  rw [filledLines, List.splitOn_append_cons_self, List.filter_append]
  rfl

/-- Lines that are joined may have been joined themselves. -/
theorem filledLines_joinLines (ls : List Text) :
    filledLines (joinLines ls) = ls.flatMap filledLines := by
  induction ls with
  | nil => rfl
  | cons l ls ih =>
      cases ls with
      | nil => rw [joinLines, List.intercalate_singleton, List.flatMap_singleton]
      | cons l' ls =>
          rw [List.flatMap_cons, ← ih, joinLines, List.intercalate_cons_cons, List.append_assoc]
          exact filledLines_append l _

/-- A line that can be told when lines are joined. -/
def IsLine (line : Text) : Prop := line ≠ [] ∧ '\n' ∉ line

instance (line : Text) : Decidable (IsLine line) := inferInstanceAs (Decidable (_ ∧ _))

theorem isLine_append {before part after : Text} (line : IsLine before) (inPart : '\n' ∉ part)
    (inAfter : '\n' ∉ after) : IsLine (before ++ (part ++ after)) := by
  refine ⟨fun empty => line.1 (List.append_eq_nil_iff.mp empty).1, ?_⟩
  rw [List.mem_append, List.mem_append, not_or, not_or]
  exact ⟨line.2, inPart, inAfter⟩

/-- A text of one line is its only line. -/
theorem IsLine.filledLines_eq {line : Text} (isLine : IsLine line) : filledLines line = [line] := by
  rw [filledLines, List.splitOn_eq_singleton isLine.2]
  exact List.filter_cons_of_pos (decide_eq_true isLine.1)

/-- Lines that were joined are found again. -/
theorem filledLines_joinLines_of_isLine {ls : List Text} (each : ∀ line ∈ ls, IsLine line) :
    filledLines (joinLines ls) = ls := by
  rw [filledLines_joinLines]
  induction ls with
  | nil => rfl
  | cons line ls ih =>
      obtain ⟨first, others⟩ := List.forall_mem_cons.mp each
      rw [List.flatMap_cons, first.filledLines_eq, ih others]
      rfl

/-- The longest part in characters that satisfy `p` behind `before`, and the rest. -/
def cut (p : Char → Bool) (before line : Text) : Option (Text × Text) :=
  (line.dropPrefix? before).map fun rest => (rest.takeWhile p, rest.dropWhile p)

/-- A part is cut out from between what goes before and the first character of another kind. -/
theorem cut_append {p : Char → Bool} {part rest : Text} (before : Text)
    (inside : ∀ c ∈ part, p c = true) (outside : ∀ c ∈ rest.head?, p c = false) :
    cut p before (before ++ (part ++ rest)) = some (part, rest) := by
  have none : rest.takeWhile p = [] ∧ rest.dropWhile p = rest := by
    cases rest with
    | nil => exact ⟨rfl, rfl⟩
    | cons c rest =>
        have stops := outside c rfl
        simp [stops]
  rw [cut, List.dropPrefix?_append_of_beq _ BEq.rfl, Option.map_some,
    List.takeWhile_append_of_pos inside, List.dropWhile_append_of_pos inside, none.1, none.2,
    List.append_nil]

/-- `", ".join`. -/
def joinList (parts : List Text) : Text := [',', ' '].intercalate parts

/-- What a joined list is made of. -/
theorem mem_joinList {parts : List Text} {c : Char} (mem : c ∈ joinList parts) :
    c ∈ [',', ' '] ∨ ∃ part ∈ parts, c ∈ part := by
  induction parts with
  | nil => exact absurd mem List.not_mem_nil
  | cons part parts ih =>
      cases parts with
      | nil =>
          rw [joinList, List.intercalate_singleton] at mem
          exact .inr ⟨part, List.mem_cons_self, mem⟩
      | cons part' parts =>
          rw [joinList, List.intercalate_cons_cons, List.mem_append, List.mem_append] at mem
          obtain (mem | mem) | mem := mem
          · exact .inr ⟨part, List.mem_cons_self, mem⟩
          · exact .inl mem
          · refine (ih mem).imp_right ?_
            rintro ⟨p, memP, memC⟩
            exact ⟨p, List.mem_cons_of_mem part memP, memC⟩

/-- The parts between commas, without the blanks before them. -/
def listParts (s : Text) : List Text := (s.splitOn ',').map (List.dropWhile (· == ' '))

theorem listParts_append (s t : Text) : listParts (s ++ ',' :: t) = listParts s ++ listParts t := by
  rw [listParts, List.splitOn_append_cons_self, List.map_append]
  rfl

theorem listParts_blank (s : Text) : listParts (' ' :: s) = listParts s := by
  rw [listParts, listParts, List.splitOn_cons_eq_if_modifyHead, if_neg (by decide)]
  cases h : s.splitOn ',' with
  | nil => rfl
  | cons part parts => rfl

/-- The round trip of lists: parts without a comma are read back. -/
theorem listParts_joinList {parts : List Text} (filled : parts ≠ [])
    (plain : ∀ part ∈ parts, ',' ∉ part ∧ ∀ c ∈ part.head?, c ≠ ' ') :
    listParts (joinList parts) = parts := by
  have single : ∀ part ∈ parts, listParts part = [part] := by
    intro part mem
    obtain ⟨noComma, noBlank⟩ := plain part mem
    rw [listParts, List.splitOn_eq_singleton noComma, List.map_singleton]
    cases part with
    | nil => rfl
    | cons c part => rw [List.dropWhile_cons_of_neg (by simpa using noBlank c rfl)]
  induction parts with
  | nil => exact absurd rfl filled
  | cons part parts ih =>
      cases parts with
      | nil => rw [joinList, List.intercalate_singleton, single part List.mem_cons_self]
      | cons part' parts =>
          have rest := ih (List.cons_ne_nil _ _) (fun p mem => plain p (List.mem_cons_of_mem _ mem))
            fun p mem => single p (List.mem_cons_of_mem _ mem)
          have joined : joinList (part :: part' :: parts) =
              part ++ ',' :: ' ' :: joinList (part' :: parts) := by
            rw [joinList, List.intercalate_cons_cons, List.append_assoc]
            rfl
          rw [joined, listParts_append, listParts_blank, rest, single part List.mem_cons_self]
          rfl

end Text
