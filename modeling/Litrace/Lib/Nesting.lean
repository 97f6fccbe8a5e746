import Litrace.Lib.Quoting

/-!
# Lists of nested items

A text like `1, "a, b", [2, 3])` is a list of items that ends with a parenthesis.  Items may
have the separator in them, in quotation marks or in brackets, so a reader has to keep track
of both (`Scan`).

`Passes` says that a reader goes through some text and where it is behind it; an item is a text
that it goes through from the outside to the outside (`Item`).  Items that are joined are read
one by one, up to the parenthesis (`takeItems_join`).

A reader's place is given by the depth of brackets and whether it is in a quoted text, possibly
behind a backslash; the depth does not change within quotation marks.  `Passes` composes along
concatenation, and this is all that is used of it: to see that a text is an item one goes
through its parts.
-/

namespace Nesting

open GoString (ascii)
open Strconv

/-- Where a reader is: outside of quotation marks with some open brackets, inside, or inside
and behind a backslash. -/
inductive Scan where
  | outside (depth : ℕ)
  | quoted (depth : ℕ)
  | escaped (depth : ℕ)
  deriving DecidableEq

/-- `[` and `{`. -/
def opens (b : UInt8) : Bool := b == 91 || b == 123

/-- `]` and `}`. -/
def closes (b : UInt8) : Bool := b == 93 || b == 125

/-- `,` and `)`. -/
def stops (b : UInt8) : Bool := b == 44 || b == 41

def Scan.step : Scan → UInt8 → Scan
  | .escaped depth, _ => .quoted depth
  | .quoted depth, b =>
      if b = 34 then .outside depth else if b = 92 then .escaped depth else .quoted depth
  | .outside depth, b =>
      if b = 34 then .quoted depth
      else if opens b then .outside (depth + 1)
      else if closes b then .outside (depth - 1)
      else .outside depth

/-- The reader does not go on. -/
def Scan.atEnd (s : Scan) (b : UInt8) : Bool := decide (s = .outside 0) && stops b

/-- The text up to the end of the item, and the text from there. -/
def takeItem : Scan → GoString → GoString × GoString
  | _, [] => ([], [])
  | s, b :: bs =>
      if s.atEnd b then ([], b :: bs)
      else
        let (item, rest) := takeItem (s.step b) bs
        (b :: item, rest)

/-- Taking an item leaves no more than there was. -/
theorem length_takeItem (s : Scan) (text : GoString) :
    (takeItem s text).2.length ≤ text.length := by
  induction text generalizing s with
  | nil => exact le_rfl
  | cons b bs ih =>
      rw [takeItem]
      split
      · exact le_rfl
      · exact Nat.le_succ_of_le (ih _)

/-- The items up to the parenthesis, and what is behind it. -/
def takeItems (text : GoString) : Option (List GoString × GoString) :=
  match _ : takeItem (.outside 0) text with
  | (item, 41 :: rest) => some ([item], rest)
  | (item, 44 :: 32 :: rest) => (takeItems rest).map fun p => (item :: p.1, p.2)
  | _ => none
termination_by text.length
decreasing_by
  have shorter := length_takeItem (.outside 0) text
  rw [‹takeItem _ _ = _›] at shorter
  simp only [List.length_cons] at shorter
  omega

/-! ## Going through text -/

/-- A reader goes through the text, from one place to another. -/
def Passes (s : Scan) (text : GoString) (s' : Scan) : Prop :=
  ∀ rest, takeItem s (text ++ rest) =
    (text ++ (takeItem s' rest).1, (takeItem s' rest).2)

section

variable {s s' s'' : Scan} {text text' : GoString} {b : UInt8} {depth : ℕ}

theorem Passes.nil (s : Scan) : Passes s [] s := fun _ => rfl

/-- Texts that are passed one after the other are passed together. -/
theorem Passes.append (first : Passes s text s') (second : Passes s' text' s'') :
    Passes s (text ++ text') s'' := by
  intro rest
  rw [List.append_assoc, first, second, List.append_assoc]

theorem Passes.cons (goes : s.atEnd b = false) (rest : Passes (s.step b) text s') :
    Passes s (b :: text) s' := by
  intro tail
  rw [List.cons_append, takeItem, if_neg (by rw [goes]; exact Bool.false_ne_true), rest]
  rfl

/-- Neither a mark nor a bracket. -/
def calm (b : UInt8) : Bool := !(b == 34 || opens b || closes b)

/-- A calm character changes nothing outside of quotes. -/
theorem step_of_calm (h : calm b = true) (depth : ℕ) :
    (Scan.outside depth).step b = .outside depth := by
  simp only [calm, Bool.not_eq_true', Bool.or_eq_false_iff, beq_eq_false_iff_ne] at h
  obtain ⟨⟨noMark, noOpen⟩, noClose⟩ := h
  rw [Scan.step, if_neg noMark, noOpen, noClose]
  rfl

/-- Inside of brackets only these and marks matter. -/
theorem passes_calm (h : ∀ b ∈ text, calm b = true) (depth : ℕ) :
    Passes (.outside (depth + 1)) text (.outside (depth + 1)) := by
  induction text with
  | nil => exact .nil _
  | cons b text ih =>
      obtain ⟨first, others⟩ := List.forall_mem_cons.mp h
      refine .cons (by simp [Scan.atEnd]) ?_
      rw [step_of_calm first]
      exact ih others

/-- Anywhere, text without ends can be passed. -/
theorem passes_plain (h : ∀ b ∈ text, calm b = true ∧ stops b = false) (depth : ℕ) :
    Passes (.outside depth) text (.outside depth) := by
  induction text with
  | nil => exact .nil _
  | cons b text ih =>
      obtain ⟨⟨first, noStop⟩, others⟩ := List.forall_mem_cons.mp h
      refine .cons (by simp [Scan.atEnd, noStop]) ?_
      rw [step_of_calm first]
      exact ih others

/-- The inside of a quoted string is passed without leaving it. -/
theorem passes_quoted (h : Quoted text) (depth : ℕ) :
    Passes (.quoted depth) text (.quoted depth) := by
  induction h with
  | nil => exact .nil _
  | byte shown noMark noEscape rest ih =>
      refine .cons (by simp [Scan.atEnd]) ?_
      rwa [Scan.step, if_neg noMark, if_neg noEscape]
  | escape shown rest ih =>
      refine .cons (by simp [Scan.atEnd]) (.cons ?_ ?_)
      · rw [Scan.step, if_neg (by decide), if_pos rfl]
        simp [Scan.atEnd]
      · rwa [Scan.step, if_neg (by decide), if_pos rfl, Scan.step]

/-- A quoted string is passed as a whole. -/
theorem passes_quoteToASCII (s : GoString) (depth : ℕ) :
    Passes (.outside depth) (quoteToASCII s) (.outside depth) := by
  have mark : (Scan.outside depth).atEnd 34 = false := by simp [Scan.atEnd, stops]
  refine .cons mark ((passes_quoted (quoted_quoteRunes s) depth).append (.cons ?_ (.nil _)))
  simp [Scan.atEnd]

/-- And so is what stands in brackets. -/
theorem passes_brackets {b c : UInt8} (hb : opens b = true) (hc : closes c = true)
    (inside : Passes (.outside (depth + 1)) text (.outside (depth + 1))) :
    Passes (.outside depth) (b :: text ++ [c]) (.outside depth) := by
  have noMark : ∀ b, opens b = true ∨ closes b = true → b ≠ 34 ∧ stops b = false := by
    intro b h
    simp only [opens, closes, Bool.or_eq_true, beq_iff_eq] at h
    rcases h with (rfl | rfl) | (rfl | rfl) <;> decide
  have noOpen : opens c = false := by
    simp only [closes, Bool.or_eq_true, beq_iff_eq] at hc
    rcases hc with rfl | rfl <;> decide
  have opening : Passes (.outside depth) (b :: text) (.outside (depth + 1)) := by
    refine .cons (by simp [Scan.atEnd, (noMark b (.inl hb)).2]) ?_
    rwa [Scan.step, if_neg (noMark b (.inl hb)).1, if_pos hb]
  have closing : Passes (.outside (depth + 1)) [c] (.outside depth) := by
    refine .cons (by simp [Scan.atEnd]) ?_
    rw [Scan.step, if_neg (noMark c (.inr hc)).1, noOpen, hc]
    exact .nil _
  exact opening.append closing

/-- A separator does not end anything inside of brackets. -/
theorem passes_join {texts : List GoString}
    (each : ∀ text ∈ texts, Passes (.outside (depth + 1)) text (.outside (depth + 1))) :
    Passes (.outside (depth + 1)) (join texts (ascii ", ")) (.outside (depth + 1)) := by
  have calmSeparator : ∀ b ∈ ascii ", ", calm b = true := List.all_eq_true.mp (by decide)
  induction texts with
  | nil => exact .nil _
  | cons text texts ih =>
      obtain ⟨first, others⟩ := List.forall_mem_cons.mp each
      cases texts with
      | nil =>
          rw [join, List.intercalate_singleton]
          exact first
      | cons text' texts =>
          rw [join, List.intercalate_cons_cons]
          exact (first.append (passes_calm calmSeparator depth)).append (ih others)

/-! ## Items -/

/-- The text can be read as an item. -/
def Item (text : GoString) : Prop := Passes (.outside 0) text (.outside 0)

/-- An item is taken up to the character that stops it, when that follows. -/
theorem Item.takeItem {b : UInt8} (item : Item text) (stop : stops b = true) (rest : GoString) :
    Nesting.takeItem (.outside 0) (text ++ b :: rest) = (text, b :: rest) := by
  have here : Nesting.takeItem (.outside 0) (b :: rest) = ([], b :: rest) := by
    rw [Nesting.takeItem, if_pos (by simp [Scan.atEnd, stop])]
  rw [item, here, List.append_nil]

/-- **Items that are joined are read back.** -/
theorem takeItems_join {items : List GoString} (some : items ≠ [])
    (each : ∀ item ∈ items, Item item) (rest : GoString) :
    takeItems (join items (ascii ", ") ++ 41 :: rest) = .some (items, rest) := by
  induction items with
  | nil => exact absurd rfl some
  | cons item items ih =>
      obtain ⟨first, others⟩ := List.forall_mem_cons.mp each
      cases items with
      | nil =>
          have read := first.takeItem (b := 41) (by decide) rest
          rw [join, List.intercalate_singleton, takeItems]
          split
          next item' rest' same => cases read.symm.trans same; rfl
          next item' rest' same => cases read.symm.trans same
          next none _ => exact absurd read (none _ _)
      | cons item' items =>
          have split : join (item :: item' :: items) (ascii ", ") ++ 41 :: rest =
              item ++ 44 :: 32 :: (join (item' :: items) (ascii ", ") ++ 41 :: rest) := by
            rw [join, List.intercalate_cons_cons, List.append_assoc, List.append_assoc]
            rfl
          have read := first.takeItem (b := 44) (by decide)
            (32 :: (join (item' :: items) (ascii ", ") ++ 41 :: rest))
          rw [split, takeItems]
          split
          next item' rest' same => cases read.symm.trans same
          next item' rest' same =>
            cases read.symm.trans same
            rw [ih (List.cons_ne_nil item' items) others]
            rfl
          next none => exact absurd read (none _ _)

end

end Nesting
