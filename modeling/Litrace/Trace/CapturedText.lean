import Litrace.Trace.ConsumerSafety
import Litrace.Trace.ExecveArgv
import Litrace.Trace.LineGrammar

/-!
# What the text of a captured argument tells

A captured argument is a null pointer, something that could not be read, bytes that may have
been cut, or a list of strings that may have been cut and may end where memory could not be
read (`ArgView`).  Its text tells which, and with all the bytes (`ArgView.text_injective`):
quotation, `...` and `<?>` cannot be confused with what was captured.  So two arguments look
the same exactly if the same was captured (`formatVarArg_eq_iff`).

A view is what a reader can hope to learn, and no more: a buffer that was cut shows its
beginning and the dots, not how much is missing.  That the text of a view determines it is
shown by reading it: quoted texts are taken off one by one (`Litrace.Lib.Quoting`), and what
follows the last of them decides the rest.  The texts of different kinds differ in their
first byte.
-/

namespace Litrace.Trace

open GoString (ascii)
open Strconv Checked

/-- What was captured of an argument. -/
inductive ArgView where
  | null
  | unreadable
  | data (bytes : GoString) (cut : Bool)
  | vector (parts : List GoString) (broken cut : Bool)
  deriving DecidableEq

/-- The mark of what was cut. -/
def dots (cut : Bool) : GoString := if cut then ascii "..." else []

/-- The mark of what could not be read. -/
def mark (broken : Bool) : List GoString := if broken then [ascii "<?>"] else []

/-- The text of what was captured. -/
def ArgView.text : ArgView → GoString
  | .null => ascii "NULL"
  | .unreadable => ascii "<?>"
  | .data bytes cut => quoteToASCII bytes ++ dots cut
  | .vector parts broken cut =>
      91 :: (join (parts.map quoteToASCII ++ mark broken) (ascii ", ") ++ 93 :: dots cut)

/-! ## Reading the text -/

/-- The first of some joined texts. -/
theorem join_cons_append (x : GoString) (xs : List GoString) (s : GoString) :
    join (x :: xs) (ascii ", ") ++ s =
      x ++ if xs = [] then s else 44 :: 32 :: (join xs (ascii ", ") ++ s) := by
  cases xs with
  | nil => simp [join]
  | cons y ys =>
      rw [join, List.intercalate_cons_cons, if_neg (List.cons_ne_nil y ys), List.append_assoc,
        List.append_assoc]
      rfl

theorem quoteToASCII_inj {s s' t t' : GoString}
    (same : quoteToASCII s ++ t = quoteToASCII s' ++ t') : s = s' ∧ t = t' := by
  have both := unquote_quoteToASCII s t
  rw [same, unquote_quoteToASCII] at both
  exact (Prod.mk.inj (Option.some.inj both)).imp Eq.symm Eq.symm

theorem mark_eq_nil {broken : Bool} (none : mark broken = []) : broken = false := by
  cases broken with
  | false => rfl
  | true => cases none

/-- A list in brackets ends where its bracket is. -/
theorem vector_inj {parts parts' : List GoString} {broken broken' : Bool} {t t' : GoString}
    (same : join (parts.map quoteToASCII ++ mark broken) (ascii ", ") ++ 93 :: t =
      join (parts'.map quoteToASCII ++ mark broken') (ascii ", ") ++ 93 :: t') :
    parts = parts' ∧ broken = broken' ∧ t = t' := by
  -- A list with a part begins with a quotation mark, and one without does not.
  have begins : ∀ (part : GoString) (parts : List GoString) (broken broken' : Bool)
      (t t' : GoString),
      join ((part :: parts).map quoteToASCII ++ mark broken) (ascii ", ") ++ 93 :: t ≠
        join (([] : List GoString).map quoteToASCII ++ mark broken') (ascii ", ") ++
          93 :: t' := by
    intro part parts broken broken' t t' same
    rw [List.map_cons, List.cons_append, join_cons_append, quoteToASCII] at same
    cases broken' <;> exact absurd (List.cons.inj same).1 (by decide)
  induction parts generalizing parts' with
  | nil =>
      cases parts' with
      | nil =>
          cases broken <;> cases broken'
          · exact ⟨rfl, rfl, (List.cons.inj same).2⟩
          · exact absurd (List.cons.inj same).1 (by decide)
          · exact absurd (List.cons.inj same).1 (by decide)
          · have rest := List.append_cancel_left same
            exact ⟨rfl, rfl, (List.cons.inj rest).2⟩
      | cons part' parts' => exact absurd same.symm (begins _ _ _ _ _ _)
  | cons part parts ih =>
      cases parts' with
      | nil => exact absurd same (begins _ _ _ _ _ _)
      | cons part' parts' =>
          rw [List.map_cons, List.map_cons, List.cons_append, List.cons_append, join_cons_append,
            join_cons_append] at same
          obtain ⟨rfl, rest⟩ := quoteToASCII_inj same
          split at rest <;> split at rest
          next none none' =>
            obtain ⟨noParts, noMark⟩ := List.append_eq_nil_iff.mp none
            obtain ⟨noParts', noMark'⟩ := List.append_eq_nil_iff.mp none'
            rw [List.map_eq_nil_iff.mp noParts, List.map_eq_nil_iff.mp noParts',
              mark_eq_nil noMark, mark_eq_nil noMark']
            exact ⟨rfl, rfl, (List.cons.inj rest).2⟩
          next => exact absurd (List.cons.inj rest).1 (by decide)
          next => exact absurd (List.cons.inj rest).1 (by decide)
          next =>
            obtain ⟨rfl, others⟩ := ih (List.cons.inj (List.cons.inj rest).2).2
            exact ⟨rfl, others⟩

theorem dots_injective : Function.Injective dots := by
  intro cut cut' same
  cases cut <;> cases cut' <;> first | rfl | exact absurd same (by decide)

/-- **The text tells what was captured.** -/
theorem ArgView.text_injective : Function.Injective ArgView.text := by
  intro c c' same
  cases c <;> cases c'
  case data.data bytes cut bytes' cut' =>
    obtain ⟨rfl, rest⟩ := quoteToASCII_inj same
    rw [dots_injective rest]
  case vector.vector parts broken cut parts' broken' cut' =>
    obtain ⟨rfl, rfl, rest⟩ := vector_inj (List.cons.inj same).2
    rw [dots_injective rest]
  case null.null => rfl
  case unreadable.unreadable => rfl
  all_goals exact absurd (List.cons.inj same).1 (by decide)

/-! ## Rendering -/

/-- What a descriptor says of a string or a buffer. -/
def capturedString (ev : Event) (desc : VarArgDesc) : ArgView :=
  if desc.flags &&& VarFlag.nullPointer ≠ 0 then .null
  else if desc.flags &&& VarFlag.readError ≠ 0 then .unreadable
  else
    match varPayloadSlice ev desc with
    | none => .unreadable
    | some payload => .data payload (desc.flags &&& VarFlag.truncated ≠ 0)

/-- What it says of a list of strings. -/
def capturedArgv (ev : Event) (desc : VarArgDesc) : ArgView :=
  if desc.flags &&& VarFlag.nullPointer ≠ 0 then .null
  else
    match varPayloadSlice ev desc with
    | none => .unreadable
    | some payload =>
        .vector (splitNul payload) (desc.flags &&& VarFlag.readError ≠ 0)
          (desc.flags &&& VarFlag.truncated ≠ 0)

/-- What was captured of an argument, if it is one of those that are. -/
def capturedArg (ev : Event) (idx : Fin 6) : Option ArgView :=
  match findVarArgDesc ev idx with
  | none => none
  | some desc =>
      if ev.argTypes.get idx = VarArgKind.string ∨ ev.argTypes.get idx = VarArgKind.bytes then
        some (capturedString ev desc)
      else if ev.argTypes.get idx = VarArgKind.argv then some (capturedArgv ev desc)
      else none

section

variable {ev : Event}

theorem append_dots (s : GoString) (p : Prop) [Decidable p] :
    (if p then s ++ ascii "..." else s) = s ++ dots (decide p) := by
  by_cases h : p <;> simp [dots, h]

theorem append_mark (parts : List GoString) (p : Prop) [Decidable p] :
    (if p then parts ++ [ascii "<?>"] else parts) = parts ++ mark (decide p) := by
  by_cases h : p <;> simp [mark, h]

theorem formatVarString_eq (desc : VarArgDesc) :
    formatVarString ev desc = .ok (capturedString ev desc).text := by
  unfold formatVarString capturedString
  split
  · rfl
  · split
    · rfl
    · rw [indexed_varPayloadSlice, ok_bind]
      cases varPayloadSlice ev desc with
      | none => rfl
      | some payload => exact congrArg Except.ok (append_dots (quoteToASCII payload) _)

theorem formatVarArgv_eq_text (desc : VarArgDesc) :
    formatVarArgv ev desc = .ok (capturedArgv ev desc).text := by
  unfold capturedArgv
  split
  next null =>
    rw [formatVarArgv, if_pos null]
    rfl
  next nonNull =>
    rw [not_not] at nonNull
    cases read : varPayloadSlice ev desc with
    | none =>
        rw [formatVarArgv, if_neg (not_not.mpr nonNull), indexed_varPayloadSlice, read]
        rfl
    | some payload =>
        rw [formatVarArgv_eq nonNull read]
        refine congrArg Except.ok ?_
        rw [renderArgv, append_mark, append_dots]
        exact congrArg (91 :: ·) (List.append_assoc _ _ _)

/-- There are three kinds. -/
theorem isVarArgKind_iff {typ : UInt8} : isVarArgKind typ = true ↔
    typ = VarArgKind.string ∨ typ = VarArgKind.bytes ∨ typ = VarArgKind.argv := by
  simp only [isVarArgKind, VarArgKind.string, VarArgKind.bytes, VarArgKind.argv,
    Bool.and_eq_true, decide_eq_true_eq, UInt8.le_iff_toNat_le, ← UInt8.toNat_inj,
    UInt8.reduceToNat]
  omega

/-- **What is rendered of a captured argument is the text of what was captured.** -/
theorem formatVarArg_eq (ev : Event) (idx : Fin 6) :
    formatVarArg ev idx.val = .ok ((capturedArg ev idx).map ArgView.text) := by
  cases found : findVarArgDesc ev idx with
  | none =>
      rw [formatVarArg_of_none found, capturedArg, found]
      rfl
  | some desc =>
      rw [formatVarArg, indexed_isVarArgEnabled, indexed_findVarArgDesc, found, capturedArg, found]
      simp only [Checked.index_val, ok_bind, formatVarBytes, formatVarString_eq,
        formatVarArgv_eq_text]
      by_cases kind : isVarArgKind (ev.argTypes.get idx) = true
      · rw [kind]
        rcases isVarArgKind_iff.mp kind with typ | typ | typ <;> rw [typ] <;> rfl
      · rw [Bool.eq_false_iff.mpr kind]
        have other := mt isVarArgKind_iff.mpr kind
        simp only [not_or] at other
        simp only [other.1, other.2.1, other.2.2, or_self, if_false]
        rfl

/-- **Captured arguments look the same exactly if the same was captured.**

A panic is a result here as well, so the equation also says that there is none in one case and
not in the other. -/
theorem formatVarArg_eq_iff (ev ev' : Event) (idx idx' : Fin 6) :
    formatVarArg ev idx.val = formatVarArg ev' idx'.val ↔
      capturedArg ev idx = capturedArg ev' idx' := by
  rw [formatVarArg_eq, formatVarArg_eq, Except.ok.injEq]
  exact (Option.map_injective ArgView.text_injective).eq_iff

end

end Litrace.Trace
