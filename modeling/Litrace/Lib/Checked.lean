import Mathlib.Data.Int.Notation
import Mathlib.Data.List.FinRange

/-!
# Checked indexing

Index and slice expressions that stop the program when they leave their operand,
and what follows for code made of them: a computation that never leaves its
operands returns.

`Yields` says what the value satisfies if there is one, and `Returns` that there
is one.  They are proved apart, as the value of one operation is often an index
for the next: what is known of the values comes first, and that all indices are
inside follows from it.
-/

/-- The run-time errors of index and slice expressions. -/
inductive Panic where
  | index
  | slice
  deriving DecidableEq

/-- A computation that may panic. -/
abbrev Checked := Except Panic

namespace Checked

variable {α β : Type} {n : ℕ}

/-- `xs[i]` on an array. -/
def index (xs : Vector α n) (i : ℤ) : Checked α :=
  if inside : 0 ≤ i ∧ i.toNat < n then .ok (xs.get ⟨i.toNat, inside.2⟩) else .error .index

/-- `xs[lo:hi]`. -/
def slice (xs : List α) (lo hi : ℤ) : Checked (List α) :=
  if 0 ≤ lo ∧ lo ≤ hi ∧ hi ≤ xs.length then .ok ((xs.drop lo.toNat).take (hi.toNat - lo.toNat))
  else .error .slice

/-- The computation does not panic. -/
def Returns (x : Checked α) : Prop := ∃ a, x = .ok a

theorem returns_pure (a : α) : Returns (pure a : Checked α) := ⟨a, rfl⟩

@[simp] theorem ok_bind (a : α) (f : α → Checked β) : (.ok a : Checked α) >>= f = f a := rfl

theorem Returns.ite {p : Prop} [Decidable p] {x y : Checked α} (hx : Returns x)
    (hy : Returns y) : Returns (if p then x else y) := by
  split
  · exact hx
  · exact hy

/-- Two computations in sequence return when the second does so on every result. -/
theorem Returns.bind {x : Checked α} {f : α → Checked β} (hx : Returns x)
    (hf : ∀ a, Returns (f a)) : Returns (x >>= f) := by
  obtain ⟨a, rfl⟩ := hx
  exact hf a

/-- What comes last only makes use of the result. -/
theorem Returns.bind_pure {x : Checked α} (hx : Returns x) (f : α → β) :
    Returns (x >>= fun a => pure (f a)) := by
  refine hx.bind fun a => ?_
  exact returns_pure (f a)

/-- What the computation returns, if it does. -/
def Yields (x : Checked α) (P : α → Prop) : Prop := ∀ a, x = .ok a → P a

theorem yields_pure {P : α → Prop} {a : α} (h : P a) : Yields (pure a) P := by
  rintro _ ⟨⟩
  exact h

/-- The rule of sequencing: what the first yields is what the second starts from. -/
theorem Yields.bind {x : Checked α} {f : α → Checked β} {P : α → Prop} {Q : β → Prop}
    (hx : Yields x P) (hf : ∀ a, P a → Yields (f a) Q) : Yields (x >>= f) Q := by
  cases x with
  | error panic => exact nofun
  | ok a => exact hf a (hx a rfl)

/-- What comes first may be anything. -/
theorem yields_bind {x : Checked α} {f : α → Checked β} {Q : β → Prop}
    (hf : ∀ a, Yields (f a) Q) : Yields (x >>= f) Q := by
  cases x with
  | error panic => exact nofun
  | ok a => exact hf a

/-- The rule of cases, with the condition at hand in each of them. -/
theorem Yields.ite {p : Prop} [Decidable p] {x y : Checked α} {P : α → Prop}
    (hx : p → Yields x P) (hy : ¬ p → Yields y P) : Yields (if p then x else y) P := by
  split
  next h => exact hx h
  next h => exact hy h

/-- A loop that appends to a slice. -/
theorem yields_mapM {body : α → Checked β} {P : β → Prop} {xs : List α}
    (rounds : ∀ x ∈ xs, Yields (body x) P) :
    Yields (xs.mapM body) fun ys => ys.length = xs.length ∧ ∀ y ∈ ys, P y := by
  induction xs with
  | nil => exact yields_pure ⟨rfl, nofun⟩
  | cons x xs ih =>
      rw [List.mapM_cons]
      refine (rounds x List.mem_cons_self).bind fun y hy => ?_
      refine (ih fun x' mem => rounds x' (List.mem_cons_of_mem x mem)).bind fun ys hys => ?_
      exact yields_pure ⟨congrArg (· + 1) hys.1, List.forall_mem_cons.mpr ⟨hy, hys.2⟩⟩

/-! ## Arrays -/

@[simp] theorem index_val (xs : Vector α n) (i : Fin n) :
    index xs (i.val : ℤ) = .ok (xs.get i) := by
  have inside : 0 ≤ (i.val : ℤ) ∧ (i.val : ℤ).toNat < n := by
    have hi := i.isLt
    omega
  rw [index, dif_pos inside]
  rfl

theorem index_natCast (xs : Vector α n) {i : ℕ} (inside : i < n) :
    index xs (i : ℤ) = .ok (xs.get ⟨i, inside⟩) :=
  index_val xs ⟨i, inside⟩

/-! ## Slices -/

/-- A slice within its bounds does not fail. -/
theorem slice_eq_ok {xs : List α} {lo hi : ℤ} (low : 0 ≤ lo) (order : lo ≤ hi)
    (high : hi ≤ xs.length) :
    slice xs lo hi = .ok ((xs.drop lo.toNat).take (hi.toNat - lo.toNat)) :=
  if_pos ⟨low, order, high⟩

/-- `xs[:k]`. -/
theorem slice_zero {xs : List α} {k : ℕ} (high : k ≤ xs.length) :
    slice xs 0 (k : ℤ) = .ok (xs.take k) := by
  rw [slice_eq_ok (by omega) (by omega) (by omega)]
  rfl

/-- `xs[k:]`. -/
theorem slice_length {xs : List α} {k : ℕ} (low : k ≤ xs.length) :
    slice xs (k : ℤ) (xs.length : ℤ) = .ok (xs.drop k) := by
  rw [slice_eq_ok (by omega) (by omega) (by omega)]
  refine congrArg _ (List.take_of_length_le ?_)
  rw [List.length_drop]
  omega

/-! ## Loops -/

/-- A loop with an early return, none of whose rounds panics. -/
theorem findSomeM?_eq_ok {body : α → Checked (Option β)} {result : α → Option β} {xs : List α}
    (rounds : ∀ x ∈ xs, body x = .ok (result x)) :
    xs.findSomeM? body = .ok (xs.findSome? result) := by
  induction xs with
  | nil => rfl
  | cons x xs ih =>
      have rest := ih fun y hy => rounds y (List.mem_cons_of_mem x hy)
      have first := rounds x List.mem_cons_self
      rw [List.findSomeM?, first, List.findSome?]
      cases result x with
      | none => exact rest
      | some r => rfl

/-- A loop bounded by a count and by the length of an array looks at the elements of
the array below the count. -/
theorem findSome?_range_min (c : ℕ) (p : Fin n → Option β) :
    (List.range (min c n)).findSome? (fun i => if inside : i < n then p ⟨i, inside⟩ else none) =
      (List.finRange n).findSome? fun i => if i.val < c then p i else none := by
  induction n generalizing c with
  | zero => simp
  | succ n ih =>
      cases c with
      | zero =>
          rw [Nat.zero_min]
          exact (List.findSome?_eq_none_iff.2 fun i _ => if_neg (Nat.not_lt_zero i.val)).symm
      | succ c =>
          have shift := ih c fun i => p i.succ
          have bound : min (c + 1) (n + 1) = min c n + 1 := by omega
          rw [bound, List.range_succ_eq_map, List.finRange_succ, List.findSome?_cons,
            List.findSome?_cons, List.findSome?_map, List.findSome?_map]
          simp only [Nat.zero_lt_succ, dite_true, if_true, Fin.val_zero, Function.comp_def,
            Nat.succ_eq_add_one, Nat.add_lt_add_iff_right, Fin.val_succ, Fin.zero_eta]
          cases p 0 with
          | none => exact shift
          | some b => rfl

/-- A loop that returns true at the first hit and false behind the loop. -/
theorem findSome?_some_true (xs : List α) (hit : α → Bool) :
    (xs.findSome? fun x => if hit x then some true else none).getD false = xs.any hit := by
  induction xs with
  | nil => rfl
  | cons x xs ih =>
      rw [List.findSome?_cons, List.any_cons]
      cases hit x with
      | false => exact ih
      | true => rfl

/-- A loop that appends to a slice, none of whose rounds panics. -/
theorem returns_mapM {body : α → Checked β} {xs : List α}
    (rounds : ∀ x ∈ xs, Returns (body x)) : Returns (xs.mapM body) := by
  induction xs with
  | nil => exact returns_pure []
  | cons x xs ih =>
      rw [List.mapM_cons]
      exact (rounds x List.mem_cons_self).bind fun b =>
        (ih fun y hy => rounds y (List.mem_cons_of_mem x hy)).bind fun bs => returns_pure _

end Checked
