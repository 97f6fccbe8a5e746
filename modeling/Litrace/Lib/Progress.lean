import Litrace.Lib.Transition

/-!
# Endless runs

A machine fed with an endless sequence of inputs, and what happens in the end.  Nothing is
assumed about the order of the inputs but that some kinds of them recur (`Recurs`) and,
from some time on, some do not come at all.

`P` leads to `Q` (`LeadsTo`) if from every state in `P` one in `Q` is reached.  The rule
for a single kind of input is `LeadsTo.of_recurs`: inputs of the kind lead from `P` to `Q`,
and no other input leads out of `P` before.

Nothing here refers to a particular machine.

A property of what happens in the end needs that somebody takes steps, and this is all that
is asked: of a kind that recurs there is an input after every moment.  How many others come
between is left open, so the results are for every fair order.  Two stretches are put
together by `LeadsTo.trans`, and a choice between several ways is made by cases on the
state reached.
-/

namespace Transition

universe u v

variable {σ : Type u} {α : Type v}

section

variable (step : σ → α → σ) (s : σ) (inputs : ℕ → α)

/-- The state after `n` inputs. -/
def stateAt : ℕ → σ
  | 0 => s
  | n + 1 => step (stateAt n) (inputs n)

/-- Inputs of the kind come again and again. -/
def Recurs (kind : α → Prop) : Prop := ∀ n, ∃ m, n ≤ m ∧ kind (inputs m)

/-- From `start` on, a state in `P` is followed by one in `Q`. -/
def LeadsTo (start : ℕ) (P Q : σ → Prop) : Prop :=
  ∀ n, start ≤ n → P (stateAt step s inputs n) →
    ∃ m, n ≤ m ∧ Q (stateAt step s inputs m)

end

section

variable {step : σ → α → σ} {s : σ} {inputs : ℕ → α} {start : ℕ} {P Q R : σ → Prop}

/-- What holds at the start and is kept by every step holds all along. -/
theorem stateAt_invariant {I : σ → Prop} (first : I s) (keeps : ∀ s a, I s → I (step s a))
    (n : ℕ) : I (stateAt step s inputs n) := by
  induction n with
  | zero => exact first
  | succ n ih => exact keeps _ _ ih

/-- The step that makes `P` true. -/
theorem exists_step_of_stateAt (notYet : ¬ P s) {n : ℕ} (h : P (stateAt step s inputs n)) :
    ∃ m, m < n ∧ ¬ P (stateAt step s inputs m) ∧ P (step (stateAt step s inputs m) (inputs m)) := by
  induction n with
  | zero => exact absurd h notYet
  | succ n ih =>
      by_cases before : P (stateAt step s inputs n)
      · obtain ⟨m, lt, here⟩ := ih before
        exact ⟨m, Nat.lt_succ_of_lt lt, here⟩
      · exact ⟨n, Nat.lt_succ_self n, before, h⟩

/-- Progress in two stages is progress. -/
theorem LeadsTo.trans (first : LeadsTo step s inputs start P Q)
    (second : LeadsTo step s inputs start Q R) : LeadsTo step s inputs start P R := by
  intro n hn hP
  obtain ⟨m, le, hQ⟩ := first n hn hP
  obtain ⟨k, le', hR⟩ := second m (Nat.le_trans hn le) hQ
  exact ⟨k, Nat.le_trans le le', hR⟩

/-- **The rule for one kind of input.**  `P` lasts until an input of the kind leads to `Q`. -/
theorem LeadsTo.of_recurs {kind : α → Prop} (recurs : Recurs inputs kind)
    (stays : ∀ n, start ≤ n → P (stateAt step s inputs n) →
      P (stateAt step s inputs (n + 1)) ∨ Q (stateAt step s inputs (n + 1)))
    (does : ∀ s a, kind a → P s → Q (step s a)) : LeadsTo step s inputs start P Q := by
  intro n hn hP
  obtain ⟨m, le, hkind⟩ := recurs n
  -- Up to the input either `P` has lasted or `Q` has come before.
  have lasts : ∀ k, n ≤ k → P (stateAt step s inputs k) ∨
      ∃ j, n ≤ j ∧ Q (stateAt step s inputs j) := by
    intro k le
    induction le with
    | refl => exact .inl hP
    | @step k le ih =>
        rcases ih with hP | found
        · rcases stays k (Nat.le_trans hn le) hP with hP | hQ
          · exact .inl hP
          · exact .inr ⟨k + 1, Nat.le_succ_of_le le, hQ⟩
        · exact .inr found
  rcases lasts m le with hP | found
  · exact ⟨m + 1, Nat.le_succ_of_le le, does _ _ hkind hP⟩
  · exact found

/-- The rule where no input at all leads out of `P`. -/
theorem LeadsTo.of_stable {kind : α → Prop} (recurs : Recurs inputs kind)
    (stable : ∀ s a, P s → P (step s a)) (does : ∀ s a, kind a → P s → Q (step s a)) :
    LeadsTo step s inputs start P Q :=
  .of_recurs recurs (fun _ _ hP => .inl (stable _ _ hP)) does

end

end Transition
