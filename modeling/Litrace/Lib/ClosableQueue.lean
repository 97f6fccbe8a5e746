import Litrace.Lib.Transition

/-!
# Queues with a consumer that may leave

A queue that anybody puts into and one consumer takes from, first in, first out.
Closing ends the taking, whatever is still waiting, and not the putting.

What is put is taken, in order, up to what is left (`conservation`).  So some items are
missed for good when they wait at the closing, or come after it; `filter_taken_iff`
says that these are the only ways to miss an item.

Closing is not part of the queue's contents: items stay where they are, and only
`taken` looks at the flag.  So conservation needs no case for it, and losing items is a
matter of when the consumer stops, not of the queue.
-/

namespace ClosableQueue

open Transition

universe u

variable {α : Type u}

/-- The items that wait, and whether the consumer has left. -/
structure Queue (α : Type u) where
  items : List α
  closed : Bool

/-- What happens to a queue. -/
inductive Op (α : Type u) where
  | put (x : α)
  | take
  | close

namespace Queue

/-- The empty queue. -/
def empty : Queue α := ⟨[], false⟩

def step (q : Queue α) : Op α → Queue α
  | .put x => { q with items := q.items ++ [x] }
  | .take => if q.closed then q else { q with items := q.items.tail }
  | .close => { q with closed := true }

/-- The item an operation puts. -/
def put (_ : Queue α) : Op α → List α
  | .put x => [x]
  | .take => []
  | .close => []

/-- The item an operation takes. -/
def taken (q : Queue α) : Op α → List α
  | .put _ => []
  | .take => if q.closed then [] else q.items.head?.toList
  | .close => []

/-- One operation neither makes up an item nor loses one. -/
theorem conservation_step (q : Queue α) (op : Op α) :
    q.items ++ q.put op = q.taken op ++ (q.step op).items := by
  cases op with
  | put x => rfl
  | close => exact List.append_nil _
  | take =>
      show q.items ++ [] = (if q.closed then [] else q.items.head?.toList) ++
        (if q.closed then q else { q with items := q.items.tail }).items
      rw [List.append_nil]
      cases q.closed with
      | true => rfl
      | false =>
          cases q.items with
          | nil => rfl
          | cons x items => rfl

/-- What waits at the start or is put is taken, in order, up to what is left. -/
theorem conservation (q : Queue α) (ops : List (Op α)) :
    q.items ++ emitted step put q ops = emitted step taken q ops ++ (run step q ops).items := by
  induction ops generalizing q with
  | nil => exact List.append_nil _
  | cons op ops ih =>
      rw [emitted_cons, emitted_cons, run_cons, List.append_assoc, ← ih, ← List.append_assoc,
        ← List.append_assoc, conservation_step]

section Missed

variable (p : α → Bool)

/-- The consumer has left, and an item in `p` waits for it. -/
def Missed (q : Queue α) : Prop := q.closed = true ∧ ∃ x ∈ q.items, p x = true

/-- No item in `p` waits at the closing, or is put after it. -/
def InTime (q : Queue α) : Op α → Prop
  | .put x => q.closed = true → p x = false
  | .take => True
  | .close => q.closed = false → ∀ x ∈ q.items, p x = false

variable {p}

/-- Items are missed exactly in the operations that are not in time. -/
theorem missed_step {q : Queue α} {op : Op α} :
    (q.step op).Missed p ↔ q.Missed p ∨ ¬ q.InTime p op := by
  cases op with
  | put x =>
      show (q.closed = true ∧ ∃ y ∈ q.items ++ [x], p y = true) ↔
        q.Missed p ∨ ¬ (q.closed = true → p x = false)
      simp only [Missed, List.mem_append, List.mem_singleton, or_and_right, exists_or,
        exists_eq_left, and_or_left, Classical.not_imp, Bool.not_eq_false]
  | take =>
      refine Iff.trans ?_ (or_iff_left (not_not.mpr trivial)).symm
      show (if q.closed then q else { q with items := q.items.tail }).Missed p ↔ q.Missed p
      split
      next => exact Iff.rfl
      next opened => exact iff_of_false (fun h => opened h.1) fun h => opened h.1
  | close =>
      show (true = true ∧ ∃ x ∈ q.items, p x = true) ↔
        q.Missed p ∨ ¬ (q.closed = false → ∀ x ∈ q.items, p x = false)
      cases hclosed : q.closed with
      | true => simp [Missed, hclosed]
      | false => simp [Missed, hclosed]

/-- The run lemma: something has been missed at the end when it was before, or when some step of the
run did not meet `InTime`. -/
theorem missed_run {q : Queue α} {ops : List (Op α)} :
    (run step q ops).Missed p ↔ q.Missed p ∨ ¬ AllSteps step (InTime p) q ops := by
  induction ops generalizing q with
  | nil => simp
  | cons op ops ih => rw [run_cons, ih, missed_step, allSteps_cons, not_and_or, or_assoc]

/-- **Nothing is missed.**  Once the consumer has left, it has taken all items in `p`,
in order, exactly when none of them waited at the closing or was put after it. -/
theorem filter_taken_iff {ops : List (Op α)} (left : (run step empty ops).closed = true) :
    (emitted step put empty ops).filter p = (emitted step taken empty ops).filter p ↔
      AllSteps step (InTime p) empty ops := by
  have kept : emitted step put empty ops =
      emitted step taken empty ops ++ (run step empty ops).items := conservation empty ops
  -- What is left at the end is what was not taken, and it is missed.
  have atFirst : ¬ (empty : Queue α).Missed p := fun h => absurd h.1 Bool.false_ne_true
  rw [kept, List.filter_append, List.append_right_eq_self, ← not_iff_not]
  refine Iff.trans ?_ (missed_run.trans (or_iff_right atFirst))
  rw [List.filter_eq_nil_iff]
  push Not
  exact (and_iff_right left).symm

end Missed

end Queue

end ClosableQueue
