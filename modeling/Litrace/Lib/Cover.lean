import Mathlib.Data.Set.Lattice
import Mathlib.Order.CompletePartialOrder
import Mathlib.Order.ConditionallyCompleteLattice.Basic

/-!
# Covers

An element is taken apart along a table: in the order of the table, every entry that lies
below what is left is taken off it.  `Takes` is this as a relation, over any generalized
Boolean algebra.  The entries taken and the rest are pairwise disjoint and make up the element
(`Takes.pairwise_disjoint`, `Takes.disjoint_rest`, `Takes.sup_eq`), and an entry is taken
exactly when it lies below the element and misses the entries taken before it
(`Takes.mem_iff`).

A machine word is the set of its bits (`Word.bits`); its logical operations are those of sets.

That the table is gone through once, in order, and that an entry is taken off before the next
is looked at, is what an encoder of flags does.  Whether an entry is taken may depend on those
before it, so the entries taken need not be all entries below the element; `Takes.mem_iff`
says exactly which they are.
-/

namespace Cover

variable {ι α : Type*} [GeneralizedBooleanAlgebra α] {value : ι → α}

/-- Going through a table in its order takes entries off an element and leaves a rest. -/
inductive Takes (value : ι → α) : List ι → α → List ι → α → Prop
  | nil (a : α) : Takes value [] a [] a
  | take {i : ι} {table taken : List ι} {a rest : α} (nonzero : value i ≠ ⊥) (below : value i ≤ a)
      (tail : Takes value table (a \ value i) taken rest) :
      Takes value (i :: table) a (i :: taken) rest
  | skip {i : ι} {table taken : List ι} {a rest : α} (passed : value i = ⊥ ∨ ¬ value i ≤ a)
      (tail : Takes value table a taken rest) : Takes value (i :: table) a taken rest

namespace Takes

variable {table taken : List ι} {a rest : α}

/-- What is taken is taken in the order of the table. -/
theorem sublist (h : Takes value table a taken rest) : taken.Sublist table := by
  induction h with
  | nil => exact List.Sublist.slnil
  | take _ _ _ ih => exact ih.cons_cons _
  | skip _ _ ih => exact ih.cons _

/-- The entries taken and the rest make up the element. -/
theorem sup_eq (h : Takes value table a taken rest) :
    taken.foldr (fun i acc => value i ⊔ acc) rest = a := by
  induction h with
  | nil => rfl
  | take _ below _ ih => rw [List.foldr_cons, ih, sup_sdiff_cancel_right below]
  | skip _ _ ih => exact ih

/-- What is left is part of what was there. -/
theorem rest_le (h : Takes value table a taken rest) : rest ≤ a := by
  induction h with
  | nil => exact le_rfl
  | take _ _ _ ih => exact ih.trans sdiff_le
  | skip _ _ ih => exact ih

/-- Whatever is taken was there as a whole. -/
theorem le (h : Takes value table a taken rest) : ∀ i ∈ taken, value i ≤ a := by
  induction h with
  | nil => exact List.forall_mem_nil _
  | take _ below _ ih =>
      exact List.forall_mem_cons.2 ⟨below, fun i mem => (ih i mem).trans sdiff_le⟩
  | skip _ _ ih => exact ih

/-- Nothing empty is taken. -/
theorem ne_bot (h : Takes value table a taken rest) : ∀ i ∈ taken, value i ≠ ⊥ := by
  induction h with
  | nil => exact List.forall_mem_nil _
  | take nonzero _ _ ih => exact List.forall_mem_cons.2 ⟨nonzero, ih⟩
  | skip _ _ ih => exact ih

/-- No entry is taken off what another has taken. -/
theorem pairwise_disjoint (h : Takes value table a taken rest) :
    taken.Pairwise fun i j => Disjoint (value i) (value j) := by
  induction h with
  | nil => exact List.Pairwise.nil
  | take _ _ tail ih =>
      exact ih.cons fun j mem => disjoint_sdiff_self_right.mono_right (tail.le j mem)
  | skip _ _ ih => exact ih

/-- What is taken is not left. -/
theorem disjoint_rest (h : Takes value table a taken rest) :
    ∀ i ∈ taken, Disjoint (value i) rest := by
  induction h with
  | nil => exact List.forall_mem_nil _
  | take _ _ tail ih =>
      exact List.forall_mem_cons.2 ⟨disjoint_sdiff_self_right.mono_right tail.rest_le, ih⟩
  | skip _ _ ih => exact ih

/-- What no entry of the table touches is left. -/
theorem inf_rest (h : Takes value table a taken rest) {u : α}
    (apart : ∀ i ∈ table, Disjoint u (value i)) : u ⊓ rest = u ⊓ a := by
  induction h with
  | nil => rfl
  | take _ _ _ ih =>
      obtain ⟨first, others⟩ := List.forall_mem_cons.1 apart
      rw [ih others, ← inf_sdiff_assoc, (first.mono_left inf_le_left).sdiff_eq_left]
  | skip _ _ ih => exact ih (List.forall_mem_cons.1 apart).2

/-- An entry is taken when it lies below the element and apart from the entries taken before
it. -/
theorem mem_iff {before behind : List ι} {i : ι}
    (h : Takes value (before ++ i :: behind) a taken rest)
    (distinct : (before ++ i :: behind).Nodup) :
    i ∈ taken ↔
      value i ≠ ⊥ ∧ value i ≤ a ∧ ∀ j ∈ before, j ∈ taken → Disjoint (value i) (value j) := by
  induction before generalizing a taken with
  | nil =>
      cases h with
      | take nonzero below _ =>
          exact iff_of_true List.mem_cons_self ⟨nonzero, below, List.forall_mem_nil _⟩
      | skip passed tail =>
          have missing : i ∉ taken := fun mem =>
            (List.nodup_cons.1 distinct).1 (tail.sublist.subset mem)
          refine iff_of_false missing fun ⟨nonzero, below, _⟩ => ?_
          rcases passed with zero | above
          · exact nonzero zero
          · exact above below
  | cons j before ih =>
      obtain ⟨fresh, distinct⟩ := List.nodup_cons.1 distinct
      cases h with
      | take nonzero below tail =>
          have other : i ≠ j := by
            rintro rfl
            exact fresh (List.mem_append_right _ List.mem_cons_self)
          have away : ∀ k ∈ before, k ≠ j := by
            rintro k mem rfl
            exact fresh (List.mem_append_left _ mem)
          rw [List.mem_cons, or_iff_right other, ih tail distinct, le_sdiff, List.forall_mem_cons]
          constructor
          · rintro ⟨nonzero, ⟨below, apart⟩, others⟩
            refine ⟨nonzero, below, fun _ => apart, fun k mem inside => ?_⟩
            exact others k mem ((List.mem_cons.1 inside).resolve_left (away k mem))
          · rintro ⟨nonzero, below, apart, others⟩
            exact ⟨nonzero, ⟨below, apart List.mem_cons_self⟩, fun k mem inside =>
              others k mem (List.mem_cons_of_mem _ inside)⟩
      | skip passed tail =>
          have missing : j ∉ taken := fun mem => fresh (tail.sublist.subset mem)
          rw [ih tail distinct, List.forall_mem_cons]
          exact and_congr_right fun _ => and_congr_right fun _ =>
            ⟨fun others => ⟨fun mem => absurd mem missing, others⟩, fun others => others.2⟩

end Takes

end Cover

namespace Word

/-- The bits of a machine word. -/
def bits (w : UInt64) : Set ℕ := {i | w.toBitVec.getLsbD i = true}

/-- A word is known by its bits. -/
theorem bits_injective : Function.Injective bits := by
  intro v w same
  refine UInt64.toBitVec_inj.1 (BitVec.eq_of_getLsbD_eq fun i _ => ?_)
  exact Bool.eq_iff_iff.2 (Set.ext_iff.1 same i)

@[simp] theorem bits_zero : bits 0 = ⊥ := by
  ext i
  simp [bits]

theorem bits_and (v w : UInt64) : bits (v &&& w) = bits v ⊓ bits w := by
  ext i
  simp [bits]

theorem bits_or (v w : UInt64) : bits (v ||| w) = bits v ⊔ bits w := by
  ext i
  simp [bits]

theorem bits_clear (v w : UInt64) : bits (v &&& ~~~w) = bits v \ bits w := by
  ext i
  have short : v.toBitVec.getLsbD i = true → i < 64 := BitVec.lt_of_getLsbD
  simp only [bits, Set.mem_ofPred_eq, UInt64.toBitVec_and, UInt64.toBitVec_not, BitVec.getLsbD_and,
    BitVec.getLsbD_not, Bool.and_eq_true, decide_eq_true_eq, Set.mem_sdiff, Bool.not_eq_true']
  rw [Bool.not_eq_true]
  exact and_congr_right fun set => and_iff_right (short set)

theorem and_eq_right_iff {v w : UInt64} : v &&& w = w ↔ bits w ≤ bits v := by
  rw [← bits_injective.eq_iff, bits_and, inf_eq_right]

theorem and_eq_zero_iff {v w : UInt64} : v &&& w = 0 ↔ Disjoint (bits v) (bits w) := by
  rw [← bits_injective.eq_iff, bits_and, bits_zero, disjoint_iff]

theorem bits_eq_bot_iff {v : UInt64} : bits v = ⊥ ↔ v = 0 := by
  rw [← bits_zero, bits_injective.eq_iff]

end Word
