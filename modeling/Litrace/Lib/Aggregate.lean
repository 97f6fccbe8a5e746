import Mathlib.Algebra.BigOperators.Group.List.Basic
import Mathlib.Data.List.Sort

/-!
# Aggregates

Events are grouped by a key and measured in a commutative monoid.  The sums of the groups add
up to the sum of all events, whatever the order of the groups (`sum_groupSum`), and a group
does not depend on the order of the events (`groupSum_perm`).

A sort that is not stable may return any sorted permutation (`Sorts`); if elements that are not
told apart are equal, there is only one (`Sorts.unique`).  A stable one keeps the order of what
it does not tell apart (`find?_mergeSort`).

Both halves serve reports that are made from a table without an order.  The sums do not depend
on the order in which the groups are visited, and what depends on it, the order of the rows, is
fixed by the sort as far as its comparison tells the rows apart.
-/

namespace Aggregate

/-! ## Sums by groups -/

section Groups

variable {ε κ M : Type*} [DecidableEq κ] [AddCommMonoid M] {key : ε → κ} {f : ε → M}

/-- The sum over the events with a key. -/
def groupSum (key : ε → κ) (f : ε → M) (events : List ε) (k : κ) : M :=
  ((events.filter fun e => key e = k).map f).sum

/-- One more event counts for its own key only. -/
theorem groupSum_cons (e : ε) (events : List ε) (k : κ) :
    groupSum key f (e :: events) k = (if key e = k then f e else 0) + groupSum key f events k := by
  unfold groupSum
  rw [List.filter_cons]
  by_cases mine : key e = k
  · rw [if_pos mine, if_pos (decide_eq_true mine), List.map_cons, List.sum_cons]
  · rw [if_neg mine, if_neg (mt of_decide_eq_true mine), zero_add]

/-- Every event is in one group. -/
theorem sum_groupSum {events : List ε} {ks : List κ} (distinct : ks.Nodup)
    (covers : ∀ e ∈ events, key e ∈ ks) :
    (ks.map (groupSum key f events)).sum = (events.map f).sum := by
  induction events with
  | nil =>
      refine List.sum_eq_zero fun m mem => ?_
      obtain ⟨k, -, rfl⟩ := List.mem_map.1 mem
      rfl
  | cons e events ih =>
      obtain ⟨covered, covers⟩ := List.forall_mem_cons.1 covers
      have single : (ks.map fun k => if key e = k then f e else 0).sum = f e := by
        rw [List.sum_map_eq_nsmul_single (key e) _ fun k ne _ => if_neg ne.symm, if_pos rfl,
          List.count_eq_one_of_mem distinct covered, one_nsmul]
      rw [funext (groupSum_cons e events), List.sum_map_add, single, ih covers, List.map_cons,
        List.sum_cons]

/-- The order of the events does not matter. -/
theorem groupSum_perm {events events' : List ε} (perm : events.Perm events') :
    groupSum key f events = groupSum key f events' := by
  funext k
  exact ((perm.filter _).map f).sum_eq

end Groups

/-! ## Sorting -/

section Sorting

variable {α : Type*} {less : α → α → Bool} {xs xs' ys ys' : List α}

/-- `sort.Slice`: the elements in an order in which none is less than one before it. -/
def Sorts (less : α → α → Bool) (xs ys : List α) : Prop :=
  ys.Perm xs ∧ ys.Pairwise fun a b => less b a = false

/-- Sorted elements are determined if those that are not told apart are equal. -/
theorem Sorts.unique (h : Sorts less xs ys) (h' : Sorts less xs' ys') (perm : xs.Perm xs')
    (apart : ∀ a ∈ xs, ∀ b ∈ xs, less a b = false → less b a = false → a = b) : ys = ys' := by
  have same : ys.Perm ys' := h.1.trans (perm.trans h'.1.symm)
  refine List.Perm.eq_of_pairwise (fun a b memA memB notLess notLess' => ?_) h.2 h'.2 same
  exact apart a (h.1.subset memA) b (h.1.subset (same.symm.subset memB)) notLess' notLess

/-- A strict weak order has a sorted permutation of any elements. -/
theorem exists_sorts (asymm : ∀ a b, less a b = true → less b a = false)
    (trans : ∀ a b c, less b a = false → less c b = false → less c a = false) (xs : List α) :
    ∃ ys, Sorts less xs ys := by
  let le : α → α → Prop := fun a b => less b a = false
  have total : Std.Total le := by
    refine ⟨fun a b => ?_⟩
    cases h : less b a with
    | false => exact .inl h
    | true => exact .inr (asymm b a h)
  have transitive : IsTrans α le := ⟨trans⟩
  exact ⟨xs.insertionSort le, List.perm_insertionSort le xs, List.pairwise_insertionSort le xs⟩

/-- **A stable sort finds what is found without it**, if the order does not tell apart what is
looked for. -/
theorem find?_mergeSort {α : Type*} {le : α → α → Bool} {p : α → Bool} {l : List α}
    (trans : ∀ a b c, le a b = true → le b c = true → le a c = true)
    (total : ∀ a b, (le a b || le b a) = true)
    (alike : ∀ a ∈ l, ∀ b ∈ l, p a = true → p b = true → le a b = true) :
    (l.mergeSort le).find? p = l.find? p := by
  have ordered : (l.filter p).Pairwise fun a b => le a b = true :=
    List.pairwise_of_forall_mem_list fun a ha b hb =>
      alike a (List.mem_of_mem_filter ha) b (List.mem_of_mem_filter hb) (List.of_mem_filter ha)
        (List.of_mem_filter hb)
  have kept : (l.filter p).Sublist (l.mergeSort le) :=
    List.sublist_mergeSort trans total ordered List.filter_sublist
  have inside := kept.filter p
  have twice : (fun a => p a && p a) = p := funext fun a => Bool.and_self (p a)
  rw [List.filter_filter, twice] at inside
  have same := inside.eq_of_length ((List.mergeSort_perm l le).filter p).length_eq.symm
  rw [← List.head?_filter, ← List.head?_filter, same]

end Sorting

end Aggregate
