import Mathlib.Data.Finset.Insert
import Mathlib.Data.List.Nodup

/-!
# Loops over lists of items

A loop whose rounds may fail (`foldlM` in `Except`).  When a round goes through exactly for the
items that satisfy `P`, and then does `g`, the loop goes through exactly when all items do, and
does `g` for each of them (`foldlM_eq_ok_iff`).  The rule nests, as a loop over the items is a
round of the loop over the lists.

A loop that fills a map leaves the items there, by their keys (`foldl_update_of_mem`).  A loop
that keeps what it has seen drops later duplicates (`Distinct.items_foldl_add`).

The rules turn a loop with errors into a statement without one: for the items that pass, and
only for them, there is a fold that cannot fail.  Facts about a parser are then facts about
lists.
-/

namespace Loop

universe u v w

section Failing

variable {α : Type u} {σ : Type v} {ε : Type w} {f : σ → α → Except ε σ} {P : α → Prop}
  {g : σ → α → σ}

/-- What goes through in two steps goes through in both. -/
theorem bind_eq_ok_iff {β : Type u} {x : Except ε α} {f : α → Except ε β} {b : β} :
    (x >>= f) = .ok b ↔ ∃ a, x = .ok a ∧ f a = .ok b := by
  cases x with
  | error e => exact iff_of_false nofun nofun
  | ok a => exact ⟨fun h => ⟨a, rfl, h⟩, fun ⟨_, same, h⟩ => by cases same; exact h⟩

theorem mapError_eq_ok_iff {ε' : Type*} {x : Except ε α} {g : ε → ε'} {a : α} :
    x.mapError g = .ok a ↔ x = .ok a := by
  cases x with
  | error e => exact iff_of_false nofun nofun
  | ok b => exact ⟨fun h => by cases h; rfl, fun h => by cases h; rfl⟩

/-- The rule for loops whose rounds fail on account of their items alone. -/
theorem foldlM_eq_ok_iff (round : ∀ s a s', f s a = .ok s' ↔ P a ∧ s' = g s a) {s s' : σ}
    {as : List α} : as.foldlM f s = .ok s' ↔ (∀ a ∈ as, P a) ∧ s' = as.foldl g s := by
  induction as generalizing s with
  | nil =>
      show Except.ok s = Except.ok s' ↔ _
      rw [Except.ok.injEq, eq_comm, and_iff_right (List.forall_mem_nil P)]
      rfl
  | cons a as ih =>
      rw [List.foldlM_cons, List.forall_mem_cons, List.foldl_cons]
      cases hf : f s a with
      | error e =>
          refine iff_of_false nofun fun ok => ?_
          have through := (round s a _).mpr ⟨ok.1.1, rfl⟩
          rw [hf] at through
          cases through
      | ok next =>
          obtain ⟨holds, rfl⟩ := (round s a next).mp hf
          show as.foldlM f (g s a) = .ok s' ↔ _
          rw [ih, and_iff_right holds]

end Failing

section Collecting

variable {α : Type u} {β : Type v} [DecidableEq β]

/-- A loop that inserts what it finds for each item. -/
theorem mem_foldl_insert (find : α → Option β) (s : Finset β) (as : List α) (b : β) :
    b ∈ as.foldl (fun s a => (find a).elim s (insert · s)) s ↔
      b ∈ s ∨ ∃ a ∈ as, find a = some b := by
  induction as generalizing s with
  | nil => simp
  | cons a as ih =>
      rw [List.foldl_cons, ih, List.exists_mem_cons_iff]
      cases find a with
      | none => simp
      | some found =>
          rw [Option.elim_some, Finset.mem_insert, Option.some.injEq, eq_comm, or_comm (a := _ = b),
            or_assoc]

end Collecting

section Filling

variable {α : Type u} {κ : Type v} {β : Type w} [DecidableEq κ] {key : α → κ} {val : α → β}

/-- What a map has after a loop that fills it comes from an item, or was there before. -/
theorem exists_of_foldl_update {as : List α} {m : κ → Option β} {k : κ} {b : β}
    (found : as.foldl (fun m a => Function.update m (key a) (some (val a))) m k = some b) :
    (∃ a ∈ as, key a = k ∧ val a = b) ∨ m k = some b := by
  induction as generalizing m with
  | nil => exact .inr found
  | cons a as ih =>
      rw [List.foldl_cons] at found
      rcases ih found with ⟨later, mem, same⟩ | here
      · exact .inl ⟨later, List.mem_cons_of_mem _ mem, same⟩
      · by_cases mine : k = key a
        · rw [mine, Function.update_self, Option.some.injEq] at here
          exact .inl ⟨a, List.mem_cons_self, mine.symm, here⟩
        · rw [Function.update_of_ne mine] at here
          exact .inr here

/-- A fold of updates leaves the keys it does not visit alone. -/
theorem foldl_update_of_notMem {as : List α} {m : κ → Option β} {k : κ} (away : k ∉ as.map key) :
    as.foldl (fun m a => Function.update m (key a) (some (val a))) m k = m k := by
  induction as generalizing m with
  | nil => rfl
  | cons a as ih =>
      rw [List.map_cons, List.mem_cons, not_or] at away
      rw [List.foldl_cons, ih away.2, Function.update_of_ne away.1]

/-- With different keys nothing is overwritten. -/
theorem foldl_update_of_mem {as : List α} {m : κ → Option β} {a : α} (mem : a ∈ as)
    (distinct : (as.map key).Nodup) :
    as.foldl (fun m a => Function.update m (key a) (some (val a))) m (key a) = some (val a) := by
  induction as generalizing m with
  | nil => cases mem
  | cons b as ih =>
      rw [List.map_cons, List.nodup_cons] at distinct
      rw [List.foldl_cons]
      rcases List.mem_cons.mp mem with rfl | mem
      · rw [foldl_update_of_notMem distinct.1, Function.update_self]
      · exact ih mem distinct.2

end Filling

/-! ## Lists without duplicates -/

/-- A list without duplicates, and the set of what is on it. -/
structure Distinct (α : Type u) [DecidableEq α] where
  items : List α
  seen : Finset α
  mem_seen : ∀ a, a ∈ seen ↔ a ∈ items
  nodup : items.Nodup

namespace Distinct

variable {α : Type u} [DecidableEq α]

/-- Nothing was seen. -/
def empty : Distinct α where
  items := []
  seen := ∅
  mem_seen a := by rw [List.mem_nil_iff, iff_false]; exact Finset.notMem_empty a
  nodup := List.nodup_nil

/-- What was not seen before goes to the end. -/
def add (d : Distinct α) (a : α) : Distinct α :=
  if old : a ∈ d.seen then d
  else
    { items := d.items ++ [a]
      seen := insert a d.seen
      mem_seen b := by
        rw [Finset.mem_insert, List.mem_append, d.mem_seen, List.mem_singleton, or_comm]
      nodup := by
        rw [d.mem_seen] at old
        exact List.nodup_append.mpr ⟨d.nodup, List.nodup_singleton a,
          fun b mem c single same => old (List.mem_singleton.mp single ▸ same ▸ mem)⟩ }

theorem items_add (d : Distinct α) (a : α) :
    (d.add a).items = if a ∈ d.items then d.items else d.items ++ [a] := by
  unfold add
  by_cases old : a ∈ d.seen
  · rw [dif_pos old, if_pos ((d.mem_seen a).mp old)]
  · rw [dif_neg old, if_neg (mt (d.mem_seen a).mpr old)]

/-- Of what is added the first occurrences are kept, in order. -/
theorem items_foldl_add (d : Distinct α) (as : List α) :
    (as.foldl add d).items = d.items ++ (as.filter fun a => a ∉ d.items).eraseDups := by
  induction as generalizing d with
  | nil => exact (List.append_nil _).symm
  | cons a as ih =>
      rw [List.foldl_cons, ih, items_add]
      by_cases old : a ∈ d.items
      · rw [if_pos old, List.filter_cons_of_neg (by simpa using old)]
      · rw [if_neg old, List.filter_cons_of_pos (by simpa using old), List.eraseDups_cons,
          List.append_assoc, List.singleton_append, List.filter_filter]
        congr 3
        refine List.filter_congr fun b _ => ?_
        simp [not_or, and_comm, beq_eq_decide]

/-- Adding one by one keeps the first of equal items. -/
theorem items_foldl_add_empty (as : List α) : (as.foldl add empty).items = as.eraseDups := by
  rw [items_foldl_add, empty, List.nil_append, List.filter_eq_self.mpr fun a _ => by simp]

/-- Renaming does not matter if it keeps items apart. -/
theorem map_items_foldl_add {β : Type v} [DecidableEq β] {f : α → β} (inj : Function.Injective f)
    {d : Distinct α} {d' : Distinct β} (same : d.items.map f = d'.items) (as : List α) :
    (as.foldl add d).items.map f = ((as.map f).foldl add d').items := by
  induction as generalizing d d' with
  | nil => exact same
  | cons a as ih =>
      rw [List.map_cons, List.foldl_cons, List.foldl_cons]
      refine ih ?_
      rw [items_add, items_add, ← same]
      by_cases old : a ∈ d.items
      · rw [if_pos old, if_pos ((List.mem_map_of_injective inj).mpr old)]
      · rw [if_neg old, if_neg (mt (List.mem_map_of_injective inj).mp old)]
        exact List.map_append

/-- An injective map neither makes nor loses duplicates. -/
theorem map_eraseDups {β : Type v} [DecidableEq β] {f : α → β} (inj : Function.Injective f)
    (as : List α) : as.eraseDups.map f = (as.map f).eraseDups := by
  rw [← items_foldl_add_empty, ← items_foldl_add_empty]
  exact map_items_foldl_add inj rfl as

end Distinct

end Loop
