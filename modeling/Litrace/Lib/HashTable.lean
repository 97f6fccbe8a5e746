import Mathlib.Data.Finmap
import Mathlib.Data.Finset.Card
import Mathlib.Data.List.Induction
import Mathlib.Data.List.Sort

/-!
# Hash tables

Two kinds of hash table, both with extensional equality:

* `GoMap K V`, the contents of a non-nil map of unbounded size, on Mathlib's
  finite maps.  Iteration order is unspecified in the language modelled; a loop
  is written as a fold over `GoMap.keyList`, one fixed order, and a caller that
  wants to know that the order is immaterial proves it for its own loop body; or
  it takes the order, any that `GoMap.Iterates` allows.
* `BoundedSet K n`, a set of keys that refuses a new key once it holds `n`.

Extensional equality is what makes a map usable as part of a state: two states
with the same lookups are equal, so a frame condition is an equation.  A bounded
set carries its bound, so that no state with too many keys can be written down.
-/

universe u v

/-- The contents of a map with keys `K` and values `V`. -/
abbrev GoMap (K : Type u) (V : Type v) := Finmap fun _ : K => V

namespace GoMap

variable {K : Type u} {V : Type v} [DecidableEq K]

/-- `m[k] = v`. -/
def set (m : GoMap K V) (k : K) (v : V) : GoMap K V := Finmap.insert k v m

/-- `m[k]`, with `none` for an absent key. -/
def get (m : GoMap K V) (k : K) : Option V := Finmap.lookup k m

/-- `delete(m, k)`. -/
def delete (m : GoMap K V) (k : K) : GoMap K V := Finmap.erase k m

/-- `len(m)`. -/
def len (m : GoMap K V) : ℕ := m.keys.card

@[simp] theorem get_empty (k : K) : get (∅ : GoMap K V) k = none :=
  Finmap.lookup_empty k

@[simp] theorem get_set_self (m : GoMap K V) (k : K) (v : V) :
    (m.set k v).get k = some v :=
  Finmap.lookup_insert m

@[simp] theorem get_set_of_ne {m : GoMap K V} {k k' : K} {v : V} (h : k' ≠ k) :
    (m.set k v).get k' = m.get k' :=
  Finmap.lookup_insert_of_ne m h

theorem get_set (m : GoMap K V) (k k' : K) (v : V) :
    (m.set k v).get k' = if k' = k then some v else m.get k' := by
  split
  next h => subst h; simp
  next h => exact get_set_of_ne h

@[simp] theorem get_delete_self (m : GoMap K V) (k : K) : (m.delete k).get k = none :=
  Finmap.lookup_erase k m

@[simp] theorem get_delete_of_ne {m : GoMap K V} {k k' : K} (h : k' ≠ k) :
    (m.delete k).get k' = m.get k' :=
  Finmap.lookup_erase_ne h

/-- A map is known by what it gives for each key. -/
theorem ext_get {m m' : GoMap K V} (h : ∀ k, m.get k = m'.get k) : m = m' :=
  Finmap.ext_lookup h

theorem mem_keys_iff {m : GoMap K V} {k : K} : k ∈ m.keys ↔ ∃ v, m.get k = some v := by
  rw [Finmap.mem_keys, Finmap.mem_iff]
  rfl

/-- A map of no length gives nothing for any key. -/
theorem len_eq_zero_iff {m : GoMap K V} : m.len = 0 ↔ ∀ k, m.get k = none := by
  rw [len, Finset.card_eq_zero, Finset.eq_empty_iff_forall_notMem]
  refine forall_congr' fun k => ?_
  rw [mem_keys_iff, not_exists, Option.eq_none_iff_forall_ne_some]

theorem len_pos_of_get {m : GoMap K V} {k : K} {v : V} (h : m.get k = some v) :
    0 < m.len := by
  rcases Nat.eq_zero_or_pos m.len with zero | pos
  · rw [len_eq_zero_iff.mp zero k] at h
    cases h
  · exact pos

@[simp] theorem len_set_pos (m : GoMap K V) (k : K) (v : V) : 0 < (m.set k v).len :=
  len_pos_of_get (get_set_self m k v)

/-- The order of an iteration over the entries: each of them once. -/
def Iterates (m : GoMap K V) (order : List (K × V)) : Prop :=
  (order.map Prod.fst).Nodup ∧ ∀ k v, (k, v) ∈ order ↔ m.get k = some v

/-- Two iterations over one map visit the same entries. -/
theorem Iterates.perm {m : GoMap K V} {order order' : List (K × V)} (h : m.Iterates order)
    (h' : m.Iterates order') : order.Perm order' := by
  rw [List.perm_ext_iff_of_nodup h.1.of_map h'.1.of_map]
  rintro ⟨k, v⟩
  rw [h.2, h'.2]

section KeyList

/-- Keys in ascending order of an injective rank. -/
def keyList (rank : K → ℕ) (inj : Function.Injective rank) (m : GoMap K V) : List K :=
  Quot.liftOn m.keys.val (List.insertionSort fun a b => rank a ≤ rank b) fun l₁ l₂ h => by
    have total : Std.Total fun a b : K => rank a ≤ rank b := ⟨fun a b => Nat.le_total _ _⟩
    have trans : IsTrans K fun a b => rank a ≤ rank b := ⟨fun _ _ _ => Nat.le_trans⟩
    refine List.Perm.eq_of_pairwise
      (fun a b _ _ hab hba => inj (Nat.le_antisymm hab hba))
      (List.pairwise_insertionSort _ l₁) (List.pairwise_insertionSort _ l₂) ?_
    exact (List.perm_insertionSort _ l₁).trans (h.trans (List.perm_insertionSort _ l₂).symm)

variable {rank : K → ℕ} {inj : Function.Injective rank}

omit [DecidableEq K] in
/-- The list of keys holds each key once. -/
theorem coe_keyList (m : GoMap K V) :
    (m.keyList rank inj : Multiset K) = m.keys.val := by
  unfold keyList
  generalize m.keys.val = s
  induction s using Quot.inductionOn with
  | h l => exact Quot.sound (List.perm_insertionSort _ l)

@[simp] theorem mem_keyList {m : GoMap K V} {k : K} :
    k ∈ m.keyList rank inj ↔ ∃ v, m.get k = some v := by
  rw [← mem_keys_iff, ← Multiset.mem_coe, coe_keyList, Finset.mem_val]

end KeyList

section Loop

variable {σ : Type*} {S : Type*} {E : Type*}

/-- A loop whose rounds each bring one key from its state at the start to its
final state leaves every key in its final state, in whatever order the entries
come. -/
theorem foldl_slot (key : E → K) {slot : σ → K → S} {step : σ → E → σ} {s : σ}
    {final : K → S} {entries : List E}
    (other : ∀ u e k, k ≠ key e → slot (step u e) k = slot u k)
    (own : ∀ u e, e ∈ entries →
      slot u (key e) = slot s (key e) ∨ slot u (key e) = final (key e) →
        slot (step u e) (key e) = final (key e))
    (rest : ∀ k, (∀ e ∈ entries, k ≠ key e) → slot s k = final k) (k : K) :
    slot (entries.foldl step s) k = final k := by
  -- After some of the rounds, their keys are done and the others as at the start.
  have part : ∀ rounds : List E, (∀ e ∈ rounds, e ∈ entries) → ∀ k,
      ((∃ e ∈ rounds, k = key e) → slot (rounds.foldl step s) k = final k) ∧
        ((∀ e ∈ rounds, k ≠ key e) → slot (rounds.foldl step s) k = slot s k) := by
    intro rounds
    induction rounds using List.reverseRecOn with
    | nil =>
        intro _ k
        exact ⟨fun ⟨_, mem, _⟩ => absurd mem List.not_mem_nil, fun _ => rfl⟩
    | append_singleton rounds e ih =>
        intro sub k
        have before := ih fun e' he' => sub e' (List.mem_append_left _ he')
        rw [List.foldl_append, List.foldl_cons, List.foldl_nil]
        by_cases mine : k = key e
        · subst mine
          have now : slot (step (rounds.foldl step s) e) (key e) = final (key e) := by
            apply own _ e (sub e (by simp))
            by_cases seen : ∃ e' ∈ rounds, key e = key e'
            · exact .inr ((before _).1 seen)
            · push Not at seen
              exact .inl ((before _).2 seen)
          exact ⟨fun _ => now, fun none => absurd rfl (none e (by simp))⟩
        · rw [other _ _ _ mine]
          refine ⟨?_, fun none => (before k).2 fun e' he' => none e' (by simp [he'])⟩
          rintro ⟨e', mem, hk⟩
          rcases List.mem_append.mp mem with old | new
          · exact (before k).1 ⟨e', old, hk⟩
          · rw [List.mem_singleton.mp new] at hk
            exact absurd hk mine
  by_cases seen : ∃ e ∈ entries, k = key e
  · exact (part entries (fun _ h => h) k).1 seen
  · push Not at seen
    rw [(part entries (fun _ h => h) k).2 seen, rest k seen]

end Loop

end GoMap

/-! ## Bounded sets -/

/-- A set of at most `n` keys. -/
structure BoundedSet (K : Type u) (n : ℕ) where
  keys : Finset K
  bound : keys.card ≤ n

namespace BoundedSet

variable {K : Type u} {n : ℕ}

instance : Membership K (BoundedSet K n) := ⟨fun s k => k ∈ s.keys⟩

theorem mem_def {s : BoundedSet K n} {k : K} : k ∈ s ↔ k ∈ s.keys := Iff.rfl

@[ext] theorem ext {s t : BoundedSet K n} (h : ∀ k, k ∈ s ↔ k ∈ t) : s = t := by
  cases s
  cases t
  congr
  exact Finset.ext h

variable [DecidableEq K]

instance (s : BoundedSet K n) (k : K) : Decidable (k ∈ s) :=
  inferInstanceAs (Decidable (k ∈ s.keys))

/-- Whether `k` can be stored: it is there already, or there is room. -/
def Admits (s : BoundedSet K n) (k : K) : Prop := k ∈ s ∨ s.keys.card < n

instance (s : BoundedSet K n) (k : K) : Decidable (s.Admits k) :=
  inferInstanceAs (Decidable (k ∈ s ∨ s.keys.card < n))

/-- Store a key, or leave a full set as it is. -/
def update (s : BoundedSet K n) (k : K) : BoundedSet K n :=
  if h : s.Admits k then
    { keys := insert k s.keys
      bound := by
        rcases h with mem | room
        · rw [Finset.insert_eq_of_mem mem]
          exact s.bound
        · exact (Finset.card_insert_le _ _).trans room }
  else s

/-- Remove a key. -/
def delete (s : BoundedSet K n) (k : K) : BoundedSet K n where
  keys := s.keys.erase k
  bound := (Finset.card_erase_le).trans s.bound

/-- What is in a bounded set after an update: a new member only if there was room. -/
theorem mem_update {s : BoundedSet K n} {k k' : K} :
    k' ∈ s.update k ↔ k' ∈ s ∨ (k' = k ∧ s.Admits k) := by
  unfold update
  split
  next h =>
    rw [mem_def, Finset.mem_insert]
    exact ⟨fun hk => hk.elim (fun e => .inr ⟨e, h⟩) .inl,
      fun hk => hk.elim .inr fun e => .inl e.1⟩
  next h => simp [h]

@[simp] theorem mem_delete {s : BoundedSet K n} {k k' : K} :
    k' ∈ s.delete k ↔ k' ≠ k ∧ k' ∈ s :=
  Finset.mem_erase

end BoundedSet
