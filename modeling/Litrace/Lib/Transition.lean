import Mathlib.Data.List.Basic
import Mathlib.Data.List.Induction
import Mathlib.Order.Basic

/-!
# Runs of deterministic machines

A machine is a step function `step : σ → α → σ`; a run is a list of inputs.
This module states what holds *at every step* of a run (`AllSteps`) and *in
every state* of a run (`AllStates`), derives both from invariants, and relates
the runs of two machines.

The two relations between machines are

* `run_rel`: lock-step simulation, both machines consume the same inputs, which
  a third machine restricts; `emitted_eq_of_rel` is about what they emit;
* `emitted_eq_of_stutter`: stuttering simulation, the second machine consumes
  only the inputs a predicate selects, relabelled, and both emit the same
  outputs.

The last section is about a machine whose steps make operations on a part of its
state.

Nothing here refers to a particular machine.

Step conditions and state properties are recursive predicates over the list of
inputs rather than statements about indices.  Such a predicate splits at an
append, which is how runs are composed, and an invariant becomes a run lemma by
one induction that is done here (`AllSteps.invariant_run`,
`allStates_iff_allSteps`).  The latter is for equivalences: if under an
invariant a step keeps a property exactly when it meets a condition, then a run
keeps it exactly when all its steps do.
-/

namespace Transition

universe u v w z

variable {σ : Type u} {α : Type v} {β : Type w} {τ : Type z}

/-- The state a run ends in. -/
def run (step : σ → α → σ) (s : σ) (as : List α) : σ := as.foldl step s

@[simp] theorem run_nil (step : σ → α → σ) (s : σ) : run step s [] = s := rfl

@[simp] theorem run_cons (step : σ → α → σ) (s : σ) (a : α) (as : List α) :
    run step s (a :: as) = run step (step s a) as := rfl

theorem run_append (step : σ → α → σ) (s : σ) (as bs : List α) :
    run step s (as ++ bs) = run step (run step s as) bs := by
  simp [run]

@[simp] theorem run_concat (step : σ → α → σ) (s : σ) (as : List α) (a : α) :
    run step s (as ++ [a]) = step (run step s as) a := by
  simp [run]

/-- What no step makes true held all along, if it holds in the end. -/
theorem of_run_append {step : σ → α → σ} {P : σ → Prop} (back : ∀ s a, P (step s a) → P s)
    {s : σ} {as bs : List α} (h : P (run step s (as ++ bs))) : P (run step s as) := by
  induction bs using List.reverseRecOn with
  | nil => rwa [List.append_nil] at h
  | append_singleton bs b ih =>
      rw [← List.append_assoc, run_concat] at h
      exact ih (back _ b h)

/-- A run that keeps returning to where it started never moves. -/
theorem run_prefixes_eq_self_iff {step : σ → α → σ} {s : σ} {as : List α} :
    (∀ pre, pre <+: as → run step s pre = s) ↔ ∀ a ∈ as, step s a = s := by
  constructor
  · intro returns a mem
    obtain ⟨pre, post, rfl⟩ := List.append_of_mem mem
    have before := returns pre (List.prefix_append pre _)
    have after := returns (pre ++ [a]) ⟨post, by simp⟩
    rwa [run_concat, before] at after
  · intro stays pre sub
    induction pre using List.reverseRecOn with
    | nil => rfl
    | append_singleton pre a ih =>
        have mem : a ∈ as := sub.subset (by simp)
        rw [run_concat, ih ((List.prefix_append pre [a]).trans sub), stays a mem]

/-! ## What holds at every step -/

/-- `P` holds of the state before the step and of the input, at every step. -/
def AllSteps (step : σ → α → σ) (P : σ → α → Prop) : σ → List α → Prop
  | _, [] => True
  | s, a :: as => P s a ∧ AllSteps step P (step s a) as

instance decidableAllSteps (step : σ → α → σ) (P : σ → α → Prop)
    [∀ s a, Decidable (P s a)] : ∀ (s : σ) (as : List α),
      Decidable (AllSteps step P s as)
  | _, [] => isTrue trivial
  | s, a :: as =>
      have := decidableAllSteps step P (step s a) as
      inferInstanceAs (Decidable (P s a ∧ AllSteps step P (step s a) as))

section AllSteps

variable {step : σ → α → σ} {P Q R : σ → α → Prop} {I : σ → Prop}

@[simp] theorem allSteps_nil (s : σ) : AllSteps step P s [] := trivial

@[simp] theorem allSteps_cons {s : σ} {a : α} {as : List α} :
    AllSteps step P s (a :: as) ↔ P s a ∧ AllSteps step P (step s a) as :=
  Iff.rfl

theorem allSteps_append {s : σ} {as bs : List α} :
    AllSteps step P s (as ++ bs) ↔
      AllSteps step P s as ∧ AllSteps step P (run step s as) bs := by
  induction as generalizing s with
  | nil => simp
  | cons a as ih => simp [ih, and_assoc]

theorem AllSteps.and {s : σ} {as : List α} (hP : AllSteps step P s as)
    (hQ : AllSteps step Q s as) :
    AllSteps step (fun s a => P s a ∧ Q s a) s as := by
  induction as generalizing s with
  | nil => trivial
  | cons a as ih => exact ⟨⟨hP.1, hQ.1⟩, ih hP.2 hQ.2⟩

/-- A property that does not mention the state is one of every input. -/
theorem allSteps_const {p : α → Prop} {s : σ} {as : List α} :
    AllSteps step (fun _ a => p a) s as ↔ ∀ a ∈ as, p a := by
  induction as generalizing s with
  | nil => simp
  | cons a as ih => simp [ih]

/-- The step at any position of the run. -/
theorem AllSteps.at_split {s : σ} {as bs : List α} {a : α}
    (h : AllSteps step P s (as ++ a :: bs)) : P (run step s as) a :=
  (allSteps_append.mp h).2.1

/-- A property of every step, position by position. -/
theorem allSteps_iff_splits {s : σ} {as : List α} :
    AllSteps step P s as ↔
      ∀ pre a post, as = pre ++ a :: post → P (run step s pre) a := by
  constructor
  · rintro h pre a post rfl
    exact h.at_split
  · intro h
    induction as generalizing s with
    | nil => trivial
    | cons a as ih =>
        refine ⟨h [] a as rfl, ih fun pre b post split => ?_⟩
        exact h (a :: pre) b post (by rw [split]; rfl)

/-- The invariant rule: what `Q`-steps preserve holds after a run of them. -/
theorem AllSteps.invariant_run (pres : ∀ s a, I s → Q s a → I (step s a))
    {s : σ} {as : List α} (hI : I s) (hQ : AllSteps step Q s as) :
    I (run step s as) := by
  induction as generalizing s with
  | nil => exact hI
  | cons a as ih => exact ih (pres s a hI hQ.1) hQ.2

/-- Two step properties that agree under an invariant agree along runs. -/
theorem allSteps_congr_of_invariant
    (pres : ∀ s a, I s → Q s a → I (step s a))
    (agree : ∀ s a, I s → Q s a → (P s a ↔ R s a))
    {s : σ} {as : List α} (hI : I s) (hQ : AllSteps step Q s as) :
    AllSteps step P s as ↔ AllSteps step R s as := by
  induction as generalizing s with
  | nil => exact Iff.rfl
  | cons a as ih =>
      exact and_congr (agree s a hI hQ.1) (ih (pres s a hI hQ.1) hQ.2)

end AllSteps

/-! ## What holds in every state -/

/-- `I` holds in every state of the run, the first and the last included. -/
def AllStates (step : σ → α → σ) (I : σ → Prop) : σ → List α → Prop
  | s, [] => I s
  | s, a :: as => I s ∧ AllStates step I (step s a) as

section AllStates

variable {step : σ → α → σ} {Q R : σ → α → Prop} {I : σ → Prop}

theorem AllStates.head {s : σ} {as : List α} (h : AllStates step I s as) : I s := by
  cases as with
  | nil => exact h
  | cons a as => exact h.1

theorem allStates_iff_prefixes {s : σ} {as : List α} :
    AllStates step I s as ↔ ∀ pre, pre <+: as → I (run step s pre) := by
  constructor
  · rintro h pre ⟨post, rfl⟩
    induction pre generalizing s with
    | nil => exact h.head
    | cons a pre ih => exact ih h.2
  · intro h
    induction as generalizing s with
    | nil => exact h [] List.prefix_rfl
    | cons a as ih =>
        refine ⟨h [] List.nil_prefix, ih fun pre hpre => ?_⟩
        exact h (a :: pre) (List.cons_prefix_cons.mpr ⟨rfl, hpre⟩)

/-- If, from a state satisfying the invariant `J`, a step reaches `I` exactly when `R`
holds of it, and keeps `J` then, a run stays in `I` exactly when `R` holds at all its
steps. -/
theorem allStates_iff_allSteps_of_invariant {J : σ → Prop} (weaker : ∀ s, J s → I s)
    (exact_step : ∀ s a, J s → Q s a → (I (step s a) ↔ R s a))
    (pres : ∀ s a, J s → Q s a → R s a → J (step s a))
    {s : σ} {as : List α} (hJ : J s) (hQ : AllSteps step Q s as) :
    AllStates step I s as ↔ AllSteps step R s as := by
  induction as generalizing s with
  | nil => exact iff_of_true (weaker s hJ) trivial
  | cons a as ih =>
      constructor
      · rintro ⟨-, rest⟩
        have hR := (exact_step s a hJ hQ.1).mp rest.head
        exact ⟨hR, (ih (pres s a hJ hQ.1 hR) hQ.2).mp rest⟩
      · rintro ⟨hR, rest⟩
        exact ⟨weaker s hJ, (ih (pres s a hJ hQ.1 hR) hQ.2).mpr rest⟩

/-- If, from a state satisfying `I`, a step reaches `I` exactly when `R` holds
of it, then a run stays in `I` exactly when `R` holds at all its steps. -/
theorem allStates_iff_allSteps
    (exact_step : ∀ s a, I s → Q s a → (I (step s a) ↔ R s a))
    {s : σ} {as : List α} (hI : I s) (hQ : AllSteps step Q s as) :
    AllStates step I s as ↔ AllSteps step R s as :=
  allStates_iff_allSteps_of_invariant (fun _ => id) exact_step
    (fun s a hI hQ hR => (exact_step s a hI hQ).mpr hR) hI hQ

end AllStates

/-! ## What stays true, and who made it true -/

section Persistence

variable {step : σ → α → σ} {P Q : σ → Prop} {Sets Clears : σ → α → Prop}

/-- Once `P` holds it holds for as long as `Q` does. -/
def StaysWhile (step : σ → α → σ) (P Q : σ → Prop) (s : σ) (as : List α) : Prop :=
  ∀ pre mid post, as = pre ++ mid ++ post → P (run step s pre) →
    AllStates step Q (run step s pre) mid → P (run step s (pre ++ mid))

/-- Staying is a matter of single steps. -/
theorem staysWhile_iff_allSteps {s : σ} {as : List α} :
    StaysWhile step P Q s as ↔
      AllSteps step (fun s a => P s → Q s → Q (step s a) → P (step s a)) s as := by
  rw [allSteps_iff_splits]
  constructor
  · rintro stays pre a post rfl hP hQ hQ'
    simpa using stays pre [a] post (by simp) hP ⟨hQ, hQ'⟩
  · intro steps pre mid post split hP hQ
    induction mid using List.reverseRecOn generalizing post with
    | nil => simpa using hP
    | append_singleton mid a ih =>
        have hstates := allStates_iff_prefixes.mp hQ
        have hmid : P (run step s (pre ++ mid)) := by
          refine ih (a :: post) (by simp [split]) (allStates_iff_prefixes.mpr ?_)
          exact fun p hp => hstates p (hp.trans (List.prefix_append mid [a]))
        have before := hstates mid (List.prefix_append mid [a])
        have after := hstates (mid ++ [a]) List.prefix_rfl
        rw [← run_append] at before after
        rw [← List.append_assoc] at after ⊢
        rw [run_concat] at after ⊢
        exact steps (pre ++ mid) a post (by simp [split]) hmid before after

/-- Who made `P` true: it held at the start and was never cleared, or some
step set it and no step from there on cleared it. -/
def MadeTrue (step : σ → α → σ) (P : σ → Prop) (Sets Clears : σ → α → Prop) (s : σ)
    (as : List α) : Prop :=
  (P s ∧ AllSteps step (fun s a => ¬ Clears s a) s as) ∨
    ∃ pre a post, as = pre ++ a :: post ∧ Sets (run step s pre) a ∧
      AllSteps step (fun s a => ¬ Clears s a) (run step s pre) (a :: post)

theorem madeTrue_concat {s : σ} {as : List α} {a : α} :
    MadeTrue step P Sets Clears s (as ++ [a]) ↔
      (MadeTrue step P Sets Clears s as ∨ Sets (run step s as) a) ∧
        ¬ Clears (run step s as) a := by
  constructor
  · rintro (⟨hP, steps⟩ | ⟨pre, b, post, split, sets, steps⟩)
    · obtain ⟨steps, last, -⟩ := allSteps_append.mp steps
      exact ⟨.inl (.inl ⟨hP, steps⟩), last⟩
    · rcases List.eq_nil_or_concat' post with rfl | ⟨post, c, rfl⟩
      · obtain ⟨rfl, rfl⟩ : as = pre ∧ a = b := by
          simpa using List.append_inj' split rfl
        exact ⟨.inr sets, steps.1⟩
      · obtain ⟨rfl, rfl⟩ : as = pre ++ b :: post ∧ a = c := by
          have last : as ++ [a] = (pre ++ b :: post) ++ [c] := by simpa using split
          simpa using List.append_inj' last rfl
        rw [← List.cons_append, allSteps_append, ← run_append] at steps
        exact ⟨.inl (.inr ⟨pre, b, post, rfl, sets, steps.1⟩), steps.2.1⟩
  · rintro ⟨(⟨hP, steps⟩ | ⟨pre, b, post, rfl, sets, steps⟩) | sets, last⟩
    · exact .inl ⟨hP, allSteps_append.mpr ⟨steps, last, trivial⟩⟩
    · refine .inr ⟨pre, b, post ++ [a], by simp, sets, ?_⟩
      rw [← List.cons_append, allSteps_append, ← run_append]
      exact ⟨steps, last, trivial⟩
    · exact .inr ⟨as, a, [], rfl, sets, last, trivial⟩

/-- A property that steps set and clear holds exactly when something made it
true. -/
theorem holds_iff_madeTrue
    (law : ∀ s a, P (step s a) ↔ (P s ∨ Sets s a) ∧ ¬ Clears s a) {s : σ} {as : List α} :
    P (run step s as) ↔ MadeTrue step P Sets Clears s as := by
  induction as using List.reverseRecOn with
  | nil => simp [MadeTrue]
  | append_singleton as a ih => rw [run_concat, law, ih, madeTrue_concat]

end Persistence

/-! ## Two machines -/

section Relations

variable {step : σ → α → σ} {Q : σ → α → Prop}

/-- **Lock-step simulation** under the watch of a third machine, which says
which inputs may come next. -/
theorem run_rel {κ : Type*} {step' : τ → α → τ} {watch : κ → α → κ} {Q : κ → α → Prop}
    (Rel : σ → τ → κ → Prop)
    (pres : ∀ s t k a, Rel s t k → Q k a → Rel (step s a) (step' t a) (watch k a))
    {s : σ} {t : τ} {k : κ} {as : List α} (h : Rel s t k) (hQ : AllSteps watch Q k as) :
    Rel (run step s as) (run step' t as) (run watch k as) := by
  induction as generalizing s t k with
  | nil => exact h
  | cons a as ih => exact ih (pres s t k a h hQ.1) hQ.2

/-- Everything a run emits, in order. -/
def emitted (step : σ → α → σ) (out : σ → α → List β) : σ → List α → List β
  | _, [] => []
  | s, a :: as => out s a ++ emitted step out (step s a) as

@[simp] theorem emitted_nil (out : σ → α → List β) (s : σ) :
    emitted step out s [] = [] := rfl

@[simp] theorem emitted_cons (out : σ → α → List β) (s : σ) (a : α) (as : List α) :
    emitted step out s (a :: as) = out s a ++ emitted step out (step s a) as := rfl

theorem emitted_append (out : σ → α → List β) (s : σ) (as bs : List α) :
    emitted step out s (as ++ bs) =
      emitted step out s as ++ emitted step out (run step s as) bs := by
  induction as generalizing s with
  | nil => rfl
  | cons a as ih => simp [ih]

/-- Nothing is emitted when no step emits. -/
theorem emitted_eq_nil_iff {out : σ → α → List β} {s : σ} {as : List α} :
    emitted step out s as = [] ↔ AllSteps step (fun s a => out s a = []) s as := by
  induction as generalizing s with
  | nil => exact iff_of_true rfl trivial
  | cons a as ih => rw [emitted_cons, List.append_eq_nil_iff, ih, allSteps_cons]

/-- The first step that emits. -/
theorem exists_first_emitted {out : σ → α → List β} {s : σ} {as : List α}
    (emits : emitted step out s as ≠ []) : ∃ pre a post, as = pre ++ a :: post ∧
      emitted step out s pre = [] ∧ out (run step s pre) a ≠ [] := by
  induction as generalizing s with
  | nil => exact absurd rfl emits
  | cons a as ih =>
      by_cases silent : out s a = []
      · rw [emitted_cons, silent, List.nil_append] at emits
        obtain ⟨pre, b, post, rfl, before, here⟩ := ih emits
        refine ⟨a :: pre, b, post, rfl, ?_, here⟩
        rw [emitted_cons, silent, before, List.append_nil]
      · exact ⟨[], a, as, rfl, rfl, silent⟩

/-- Filtering what is emitted is filtering each output. -/
theorem filter_emitted (keep : β → Bool) (out : σ → α → List β) (s : σ)
    (as : List α) :
    (emitted step out s as).filter keep =
      emitted step (fun s a => (out s a).filter keep) s as := by
  induction as generalizing s with
  | nil => rfl
  | cons a as ih => simp [ih]

theorem map_emitted {γ : Type*} (f : β → γ) (out : σ → α → List β) (s : σ) (as : List α) :
    (emitted step out s as).map f = emitted step (fun s a => (out s a).map f) s as := by
  induction as generalizing s with
  | nil => rfl
  | cons a as ih => simp [ih]

/-- What does not depend on the state is emitted input by input. -/
theorem emitted_const (f : α → List β) (s : σ) (as : List α) :
    emitted step (fun _ a => f a) s as = as.flatMap f := by
  induction as generalizing s with
  | nil => rfl
  | cons a as ih => rw [emitted_cons, ih, List.flatMap_cons]

theorem mem_emitted {out : σ → α → List β} {s : σ} {as : List α} {b : β}
    (h : b ∈ emitted step out s as) :
    ∃ pre a post, as = pre ++ a :: post ∧ b ∈ out (run step s pre) a := by
  induction as generalizing s with
  | nil => cases h
  | cons a as ih =>
      rw [emitted_cons, List.mem_append] at h
      rcases h with here | later
      · exact ⟨[], a, as, rfl, here⟩
      · obtain ⟨pre, b, post, rfl, there⟩ := ih later
        exact ⟨a :: pre, b, post, rfl, there⟩

/-- A machine that stops for good has emitted a beginning of what it would have emitted,
and all of it if it has not stopped. -/
theorem emitted_of_stops {out out' : σ → α → List β} {stopped : σ → Bool}
    (stays : ∀ s a, stopped s = true → stopped (step s a) = true)
    (out_eq : ∀ s a, out s a = if stopped s then [] else out' s a) (s : σ) (as : List α) :
    ∃ rest, emitted step out s as ++ rest = emitted step out' s as ∧
      (stopped (run step s as) = false → rest = []) := by
  induction as using List.reverseRecOn with
  | nil => exact ⟨[], rfl, fun _ => rfl⟩
  | append_singleton as a ih =>
      obtain ⟨rest, split, all⟩ := ih
      rw [emitted_append, emitted_append, ← split, run_concat]
      simp only [emitted_cons, emitted_nil, List.append_nil]
      rw [out_eq]
      cases h : stopped (run step s as) with
      | true =>
          refine ⟨rest ++ out' (run step s as) a, by simp, fun running => ?_⟩
          rw [stays _ a h] at running
          cases running
      | false =>
          rw [all h]
          exact ⟨[], by simp, fun _ => rfl⟩

/-- Lock-step simulation of what is emitted, under the watch of a third machine. -/
theorem emitted_eq_of_rel {κ : Type*} {γ : Type*} {step' : τ → α → τ} {watch : κ → α → κ}
    {Q : κ → α → Prop} {out : σ → α → List γ} {out' : τ → α → List γ}
    (Rel : σ → τ → κ → Prop)
    (pres : ∀ s t k a, Rel s t k → Q k a →
      out s a = out' t a ∧ Rel (step s a) (step' t a) (watch k a))
    {s : σ} {t : τ} {k : κ} {as : List α} (h : Rel s t k) (hQ : AllSteps watch Q k as) :
    emitted step out s as = emitted step' out' t as := by
  induction as generalizing s t k with
  | nil => rfl
  | cons a as ih =>
      obtain ⟨first, rest⟩ := allSteps_cons.mp hQ
      obtain ⟨same, rel⟩ := pres s t k a h first
      rw [emitted_cons, emitted_cons, same, ih rel rest]

/-- **Stuttering simulation.**  Machine one consumes all inputs, machine two
only those that `mine` selects, relabelled by `f`.  If related states emit the
same on selected inputs and stay related, while unselected inputs emit nothing
and keep the relation, then the two runs emit the same. -/
theorem emitted_eq_of_stutter {γ : Type*} {step' : τ → γ → τ}
    {out : σ → α → List β} {out' : τ → γ → List β} {p : α → Prop} {mine : α → Bool}
    {f : α → γ} (Rel : σ → τ → Prop)
    (taken : ∀ s t a, Rel s t → p a → mine a = true →
      out s a = out' t (f a) ∧ Rel (step s a) (step' t (f a)))
    (skipped : ∀ s t a, Rel s t → p a → mine a = false →
      out s a = [] ∧ Rel (step s a) t)
    {s : σ} {t : τ} {as : List α} (h : Rel s t) (hp : ∀ a ∈ as, p a) :
    emitted step out s as = emitted step' out' t ((as.filter mine).map f) := by
  induction as generalizing s t with
  | nil => rfl
  | cons a as ih =>
      have hrest : ∀ b ∈ as, p b := fun b hb => hp b (by simp [hb])
      cases hm : mine a with
      | true =>
          obtain ⟨hout, hnext⟩ := taken s t a h (hp a (by simp)) hm
          simp [hm, hout, ih hnext hrest]
      | false =>
          obtain ⟨hout, hnext⟩ := skipped s t a h (hp a (by simp)) hm
          simp [hm, hout, ih hnext hrest]

/-- Stuttering simulation where the inputs keep their labels. -/
theorem emitted_eq_of_skip {step' : τ → α → τ} {out : σ → α → List β} {out' : τ → α → List β}
    {p : α → Prop} {mine : α → Bool} (Rel : σ → τ → Prop)
    (taken : ∀ s t a, Rel s t → p a → mine a = true →
      out s a = out' t a ∧ Rel (step s a) (step' t a))
    (skipped : ∀ s t a, Rel s t → p a → mine a = false →
      out s a = [] ∧ Rel (step s a) t)
    {s : σ} {t : τ} {as : List α} (h : Rel s t) (hp : ∀ a ∈ as, p a) :
    emitted step out s as = emitted step' out' t (as.filter mine) := by
  have stutter := emitted_eq_of_stutter (f := id) Rel taken skipped h hp
  rwa [List.map_id] at stutter

end Relations

/-! ## A part of the state -/

section Part

variable {γ : Type*} {step : σ → α → σ} {step' : τ → γ → τ} {part : σ → τ}
  {ops : σ → α → List γ}

/-- When every step makes operations on a part of the state, a run makes them one
after the other. -/
theorem run_part (does : ∀ s a, part (step s a) = run step' (part s) (ops s a)) (s : σ)
    (as : List α) : part (run step s as) = run step' (part s) (emitted step ops s as) := by
  induction as generalizing s with
  | nil => rfl
  | cons a as ih => rw [run_cons, ih, does, emitted_cons, run_append]

theorem emitted_part (does : ∀ s a, part (step s a) = run step' (part s) (ops s a))
    (out : τ → γ → List β) (s : σ) (as : List α) :
    emitted step' out (part s) (emitted step ops s as) =
      emitted step (fun s a => emitted step' out (part s) (ops s a)) s as := by
  induction as generalizing s with
  | nil => rfl
  | cons a as ih => rw [emitted_cons, emitted_append, ← does, ih, emitted_cons]

theorem allSteps_part (does : ∀ s a, part (step s a) = run step' (part s) (ops s a))
    (P : τ → γ → Prop) (s : σ) (as : List α) :
    AllSteps step' P (part s) (emitted step ops s as) ↔
      AllSteps step (fun s a => AllSteps step' P (part s) (ops s a)) s as := by
  induction as generalizing s with
  | nil => exact Iff.rfl
  | cons a as ih => rw [emitted_cons, allSteps_append, ← does, ih, allSteps_cons]

end Part

end Transition
