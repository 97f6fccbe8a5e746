import Mathlib.Data.List.Basic

/-!
# Fallible programs

Programs over a state that stop at the first error, and keep the state they had then.
`Ends` specifies such a program from a state: what holds of the value and the state when
it ends, and what of the error and the state when it fails.  Each way to build a program
has its rule, so a specification is proved along the program's text.

Nothing here refers to a particular program.

`Ends` is a postcondition with two ends.  The state at a failure matters as much as that
at the end, since programs of this kind acquire resources and have to give them back on
the way out (`onError`).  The rule for loops keeps track of the elements that are done,
so a failure in the middle of a loop can be described by them.
-/

universe u

/-- A program over states `σ` that gives an `α` or fails with an `ε`. -/
abbrev Fallible (ε σ α : Type u) := ExceptT ε (StateM σ) α

namespace Fallible

variable {ε σ α β : Type u}

/-- Go on only if the condition holds. -/
def require (holds : Prop) [Decidable holds] (e : ε) : Fallible ε σ PUnit :=
  if holds then pure ⟨⟩ else throw e

/-- An operation from outside, which may fail for a cause. -/
def attempt {γ : Type*} (answer : Option γ) (e : γ → ε) : Fallible ε σ PUnit :=
  match answer with
  | none => pure ⟨⟩
  | some cause => throw (e cause)

/-- The same program with its error wrapped. -/
def wrap {ε' : Type u} (f : ε → ε') (prog : Fallible ε σ α) : Fallible ε' σ α :=
  ExceptT.mk (prog.run.map fun r => r.mapError f)

/-- The same program, which cleans up when it fails. -/
def onError (cleanUp : σ → σ) (prog : Fallible ε σ α) : Fallible ε σ α :=
  ExceptT.mk fun s =>
    ((prog s).1, match (prog s).1 with
      | .ok _ => (prog s).2
      | .error _ => cleanUp (prog s).2)

/-- The program for each element, up to the first error. -/
def each (body : α → Fallible ε σ PUnit) : List α → Fallible ε σ PUnit
  | [] => pure ⟨⟩
  | x :: xs => do
      body x
      each body xs

/-- From `s` the program ends in `ok`, or fails in `failed`. -/
def Ends (prog : Fallible ε σ α) (s : σ) (ok : α → σ → Prop) (failed : ε → σ → Prop) : Prop :=
  match prog s with
  | (.ok a, s') => ok a s'
  | (.error e, s') => failed e s'

section Rules

variable {s : σ} {ok ok' : α → σ → Prop} {failed failed' : ε → σ → Prop}

@[simp] theorem ends_pure {a : α} :
    Ends (pure a : Fallible ε σ α) s ok failed ↔ ok a s :=
  Iff.rfl

@[simp] theorem ends_throw {e : ε} :
    Ends (throw e : Fallible ε σ α) s ok failed ↔ failed e s :=
  Iff.rfl

@[simp] theorem ends_modify {f : σ → σ} {ok : PUnit → σ → Prop} :
    Ends (modify f : Fallible ε σ PUnit) s ok failed ↔ ok ⟨⟩ (f s) :=
  Iff.rfl

@[simp] theorem ends_get {ok : σ → σ → Prop} :
    Ends (get : Fallible ε σ σ) s ok failed ↔ ok s s :=
  Iff.rfl

@[simp] theorem ends_require {holds : Prop} [Decidable holds] {e : ε}
    {ok : PUnit → σ → Prop} :
    Ends (require holds e : Fallible ε σ PUnit) s ok failed ↔
      (holds → ok ⟨⟩ s) ∧ (¬ holds → failed e s) := by
  unfold require
  split
  next h => simp [h]
  next h => simp [h]

@[simp] theorem ends_attempt {γ : Type*} {answer : Option γ} {e : γ → ε}
    {ok : PUnit → σ → Prop} :
    Ends (attempt answer e : Fallible ε σ PUnit) s ok failed ↔
      (answer = none → ok ⟨⟩ s) ∧ ∀ cause, answer = some cause → failed (e cause) s := by
  cases answer <;> simp [attempt]

/-- Wrapping changes the errors, not the states. -/
theorem ends_wrap {ε' : Type u} {f : ε → ε'} {prog : Fallible ε σ α}
    {failed : ε' → σ → Prop} :
    Ends (wrap f prog) s ok failed ↔ Ends prog s ok fun e s' => failed (f e) s' := by
  have wrapped : wrap f prog s = ((prog s).1.mapError f, (prog s).2) := rfl
  unfold Ends
  rw [wrapped]
  rcases prog s with ⟨r, s'⟩
  cases r <;> rfl

/-- A clean-up acts on the state of a failure only. -/
theorem ends_onError {cleanUp : σ → σ} {prog : Fallible ε σ α} :
    Ends (onError cleanUp prog) s ok failed ↔
      Ends prog s ok fun e s' => failed e (cleanUp s') := by
  unfold Ends onError ExceptT.mk
  dsimp only
  rcases prog s with ⟨r, s'⟩
  cases r <;> rfl

/-- One program after the other. -/
theorem ends_bind {prog : Fallible ε σ α} {next : α → Fallible ε σ β} {ok : β → σ → Prop} :
    Ends (prog >>= next) s ok failed ↔
      Ends prog s (fun a s' => Ends (next a) s' ok failed) failed := by
  have stepped : (prog >>= next) s =
      match prog s with
      | (.ok a, s') => next a s'
      | (.error e, s') => (.error e, s') := by
    show (match prog s with | (r, s') => ExceptT.bindCont next r s') = _
    rcases prog s with ⟨r, s'⟩
    cases r <;> rfl
  unfold Ends
  rw [stepped]
  rcases prog s with ⟨r, s'⟩
  cases r <;> rfl

/-- The rule of consequence. -/
theorem Ends.mono {prog : Fallible ε σ α} (h : Ends prog s ok failed)
    (good : ∀ a s', ok a s' → ok' a s') (bad : ∀ e s', failed e s' → failed' e s') :
    Ends prog s ok' failed' := by
  unfold Ends at h ⊢
  split at h
  · exact good _ _ h
  · exact bad _ _ h

/-- The rule of loops, with the items already visited as the loop's invariant sees them. -/
theorem ends_each_from {body : β → Fallible ε σ PUnit} {I : List β → σ → Prop}
    {done xs : List β}
    (round : ∀ pre x post s, done ++ xs = pre ++ x :: post → I pre s →
      Ends (body x) s (fun _ s' => I (pre ++ [x]) s') failed)
    (start : I done s) : Ends (each body xs) s (fun _ s' => I (done ++ xs) s') failed := by
  induction xs generalizing done s with
  | nil => simpa [each] using start
  | cons x xs ih =>
      rw [each, ends_bind]
      refine (round done x xs s rfl start).mono (fun _ s' here => ?_) fun _ _ h => h
      rw [List.append_cons]
      exact ih (fun pre y post s split => round pre y post s (by simpa using split)) here

/-- **The rule for loops.**  `I pre s` says what holds when the elements in `pre` are
through. -/
theorem ends_each {body : β → Fallible ε σ PUnit} {I : List β → σ → Prop} {xs : List β}
    (round : ∀ pre x post s, xs = pre ++ x :: post → I pre s →
      Ends (body x) s (fun _ s' => I (pre ++ [x]) s') failed)
    (start : I [] s) : Ends (each body xs) s (fun _ s' => I xs s') failed :=
  ends_each_from round start

end Rules

end Fallible
