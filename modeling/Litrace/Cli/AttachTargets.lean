import Litrace.Cli.Parse
import Litrace.Trace.Run

/-!
# Attached processes

The items of `-p` are lists of decimal numbers.  `parseAttachExpressions` reads them as integers of
64 bits, and yields them in order, each once (`parseAttachExpressions_eq_ok_iff`).  A run keeps 32
bits of each, as the process it traces: so a number from `2^32` on denotes another process, or
none (`attach_denotes_iff`).

The difference between a pid and what denotes it is kept throughout: a token is a text,
`strconv.Atoi` makes an `Int64` of it, `traceTargetTGIDs` narrows this to 32 bits, and the kernel
knows the process by the result.  Every positive number below `2^63` passes the parser, so nothing
but the narrowing can go wrong.
-/

namespace Litrace.Cli

open GoString (ascii)
open Loop Strconv Trace

/-! ## What is accepted -/

/-- The tokens of all items, in order. -/
def pidTokens (expressions : List GoString) : List GoString :=
  expressions.flatMap fun expression => expression.splitOn comma

/-- A positive number that an `int` can hold. -/
def IsPID (token : GoString) : Prop :=
  Decimal token ∧ 0 < decimalValue token ∧ decimalValue token < 2 ^ 63

/-- The PID a token stands for. -/
def tokenPID (token : GoString) : Int64 := .ofInt (decimalValue token)

theorem IsPID.toInt_tokenPID {token : GoString} (h : IsPID token) :
    (tokenPID token).toInt = decimalValue token :=
  Int64.toInt_ofInt_of_le (by have := h.2.1; omega) h.2.2

section

variable {token expression : GoString} {pids pids' : Distinct Int64}

/-- When a token is accepted, and what it adds. -/
theorem addPID_eq_ok_iff :
    addPID expression pids token = .ok pids' ↔ IsPID token ∧ pids' = pids.add (tokenPID token) := by
  unfold addPID
  by_cases none : token = []
  · rw [if_pos none, none]
    exact iff_of_false nofun fun h => h.1.1.1 rfl
  · rw [if_neg none]
    cases read : atoi token with
    | none =>
        refine iff_of_false nofun fun h => ?_
        rw [atoi_eq_some_iff.mpr ⟨h.1.1, h.1.toInt_tokenPID.symm⟩] at read
        cases read
    | some pid =>
        obtain ⟨decimal, value⟩ := atoi_eq_some_iff.mp read
        have same : tokenPID token = pid := by rw [tokenPID, value, Int64.ofInt_toInt]
        dsimp only
        rw [same]
        split
        next few =>
          refine iff_of_false nofun fun h => ?_
          rw [Int64.le_iff_toInt_le, ← value] at few
          exact absurd h.1.2.1 (not_lt.mpr few)
        next positive =>
          rw [Int64.not_le, Int64.lt_iff_toInt_lt, ← value] at positive
          have isPID : IsPID token := ⟨decimal, positive, value ▸ pid.toInt_lt⟩
          rw [and_iff_right isPID, Except.ok.injEq, eq_comm]

/-- An expression is accepted when all its tokens are: the loop stops at the first that is not. -/
theorem addAttachExpression_eq_ok_iff :
    addAttachExpression pids expression = .ok pids' ↔
      (∀ token ∈ expression.splitOn comma, IsPID token) ∧
        pids' = (expression.splitOn comma).foldl (fun pids token => pids.add (tokenPID token))
          pids := by
  unfold addAttachExpression
  by_cases none : expression = []
  · rw [if_pos none, none, List.splitOn_nil]
    exact iff_of_false nofun fun h => (h.1 [] List.mem_cons_self).1.1 rfl
  · rw [if_neg none]
    refine foldlM_eq_ok_iff fun pids token pids' => ?_
    exact addPID_eq_ok_iff

end

section

variable {expressions : List GoString} {pids : List Int64}

/-- **What `-p` yields**: the numbers of all tokens, in order, without later duplicates. -/
theorem parseAttachExpressions_eq_ok_iff :
    parseAttachExpressions expressions = .ok pids ↔
      (∀ token ∈ pidTokens expressions, IsPID token) ∧
        pids = ((pidTokens expressions).map tokenPID).eraseDups := by
  have loop : ∀ pids', expressions.foldlM addAttachExpression Distinct.empty = .ok pids' ↔
      (∀ token ∈ pidTokens expressions, IsPID token) ∧
        pids' = (pidTokens expressions).foldl (fun pids token => pids.add (tokenPID token))
          .empty := by
    intro pids'
    rw [pidTokens, List.forall_mem_flatMap, List.foldl_flatMap]
    refine foldlM_eq_ok_iff fun pids expression pids' => ?_
    exact addAttachExpression_eq_ok_iff
  unfold parseAttachExpressions
  rw [bind_eq_ok_iff, ← Distinct.items_foldl_add_empty, List.foldl_map]
  constructor
  · rintro ⟨pids', read, same⟩
    obtain ⟨isPID, rfl⟩ := (loop pids').mp read
    cases same
    exact ⟨isPID, rfl⟩
  · rintro ⟨isPID, rfl⟩
    exact ⟨_, (loop _).mpr ⟨isPID, rfl⟩, rfl⟩

/-! ## What a run traces -/

/-- A run keeps the low 32 bits of a PID. -/
theorem toNat_narrow {pid : Int64} (positive : 0 < pid.toInt) :
    (pid.toUInt64.toUInt32.toNat : ℤ) = pid.toInt % 2 ^ 32 := by
  have zero : (0 : Int64) ≤ pid := Int64.le_iff_toInt_le.mpr positive.le
  rw [UInt64.toNat_toUInt32, Int64.toNat_toUInt64_of_le zero]
  show ((pid.toInt.toNat % 2 ^ 32 : ℕ) : ℤ) = _
  omega

/-- They are all of it below `2^32`. -/
theorem toNat_narrow_iff {pid : Int64} (positive : 0 < pid.toInt) :
    (pid.toUInt64.toUInt32.toNat : ℤ) = pid.toInt ↔ pid.toInt < 2 ^ 32 := by
  rw [toNat_narrow positive]
  omega

/-- With pids to attach to, the pid of a launch does not matter. -/
theorem traceTargetTGIDs_of_some (some : pids ≠ []) (launchPID : Int64) :
    traceTargetTGIDs pids launchPID = pids.map fun pid => pid.toUInt64.toUInt32 :=
  if_pos (List.length_pos_iff.mpr some)

/-- The PIDs are the numbers asked for, and a run traces the processes they denote. -/
structure Denotes (expressions : List GoString) (pids : List Int64) : Prop where
  requested : pids.map Int64.toInt = ((pidTokens expressions).map decimalValue).eraseDups
  positive : ∀ pid ∈ pids, 0 < pid.toInt
  targets : pids ≠ [] → ∀ launchPID,
    (traceTargetTGIDs pids launchPID).map (fun tgid => (tgid.toNat : ℤ)) = pids.map Int64.toInt
  distinct : pids ≠ [] → ∀ launchPID,
    (traceTargetTGIDs pids launchPID).Nodup ∧ 0 ∉ traceTargetTGIDs pids launchPID
  root : ∀ pid, pids = [pid] → ∀ launchPID,
    ((rootTracePID pids launchPID).toNat : ℤ) = pid.toInt

section

variable (accepted : parseAttachExpressions expressions = .ok pids)

include accepted

/-- The accepted pids are the values of the tokens, each once and in order. -/
theorem toInt_of_accepted :
    pids.map Int64.toInt = ((pidTokens expressions).map decimalValue).eraseDups := by
  obtain ⟨isPID, rfl⟩ := parseAttachExpressions_eq_ok_iff.mp accepted
  have inj : Function.Injective Int64.toInt := fun _ _ => Int64.toInt_inj.mp
  rw [Distinct.map_eraseDups inj, List.map_map]
  congr 1
  exact List.map_congr_left fun token mem => (isPID token mem).toInt_tokenPID

/-- Which pids are named. -/
theorem mem_of_accepted {n : ℤ} :
    (∃ pid ∈ pids, pid.toInt = n) ↔ ∃ token ∈ pidTokens expressions, decimalValue token = n := by
  rw [← List.mem_map, toInt_of_accepted accepted, List.mem_eraseDups, List.mem_map]

/-- No accepted pid is zero or negative. -/
theorem positive_of_accepted : ∀ pid ∈ pids, 0 < pid.toInt := by
  intro pid mem
  obtain ⟨token, mem, value⟩ := (mem_of_accepted accepted).mp ⟨pid, mem, rfl⟩
  rw [← value]
  exact ((parseAttachExpressions_eq_ok_iff.mp accepted).1 token mem).2.1

/-- No pid is there twice, however often it was named. -/
theorem nodup_of_accepted : pids.Nodup := by
  rw [(parseAttachExpressions_eq_ok_iff.mp accepted).2, ← Distinct.items_foldl_add_empty]
  exact Distinct.nodup _

theorem eq_nil_of_accepted_iff : pids = [] ↔ expressions = [] := by
  constructor
  · rintro rfl
    refine List.eq_nil_iff_forall_not_mem.mpr fun expression mem => ?_
    obtain ⟨token, mem'⟩ := List.exists_mem_of_ne_nil _ (List.splitOn_ne_nil comma expression)
    obtain ⟨pid, mem, -⟩ :=
      (mem_of_accepted accepted).mpr ⟨token, List.mem_flatMap.mpr ⟨expression, mem, mem'⟩, rfl⟩
    cases mem
  · rintro rfl
    cases accepted
    rfl

/-- A number is kept in 32 bits when it is below `2^32`. -/
theorem targets_of_accepted_iff :
    pids.map (fun pid => (pid.toUInt64.toUInt32.toNat : ℤ)) = pids.map Int64.toInt ↔
      ∀ token ∈ pidTokens expressions, decimalValue token < 2 ^ 32 := by
  rw [List.map_inj_left]
  constructor
  · intro kept token mem
    obtain ⟨pid, mem, value⟩ := (mem_of_accepted accepted).mpr ⟨token, mem, rfl⟩
    rw [← value]
    exact (toNat_narrow_iff (positive_of_accepted accepted pid mem)).mp (kept pid mem)
  · intro small pid mem
    obtain ⟨token, mem', value⟩ := (mem_of_accepted accepted).mp ⟨pid, mem, rfl⟩
    rw [toNat_narrow_iff (positive_of_accepted accepted pid mem), ← value]
    exact small token mem'

end

/-- **Attach lists denote the requested processes** exactly when no number takes more than 32
bits. -/
theorem attach_denotes_iff (accepted : parseAttachExpressions expressions = .ok pids) :
    Denotes expressions pids ↔ ∀ token ∈ pidTokens expressions, decimalValue token < 2 ^ 32 := by
  have kept_iff := targets_of_accepted_iff accepted
  constructor
  · intro denotes
    by_cases none : pids = []
    · intro token mem
      obtain ⟨pid, mem, -⟩ := (mem_of_accepted accepted).mpr ⟨token, mem, rfl⟩
      rw [none] at mem
      cases mem
    · have targets := denotes.targets none 0
      rw [traceTargetTGIDs_of_some none, List.map_map] at targets
      exact kept_iff.mp targets
  · intro small
    have kept := kept_iff.mpr small
    have positive := positive_of_accepted accepted
    refine ⟨toInt_of_accepted accepted, positive, fun some launchPID => ?_,
      fun some launchPID => ?_, ?_⟩
    · rw [traceTargetTGIDs_of_some some, List.map_map]
      exact kept
    · rw [traceTargetTGIDs_of_some some]
      constructor
      · refine List.Nodup.of_map (fun tgid => (tgid.toNat : ℤ)) ?_
        rw [List.map_map]
        show (pids.map fun pid => (pid.toUInt64.toUInt32.toNat : ℤ)).Nodup
        rw [kept]
        exact (nodup_of_accepted accepted).map fun _ _ => Int64.toInt_inj.mp
      · intro zero
        obtain ⟨pid, mem, narrow⟩ := List.mem_map.mp zero
        have same := List.map_inj_left.mp kept pid mem
        have positive := positive pid mem
        rw [← same, narrow] at positive
        exact absurd positive (lt_irrefl 0)
    · rintro pid rfl launchPID
      exact List.map_inj_left.mp kept pid List.mem_cons_self

/-- Processes 42 and 84. -/
theorem attach_denotes_iff_42 :
    Denotes [ascii "42,84", ascii "84"] [42, 84] ↔
      ∀ token ∈ pidTokens [ascii "42,84", ascii "84"], decimalValue token < 2 ^ 32 :=
  attach_denotes_iff (by decide)

/-- **A number above the range denotes another process**: `2^32 + 42` is accepted, and process 42
is traced; `2^32` stands for process 0. -/
theorem large_pid_denotes_another :
    (parseAttachExpressions [ascii "4294967338"] = .ok [4294967338] ∧
      traceTargetTGIDs [4294967338] 0 = [42] ∧ rootTracePID [4294967338] 0 = 42 ∧
      ¬ Denotes [ascii "4294967338"] [4294967338]) ∧
    parseAttachExpressions [ascii "4294967296"] = .ok [4294967296] ∧
      traceTargetTGIDs [4294967296] 0 = [0] := by
  refine ⟨⟨by decide, by decide, by decide, fun denotes => ?_⟩, by decide⟩
  have targets := denotes.targets (by decide) 0
  revert targets
  decide

end

end Litrace.Cli
