import Litrace.Bpf.VarSchema
import Litrace.Trace.Payload
import Litrace.Trace.ReusedDescriptor

/-!
# Descriptor arguments

The path filter takes an argument for a descriptor by its code in the event.  The code of
`ARG_FD` is that of `VAR_ARG_ARGV` too, so the argument and environment vectors of `execve`
and `execveat` count as descriptors, whose numbers are the low halves of the pointers.

`tracked_arg_is_descriptor_iff` says when that makes no difference.

Which arguments are declared as descriptors is asked of the schema and of the table of
variable arguments.  So what an event of the programs carries is known by its syscall, and
the condition can be put in terms of the declarations, where the code has only the byte.  A
vector counts only if its pointer has the number of a tracked descriptor in its low half,
which is rare, but no pointer is excluded from it.
-/

namespace Litrace.Bpf

/-! ## Codes of the schema -/

/-- The argument is typed `ARG_FD`: it has that code, and not as one of
`enum var_arg_kind`. -/
def DescriptorArg (id : Int64) (i : Fin 6) : Prop :=
  ∃ schema ∈ syscallSchemas, schema.syscallId = id ∧ i.val < schema.argCount.toNat ∧
    schema.argTypes.get i = ArgType.fd ∧ ¬ DeclaredVar id i VarArgKind.argv

/-- The vectors are those of `execve` and `execveat`. -/
theorem declaredVar_argv_iff {id : Int64} {i : Fin 6} :
    DeclaredVar id i VarArgKind.argv ↔ id = nrExecve ∧ (i = 1 ∨ i = 2) ∨
      id = 322 ∧ (i = 2 ∨ i = 3) := by
  constructor
  · rintro ⟨row, mem, rfl, arg⟩
    have each : ∀ row ∈ varArgSchemas, ∀ arg ∈ row.2, arg.2 = VarArgKind.argv →
        row.1 = nrExecve ∧ (arg.1 = 1 ∨ arg.1 = 2) ∨ row.1 = 322 ∧ (arg.1 = 2 ∨ arg.1 = 3) :=
      forall_varArgSchemas (by decide)
    exact each row mem _ arg rfl
  · rintro (⟨rfl, rfl | rfl⟩ | ⟨rfl, rfl | rfl⟩)
    all_goals decide

/-- The schema of a call counts the arguments it types as variable ones. -/
theorem DeclaredVar.counted {id : Int64} {i : Fin 6} {kind : UInt8}
    (declared : DeclaredVar id i kind) (e : Event) :
    i.val < (setSyscallArgSchema id e).argCount.toNat := by
  obtain ⟨row, mem, rfl, arg⟩ := declared
  obtain ⟨schema, inside, same, has⟩ := exists_of_agree agree_varArgSchemas mem
  have counts := List.all_eq_true.1 has _ arg
  have found := find?_of_mem_syscallSchemas inside
  rw [same] at found
  rw [setSyscallArgSchema, found]
  exact of_decide_eq_true (Bool.and_eq_true_iff.1 counts).2

/-- An argument of the schema with the code of a descriptor is one, or a vector. -/
theorem descriptorArg_or_argv {id : Int64} {i : Fin 6} {e : Event}
    (counted : i.val < (setSyscallArgSchema id e).argCount.toNat)
    (code : (setSyscallArgSchema id e).argTypes.get i = ArgType.fd) :
    DescriptorArg id i ∨ DeclaredVar id i VarArgKind.argv := by
  rw [or_iff_not_imp_right]
  intro novector
  unfold setSyscallArgSchema at counted code
  split at counted
  next schema found =>
    rw [found] at code
    have same : schema.syscallId = id := by simpa using List.find?_some found
    exact ⟨schema, List.mem_of_find?_eq_some found, same, counted, code, novector⟩
  next missing =>
    rw [missing] at code
    dsimp only at code
    have raw : (Vector.replicate 6 ArgType.raw).get i = ArgType.raw := Vector.getElem_replicate _
    rw [raw] at code
    exact absurd code (by decide)

/-! ## Codes of the event -/

section Codes

variable {mem : UserMemory} {args : Vector UInt64 6} {i : Fin 6}

theorem appendVarString_argCount (e : Event) (j : UInt8) (ptr : UInt64) :
    (appendVarString mem e j ptr).argCount = e.argCount := by
  unfold appendVarString
  dsimp only
  repeat' split
  all_goals rfl

theorem appendVarBytes_argCount (e : Event) (j : UInt8) (ptr size : UInt64) :
    (appendVarBytes mem e j ptr size).argCount = e.argCount := by
  unfold appendVarBytes
  dsimp only
  repeat' split
  all_goals rfl

theorem Capture.run_argCount (c : Capture) (e : Event) :
    (c.run mem args e).argCount = e.argCount := by
  cases c with
  | string j => exact appendVarString_argCount e _ _
  | struct j size => exact appendVarBytes_argCount e _ _ _
  | buffer j size => exact appendVarBytes_argCount e _ _ _

/-- No capture makes an argument a descriptor. -/
theorem Capture.argTypes_of_run (c : Capture) (e : Event)
    (code : (c.run mem args e).argTypes.get i = ArgType.fd) : e.argTypes.get i = ArgType.fd := by
  have typed : ∀ (types : Vector UInt8 6) (j : Fin 6) (kind : UInt8), kind ≠ ArgType.fd →
      (types.set j kind).get i = ArgType.fd → types.get i = ArgType.fd := by
    intro types j kind other code
    by_cases same : j = i
    · rw [same] at code
      exact absurd ((Vector.getElem_set_self i.isLt).symm.trans code) other
    · have away : (types.set j kind).get i = types.get i :=
        Vector.getElem_set_ne j.isLt i.isLt fun h => same (Fin.ext h)
      rwa [away] at code
  cases c with
  | string j =>
      rw [← appendVarString_argTypes mem e j.1.toUInt8 (args.get j)]
      exact typed _ j VarArgKind.string (by decide) code
  | struct j size =>
      rw [← appendVarBytes_argTypes mem e j.1.toUInt8 (args.get j) size]
      exact typed _ j VarArgKind.bytes (by decide) code
  | buffer j size => rwa [Capture.run, appendVarBytes_argTypes] at code

theorem captures_typing (plan : List Capture) (e : Event) :
    (plan.foldl (fun e c => c.run mem args e) e).argCount = e.argCount ∧
      ((plan.foldl (fun e c => c.run mem args e) e).argTypes.get i = ArgType.fd →
        e.argTypes.get i = ArgType.fd) := by
  induction plan generalizing e with
  | nil => exact ⟨rfl, id⟩
  | cons c plan ih =>
      obtain ⟨count, types⟩ := ih (c.run mem args e)
      exact ⟨count.trans (c.run_argCount e), fun code => c.argTypes_of_run e (types code)⟩

/-- The event has the argument count of the schema, and the code of a descriptor only where
the schema has it. -/
theorem exitEvent_typing (mem : UserMemory) (task : Task) (state : SyscallData)
    (ctx : SysExitArgs) (now : UInt64) (snapshot : Option ExecveSnapshot) (i : Fin 6) :
    let ev := exitEvent mem task state ctx now snapshot
    let typed := setSyscallArgSchema state.syscallId (eventHeader mem task state ctx now)
    ev.argCount = typed.argCount ∧
      (ev.argTypes.get i = ArgType.fd → typed.argTypes.get i = ArgType.fd) := by
  intro ev typed
  show (exitEvent mem task state ctx now snapshot).argCount = _ ∧
    ((exitEvent mem task state ctx now snapshot).argTypes.get i = _ → _)
  rw [exitEvent, captureVars_eq_captures]
  split
  · cases snapshot with
    | none => exact ⟨rfl, id⟩
    | some snapshot => exact ⟨rfl, id⟩
  · exact captures_typing _ typed

/-- The vectors of `execve` and `execveat` are not captured, and have the code. -/
theorem exitEvent_argv (mem : UserMemory) (task : Task) (state : SyscallData)
    (ctx : SysExitArgs) (now : UInt64) (snapshot : Option ExecveSnapshot) {i : Fin 6}
    (vector : DeclaredVar state.syscallId i VarArgKind.argv) :
    (exitEvent mem task state ctx now snapshot).argTypes.get i = ArgType.fd := by
  refine exitEvent_argTypes mem task state ctx now snapshot vector fun notExecve c captured => ?_
  rcases declaredVar_argv_iff.mp vector with ⟨execve, -⟩ | ⟨execveat, -⟩
  · exact absurd execve notExecve
  · rw [execveat] at captured
    exact absurd captured List.not_mem_nil

end Codes

end Litrace.Bpf

namespace Litrace.Trace

open Bpf

/-! ## What counts as a descriptor -/

theorem isFDArg_exitEvent {mem : UserMemory} {task : Task} {state : SyscallData}
    {ctx : SysExitArgs} {now : UInt64} {snapshot : Option ExecveSnapshot} {i : Fin 6}
    (h : isFDArg (exitEvent mem task state ctx now snapshot) i = true) :
    DescriptorArg state.syscallId i ∨ DeclaredVar state.syscallId i VarArgKind.argv := by
  obtain ⟨count, types⟩ := exitEvent_typing mem task state ctx now snapshot i
  obtain ⟨counted, code⟩ := Bool.and_eq_true_iff.1 h
  have counted := of_decide_eq_true counted
  rw [count] at counted
  exact descriptorArg_or_argv counted (types (eq_of_beq code))

theorem isFDArg_of_argv (mem : UserMemory) (task : Task) (state : SyscallData)
    (ctx : SysExitArgs) (now : UInt64) (snapshot : Option ExecveSnapshot) {i : Fin 6}
    (vector : DeclaredVar state.syscallId i VarArgKind.argv) :
    isFDArg (exitEvent mem task state ctx now snapshot) i = true := by
  have count := (exitEvent_typing mem task state ctx now snapshot i).1
  have counted := vector.counted (eventHeader mem task state ctx now)
  rw [← count] at counted
  rw [isFDArg, exitEvent_argv mem task state ctx now snapshot vector, Bool.and_eq_true]
  exact ⟨decide_eq_true counted, beq_self_eq_true _⟩

theorem hasTrackedFDArg_iff (s : PathStates) (ev : Event) :
    s.hasTrackedFDArg ev = true ↔
      ∃ i, isFDArg ev i = true ∧ s.fdTracked ev.pid (fdArg ev i) = true := by
  rw [PathStates.hasTrackedFDArg, List.any_eq_true]
  simp only [List.mem_finRange, true_and, isFDArg, Bool.and_eq_true]

/-- **Only descriptors match as descriptors, but for the vectors of `execve` and
`execveat`.**  In every state of the filter and on every event of `trace_sys_exit`: an event
that has a tracked descriptor has one at an argument typed `ARG_FD`, exactly when no
argument typed `VAR_ARG_ARGV` has the number of a tracked descriptor in its low 32 bits, or
one typed `ARG_FD` has too.

It is about events that the programs make, for whose codes the schema is responsible.  An
arbitrary record could have the code of a descriptor anywhere. -/
theorem tracked_arg_is_descriptor_iff (s : PathStates) (mem : UserMemory) (task : Task)
    (state : SyscallData) (ctx : SysExitArgs) (now : UInt64) (snapshot : Option ExecveSnapshot) :
    let ev := exitEvent mem task state ctx now snapshot
    (s.hasTrackedFDArg ev = true →
        ∃ i, DescriptorArg ev.syscallId i ∧ s.fdTracked ev.pid (fdArg ev i) = true) ↔
      (∀ i, DeclaredVar ev.syscallId i VarArgKind.argv →
        s.fdTracked ev.pid (fdArg ev i) = false) ∨
      ∃ i, DescriptorArg ev.syscallId i ∧ s.fdTracked ev.pid (fdArg ev i) = true := by
  intro ev
  have call : ev.syscallId = state.syscallId :=
    (exitEvent_header mem state task ctx now snapshot).syscallId
  rw [call, hasTrackedFDArg_iff]
  constructor
  · intro matched
    rw [or_iff_not_imp_left]
    intro tracked
    push Not at tracked
    obtain ⟨i, vector, htracked⟩ := tracked
    refine matched ⟨i, isFDArg_of_argv mem task state ctx now snapshot vector, ?_⟩
    exact eq_true_of_ne_false htracked
  · rintro (untracked | descriptor) ⟨i, counts, htracked⟩
    · rcases isFDArg_exitEvent counts with descriptor | vector
      · exact ⟨i, descriptor, htracked⟩
      · rw [untracked i vector] at htracked
        cases htracked
    · exact descriptor

/-- `execve("/a", argv, NULL)` with the vector at an address whose low half is 3. -/
def execveAt3 : SyscallData := ⟨10, nrExecve, #v[4096, 0x7ffc00000003, 0, 0, 0, 0], 1, true⟩

/-- Once descriptor 3 of the process is tracked, that call is printed. -/
theorem execve_vector_is_tracked :
    let f := beforeOpen.next openA
    let ev := exitEvent slashA ⟨100, 100⟩ execveAt3 ⟨nrExecve, -2⟩ 11
      (some (captureExecve slashA execveAt3.args))
    f.Reachable ∧ f.hasTrackedFDArg ev = true ∧
      (f.shouldOutput (fun _ _ => none) ev).2 = true ∧
      ¬ ∃ i, DescriptorArg ev.syscallId i ∧ f.fdTracked ev.pid (fdArg ev i) = true := by
  intro f ev
  have none : ∀ i : Fin 6, ∀ schema ∈ syscallSchemas, schema.syscallId = nrExecve →
      schema.argTypes.get i = ArgType.fd → DeclaredVar nrExecve i VarArgKind.argv := by
    decide +kernel
  refine ⟨⟨_, [openA], rfl⟩, by decide +kernel, by decide +kernel, ?_⟩
  rintro ⟨i, ⟨schema, mem, same, -, code, novector⟩, -⟩
  have call : ev.syscallId = nrExecve := rfl
  rw [call] at same novector
  exact novector (none i schema mem same code)

end Litrace.Trace
