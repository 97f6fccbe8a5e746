import Litrace.Bpf.SchemaGenerator
import Litrace.Trace.VarPointers

/-!
# Modes and masks

The generator classifies an argument as `ARG_MODE` by its name, `mode` or `mask`, and
`formatMode` writes the 16 bits that a file mode has.  The masks of `inotify_add_watch`,
`fanotify_mark`, `statx` and `futex_wake` have that name and more bits.

`modes_render_apart_iff` says which values of an argument are told apart.

The statement is about any two events of a call in which the argument has the code, as it
has in those that `trace_sys_exit` makes (`exitEvent_mode`), and about all arguments that
have it, whatever their declared type.  Of one declared with 16 bits all is shown; of a
mask it says what is lost.
-/

namespace Litrace.Bpf

/-- The calls with a mode that have captures. -/
theorem modes_capturedCalls : ∀ schema ∈ syscallSchemas, ∀ i : Fin 6,
    schema.argTypes.get i = ArgType.mode → schema.syscallId ∉ capturedCalls ∨
      (schema.syscallId, i) ∈ [(nrOpen, (2 : Fin 6)), (nrAccess, 1), (nrOpenat, 3),
        (nrFaccessat, 2), (nrFaccessat2, 2), (nrStatx, 3)] := by
  decide +kernel

section

variable {schema : SyscallArgSchema} {i : Fin 6}

/-- No mode is captured. -/
theorem captures_of_mode (mem : schema ∈ syscallSchemas)
    (typed : schema.argTypes.get i = ArgType.mode) (ret : Int64) (args : Vector UInt64 6) :
    ∀ c ∈ captures schema.syscallId ret args, c.argIndex ≠ i := by
  rcases modes_capturedCalls schema mem i typed with away | listed
  · simp only [capturedCalls, List.mem_cons, List.not_mem_nil, or_false, not_or] at away
    have none : captures schema.syscallId ret args = [] := by simp [captures, away]
    rw [none]
    intro c mem
    cases mem
  · simp only [List.mem_cons, Prod.mk.injEq, List.not_mem_nil, or_false] at listed
    rcases listed with ⟨call, rfl⟩ | ⟨call, rfl⟩ | ⟨call, rfl⟩ | ⟨call, rfl⟩ | ⟨call, rfl⟩ |
      ⟨call, rfl⟩ <;> rw [call]
    · exact List.forall_mem_singleton.2 (by decide)
    · exact List.forall_mem_singleton.2 (by decide)
    · exact List.forall_mem_singleton.2 (by decide)
    · exact List.forall_mem_singleton.2 (by decide)
    · exact List.forall_mem_singleton.2 (by decide)
    · refine List.forall_mem_cons.2 ⟨by decide, ?_⟩
      show ∀ c ∈ (if 0 ≤ ret then [Capture.struct 4 sizeofStatx] else []), c.argIndex ≠ 3
      split
      · exact List.forall_mem_singleton.2 (by decide)
      · exact List.forall_mem_nil _

/-- A mode keeps its code in the event of the call. -/
theorem exitEvent_mode (mem : UserMemory) (task : Task) (state : SyscallData) (ctx : SysExitArgs)
    (now : UInt64) (snapshot : Option ExecveSnapshot) (listed : schema ∈ syscallSchemas)
    (typed : schema.argTypes.get i = ArgType.mode) (call : state.syscallId = schema.syscallId) :
    (exitEvent mem task state ctx now snapshot).argTypes.get i = ArgType.mode := by
  have uncaptured := captures_of_mode listed typed ctx.ret state.args
  rw [← call] at uncaptured
  rw [exitEvent_argTypes_of_uncaptured mem task state ctx now snapshot fun _ => uncaptured, call,
    setSyscallArgSchema, find?_of_mem_syscallSchemas listed]
  exact typed

end

end Litrace.Bpf

namespace Litrace.Trace

open Bpf Strconv

/-! ## Sixteen bits -/

theorem toNat_maskMode (raw : UInt64) : (raw.toUInt32 &&& 0xffff).toNat = raw.toUInt16.toNat := by
  rw [UInt32.toNat_and, UInt64.toNat_toUInt32, UInt64.toNat_toUInt16]
  show raw.toNat % 2 ^ 32 &&& (2 ^ 16 - 1) = raw.toNat % 2 ^ 16
  rw [Nat.and_two_pow_sub_one_eq_mod]
  omega

/-- A rendered mode tells its low 16 bits. -/
theorem formatMode_inj {raw raw' : UInt64} :
    formatMode raw = formatMode raw' ↔ raw.toUInt16 = raw'.toUInt16 := by
  rw [formatMode, formatMode, toNat_maskMode, toNat_maskMode, octal_injective.eq_iff,
    UInt16.toNat_inj]

/-! ## Arguments typed as modes -/

/-- The modes of calls with a formatter of their own are left to the others. -/
theorem modes_formatters : ∀ schema ∈ syscallSchemas, ∀ i : Fin 6,
    schema.argTypes.get i = ArgType.mode → LeftToOthers schema.syscallId i := by
  decide +kernel

section

variable {schema : SyscallArgSchema} {ev ev' : Event} {i : Fin 6}

/-- A descriptor makes no difference to a mode. -/
theorem formatVarArg_of_mode (code : ev.argTypes.get i = ArgType.mode) :
    formatVarArg ev i.val = .ok none := by
  have notKind : isVarArgKind ArgType.mode = false := by decide
  rw [formatVarArg, indexed_isVarArgEnabled, Checked.ok_bind, code, notKind, Bool.and_false]
  rfl

theorem formatArg_of_mode (mem : schema ∈ syscallSchemas)
    (typed : schema.argTypes.get i = ArgType.mode) (call : ev.syscallId = schema.syscallId)
    (code : ev.argTypes.get i = ArgType.mode) :
    formatArg ev i.val = .ok (formatMode (ev.args.get i)) := by
  have left : LeftToOthers ev.syscallId i := call ▸ modes_formatters schema mem i typed
  rw [formatArg_of_default (formatArgSpecial_of_left left) (formatVarArg_of_mode code), code]
  rfl

/-- **Two values of a mode or mask** that differ in their low 32 bits are rendered differently
exactly when they differ in their low 16 bits.

Values that agree in their low 32 bits are not asked for, since of an argument of 32 bits the
rest means nothing. -/
theorem modes_render_apart_iff (mem : schema ∈ syscallSchemas)
    (typed : schema.argTypes.get i = ArgType.mode)
    (call : ev.syscallId = schema.syscallId) (code : ev.argTypes.get i = ArgType.mode)
    (call' : ev'.syscallId = schema.syscallId) (code' : ev'.argTypes.get i = ArgType.mode) :
    ((ev.args.get i).toUInt32 ≠ (ev'.args.get i).toUInt32 →
        formatArg ev i.val ≠ formatArg ev' i.val) ↔
      (ev.args.get i).toUInt32 = (ev'.args.get i).toUInt32 ∨
        (ev.args.get i).toUInt16 ≠ (ev'.args.get i).toUInt16 := by
  have apart : formatArg ev i.val ≠ formatArg ev' i.val ↔
      (ev.args.get i).toUInt16 ≠ (ev'.args.get i).toUInt16 := by
    rw [formatArg_of_mode mem typed call code, formatArg_of_mode mem typed call' code', Ne,
      Except.ok.injEq, formatMode_inj]
  rw [apart, ← or_iff_not_imp_left]

end

/-- `inotify_add_watch(4, .., mask)`, as the tracer has recorded it. -/
def addedWatch (mask : UInt64) : SyscallData :=
  ⟨10, 254, #v[4, 0x7fff0000, mask, 0, 0, 0], 1, true⟩

/-- The events that are submitted for two masks. -/
theorem modes_render_apart_iff_addedWatch :
    let ev (mask : UInt64) := exitEvent .unmapped ⟨100, 100⟩ (addedWatch mask) ⟨254, 1⟩ 11 none
    (((ev 0x100).args.get 2).toUInt32 ≠ ((ev 0x80000200).args.get 2).toUInt32 →
        formatArg (ev 0x100) 2 ≠ formatArg (ev 0x80000200) 2) ↔
      ((ev 0x100).args.get 2).toUInt32 = ((ev 0x80000200).args.get 2).toUInt32 ∨
        ((ev 0x100).args.get 2).toUInt16 ≠ ((ev 0x80000200).args.get 2).toUInt16 := by
  intro ev
  have listed : SyscallArgSchema.entry 254 [ArgType.fd, VarArgKind.string, ArgType.mode] ∈
      syscallSchemas := by decide
  have call : ∀ mask, (ev mask).syscallId = 254 := fun mask =>
    (exitEvent_header .unmapped (addedWatch mask) ⟨100, 100⟩ ⟨254, 1⟩ 11 none).syscallId
  have code : ∀ mask, (ev mask).argTypes.get 2 = ArgType.mode := fun mask =>
    exitEvent_mode .unmapped ⟨100, 100⟩ (addedWatch mask) ⟨254, 1⟩ 11 none listed rfl rfl
  exact modes_render_apart_iff listed rfl (call 0x100) (code 0x100) (call 0x80000200)
    (code 0x80000200)

/-- The same event without captures. -/
def inotifyAddWatch (mask : UInt64) : Event :=
  setSyscallArgSchema 254
    { Event.zero with
      syscallId := 254, ret := 1, pid := 100, args := #v[4, 0x7fff0000, mask, 0, 0, 0] }

/-- **A mask loses its high bits**: `IN_CREATE` is rendered alike with and without
`IN_ONESHOT`, though the argument is declared with 32 bits. -/
theorem oneshot_is_not_rendered :
    Generator.normalizedTypeOf "u32 mask".toList = "u32".toList ∧
      Generator.classifyArgument (fun _ => false) "inotify_add_watch".toList 2 "u32 mask".toList =
        .argMode ∧
      SyscallArgSchema.entry 254 [ArgType.fd, VarArgKind.string, Generator.ArgClass.argMode.code] ∈
        syscallSchemas ∧
      (0x100 : UInt64).toUInt32 ≠ (0x80000100 : UInt64).toUInt32 ∧
      formatArg (inotifyAddWatch 0x100) 2 = formatArg (inotifyAddWatch 0x80000100) 2 := by
  decide

end Litrace.Trace
