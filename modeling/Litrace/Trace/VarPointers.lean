import Litrace.Bpf.VarSchema
import Litrace.Trace.Format
import Litrace.Trace.Payload

/-!
# Pointers that are taken for numbers

The kinds of variable arguments share their codes with `ARG_INT`, `ARG_UINT` and
`ARG_FD`, and only a descriptor tells which of the two is meant.  A variable
argument that was not captured has none, so its pointer is rendered as the number
its kind stands for: of a string or a vector the low 32 bits, with a sign.

That an event has no descriptor for an argument is not an accident.  Some
arguments that the schema types as strings are never captured, and so the number
is what is printed of them on every event.
-/

namespace Litrace.Trace

open Bpf
open Strconv

/-- The event with another pointer at an argument. -/
def withPointer (ev : Event) (i : Fin 6) (p : UInt64) : Event :=
  { ev with args := ev.args.setIfInBounds i p }

/-- The argument is not rendered as a number of the argument types, and the rendering
tells all pointers apart. -/
def PointerKept (ev : Event) (i : Fin 6) : Prop :=
  (∀ typ ∈ [ArgType.int, ArgType.uint, ArgType.fd],
    formatArg ev i.val ≠ .ok (formatRaw ev.syscallId i.val typ (ev.args.get i))) ∧
  ∀ p, p ≠ ev.args.get i → formatArg (withPointer ev i p) i.val ≠ formatArg ev i.val

/-! ## Declared arguments -/

theorem varArgSchemas_kinds :
    ∀ row ∈ varArgSchemas, ∀ arg ∈ row.2,
      arg.2 ∈ [VarArgKind.string, VarArgKind.bytes, VarArgKind.argv] :=
  forall_varArgSchemas (by decide)

/-- Formatters of single syscalls leave the variable arguments to the others. -/
theorem varArgSchemas_formatters :
    ∀ row ∈ varArgSchemas, ∀ arg ∈ row.2, LeftToOthers row.1 arg.1 :=
  forall_varArgSchemas (by decide)

section Declared

variable {ev : Event} {i : Fin 6} {kind : UInt8}

/-- No formatter of a single syscall renders a variable argument. -/
theorem formatArgSpecial_of_declared (declared : DeclaredVar ev.syscallId i kind) :
    formatArgSpecial ev i.val = .ok none := by
  obtain ⟨row, mem, same, arg⟩ := declared
  exact formatArgSpecial_of_left (same ▸ varArgSchemas_formatters row mem _ arg)

/-- Without a descriptor a variable argument is rendered by its code. -/
theorem formatArg_of_missing (declared : DeclaredVar ev.syscallId i kind)
    (missing : findVarArgDesc ev i = none) :
    formatArg ev i.val =
      .ok (formatRaw ev.syscallId i.val (ev.argTypes.get i) (ev.args.get i)) :=
  formatArg_of_default (formatArgSpecial_of_declared declared) (formatVarArg_of_none missing)

/-- The code of a variable argument makes it a number: of a buffer all bits, else the low
half of them. -/
theorem formatRaw_of_declared (declared : DeclaredVar ev.syscallId i kind) (raw : UInt64) :
    formatRaw ev.syscallId i.val kind raw =
      if kind = VarArgKind.bytes then decimal raw.toNat else decimal (signed32 raw).toInt := by
  obtain ⟨row, mem, same, arg⟩ := declared
  have notLseek : ∀ row ∈ varArgSchemas, row.1 ≠ Unix.sysLseek := by decide
  have call : ev.syscallId ≠ Unix.sysLseek := same ▸ notLseek row mem
  have listed := varArgSchemas_kinds row mem _ arg
  simp only [List.mem_cons, List.not_mem_nil, or_false] at listed
  rcases listed with rfl | rfl | rfl
  · show (if ev.syscallId = Unix.sysLseek ∧ (i.val : ℤ) = 2 then formatWhence raw
      else decimal (signed32 raw).toInt) = decimal (signed32 raw).toInt
    exact if_neg fun h => call h.1
  · rfl
  · rfl

/-- Its code is also one of a number. -/
theorem number_of_declared (declared : DeclaredVar ev.syscallId i kind) :
    kind ∈ [ArgType.int, ArgType.uint, ArgType.fd] := by
  obtain ⟨row, mem, same, arg⟩ := declared
  exact varArgSchemas_kinds row mem _ arg

end Declared

/-- The low 32 bits are what a signed rendering of them tells. -/
theorem decimal_signed32_inj {raw raw' : UInt64} :
    decimal (signed32 raw).toInt = decimal (signed32 raw').toInt ↔
      raw.toUInt32 = raw'.toUInt32 := by
  constructor
  · intro same
    have signed := decimal_injective same
    rw [signed32, signed32, Int32.toInt_toInt64, Int32.toInt_toInt64, Int32.toInt_inj] at signed
    have low := congrArg Int32.toUInt32 signed
    rwa [UInt32.toUInt32_toInt32, UInt32.toUInt32_toInt32] at low
  · intro same
    rw [signed32, signed32, same]

/-- A variable argument for which no descriptor was recorded was not captured, and has
the code of its kind. -/
theorem argTypes_of_missing (mem : UserMemory) (task : Task) (state : SyscallData)
    (ctx : SysExitArgs) (now : UInt64) (snapshot : Option ExecveSnapshot) {i : Fin 6}
    {kind : UInt8} (declared : DeclaredVar state.syscallId i kind)
    (missing : findVarArgDesc (exitEvent mem task state ctx now snapshot) i = none) :
    (exitEvent mem task state ctx now snapshot).argTypes.get i = kind := by
  refine exitEvent_argTypes mem task state ctx now snapshot declared fun other c captured => ?_
  rintro rfl
  obtain ⟨cs, delivered, k, h, outcome, first⟩ :=
    exitEvent_slot mem task state ctx now snapshot captured other
  have found := findVarArgDesc_of_delivered delivered k h first
  rw [outcome, Capture.outcome_argIndex, missing] at found
  cases found

/-! ## No such pointer is kept -/

/-- Two pointers that are rendered alike: of a buffer only the same, else any two with
the same low half. -/
def SameRendering (kind : UInt8) (p p' : UInt64) : Prop :=
  if kind = VarArgKind.bytes then p = p' else p.toUInt32 = p'.toUInt32

/-- **The pointer of a variable argument without a descriptor is rendered as a
number**, on every event: as the number its kind has the code of, and so for a
string or a vector alike with every pointer of the same low half.

The last part makes the loss visible: of two pointers with the same low half the same text is
printed, so the text cannot tell which it was. -/
theorem var_pointer_never_kept (mem : UserMemory) (task : Task) (state : SyscallData)
    (ctx : SysExitArgs) (now : UInt64) (snapshot : Option ExecveSnapshot) (i : Fin 6)
    (kind : UInt8) (declared : DeclaredVar state.syscallId i kind)
    (missing : findVarArgDesc (exitEvent mem task state ctx now snapshot) i = none) :
    let ev := exitEvent mem task state ctx now snapshot
    ¬ PointerKept ev i ∧
      (kind ∈ [ArgType.int, ArgType.uint, ArgType.fd] ∧
        formatArg ev i.val = .ok (formatRaw ev.syscallId i.val kind (ev.args.get i))) ∧
      ∀ p, formatArg (withPointer ev i p) i.val = formatArg ev i.val ↔
        SameRendering kind p (ev.args.get i) := by
  intro ev
  have typed : ev.argTypes.get i = kind :=
    argTypes_of_missing mem task state ctx now snapshot declared missing
  have call : ev.syscallId = state.syscallId :=
    (exitEvent_header mem state task ctx now snapshot).syscallId
  have declared' : DeclaredVar ev.syscallId i kind := by rwa [call]
  have rendered : formatArg ev i.val =
      .ok (formatRaw ev.syscallId i.val kind (ev.args.get i)) := by
    rw [formatArg_of_missing declared' missing, typed]
  have number := number_of_declared declared'
  refine ⟨fun kept => kept.1 kind number rendered, ⟨number, rendered⟩, ?_⟩
  intro p
  have changed : formatArg (withPointer ev i p) i.val =
      .ok (formatRaw ev.syscallId i.val kind p) := by
    have at' : (withPointer ev i p).args.get i = p := Vector.getElem_setIfInBounds_self i.isLt
    have default : formatArg (withPointer ev i p) i.val = .ok (formatRaw ev.syscallId i.val
        (ev.argTypes.get i) ((withPointer ev i p).args.get i)) :=
      formatArg_of_missing declared' missing
    rw [default, at']
    exact congrArg (fun typ => Except.ok (formatRaw ev.syscallId i.val typ p)) typed
  rw [changed, rendered, Except.ok.injEq, formatRaw_of_declared declared',
    formatRaw_of_declared declared', SameRendering]
  split
  · rw [decimal_injective.eq_iff, Int.natCast_inj, UInt64.toNat_inj]
  · exact decimal_signed32_inj

/-- `mkdir("/a", 0o755)`, whose path is not captured. -/
def mkdirA : SyscallData := ⟨10, 83, #v[4096, 0o755, 0, 0, 0, 0], 1, true⟩

theorem var_pointer_never_kept_mkdirA :
    let ev := exitEvent slashA ⟨100, 100⟩ mkdirA ⟨83, 0⟩ 11 none
    ¬ PointerKept ev 0 ∧
      (VarArgKind.string ∈ [ArgType.int, ArgType.uint, ArgType.fd] ∧
        formatArg ev (0 : Fin 6).val =
          .ok (formatRaw ev.syscallId (0 : Fin 6).val VarArgKind.string (ev.args.get 0))) ∧
      ∀ p, formatArg (withPointer ev 0 p) (0 : Fin 6).val = formatArg ev (0 : Fin 6).val ↔
        SameRendering VarArgKind.string p (ev.args.get 0) :=
  var_pointer_never_kept slashA ⟨100, 100⟩ mkdirA ⟨83, 0⟩ 11 none 0 VarArgKind.string
    (by decide) (by decide)

/-- The path of a `mkdir` is printed as 4096, and so is every pointer 4 GiB further on. -/
theorem mkdir_path_loses_bits :
    let ev := exitEvent slashA ⟨100, 100⟩ mkdirA ⟨83, 0⟩ 11 none
    DeclaredVar ev.syscallId 0 VarArgKind.string ∧ findVarArgDesc ev 0 = none ∧
      formatArg ev 0 = .ok (GoString.ascii "4096") ∧
      formatArg (withPointer ev 0 0x100001000) 0 = .ok (GoString.ascii "4096") := by
  refine ⟨by decide, by decide, ?_, ?_⟩ <;> rfl

end Litrace.Trace
