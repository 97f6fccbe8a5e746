import Litrace.Syscalls
import Litrace.Trace.VarArgs

/-!
# Rendering an event

`format.go`, `format_args.go`, `format_ret.go` and `format_var.go`: the text of an
event.  A function that indexes an array of the event may panic and says so in its
type.  The texts of error numbers come from outside.

Go's maps of names are lists of pairs in the order of the source, since
`formatFlags` goes through them in that order.  The formatters of single syscalls
are a table as in the source, from which `formatArg` takes the function for an
argument, and the default if there is none.
-/

namespace Litrace.Trace

open GoString (ascii)
open Strconv Bytes

/-! ## Constants -/

namespace Unix

def sysFstat : Int64 := 5
def sysLseek : Int64 := 8
def sysMmap : Int64 := 9
def sysUmask : Int64 := 95

def oAccmode : UInt64 := 0x3
def oCreat : UInt64 := 0x40
def oTmpfile : UInt64 := 0x410000

def sIfmt : UInt32 := 0xf000

/-- `unsafe.Sizeof(Stat_t{})`. -/
def sizeofStat : ℕ := 144

/-- `unsafe.Sizeof(Statx_t{})`. -/
def sizeofStatx : ℕ := 256

end Unix

/-- A value and its name: `enumEntry`, `flagEntry`. -/
structure NamedValue where
  value : UInt64
  name : GoString

/-- `openModeAccess`. -/
def openModeAccess : List NamedValue :=
  [⟨0x0, ascii "O_RDONLY"⟩, ⟨0x1, ascii "O_WRONLY"⟩, ⟨0x2, ascii "O_RDWR"⟩]

/-- `openModeFlags`. -/
def openModeFlags : List NamedValue :=
  [⟨0x400, ascii "O_APPEND"⟩, ⟨0x2000, ascii "O_ASYNC"⟩, ⟨0x80000, ascii "O_CLOEXEC"⟩,
    ⟨Unix.oCreat, ascii "O_CREAT"⟩, ⟨0x4000, ascii "O_DIRECT"⟩, ⟨0x80, ascii "O_EXCL"⟩,
    ⟨0x40000, ascii "O_NOATIME"⟩, ⟨0x100, ascii "O_NOCTTY"⟩, ⟨0x20000, ascii "O_NOFOLLOW"⟩,
    ⟨0x800, ascii "O_NONBLOCK"⟩, ⟨0x200000, ascii "O_PATH"⟩, ⟨0x101000, ascii "O_SYNC"⟩,
    ⟨Unix.oTmpfile, ascii "O_TMPFILE"⟩, ⟨0x10000, ascii "O_DIRECTORY"⟩,
    ⟨0x1000, ascii "O_DSYNC"⟩, ⟨0x200, ascii "O_TRUNC"⟩]

/-- `mmapProtFlags`. -/
def mmapProtFlags : List NamedValue :=
  [⟨0x1, ascii "PROT_READ"⟩, ⟨0x2, ascii "PROT_WRITE"⟩, ⟨0x4, ascii "PROT_EXEC"⟩]

/-- `mmapFlags`. -/
def mmapFlags : List NamedValue :=
  [⟨0x1, ascii "MAP_SHARED"⟩, ⟨0x2, ascii "MAP_PRIVATE"⟩, ⟨0x10, ascii "MAP_FIXED"⟩,
    ⟨0x20, ascii "MAP_ANONYMOUS"⟩, ⟨0x8000, ascii "MAP_POPULATE"⟩,
    ⟨0x10000, ascii "MAP_NONBLOCK"⟩, ⟨0x20000, ascii "MAP_STACK"⟩,
    ⟨0x40000, ascii "MAP_HUGETLB"⟩, ⟨0x800, ascii "MAP_DENYWRITE"⟩,
    ⟨0x1000, ascii "MAP_EXECUTABLE"⟩, ⟨0x2000, ascii "MAP_LOCKED"⟩,
    ⟨0x100, ascii "MAP_GROWSDOWN"⟩, ⟨0x4000, ascii "MAP_NORESERVE"⟩]

/-- `unix.ErrnoName` and `Errno.Error`. -/
structure ErrnoTexts where
  errnoName : UInt64 → GoString
  error : UInt64 → GoString

/-! ## Values -/

/-- `formatEnum`. -/
def formatEnum (raw : UInt64) (table : List NamedValue) (fallback : UInt64 → GoString) :
    GoString :=
  match table.find? fun entry => entry.value = raw with
  | some entry => entry.name
  | none => fallback raw

/-- One round of the loop of `formatFlags`, on the parts and the remaining bits. -/
def takeFlag (acc : List GoString × UInt64) (entry : NamedValue) : List GoString × UInt64 :=
  if entry.value = 0 then acc
  else if acc.2 &&& entry.value = entry.value then
    (acc.1 ++ [entry.name], acc.2 &&& ~~~entry.value)
  else acc

/-- `formatFlags`. -/
def formatFlags (raw : UInt64) (zero : GoString) (table : List NamedValue) : GoString :=
  if raw = 0 ∧ zero ≠ [] then zero
  else
    let (parts, remaining) := table.foldl takeFlag ([], raw)
    let parts :=
      if remaining ≠ 0 ∨ parts.length = 0 then parts ++ [hex remaining.toNat] else parts
    join parts (ascii "|")

/-- `int64(int32(raw))`. -/
def signed32 (raw : UInt64) : Int64 := raw.toUInt32.toInt32.toInt64

/-- `formatDirFD`. -/
def formatDirFD (raw : UInt64) : GoString :=
  let fd := signed32 raw
  if fd = Unix.atFdcwd then ascii "AT_FDCWD" else decimal fd.toInt

/-- `formatPtr`. -/
def formatPtr (raw : UInt64) : GoString :=
  if raw = 0 then ascii "NULL" else hex raw.toNat

/-- `formatMode`. -/
def formatMode (raw : UInt64) : GoString := octal (raw.toUInt32 &&& 0xffff).toNat

/-- `formatWhence`. -/
def formatWhence (raw : UInt64) : GoString :=
  let whence := signed32 raw
  if whence = 0 then ascii "SEEK_SET"
  else if whence = 1 then ascii "SEEK_CUR"
  else if whence = 2 then ascii "SEEK_END"
  else if whence = 3 then ascii "SEEK_DATA"
  else if whence = 4 then ascii "SEEK_HOLE"
  else decimal whence.toInt

/-- `formatMmapProt`. -/
def formatMmapProt (raw : UInt64) : GoString :=
  if raw = 0 then ascii "PROT_NONE" else formatFlags raw [] mmapProtFlags

/-- `formatMmapFlags`. -/
def formatMmapFlags (raw : UInt64) : GoString := formatFlags raw [] mmapFlags

/-- `formatOpenFlags`. -/
def formatOpenFlags (raw : UInt64) : GoString :=
  let access := formatEnum (raw &&& Unix.oAccmode) openModeAccess fun v => hex v.toNat
  let rest := raw &&& ~~~Unix.oAccmode
  if rest = 0 then access else access ++ ascii "|" ++ formatFlags rest [] openModeFlags

/-- `formatStatFileType`. -/
def formatStatFileType (mode : UInt32) : GoString :=
  let type := mode &&& Unix.sIfmt
  if type = 0x8000 then ascii "S_IFREG"
  else if type = 0x4000 then ascii "S_IFDIR"
  else if type = 0xa000 then ascii "S_IFLNK"
  else if type = 0x2000 then ascii "S_IFCHR"
  else if type = 0x6000 then ascii "S_IFBLK"
  else if type = 0x1000 then ascii "S_IFIFO"
  else if type = 0xc000 then ascii "S_IFSOCK"
  else []

/-- `formatStatMode`. -/
def formatStatMode (mode : UInt32) : GoString :=
  let fileType := formatStatFileType mode
  let perms := octal (mode &&& 0o7777).toNat
  if fileType = [] then perms else fileType ++ ascii "|" ++ perms

/-- `formatRetDefault`. -/
def formatRetDefault (texts : ErrnoTexts) (ret : Int64) : GoString :=
  if 0 ≤ ret then decimal ret.toInt
  else
    let errno := (-ret).toUInt64
    let name := texts.errnoName errno
    if name = [] then ascii "-1 (error " ++ decimal (-ret).toInt ++ ascii ")"
    else ascii "-1 " ++ name ++ ascii " (" ++ texts.error errno ++ ascii ")"

/-- `formatRet`. -/
def formatRet (texts : ErrnoTexts) (ev : Event) : GoString :=
  if ev.ret < 0 then formatRetDefault texts ev.ret
  else if ev.syscallId = Unix.sysMmap then formatPtr ev.ret.toUInt64
  else if ev.syscallId = Unix.sysUmask then formatMode ev.ret.toUInt64
  else formatRetDefault texts ev.ret

/-! ## Captured data -/

/-- `formatVarString`. -/
def formatVarString (ev : Event) (desc : VarArgDesc) : Checked GoString := do
  if desc.flags &&& VarFlag.nullPointer ≠ 0 then return ascii "NULL"
  if desc.flags &&& VarFlag.readError ≠ 0 then return ascii "<?>"
  match ← Indexed.varPayloadSlice ev desc with
  | none => return ascii "<?>"
  | some payload =>
      let quoted := quoteToASCII payload
      return if desc.flags &&& VarFlag.truncated ≠ 0 then quoted ++ ascii "..." else quoted

/-- `formatVarBytes`; its body is that of `formatVarString`. -/
def formatVarBytes (ev : Event) (desc : VarArgDesc) : Checked GoString := formatVarString ev desc

/-- What is behind a separator is shorter than the payload. -/
theorem length_lt_of_slice_eq {payload rest : GoString} {idx : ℕ} (nonempty : 0 < payload.length)
    (cut : Checked.slice payload (idx + 1 : ℕ) payload.length = .ok rest) :
    rest.length < payload.length := by
  rw [Checked.slice] at cut
  split at cut
  next inside =>
    cases cut
    rw [List.length_take, List.length_drop]
    omega
  next => cases cut

/-- The loop of `formatVarArgv`: the parts before they are quoted. -/
def argvParts (payload : GoString) : Checked (List GoString) :=
  if _ : 0 < payload.length then
    match payload.idxOf? 0 with
    | none => .ok [payload]
    | some idx =>
        match _ : Checked.slice payload (idx + 1 : ℕ) payload.length with
        | .error panic => .error panic
        | .ok rest => do
            let part ← Checked.slice payload 0 idx
            return part :: (← argvParts rest)
  else .ok []
termination_by payload.length
decreasing_by exact length_lt_of_slice_eq ‹_› ‹_›

/-- `formatVarArgv`. -/
def formatVarArgv (ev : Event) (desc : VarArgDesc) : Checked GoString := do
  if desc.flags &&& VarFlag.nullPointer ≠ 0 then return ascii "NULL"
  match ← Indexed.varPayloadSlice ev desc with
  | none => return ascii "<?>"
  | some payload =>
      let parts := (← argvParts payload).map quoteToASCII
      let parts := if desc.flags &&& VarFlag.readError ≠ 0 then parts ++ [ascii "<?>"] else parts
      let rendered := ascii "[" ++ join parts (ascii ", ") ++ ascii "]"
      return if desc.flags &&& VarFlag.truncated ≠ 0 then rendered ++ ascii "..." else rendered

/-- `formatVarArg`. -/
def formatVarArg (ev : Event) (idx : ℤ) : Checked (Option GoString) := do
  if !(← Indexed.isVarArgEnabled ev idx) then return none
  match ← Indexed.findVarArgDesc ev idx with
  | none => return none
  | some desc =>
      let typ ← Checked.index ev.argTypes idx
      if typ = VarArgKind.string then return some (← formatVarString ev desc)
      else if typ = VarArgKind.bytes then return some (← formatVarBytes ev desc)
      else if typ = VarArgKind.argv then return some (← formatVarArgv ev desc)
      else return some (ascii "<?>")

/-- `formatStatArg`. -/
def formatStatArg (idx : ℤ) (decode : GoString → Checked (Option GoString)) (ev : Event)
    (argIdx : ℤ) : Checked (Option GoString) := do
  if argIdx ≠ idx ∨ ev.ret < 0 then return none
  match ← Indexed.findVarArgDesc ev argIdx with
  | none => return none
  | some desc =>
      if desc.flags ≠ VarFlag.none then return some (ascii "<?>")
      match ← Indexed.varPayloadSlice ev desc with
      | none => return some (ascii "<?>")
      | some payload => return some ((← decode payload).getD (ascii "<?>"))

/-- `formatAtStatArg`. -/
def formatAtStatArg (resultIdx : ℤ) (decode : GoString → Checked (Option GoString)) (ev : Event)
    (argIdx : ℤ) : Checked (Option GoString) := do
  if argIdx = 0 then return some (formatDirFD (← Checked.index ev.args argIdx))
  else formatStatArg resultIdx decode ev argIdx

/-- The integer of `size` bytes at an offset of a captured structure. -/
def fieldAt (bytes : GoString) (off size : ℕ) : ℕ := leNat ((bytes.drop off).take size)

/-- `formatCapturedStat`. -/
def formatCapturedStat (payload : GoString) : Checked (Option GoString) := do
  if payload.length < Unix.sizeofStat then return none
  let st ← Checked.slice payload 0 Unix.sizeofStat
  let mode := UInt32.ofNat (fieldAt st 24 4)
  let size := (UInt64.ofNat (fieldAt st 48 8)).toInt64
  return some (ascii "\x7bst_mode=" ++ formatStatMode mode ++ ascii ", st_size=" ++
    decimal size.toInt ++ ascii ", ...\x7d")

/-- `formatCapturedStatx`. -/
def formatCapturedStatx (payload : GoString) : Checked (Option GoString) := do
  if payload.length < Unix.sizeofStatx then return none
  let stx ← Checked.slice payload 0 Unix.sizeofStatx
  let mode := UInt16.ofNat (fieldAt stx 28 2)
  let size := UInt64.ofNat (fieldAt stx 40 8)
  return some (ascii "\x7bstx_mode=" ++ formatStatMode mode.toUInt32 ++ ascii ", stx_size=" ++
    decimal size.toNat ++ ascii ", ...\x7d")

/-! ## Formatters of single syscalls -/

/-- `formatMmapArg`. -/
def formatMmapArg (ev : Event) (idx : ℤ) : Checked (Option GoString) := do
  if idx = 0 then return some (formatPtr (← Checked.index ev.args idx))
  else if idx = 2 then return some (formatMmapProt (← Checked.index ev.args idx))
  else if idx = 3 then return some (formatMmapFlags (← Checked.index ev.args idx))
  else return none

/-- `formatOpenArg`. -/
def formatOpenArg (flagsIdx dirfdIdx : ℤ) (ev : Event) (idx : ℤ) : Checked (Option GoString) := do
  if idx = flagsIdx then return some (formatOpenFlags (← Checked.index ev.args idx))
  else if idx = dirfdIdx then return some (formatDirFD (← Checked.index ev.args idx))
  else return none

/-- `openNeedsMode`. -/
def openNeedsMode (flags : UInt64) : Bool :=
  flags &&& Unix.oCreat != 0 || flags &&& Unix.oTmpfile == Unix.oTmpfile

/-- The number of arguments, at most the length of the array. -/
def clampedArgCount (ev : Event) : ℕ := if 6 < ev.argCount.toNat then 6 else ev.argCount.toNat

/-- `effectiveOpenArgCount`. -/
def effectiveOpenArgCount (flagsIdx : ℤ) (modeIdx : ℕ) (ev : Event) : Checked ℕ := do
  let count := clampedArgCount ev
  if modeIdx < count then
    if openNeedsMode (← Checked.index ev.args flagsIdx) = false then return modeIdx
  return count

/-- `syscallFormatter`; `none` is a nil field. -/
structure SyscallFormatter where
  formatArg : Option (Event → ℤ → Checked (Option GoString))
  effectiveArgCount : Option (Event → Checked ℕ)

/-- `syscallFormatters`. -/
def syscallFormatters : List (Int64 × SyscallFormatter) :=
  [(Unix.sysMmap, ⟨some formatMmapArg, none⟩),
    (Unix.sysOpen, ⟨some (formatOpenArg 1 (-1)), some (effectiveOpenArgCount 1 2)⟩),
    (Unix.sysOpenat, ⟨some (formatOpenArg 2 0), some (effectiveOpenArgCount 2 3)⟩),
    (Unix.sysStat, ⟨some (formatStatArg 1 formatCapturedStat), none⟩),
    (Unix.sysLstat, ⟨some (formatStatArg 1 formatCapturedStat), none⟩),
    (Unix.sysFstat, ⟨some (formatStatArg 1 formatCapturedStat), none⟩),
    (Unix.sysNewfstatat, ⟨some (formatAtStatArg 2 formatCapturedStat), none⟩),
    (Unix.sysStatx, ⟨some (formatAtStatArg 4 formatCapturedStatx), none⟩)]

/-- `lookupSyscallFormatter`. -/
def lookupSyscallFormatter (ev : Event) : Option SyscallFormatter :=
  syscallFormatters.lookup ev.syscallId

/-! ## The line -/

/-- The `switch` of `formatArgDefault`. -/
def formatRaw (syscallId : Int64) (idx : ℤ) (typ : UInt8) (raw : UInt64) : GoString :=
  if typ = ArgType.fd then decimal (signed32 raw).toInt
  else if typ = ArgType.int then
    if syscallId = Unix.sysLseek ∧ idx = 2 then formatWhence raw
    else decimal (signed32 raw).toInt
  else if typ = ArgType.uint then decimal raw.toNat
  else if typ = ArgType.mode then formatMode raw
  else if typ = ArgType.flags then hex raw.toNat
  else if typ = ArgType.off then decimal raw.toInt64.toInt
  else if typ = ArgType.ptr then formatPtr raw
  else if typ = ArgType.raw then hex raw.toNat
  else if typ = ArgType.none then ascii "?"
  else hex raw.toNat

/-- `formatArgDefault`. -/
def formatArgDefault (ev : Event) (idx : ℤ) : Checked GoString := do
  let typ ← Checked.index ev.argTypes idx
  let raw ← Checked.index ev.args idx
  return formatRaw ev.syscallId idx typ raw

/-- What the formatter of the syscall renders of an argument, if there is one and it
does. -/
def formatArgSpecial (ev : Event) (idx : ℤ) : Checked (Option GoString) :=
  match (lookupSyscallFormatter ev).bind SyscallFormatter.formatArg with
  | some formatArg => formatArg ev idx
  | none => return none

/-- `formatArg`. -/
def formatArg (ev : Event) (idx : ℤ) : Checked GoString := do
  match ← formatArgSpecial ev idx with
  | some rendered => return rendered
  | none =>
      match ← formatVarArg ev idx with
      | some rendered => return rendered
      | none => formatArgDefault ev idx

/-- `effectiveArgCount`. -/
def effectiveArgCount (ev : Event) : Checked ℕ :=
  match (lookupSyscallFormatter ev).bind SyscallFormatter.effectiveArgCount with
  | some effectiveArgCount => effectiveArgCount ev
  | none => return clampedArgCount ev

/-- `formatArgs`. -/
def formatArgs (ev : Event) : Checked GoString := do
  let count ← effectiveArgCount ev
  let parts ← (List.range count).mapM fun (i : ℕ) => formatArg ev i
  return join parts (ascii ", ")

/-- `formatEventLine`. -/
def formatEventLine (texts : ErrnoTexts) (ev : Event) : Checked GoString := do
  let args ← formatArgs ev
  return Syscalls.name ev.syscallId ++ ascii "(" ++ args ++ ascii ") = " ++ formatRet texts ev

/-- `formatEventPrefix`. -/
def formatEventPrefix (ev : Event) (rootTGID : UInt32) : GoString :=
  if ev.tid = 0 then []
  else if ev.pid = rootTGID ∧ ev.tid = rootTGID then []
  else ascii "[pid " ++ decimal ev.tid.toNat ++ ascii "] "

/-- `FormatOutputLine`. -/
def formatOutputLine (texts : ErrnoTexts) (ev : Event) (rootTGID : UInt32) : Checked GoString := do
  return formatEventPrefix ev rootTGID ++ (← formatEventLine texts ev)

/-! ## Which function renders an argument -/

section Arguments

variable {ev : Event} {idx : Fin 6}

/-- An argument without a descriptor is not rendered as a variable one. -/
theorem formatVarArg_of_none (missing : findVarArgDesc ev idx = none) :
    formatVarArg ev (idx.val : ℤ) = .ok none := by
  rw [formatVarArg, indexed_isVarArgEnabled, missing, Checked.ok_bind]
  rfl

/-- An argument vector with a descriptor is rendered from it. -/
theorem formatVarArg_of_argv {desc : VarArgDesc} (found : findVarArgDesc ev idx = some desc)
    (typed : ev.argTypes.get idx = VarArgKind.argv) :
    formatVarArg ev (idx.val : ℤ) = (do return some (← formatVarArgv ev desc)) := by
  rw [formatVarArg, indexed_isVarArgEnabled, found, Checked.ok_bind, typed,
    indexed_findVarArgDesc, found]
  simp only [Checked.index_val, typed, Checked.ok_bind]
  rfl

theorem formatArgDefault_val (ev : Event) (idx : Fin 6) :
    formatArgDefault ev (idx.val : ℤ) =
      .ok (formatRaw ev.syscallId idx.val (ev.argTypes.get idx) (ev.args.get idx)) := by
  rw [formatArgDefault, Checked.index_val, Checked.index_val]
  rfl

/-- The formatter of the syscall, if it has one, does not render the argument. -/
def LeftToOthers (id : Int64) (i : Fin 6) : Prop :=
  (syscallFormatters.lookup id).isNone = true ∨
    (id, i) ∈ [(Unix.sysOpen, (0 : Fin 6)), (Unix.sysOpen, 2), (Unix.sysOpenat, 1),
      (Unix.sysOpenat, 3), (Unix.sysStat, 0), (Unix.sysLstat, 0), (Unix.sysNewfstatat, 1),
      (Unix.sysStatx, 1), (Unix.sysStatx, 3)]

instance (id : Int64) (i : Fin 6) : Decidable (LeftToOthers id i) := by
  unfold LeftToOthers
  infer_instance

theorem formatArgSpecial_of_left (left : LeftToOthers ev.syscallId idx) :
    formatArgSpecial ev idx.val = .ok none := by
  rw [formatArgSpecial, lookupSyscallFormatter]
  rcases left with none | listed
  · rw [Option.isNone_iff_eq_none.1 none]
    rfl
  · simp only [List.mem_cons, Prod.mk.injEq, List.not_mem_nil, or_false] at listed
    rcases listed with ⟨call, rfl⟩ | ⟨call, rfl⟩ | ⟨call, rfl⟩ | ⟨call, rfl⟩ | ⟨call, rfl⟩ |
      ⟨call, rfl⟩ | ⟨call, rfl⟩ | ⟨call, rfl⟩ | ⟨call, rfl⟩ <;> rw [call] <;> rfl

/-- What neither the formatter of the syscall nor the capture renders is rendered by its
type. -/
theorem formatArg_of_default (special : formatArgSpecial ev idx.val = .ok none)
    (captured : formatVarArg ev idx.val = .ok none) :
    formatArg ev idx.val =
      .ok (formatRaw ev.syscallId idx.val (ev.argTypes.get idx) (ev.args.get idx)) := by
  rw [formatArg, special, Checked.ok_bind, captured, Checked.ok_bind]
  exact formatArgDefault_val ev idx

end Arguments

/-! ## The parts of an argument vector -/

/-- A payload split behind each separator. -/
def splitNul : GoString → List GoString
  | [] => []
  | b :: bs =>
      if b = 0 then [] :: splitNul bs
      else
        match splitNul bs with
        | [] => [[b]]
        | part :: parts => (b :: part) :: parts

/-- The part before the first separator comes off first. -/
theorem splitNul_append_cons {part : GoString} (free : 0 ∉ part) (rest : GoString) :
    splitNul (part ++ 0 :: rest) = part :: splitNul rest := by
  induction part with
  | nil => rfl
  | cons b part ih =>
      rw [List.mem_cons, not_or] at free
      rw [List.cons_append, splitNul, if_neg (Ne.symm free.1), ih free.2]

/-- Without a separator there is one part. -/
theorem splitNul_of_notMem {payload : GoString} (free : 0 ∉ payload) (some : payload ≠ []) :
    splitNul payload = [payload] := by
  induction payload with
  | nil => exact absurd rfl some
  | cons b bs ih =>
      rw [List.mem_cons, not_or] at free
      rw [splitNul, if_neg (Ne.symm free.1)]
      cases bs with
      | nil => rfl
      | cons c cs => rw [ih free.2 (List.cons_ne_nil c cs)]

/-- The part before the separator at `idx` has none itself. -/
theorem notMem_take_of_idxOf? {payload : GoString} {idx : ℕ}
    (found : payload.idxOf? 0 = some idx) :
    payload = payload.take idx ++ 0 :: payload.drop (idx + 1) ∧ 0 ∉ payload.take idx := by
  obtain ⟨inside, here, before⟩ := List.idxOf?_eq_some_iff.1 found
  constructor
  · calc payload = payload.take idx ++ payload.drop idx := (List.take_append_drop idx _).symm
      _ = payload.take idx ++ 0 :: payload.drop (idx + 1) := by
        rw [List.drop_eq_getElem_cons inside, here]
  · intro mem
    obtain ⟨j, hj, zero⟩ := List.getElem_of_mem mem
    rw [List.length_take] at hj
    rw [List.getElem_take] at zero
    exact before j (by omega) zero

/-- The loop never leaves the payload, and splits it. -/
theorem argvParts_eq (payload : GoString) : argvParts payload = .ok (splitNul payload) := by
  induction payload using argvParts.induct with
  | case1 payload nonempty none =>
      rw [argvParts, dif_pos nonempty, none,
        splitNul_of_notMem (List.idxOf?_eq_none_iff.1 none) (List.ne_nil_of_length_pos nonempty)]
  | case2 payload nonempty idx found panic cut =>
      obtain ⟨inside, -, -⟩ := List.idxOf?_eq_some_iff.1 found
      rw [Checked.slice_length (Nat.succ_le_of_lt inside)] at cut
      cases cut
  | case3 payload nonempty idx found rest cut ih =>
      obtain ⟨inside, -, -⟩ := List.idxOf?_eq_some_iff.1 found
      obtain ⟨cutAt, free⟩ := notMem_take_of_idxOf? found
      have behind : Checked.slice payload (idx + 1 : ℕ) payload.length =
          .ok (payload.drop (idx + 1)) :=
        Checked.slice_length inside
      have here : payload.drop (idx + 1) = rest := Except.ok.inj (behind.symm.trans cut)
      rw [here] at cutAt behind
      rw [argvParts, dif_pos nonempty, found]
      dsimp only
      split
      next panic failed => cases behind.symm.trans failed
      next rest' same =>
        cases behind.symm.trans same
        rw [Checked.slice_zero (le_of_lt inside), Checked.ok_bind, ih, Checked.ok_bind]
        conv_rhs => rw [cutAt, splitNul_append_cons free]
        rfl
  | case4 payload empty =>
      rw [argvParts, dif_neg empty, List.length_eq_zero_iff.1 (Nat.eq_zero_of_not_pos empty)]
      rfl

end Litrace.Trace
