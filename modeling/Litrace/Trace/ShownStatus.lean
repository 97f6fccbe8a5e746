import Litrace.Trace.LineGrammar
import Litrace.Trace.ShownMemory

/-!
# The status of a file, in the text of an argument

The structure that a successful call of the `stat` family fills in is captured as any buffer,
and shown by its mode and its size (`FileStatus.text`).  The permissions and the size are to be
read from the text, and the type of the file if it has a name; so two structures are shown alike
exactly if they agree on these (`status_eq_iff`).

`struct stat` and `struct statx` have the same fields at different places.  The result is for
both, with the offsets of each, and starts from the bytes that memory held when the call
returned, so it covers the capture as well as the reading of the structure and the text.
-/

namespace Litrace.Trace

open GoString (ascii)
open Bpf Strconv Checked

/-! ## What is shown -/

/-- What is shown of a structure; that of `statx` is marked as such. -/
structure FileStatus where
  extended : Bool
  mode : UInt32
  size : ℤ

/-- Where the two structures have it. -/
def fileStatus (id : Int64) (bytes : GoString) : FileStatus :=
  if id = nrStatx then
    ⟨true, (UInt16.ofNat (fieldAt bytes 28 2)).toUInt32, (UInt64.ofNat (fieldAt bytes 40 8)).toNat⟩
  else
    ⟨false, UInt32.ofNat (fieldAt bytes 24 4),
      (UInt64.ofNat (fieldAt bytes 48 8)).toInt64.toInt⟩

/-- The text before the size. -/
def sizeLabel (extended : Bool) : GoString :=
  if extended then ascii " stx_size=" else ascii " st_size="

def FileStatus.text (s : FileStatus) : GoString :=
  (if s.extended then ascii "\x7bstx_mode=" else ascii "\x7bst_mode=") ++
    (formatStatMode s.mode ++ 44 :: (sizeLabel s.extended ++
      (decimal s.size ++ ascii ", ...\x7d")))

/-- What can be told from the text. -/
def FileStatus.Alike (s s' : FileStatus) : Prop :=
  s.extended = s'.extended ∧ formatStatFileType s.mode = formatStatFileType s'.mode ∧
    s.mode &&& 0o7777 = s'.mode &&& 0o7777 ∧ s.size = s'.size

theorem bar_notMem_octal (n : ℕ) : 124 ∉ octal n := notMem_octal (by decide) n

theorem bar_notMem_fileType (mode : UInt32) : 124 ∉ formatStatFileType mode := by
  unfold formatStatFileType
  dsimp only
  repeat' split
  all_goals decide

theorem comma_notMem_formatStatMode (mode : UInt32) : 44 ∉ formatStatMode mode := fun comma =>
  absurd ((word_formatStatMode mode).2 44 comma) (by decide)

/-- A mode is told by the name of its type, if it has one, and its permissions. -/
theorem formatStatMode_eq_iff (mode mode' : UInt32) :
    formatStatMode mode = formatStatMode mode' ↔
      formatStatFileType mode = formatStatFileType mode' ∧ mode &&& 0o7777 = mode' &&& 0o7777 := by
  have perms : ∀ {m m' : UInt32}, octal m.toNat = octal m'.toNat → m = m' :=
    fun same => UInt32.toNat_inj.mp (octal_injective same)
  have bar : ∀ s t : GoString, 124 ∈ s ++ ascii "|" ++ t := fun s t =>
    List.mem_append_left t (List.mem_append_right s (by decide))
  refine ⟨fun same => ?_, fun ⟨type, same⟩ => by rw [formatStatMode, type, same]; rfl⟩
  simp only [formatStatMode] at same
  split at same <;> split at same
  next unnamed unnamed' => exact ⟨unnamed.trans unnamed'.symm, perms same⟩
  next => exact absurd (same.symm ▸ bar _ _) (bar_notMem_octal _)
  next => exact absurd (same ▸ bar _ _) (bar_notMem_octal _)
  next =>
    rw [List.append_assoc, List.append_assoc] at same
    obtain ⟨type, rest⟩ := append_sep_inj (bar_notMem_fileType _) (bar_notMem_fileType _) same
    exact ⟨type, perms rest⟩

/-- **The text tells the permissions and the size**, and the type if it has a name. -/
theorem FileStatus.text_eq_iff (s s' : FileStatus) : s.text = s'.text ↔ s.Alike s' := by
  refine ⟨fun same => ?_, fun ⟨ext, type, perms, size⟩ => ?_⟩
  · have ext : s.extended = s'.extended := by
      have fourth := congrArg (fun text => text[3]?) same
      cases h : s.extended <;> cases h' : s'.extended <;> simp [text, h, h', ascii] at fourth ⊢
    rw [text, text, ext] at same
    obtain ⟨mode, rest⟩ := append_sep_inj (comma_notMem_formatStatMode _)
      (comma_notMem_formatStatMode _) (List.append_cancel_left same)
    obtain ⟨type, perms⟩ := (formatStatMode_eq_iff _ _).mp mode
    have size := List.append_cancel_right (List.append_cancel_left rest)
    exact ⟨ext, type, perms, decimal_injective size⟩
  · rw [text, text, ext, (formatStatMode_eq_iff _ _).mpr ⟨type, perms⟩, size]

/-! ## From memory to the text -/

theorem formatCapturedStat_eq {bytes : GoString} (whole : bytes.length = Unix.sizeofStat)
    {id : Int64} (older : id ≠ nrStatx) :
    formatCapturedStat bytes = .ok (some (fileStatus id bytes).text) := by
  have all : Checked.slice bytes 0 Unix.sizeofStat = .ok bytes := by
    rw [Checked.slice_zero (le_of_eq whole.symm), List.take_of_length_le (le_of_eq whole)]
  rw [formatCapturedStat, if_neg (by rw [whole]; decide), all, fileStatus, if_neg older]
  refine congrArg (Except.ok ∘ some) ?_
  simp only [List.append_assoc]
  rfl

theorem formatCapturedStatx_eq {bytes : GoString} (whole : bytes.length = Unix.sizeofStatx) :
    formatCapturedStatx bytes = .ok (some (fileStatus nrStatx bytes).text) := by
  have all : Checked.slice bytes 0 Unix.sizeofStatx = .ok bytes := by
    rw [Checked.slice_zero (le_of_eq whole.symm), List.take_of_length_le (le_of_eq whole)]
  rw [formatCapturedStatx, if_neg (by rw [whole]; decide), all, fileStatus, if_pos rfl]
  refine congrArg (Except.ok ∘ some) ?_
  simp only [List.append_assoc]
  rfl

/-- The result of a call that has one is rendered from its structure. -/
theorem formatArgSpecial_of_status {ev : Event} {i : Fin 6} {size : UInt64}
    (listed : (ev.syscallId, i, size) ∈ statusResults) :
    ∃ decode, formatArgSpecial ev i.val = formatStatArg i.val decode ev i.val ∧
      ∀ bytes, bytes.length = size.toNat →
        decode bytes = .ok (some (fileStatus ev.syscallId bytes).text) := by
  simp only [statusResults, List.mem_cons, Prod.mk.injEq, List.not_mem_nil, or_false] at listed
  rcases listed with ⟨call, rfl, rfl⟩ | ⟨call, rfl, rfl⟩ | ⟨call, rfl, rfl⟩ | ⟨call, rfl, rfl⟩ |
    ⟨call, rfl, rfl⟩ <;> rw [formatArgSpecial, lookupSyscallFormatter, call]
  · exact ⟨_, rfl, fun bytes whole => formatCapturedStat_eq whole (by decide)⟩
  · exact ⟨_, rfl, fun bytes whole => formatCapturedStat_eq whole (by decide)⟩
  · exact ⟨_, rfl, fun bytes whole => formatCapturedStat_eq whole (by decide)⟩
  · exact ⟨_, rfl, fun bytes whole => formatCapturedStat_eq whole (by decide)⟩
  · exact ⟨_, rfl, fun bytes whole => formatCapturedStatx_eq whole⟩

/-- What the formatters of structures make of a descriptor. -/
theorem formatStatArg_of_found {ev : Event} {i : Fin 6} {desc : VarArgDesc}
    (decode : GoString → Checked (Option GoString)) (succeeds : 0 ≤ ev.ret)
    (found : findVarArgDesc ev i = some desc) :
    (desc.flags ≠ VarFlag.none → formatStatArg i.val decode ev i.val = .ok (some (ascii "<?>"))) ∧
      ∀ payload text, desc.flags = VarFlag.none → varPayloadSlice ev desc = some payload →
        decode payload = .ok (some text) →
        formatStatArg i.val decode ev i.val = .ok (some text) := by
  have here : ¬ ((i.val : ℤ) ≠ (i.val : ℤ) ∨ ev.ret < 0) :=
    not_or.mpr ⟨not_not.mpr rfl, Int64.not_lt.mpr succeeds⟩
  rw [formatStatArg, if_neg here, indexed_findVarArgDesc, found, ok_bind]
  refine ⟨fun flagged => if_pos flagged, fun payload text clear read decoded => ?_⟩
  dsimp only
  rw [if_neg (not_not.mpr clear), indexed_varPayloadSlice, read, ok_bind]
  dsimp only
  rw [decoded]
  rfl

section Submitted

variable {cfg : Bpf.Config} {m : Maps} {task : Task} {ctx : SysExitArgs} {now : UInt64}
variable {mem : UserMemory} {reserved : Bool} {ev : Event} {i : Fin 6} {size : UInt64}

/-- A structure whose capture is flagged is not shown. -/
theorem formatArg_of_flagged
    (hsub : submitted cfg m (.sysExit task ctx now mem reserved) = some ev)
    (captured : .struct i size ∈ captures ev.syscallId ev.ret ev.args)
    (flagged : bufferFlags mem (ev.args.get i) size ≠ VarFlag.none) :
    formatArg ev i.val = .ok (ascii "<?>") := by
  obtain ⟨-, desc, records⟩ := records_of_submitted hsub captured
  obtain ⟨succeeds, listed⟩ := captures_declared _ _ _ _ captured
  obtain ⟨decode, special, -⟩ := formatArgSpecial_of_status listed
  have text := (formatStatArg_of_found (i := i) decode succeeds records.found).1
    (records.flags.trans_ne flagged)
  rw [formatArg, special, text]
  rfl

/-- The others are shown by their mode and size. -/
theorem formatArg_of_status
    (hsub : submitted cfg m (.sysExit task ctx now mem reserved) = some ev)
    (captured : .struct i size ∈ captures ev.syscallId ev.ret ev.args)
    (clear : bufferFlags mem (ev.args.get i) size = VarFlag.none)
    (whole : (bufferBytes mem (ev.args.get i) size).length = size.toNat) :
    formatArg ev i.val =
      .ok (fileStatus ev.syscallId (bufferBytes mem (ev.args.get i) size)).text := by
  obtain ⟨-, desc, records⟩ := records_of_submitted hsub captured
  obtain ⟨succeeds, listed⟩ := captures_declared _ _ _ _ captured
  obtain ⟨decode, special, decodes⟩ := formatArgSpecial_of_status listed
  have flags := records.flags.trans clear
  have text := (formatStatArg_of_found (i := i) decode succeeds records.found).2 _ _ flags
    (records.payload (by rw [flags]; decide)) (decodes _ whole)
  rw [formatArg, special, text]
  rfl

end Submitted

/-- No structure is larger than a slot. -/
theorem fits_of_status {id : Int64} {i : Fin 6} {size : UInt64}
    (listed : (id, i, size) ∈ statusResults) : size.toNat ≤ genericVarSlotSize := by
  have fits : ∀ row ∈ statusResults, row.2.2.toNat ≤ genericVarSlotSize :=
    List.all_iff_forall_prop.mp (by decide)
  exact fits _ listed

/-- **The line shows the status of the file**, in every state of the maps and for every submitted
event of a call that returned one: the permissions and the size that memory held, the type if it
has a name, and no others; and `<?>` if the pointer is null or the structure could not be read. -/
theorem shows_status (cfg : Bpf.Config) (m : Maps) (task : Task) (ctx : SysExitArgs)
    (now : UInt64) (mem : UserMemory) (reserved : Bool) (ev : Event)
    (hsub : submitted cfg m (.sysExit task ctx now mem reserved) = some ev) (i : Fin 6)
    (size : UInt64) (captured : .struct i size ∈ captures ev.syscallId ev.ret ev.args) :
    (ev.args.get i = 0 ∨ readBuffer mem (ev.args.get i) size = none →
      formatArg ev i.val = .ok (ascii "<?>")) ∧
    ∀ bytes, mem.BytesAt (ev.args.get i) bytes → size.toNat = bytes.length →
      formatArg ev i.val = .ok (fileStatus ev.syscallId bytes).text ∧
        ∀ s : FileStatus, formatArg ev i.val = .ok s.text ↔
          (fileStatus ev.syscallId bytes).Alike s := by
  have fits := fits_of_status (captures_declared _ _ _ _ captured).2
  refine ⟨fun missing => formatArg_of_flagged hsub captured ?_, fun bytes held whole => ?_⟩
  · by_cases null : ev.args.get i = 0
    · rw [bufferFlags, if_pos null]
      decide
    · rw [bufferFlags, if_neg null, missing.resolve_left null, if_neg (Nat.not_lt.mpr fits)]
      decide
  · have clear := bufferFlags_of_bytesAt held whole
    have all := bufferBytes_of_bytesAt held whole
    rw [if_neg (by omega)] at clear
    rw [List.take_of_length_le (by omega)] at all
    have text := formatArg_of_status hsub captured clear (by rw [all, whole])
    rw [all] at text
    refine ⟨text, fun s => ?_⟩
    rw [text, Except.ok.injEq, FileStatus.text_eq_iff]

/-- The status of a file of five bytes with mode 0644. -/
def statusFive : List UInt8 :=
  List.replicate 24 0 ++ [0xa4, 0x81, 0, 0] ++ List.replicate 20 0 ++ [5] ++ List.replicate 95 0

/-- Memory with that status at 4096. -/
def memoryFive : UserMemory :=
  .table (fun ptr => if ptr = 4096 then some statusFive else none) fun _ => none

/-- A sole target has entered `fstat(3, 4096)`. -/
def enteredFstat : Maps :=
  Bpf.step ⟨false, false, ∅⟩ (Maps.load soleTarget)
    (.sysEnter ⟨100, 100⟩ ⟨nrNewfstat, #v[3, 4096, 0, 0, 0, 0]⟩ 10 memoryFive)

/-- The call, which returned 0. -/
def fstatFive : Event :=
  exitEvent memoryFive ⟨100, 100⟩ ⟨10, nrNewfstat, #v[3, 4096, 0, 0, 0, 0], 1, true⟩
    ⟨nrNewfstat, 0⟩ 11 none

theorem submitted_fstatFive :
    submitted ⟨false, false, ∅⟩ enteredFstat
      (.sysExit ⟨100, 100⟩ ⟨nrNewfstat, 0⟩ 11 memoryFive true) = some fstatFive :=
  submitted_eq_some.mpr ⟨_, _, _, _, _, rfl, by decide, rfl, rfl, rfl⟩

theorem header_fstatFive : fstatFive.syscallId = nrNewfstat ∧ fstatFive.ret = 0 ∧
    fstatFive.args = #v[3, 4096, 0, 0, 0, 0] :=
  have header := exitEvent_header memoryFive ⟨10, nrNewfstat, #v[3, 4096, 0, 0, 0, 0], 1, true⟩
    ⟨100, 100⟩ ⟨nrNewfstat, 0⟩ 11 none
  ⟨header.syscallId, header.ret, header.args⟩

theorem captured_fstatFive :
    .struct 1 sizeofStat ∈ captures fstatFive.syscallId fstatFive.ret fstatFive.args := by
  rw [header_fstatFive.1, header_fstatFive.2.1]
  exact List.mem_singleton_self _

theorem held_fstatFive : memoryFive.BytesAt (fstatFive.args.get 1) statusFive := by
  rw [header_fstatFive.2.2]
  exact UserMemory.bytesAt_table rfl (by decide)

theorem shows_status_statusFive :
    formatArg fstatFive (1 : Fin 6).val =
      .ok (fileStatus fstatFive.syscallId statusFive).text :=
  ((shows_status ⟨false, false, ∅⟩ enteredFstat ⟨100, 100⟩ ⟨nrNewfstat, 0⟩ 11 memoryFive true
      fstatFive submitted_fstatFive 1 sizeofStat captured_fstatFive).2 statusFive
    held_fstatFive (by decide +kernel)).1

example : (fileStatus nrNewfstat statusFive).text =
    ascii "\x7bst_mode=S_IFREG|0644, st_size=5, ...\x7d" := by decide

end Litrace.Trace
