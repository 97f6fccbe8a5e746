import Litrace.Trace.ConsumerSafety
import Litrace.Trace.ExitStatus
import Litrace.Trace.LineGrammar
import Litrace.WireFormat

/-!
# What a line tells

A line of the output has the thread, the name of the syscall, the texts of its arguments and
that of its result.  Each can be read off it (`outputLine_eq_iff`): the name ends at the first
parenthesis, each argument is an item of a list, and the list ends at a parenthesis that is not
part of an argument, whatever strings the arguments hold.

No line has a newline, so a file with the output falls into the lines that were written
(`output_splits`): what a traced process passes to its syscalls neither splits a line nor
forges one.

Reading a line is a function (`Nesting.takeItems` and what surrounds it), so that the parts can
be read off is an equation.  That captured bytes cannot close a quotation or a bracket early is
where `Litrace.Trace.LineGrammar` is used, and nothing else is needed of the formatters.
-/

namespace Litrace.Trace

open GoString (ascii)
open Strconv Nesting Checked Transition

/-! ## The parts of a line -/

/-- The parts of a line. -/
structure LineParts where
  thread : Option UInt32
  syscallId : Int64
  args : List GoString
  ret : GoString

/-- The thread that the line names, if it does. -/
def shownThread (ev : Event) (rootTGID : UInt32) : Option UInt32 :=
  if ev.tid = 0 then none
  else if ev.pid = rootTGID ∧ ev.tid = rootTGID then none
  else some ev.tid

/-- The parts of the line of an event. -/
def lineParts (texts : ErrnoTexts) (ev : Event) (rootTGID : UInt32) : Checked LineParts := do
  let count ← effectiveArgCount ev
  let args ← (List.range count).mapM fun (i : ℕ) => formatArg ev i
  return ⟨shownThread ev rootTGID, ev.syscallId, args, formatRet texts ev⟩

/-- The text in front of the syscall. -/
def threadText : Option UInt32 → GoString
  | none => []
  | some tid => ascii "[pid " ++ decimal tid.toNat ++ ascii "] "

/-- The line with these parts. -/
def LineParts.text (parts : LineParts) : GoString :=
  threadText parts.thread ++
    (Syscalls.name parts.syscallId ++ ascii "(" ++ join parts.args (ascii ", ") ++ ascii ") = " ++
      parts.ret)

/-- The first thread of the root process has no prefix, and every other one has. -/
theorem formatEventPrefix_eq (ev : Event) (rootTGID : UInt32) :
    formatEventPrefix ev rootTGID = threadText (shownThread ev rootTGID) := by
  unfold formatEventPrefix shownThread
  split
  · rfl
  · split <;> rfl

/-- A line is made from its parts. -/
theorem formatOutputLine_eq (texts : ErrnoTexts) (ev : Event) (rootTGID : UInt32) :
    formatOutputLine texts ev rootTGID =
      (do return (← lineParts texts ev rootTGID).text) := by
  rw [formatOutputLine, formatEventLine, formatArgs, lineParts, formatEventPrefix_eq]
  cases effectiveArgCount ev with
  | error panic => rfl
  | ok count =>
      simp only [ok_bind]
      cases (List.range count).mapM fun (i : ℕ) => formatArg ev i with
      | error panic => rfl
      | ok args => rfl

/-- The arguments of a line have the forms of `ArgText`, whatever the event is. -/
theorem yields_lineParts (texts : ErrnoTexts) (ev : Event) (rootTGID : UInt32) :
    Yields (lineParts texts ev rootTGID) fun parts =>
      (∀ arg ∈ parts.args, ArgText arg) ∧ parts.ret = formatRet texts ev := by
  refine yields_bind fun count => ?_
  have each : ∀ i ∈ List.range count, Yields ((fun i : ℕ => formatArg ev i) i) ArgText :=
    fun i _ => yields_formatArg ev i
  exact (yields_mapM each).bind fun args h => yields_pure ⟨h.2, rfl⟩

/-- No event makes the rendering panic. -/
theorem returns_lineParts (texts : ErrnoTexts) (ev : Event) (rootTGID : UInt32) :
    Returns (lineParts texts ev rootTGID) := by
  obtain ⟨count, bound, counted⟩ := effectiveArgCount_le ev
  rw [lineParts, counted, ok_bind]
  refine (returns_mapM fun i round => ?_).bind_pure _
  have below := List.mem_range.mp round
  exact returns_formatArg ev ⟨i, by omega⟩

/-! ## Reading a line -/

theorem notMem_of_word {s : GoString} {b : UInt8} (word : Word s) (h : wordByte b = false) :
    b ∉ s := by
  intro mem
  rw [word.2 b mem] at h
  cases h

/-- A thread is told from the rest of its line. -/
theorem threadText_inj {thread thread' : Option UInt32} {s t : GoString}
    (hs : s.head? ≠ some 91) (ht : t.head? ≠ some 91)
    (same : threadText thread ++ s = threadText thread' ++ t) : thread = thread' ∧ s = t := by
  cases thread with
  | none =>
      cases thread' with
      | none => exact ⟨rfl, same⟩
      | some tid =>
          refine absurd ?_ hs
          rw [show s = threadText (some tid) ++ t from same]
          rfl
  | some tid =>
      cases thread' with
      | none =>
          refine absurd ?_ ht
          rw [show t = threadText (some tid) ++ s from same.symm]
          rfl
      | some tid' =>
          have closed : ∀ tid : UInt32, 93 ∉ decimal tid.toNat :=
            fun tid => notMem_of_word (word_decimal _) (by decide)
          have split : ∀ (tid : UInt32) (s : GoString), threadText (some tid) ++ s =
              ascii "[pid " ++ (decimal tid.toNat ++ 93 :: 32 :: s) := by
            intro tid s
            rw [threadText, List.append_assoc, List.append_assoc]
            rfl
          rw [split, split] at same
          obtain ⟨number, rest⟩ := append_sep_inj (closed tid) (closed tid')
            (List.append_cancel_left same)
          have tids := UInt32.toNat_inj.mp (Int.natCast_inj.mp (decimal_injective number))
          exact ⟨by rw [tids], (List.cons.inj rest).2⟩

/-- The items up to the parenthesis, of which there may be none. -/
def readArgs (text : GoString) : Option (List GoString × GoString) :=
  if text.head? = some 41 then some ([], text.tail) else takeItems text

/-- An argument does not begin with a parenthesis. -/
theorem ArgText.head_ne {s : GoString} (text : ArgText s) : s.head? ≠ some 41 := by
  cases s with
  | nil => exact nofun
  | cons b s =>
      rw [List.head?_cons]
      rintro ⟨⟩
      -- A reader would stop in front of it.
      have all := text.item.takeItem (b := 41) (by decide) []
      rw [List.cons_append, takeItem, if_pos (by decide)] at all
      cases all

/-- Reading the arguments stops at the parenthesis that ends the list, as none inside of an item is
taken for it. -/
theorem readArgs_join {args : List GoString} (h : ∀ arg ∈ args, ArgText arg) (rest : GoString) :
    readArgs (join args (ascii ", ") ++ 41 :: rest) = some (args, rest) := by
  cases args with
  | nil => rfl
  | cons arg args =>
      have first := h arg List.mem_cons_self
      have head : (join (arg :: args) (ascii ", ") ++ 41 :: rest).head? ≠ some 41 := by
        obtain ⟨b, s, rfl⟩ := List.exists_cons_of_ne_nil first.ne_nil
        have other : b ≠ 41 := fun eq => first.head_ne (by rw [eq]; rfl)
        cases args with
        | nil => simpa [join] using other
        | cons arg' args => simpa [join, List.intercalate_cons_cons] using other
      rw [readArgs, if_neg head]
      exact takeItems_join (List.cons_ne_nil arg args) (fun arg mem => (h arg mem).item) rest

/-- **The parts can be read off the line.** -/
theorem LineParts.text_inj {parts parts' : LineParts} (h : ∀ arg ∈ parts.args, ArgText arg)
    (h' : ∀ arg ∈ parts'.args, ArgText arg) (same : parts.text = parts'.text) :
    parts = parts' := by
  obtain ⟨thread, id, args, ret⟩ := parts
  obtain ⟨thread', id', args', ret'⟩ := parts'
  have split : ∀ (id : Int64) (args : List GoString) (ret : GoString),
      Syscalls.name id ++ ascii "(" ++ join args (ascii ", ") ++ ascii ") = " ++ ret =
        Syscalls.name id ++ 40 :: (join args (ascii ", ") ++ 41 :: (ascii " = " ++ ret)) := by
    intro id args ret
    simp only [List.append_assoc]
    rfl
  have begins : ∀ (id : Int64) (s : GoString), (Syscalls.name id ++ s).head? ≠ some 91 := by
    intro id s
    obtain ⟨b, rest, eq⟩ := List.exists_cons_of_ne_nil (word_name id).1
    rw [eq, List.cons_append, List.head?_cons]
    rintro ⟨⟩
    exact notMem_of_word (word_name id) (b := 91) (by decide) (eq ▸ List.mem_cons_self)
  simp only [LineParts.text, split] at same
  obtain ⟨rfl, call⟩ := threadText_inj (begins id _) (begins id' _) same
  have noParen : ∀ id, 40 ∉ Syscalls.name id := fun id => notMem_of_word (word_name id) (by decide)
  obtain ⟨names, behind⟩ := append_sep_inj (noParen id) (noParen id') call
  obtain rfl := Syscalls.name_injective names
  have both := readArgs_join h (ascii " = " ++ ret)
  rw [behind, readArgs_join h' (ascii " = " ++ ret')] at both
  obtain ⟨rfl, rest⟩ := Prod.mk.inj (Option.some.inj both)
  rw [List.append_cancel_left rest]

/-- **Two lines are the same exactly if all their parts are.**

The parts are texts as well, so two events with the same line may still differ in what no part
shows. -/
theorem outputLine_eq_iff (texts : ErrnoTexts) (ev ev' : Event) (rootTGID rootTGID' : UInt32) :
    formatOutputLine texts ev rootTGID = formatOutputLine texts ev' rootTGID' ↔
      lineParts texts ev rootTGID = lineParts texts ev' rootTGID' := by
  constructor
  · intro same
    rw [formatOutputLine_eq, formatOutputLine_eq] at same
    obtain ⟨parts, eq⟩ := returns_lineParts texts ev rootTGID
    obtain ⟨parts', eq'⟩ := returns_lineParts texts ev' rootTGID'
    rw [eq, eq'] at same ⊢
    have text : parts.text = parts'.text := Except.ok.inj same
    rw [LineParts.text_inj (yields_lineParts _ _ _ _ eq).1 (yields_lineParts _ _ _ _ eq').1 text]
  · intro same
    rw [formatOutputLine_eq, same, formatOutputLine_eq]

/-! ## The lines of the output -/

/-- What is documented of the texts that come from outside: they are printable. -/
structure PrintableTexts (texts : ErrnoTexts) (unixSignalName : Int64 → GoString) : Prop where
  errnoName : ∀ errno, Shown (texts.errnoName errno)
  error : ∀ errno, Shown (texts.error errno)
  signalName : ∀ sig, Shown (unixSignalName sig)

section

variable {texts : ErrnoTexts} {unixSignalName : Int64 → GoString}

/-- The result is a number, a name or the text of an error, which is assumed to be printable. -/
theorem shown_formatRet (printable : PrintableTexts texts unixSignalName) (ev : Event) :
    Shown (formatRet texts ev) := by
  have default : Shown (formatRetDefault texts ev.ret) := by
    unfold formatRetDefault
    dsimp only
    split
    · exact (word_decimal _).shown
    · split
      · exact ((by decide : Shown (ascii "-1 (error ")).append (word_decimal _).shown).append
          (by decide)
      · exact (((by decide : Shown (ascii "-1 ")).append (printable.errnoName _)).append
          (by decide)).append (printable.error _) |>.append (by decide)
  unfold formatRet
  split
  · exact default
  · split
    · exact (word_formatPtr _).shown
    · split
      · exact (word_formatMode _).shown
      · exact default

theorem shown_threadText (thread : Option UInt32) : Shown (threadText thread) := by
  cases thread with
  | none => exact nofun
  | some tid =>
      exact ((by decide : Shown (ascii "[pid ")).append (word_decimal _).shown).append (by decide)

/-- A line is printable. -/
theorem shown_outputLine (printable : PrintableTexts texts unixSignalName) {ev : Event}
    {rootTGID : UInt32} {line : GoString} (h : formatOutputLine texts ev rootTGID = .ok line) :
    Shown line := by
  rw [formatOutputLine_eq] at h
  obtain ⟨parts, eq⟩ := returns_lineParts texts ev rootTGID
  rw [eq] at h
  obtain rfl : parts.text = line := Except.ok.inj h
  obtain ⟨args, result⟩ := yields_lineParts texts ev rootTGID parts eq
  have ret : Shown parts.ret := result ▸ shown_formatRet printable ev
  refine (shown_threadText _).append (((((word_name _).shown.append (by decide)).append
    (shown_join (fun arg mem => (args arg mem).shown) (by decide))).append (by decide)).append ret)

theorem shown_exitLine (printable : PrintableTexts texts unixSignalName) (ws : WaitStatus) :
    Shown (formatExitLine unixSignalName ws) := by
  have name : ∀ sig, Shown (signalName unixSignalName sig) := by
    intro sig
    unfold signalName
    split
    · exact printable.signalName sig
    · exact Shown.append (by decide) (word_decimal _).shown
  unfold formatExitLine
  split
  · exact ((by decide : Shown (ascii "+++ exited with ")).append (word_decimal _).shown).append
      (by decide)
  · split
    · refine (((by decide : Shown (ascii "+++ killed by ")).append (name _)).append ?_).append
        (by decide)
      split <;> decide
    · decide

end

/-- What `Run` writes for an output, without the newline. -/
inductive Writes (texts : ErrnoTexts) (unixSignalName : Int64 → GoString) : Output → GoString → Prop
  | line {ev : Event} {rootTGID : UInt32} {line : GoString}
      (h : formatOutputLine texts ev rootTGID = .ok line) :
      Writes texts unixSignalName (.line ev rootTGID) line
  | exitLine (status : WaitStatus) :
      Writes texts unixSignalName (.exitLine status) (formatExitLine unixSignalName status)

section

variable {texts : ErrnoTexts} {unixSignalName : Int64 → GoString} {cfg : RunConfig}
  {mode : TargetMode} {w : World}

/-- Without a summary the loop writes lines. -/
theorem written_handle (lines : cfg.summaryOnly = false) {r : Recorder} (sample : List UInt8)
    (proc : ProcCwd)
    (before : ∀ out ∈ r.traceOutput, ∃ line, Writes texts unixSignalName out line) :
    ∀ out ∈ (r.handle cfg mode sample proc).traceOutput,
      ∃ line, Writes texts unixSignalName out line := by
  unfold Recorder.handle
  split
  · exact before
  next ev decoded =>
    dsimp only
    rw [lines]
    split
    · exact before
    · intro out mem
      rcases List.mem_append.mp mem with mem | mem
      · exact before out mem
      · obtain ⟨line, h⟩ := returns_formatOutputLine ev texts mode.rootTGID
        rw [List.mem_singleton.mp mem]
        exact ⟨line, .line h⟩

theorem written_finishAttach (lines : cfg.summaryOnly = false) {r : Recorder} (status : WaitStatus)
    (before : ∀ out ∈ r.traceOutput, ∃ line, Writes texts unixSignalName out line) :
    ∀ out ∈ (r.finishAttach cfg status).1.traceOutput,
      ∃ line, Writes texts unixSignalName out line := by
  rwa [Recorder.finishAttach, lines, if_neg Bool.false_ne_true]

/-- Behind the loop comes the line of the child. -/
theorem written_finishLaunch (lines : cfg.summaryOnly = false) {r : Recorder}
    (result : ChildWaitResult)
    (before : ∀ out ∈ r.traceOutput, ∃ line, Writes texts unixSignalName out line) :
    ∀ out ∈ (r.finishLaunch cfg result).1.traceOutput,
      ∃ line, Writes texts unixSignalName out line := by
  unfold Recorder.finishLaunch
  split
  · exact before
  · split
    · exact before
    next status known =>
      rw [lines, if_neg Bool.false_ne_true]
      intro out mem
      rcases List.mem_append.mp mem with mem | mem
      · exact before out mem
      · rw [List.mem_singleton.mp mem]
        exact ⟨_, .exitLine status⟩

/-- And lines only, whatever step is next. -/
theorem written_step (lines : cfg.summaryOnly = false) (a : Act)
    (before : ∀ out ∈ w.recorder.traceOutput, ∃ line, Writes texts unixSignalName out line) :
    ∀ out ∈ (w.step cfg mode a).recorder.traceOutput,
      ∃ line, Writes texts unixSignalName out line := by
  unfold World.step
  split
  · exact before
  · cases a with
    | reads proc =>
        unfold World.reads
        dsimp only
        repeat' split
        all_goals first | exact before | exact written_handle lines _ proc before
    | returns closeFails =>
        unfold World.returns
        dsimp only
        split
        · split
          next => exact before
          next recorder result finished =>
            split at finished
            · obtain ⟨status, -, eq⟩ := Option.map_eq_some_iff.mp finished
              obtain rfl := congrArg Prod.fst eq
              exact written_finishAttach lines status before
            · obtain ⟨waited, -, eq⟩ := Option.map_eq_some_iff.mp finished
              obtain rfl := congrArg Prod.fst eq
              exact written_finishLaunch lines waited before
        · exact before
    | _ =>
        simp only [World.submit, World.exit, World.waitReturns, World.waitCloses,
          World.closeReader, World.monitorReceives, World.monitorForwards, World.monitorCloses,
          World.attachPolls, World.attachSelects, World.attachTicks, World.attachCloses,
          World.readFails]
        repeat' split
        all_goals exact before

/-- Lines can be chosen for all outputs if there is one for each. -/
theorem exists_forall₂ {α β : Type*} {R : α → β → Prop} {xs : List α}
    (each : ∀ x ∈ xs, ∃ y, R x y) : ∃ ys, List.Forall₂ R xs ys := by
  induction xs with
  | nil => exact ⟨[], .nil⟩
  | cons x xs ih =>
      obtain ⟨⟨y, hy⟩, others⟩ := List.forall_mem_cons.mp each
      obtain ⟨ys, hys⟩ := ih others
      exact ⟨y :: ys, .cons hy hys⟩

theorem exists_of_mem_right {α β : Type*} {R : α → β → Prop} {xs : List α} {ys : List β}
    (h : List.Forall₂ R xs ys) {y : β} (mem : y ∈ ys) : ∃ x ∈ xs, R x y := by
  induction h with
  | nil => cases mem
  | cons first _ ih =>
      rcases List.mem_cons.mp mem with rfl | mem
      · exact ⟨_, List.mem_cons_self, first⟩
      · obtain ⟨x, inside, related⟩ := ih mem
        exact ⟨x, List.mem_cons_of_mem _ inside, related⟩

/-- A list of lines can be told from its text. -/
theorem splitOn_lines {lines : List GoString} (each : ∀ line ∈ lines, 10 ∉ line) :
    (lines.flatMap (· ++ [10])).splitOn 10 = lines ++ [[]] := by
  induction lines with
  | nil => rfl
  | cons line lines ih =>
      obtain ⟨first, others⟩ := List.forall_mem_cons.mp each
      rw [List.flatMap_cons, List.append_assoc, List.singleton_append,
        List.splitOn_append_cons_self_of_not_mem first, ih others, List.cons_append]

end

/-- **The output falls into its lines.**  Whatever the traced processes do and in whatever
order the parties take their steps, without the summary the bytes of the output fall, at the
newlines, into the lines that `Run` has written, one for each event that is printed and one
for the exit of the child.

`written` is given by the outputs one by one (`Writes`), so the lines are those that the events
have and not merely some lines into which the bytes can be cut. -/
theorem output_splits (cfg : RunConfig) (mode : TargetMode) (as : List Act)
    (lines : cfg.summaryOnly = false) (texts : ErrnoTexts) (unixSignalName : Int64 → GoString)
    (printable : PrintableTexts texts unixSignalName) :
    ∃ written : List GoString,
      List.Forall₂ (Writes texts unixSignalName)
        (run (World.step cfg mode) (.start cfg mode) as).recorder.traceOutput written ∧
      (written.flatMap (· ++ [10])).splitOn 10 = written ++ [[]] := by
  have each : ∀ out ∈ (run (World.step cfg mode) (.start cfg mode) as).recorder.traceOutput,
      ∃ line, Writes texts unixSignalName out line :=
    AllSteps.invariant_run (Q := fun _ _ => True)
      (I := fun w : World => ∀ out ∈ w.recorder.traceOutput,
        ∃ line, Writes texts unixSignalName out line)
      (fun w a before _ => written_step lines a before) nofun
      (allSteps_const.mpr fun _ _ => trivial)
  obtain ⟨written, writes⟩ := exists_forall₂ each
  refine ⟨written, writes, splitOn_lines fun line mem => ?_⟩
  obtain ⟨out, -, h⟩ := exists_of_mem_right writes mem
  have shown : Shown line := by
    cases h with
    | line h => exact shown_outputLine printable h
    | exitLine status => exact shown_exitLine printable status
  intro newline
  exact absurd (shown 10 newline) (by decide)

/-- An `open` of a path with a newline in it, which fails. -/
def openFails : Event :=
  { Event.zero with
    syscallId := 2, ret := -2, pid := 100, tid := 100, argCount := 1, varCount := 1
    argTypes := #v[VarArgKind.string, 0, 0, 0, 0, 0]
    varDesc := (Vector.replicate 6 .zero).setIfInBounds 0 ⟨0, VarFlag.none, 0, 3, 0⟩
    payload := Bytes.writeAt (Vector.replicate 512 0) 0 [47, 10, 97], payloadLen := 3 }

/-- The child fails to open the file and exits. -/
def openAndExit : List Act :=
  [.submit (eventLayout.encode (fun _ => 0) 0 openFails), .reads fun _ _ => none, .exit 100 0,
    .waitReturns ⟨none, some 0⟩, .waitCloses, .reads fun _ _ => none, .returns false]

/-- There are two lines, the first with the path and the text of the error. -/
theorem output_splits_openAndExit :
    let texts : ErrnoTexts := ⟨fun errno => if errno = 2 then ascii "ENOENT" else [],
      fun errno => if errno = 2 then ascii "no such file or directory" else []⟩
    ∃ written : List GoString,
      List.Forall₂ (Writes texts fun _ => [])
        (run (World.step printAll launch100) (.start printAll launch100)
          openAndExit).recorder.traceOutput written ∧
      (written.flatMap (· ++ [10])).splitOn 10 = written ++ [[]] ∧ written.length = 2 := by
  intro texts
  have printable : PrintableTexts texts fun _ => [] := by
    refine ⟨fun errno => ?_, fun errno => ?_, fun _ => by decide⟩
    · dsimp only [texts]
      split <;> decide
    · dsimp only [texts]
      split <;> decide
  obtain ⟨written, writes, splits⟩ :=
    output_splits printAll launch100 openAndExit rfl texts (fun _ => []) printable
  refine ⟨written, writes, splits, writes.length_eq.symm.trans ?_⟩
  have decoded : decodeEvent (eventLayout.encode (fun _ => 0) 0 openFails) = some openFails := by
    rw [decodeEvent_eq_some_iff, decodeEventResult, readEvent_encode]
  unfold openAndExit
  generalize eventLayout.encode (fun _ => 0) 0 openFails = sample at decoded ⊢
  have printed : ((Recorder.start printAll launch100).handle printAll launch100 sample
      fun _ _ => none).traceOutput = [.line openFails 100] := by
    rw [Recorder.handle, decoded]
    rfl
  show (((Recorder.start printAll launch100).handle printAll launch100 sample
    fun _ _ => none).traceOutput ++ [Output.exitLine 0]).length = 2
  rw [printed]
  rfl

end Litrace.Trace
