import Litrace.Cli.AttachTargets
import Litrace.Cli.TraceSelectors

/-!
# The command line

`ParseArgs`, behind the flags: `pflag` reads them, and the system tells the working directory
and finds the program.  What it accepts `Run` accepts too, and hands on to the parts that rely
on it (`wellFormed_of_accepted`): the processes are different and have positive ids, and the
paths to be traced are absolute and clean, as those that the path filter compares them with.
A flag that is not given restricts nothing (`newPathFilter_of_accepted`).

What `pflag` delivers is data here (`ParsedFlags`), as the grammar of flags is that of a
library.  The working directory and the search for a program are parameters: they are asked by
`filepath.Abs` and `exec.LookPath`, may fail, and the errors tell of it.  The results are for
every answer; only that the paths are absolute rests on the working directory being so, since
`filepath.Abs` puts it in front.

Each parser has one lemma that says when it succeeds and with what (`…_eq_ok_iff`), and
nothing later unfolds a parser.  The error of the first bad item is given by the definitions;
the lemmas say which command lines have none.
-/

namespace Litrace.Cli

open GoString (ascii)
open Filepath Loop Trace

/-! ## Flags and errors -/

/-- `parsedFlags`, with the flags that go into the configuration as they are, and the arguments
behind the flags. -/
structure ParsedFlags where
  followForks : Bool
  summaryOnly : Bool
  traceOutputPath : GoString
  traceExpressions : List GoString
  traceSelectors : List GoString
  attachExpressions : List GoString
  tracePaths : List GoString
  args : List GoString

/-- `Config`. -/
structure Config where
  traceOutputPath : GoString
  trace : TargetConfig

/-- The errors of `ParseArgs`. -/
inductive ArgsError where
  | item (err : ParseError)
  | emptyPath
  | normalizePath (path : GoString)
  | attachWithProgram
  | usage
  | lookPath (program : GoString)
  deriving DecidableEq

/-- The text of an error; the errors of the system have their own texts. -/
def ArgsError.message (quote : GoString → GoString) (exeName wdError lookPathError : GoString) :
    ArgsError → GoString
  | .item err => err.message quote
  | .emptyPath => ascii "invalid -P path " ++ quote [] ++ ascii ": empty path"
  | .normalizePath path => ascii "normalize -P path " ++ quote path ++ ascii ": " ++ wdError
  | .attachWithProgram => ascii "cannot use -p with a program"
  | .usage =>
      ascii "usage: " ++ exeName ++
        ascii " [-f] [-c] [-o FILE] [-p PID[,PID...]] [-P PATH] <program> [args...]"
  | .lookPath program => program ++ ascii ": " ++ lookPathError

/-! ## `ParseArgs` -/

section

variable (wd : Option GoString) (lookPath : GoString → Option GoString)

/-- One round of the loop over `-P` items. -/
def addTracePath (normalized : List GoString) (path : GoString) :
    Except ArgsError (List GoString) :=
  if path = [] then .error .emptyPath
  else
    match Filepath.abs wd path with
    | none => .error (.normalizePath path)
    | some absolute => .ok (normalized ++ [clean absolute])

/-- `parseTracePaths`. -/
def parseTracePaths (paths : List GoString) : Except ArgsError (List GoString) :=
  paths.foldlM (addTracePath wd) []

/-- What the arguments behind the flags are for. -/
def parseTarget (attachPIDs : List Int64) (args : List GoString) (cfg : RunConfig) :
    Except ArgsError TargetConfig :=
  if 0 < attachPIDs.length then
    if args.length ≠ 0 then .error .attachWithProgram
    else
      .ok { cfg with programName := [], programPath := [], programArgs := [], attachPIDs }
  else
    match args with
    | [] => .error .usage
    | program :: programArgs =>
        match lookPath program with
        | none => .error (.lookPath program)
        | some programPath =>
            .ok { cfg with programName := program, programPath, programArgs, attachPIDs }

/-- `ParseArgs`. -/
def parseArgs (flags : ParsedFlags) : Except ArgsError Config := do
  let traceSyscallIDs ←
    (parseTraceIDs flags.traceExpressions flags.traceSelectors).mapError .item
  let attachPIDs ← (parseAttachExpressions flags.attachExpressions).mapError .item
  let tracePaths ← parseTracePaths wd flags.tracePaths
  let cfg : RunConfig := ⟨⟨flags.followForks, traceSyscallIDs, tracePaths⟩, flags.summaryOnly⟩
  let trace ← parseTarget lookPath attachPIDs flags.args cfg
  return ⟨flags.traceOutputPath, trace⟩

end

/-! ## What is accepted -/

section

variable {wd : Option GoString} {lookPath : GoString → Option GoString}

/-- A path that `-P` takes. -/
def IsTracePath (wd : Option GoString) (path : GoString) : Prop :=
  path ≠ [] ∧ (Filepath.abs wd path).isSome = true

/-- The path that is traced for it. -/
def tracePath (wd : Option GoString) (path : GoString) : GoString :=
  clean ((Filepath.abs wd path).getD [])

/-- When a path is accepted, and as what it is added. -/
theorem addTracePath_eq_ok_iff {normalized normalized' : List GoString} {path : GoString} :
    addTracePath wd normalized path = .ok normalized' ↔
      IsTracePath wd path ∧ normalized' = normalized ++ [tracePath wd path] := by
  unfold addTracePath IsTracePath tracePath
  by_cases none : path = []
  · rw [if_pos none]
    exact iff_of_false nofun fun h => h.1.1 none
  · rw [if_neg none, and_iff_right none]
    cases Filepath.abs wd path with
    | none => exact iff_of_false nofun fun h => Bool.false_ne_true h.1
    | some absolute =>
        rw [Option.isSome_some, and_iff_right rfl, Option.getD_some]
        dsimp only
        rw [Except.ok.injEq, eq_comm]

/-- **What `-P` yields**: a path for each item. -/
theorem parseTracePaths_eq_ok_iff {paths normalized : List GoString} :
    parseTracePaths wd paths = .ok normalized ↔
      (∀ path ∈ paths, IsTracePath wd path) ∧ normalized = paths.map (tracePath wd) := by
  have round : ∀ normalized path normalized', addTracePath wd normalized path = .ok normalized' ↔
      IsTracePath wd path ∧ normalized' = normalized ++ [tracePath wd path] :=
    fun _ _ _ => addTracePath_eq_ok_iff
  rw [parseTracePaths, foldlM_eq_ok_iff round, List.foldl_append_eq_append, List.nil_append,
    ← List.flatMap_def, ← List.map_eq_flatMap]

/-- An accepted path is absolute and clean, as long as the working directory is absolute. -/
theorem absClean_tracePath (rooted : ∀ dir, wd = some dir → isAbs dir = true) {path : GoString}
    (h : IsTracePath wd path) : AbsClean (tracePath wd path) := by
  obtain ⟨absolute, known⟩ := Option.isSome_iff_exists.mp h.2
  have absClean := absClean_abs rooted known
  rw [tracePath, known, Option.getD_some, absClean.2]
  exact absClean

section

variable {attachPIDs : List Int64} {args : List GoString} {cfg : RunConfig} {target : TargetConfig}

/-- Attaching takes no command. -/
theorem parseTarget_attach_iff (attach : attachPIDs ≠ []) :
    parseTarget lookPath attachPIDs args cfg = .ok target ↔
      args = [] ∧ target = ⟨cfg, [], [], [], attachPIDs⟩ := by
  unfold parseTarget
  rw [if_pos (List.length_pos_iff.mpr attach)]
  cases args with
  | nil =>
      rw [if_neg (not_not_intro List.length_nil), Except.ok.injEq, eq_comm, and_iff_right rfl]
  | cons program programArgs =>
      rw [List.length_cons, if_pos (Nat.succ_ne_zero _)]
      exact iff_of_false nofun nofun

/-- Launching takes a command that is found. -/
theorem parseTarget_launch_iff :
    parseTarget lookPath [] args cfg = .ok target ↔ ∃ program programArgs programPath,
      args = program :: programArgs ∧ lookPath program = some programPath ∧
        target = ⟨cfg, program, programPath, programArgs, []⟩ := by
  unfold parseTarget
  rw [List.length_nil, if_neg (Nat.lt_irrefl 0)]
  cases args with
  | nil =>
      refine iff_of_false nofun ?_
      rintro ⟨_, _, _, same, -⟩
      cases same
  | cons program programArgs =>
      dsimp only
      cases found : lookPath program with
      | none =>
          refine iff_of_false nofun ?_
          rintro ⟨_, _, _, same, found', -⟩
          cases same
          rw [found] at found'
          cases found'
      | some programPath =>
          dsimp only
          rw [Except.ok.injEq]
          constructor
          · rintro rfl
            exact ⟨_, _, _, rfl, found, rfl⟩
          · rintro ⟨_, _, _, same, found', rfl⟩
            cases same
            rw [found] at found'
            cases found'
            rfl

/-- `Run` accepts what there is to trace. -/
theorem check_of_parseTarget
    (found : ∀ program path, lookPath program = some path → path ≠ [])
    (accepted : parseTarget lookPath attachPIDs args cfg = .ok target) :
    target.toRunConfig = cfg ∧ target.attachPIDs = attachPIDs ∧ target.check = none := by
  by_cases attach : attachPIDs = []
  · rw [attach] at accepted
    obtain ⟨program, _, path, -, isFound, rfl⟩ := parseTarget_launch_iff.mp accepted
    refine ⟨rfl, attach.symm, ?_⟩
    unfold TargetConfig.check
    rw [if_neg fun both => Nat.lt_irrefl 0 both.1, if_neg fun both => found _ _ isFound both.2]
  · obtain ⟨-, rfl⟩ := (parseTarget_attach_iff attach).mp accepted
    refine ⟨rfl, rfl, ?_⟩
    unfold TargetConfig.check
    rw [if_neg fun both => both.2 rfl,
      if_neg fun both => attach (List.length_eq_zero_iff.mp both.1)]

end

/-- What is accepted has accepted parts. -/
theorem parseArgs_eq_ok_iff {flags : ParsedFlags} {cfg : Config} :
    parseArgs wd lookPath flags = .ok cfg ↔ ∃ traceSyscallIDs attachPIDs,
      parseTraceIDs flags.traceExpressions flags.traceSelectors = .ok traceSyscallIDs ∧
      parseAttachExpressions flags.attachExpressions = .ok attachPIDs ∧
      (∀ path ∈ flags.tracePaths, IsTracePath wd path) ∧
      parseTarget lookPath attachPIDs flags.args ⟨⟨flags.followForks, traceSyscallIDs,
        flags.tracePaths.map (tracePath wd)⟩, flags.summaryOnly⟩ = .ok cfg.trace ∧
      flags.traceOutputPath = cfg.traceOutputPath := by
  unfold parseArgs
  simp only [bind_eq_ok_iff, mapError_eq_ok_iff, parseTracePaths_eq_ok_iff]
  constructor
  · rintro ⟨ids, hids, pids, hpids, _, ⟨isPath, rfl⟩, trace, target, same⟩
    cases same
    exact ⟨ids, pids, hids, hpids, isPath, target, rfl⟩
  · rintro ⟨ids, pids, hids, hpids, isPath, target, output⟩
    exact ⟨ids, hids, pids, hpids, _, ⟨isPath, rfl⟩, cfg.trace, target, by rw [output]; rfl⟩

/-- What the parts of the tracer rely on. -/
structure WellFormed (cfg : TargetConfig) : Prop where
  check : cfg.check = none
  positive : ∀ pid ∈ cfg.attachPIDs, 0 < pid.toInt
  distinct : cfg.attachPIDs.Nodup
  absClean : ∀ path ∈ cfg.tracePaths, AbsClean path

section

variable {flags : ParsedFlags} {cfg : Config}

/-- What the command line yields is fit to run, if the system knows absolute directories and does
not find a program at an empty path. -/
theorem wellFormed_of_accepted (rooted : ∀ dir, wd = some dir → isAbs dir = true)
    (found : ∀ program path, lookPath program = some path → path ≠ [])
    (accepted : parseArgs wd lookPath flags = .ok cfg) : WellFormed cfg.trace := by
  obtain ⟨ids, pids, -, hpids, isPath, target, -⟩ := parseArgs_eq_ok_iff.mp accepted
  obtain ⟨same, attachPIDs, check⟩ := check_of_parseTarget found target
  refine ⟨check, ?_, ?_, ?_⟩
  · rw [attachPIDs]
    exact positive_of_accepted hpids
  · rw [attachPIDs]
    exact nodup_of_accepted hpids
  · rw [same]
    intro path mem
    obtain ⟨item, given, rfl⟩ := List.mem_map.mp mem
    exact absClean_tracePath rooted (isPath item given)

end

end

end Litrace.Cli
