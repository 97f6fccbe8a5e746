import Litrace.Cli.Arguments
import Litrace.Trace.Session

/-!
# From the command line to the programs

What is loaded for a command line that `ParseArgs` accepts: the names after `-e` and
`--trace` and the paths after `-P` decide which syscalls the programs record
(`Records`), and `-p` or the child which processes they follow (`TracesProcess`).  All syscalls
with a name fit into the filter, so only the system or too many processes can keep the
programs from being loaded (`accepted_loads_iff`).

Both are said in the words of the command line, not of the code that reads it: what is
recorded by the names in the table of syscalls, what is followed by the numbers after `-p`.
The programs know a process by 32 bits and a syscall by the lower half of its number, and
that is all they can be said to trace.
-/

namespace Litrace.Cli

open GoString (ascii)
open Bpf Trace

/-! ## The filter has room -/

/-- All ids that can be asked for. -/
def nameableIDs : Finset Int64 :=
  (Syscalls.entries.map Syscalls.Entry.id).toFinset ∪
    (pathFilterSupportSyscallIDs ++ pathFilterForkSupportSyscallIDs).toFinset

/-- The names of the table have fewer numbers than the filter has room for, so a filter given by
names always fits. -/
theorem card_nameableIDs_le : nameableIDs.card ≤ traceSyscallFilterMaxEntries := by
  refine (Finset.card_union_le _ _).trans
    ((Nat.add_le_add (List.toFinset_card_le _) (List.toFinset_card_le _)).trans ?_)
  rw [List.length_map]
  decide +kernel

/-- A filter given by names holds numbers of the table only. -/
theorem handleTraceSyscallIDs_subset {cfg : Trace.Config}
    (named : ∀ id ∈ cfg.traceSyscallIDs, ∃ syscallName, Syscalls.id syscallName = some id) :
    handleTraceSyscallIDs cfg ⊆ nameableIDs := by
  have selected : cfg.traceSyscallIDs ⊆ nameableIDs := by
    intro id mem
    obtain ⟨_, known⟩ := named id mem
    obtain ⟨entry, hentry, -, rfl⟩ := Syscalls.id_eq_some_iff.mp known
    exact Finset.mem_union_left _ (List.mem_toFinset.mpr (List.mem_map_of_mem hentry))
  have support : pathFilterSupportSyscallIDs.toFinset ⊆ nameableIDs := fun id mem =>
    Finset.mem_union_right _ (by simp_all)
  have forkSupport : pathFilterForkSupportSyscallIDs.toFinset ⊆ nameableIDs := fun id mem =>
    Finset.mem_union_right _ (by simp_all)
  unfold handleTraceSyscallIDs
  split
  · exact selected
  · dsimp only
    split
    · exact Finset.union_subset (Finset.union_subset selected support) forkSupport
    · exact Finset.union_subset selected support

/-! ## What is asked for -/

/-- The ids that a command line asks for by name, or as support for its paths. -/
def AskedFor (flags : ParsedFlags) (id : Int64) : Prop :=
  (∃ syscallName ∈ selectedNames flags.traceExpressions flags.traceSelectors,
      Syscalls.id syscallName = some id) ∨
    flags.tracePaths ≠ [] ∧
      (id ∈ pathFilterSupportSyscallIDs ∨
        flags.followForks = true ∧ id ∈ pathFilterForkSupportSyscallIDs)

/-- What the programs record: everything if no name is given, else what is asked for; they
look at the lower half of a number only. -/
def Records (flags : ParsedFlags) (id : Int64) : Prop :=
  (flags.traceExpressions = [] ∧ flags.traceSelectors = []) ∨
    ∃ asked, AskedFor flags asked ∧ filterKey asked = filterKey id

/-- The processes that are followed: those whose numbers the command line names, as far as 32
bits tell, or the child if it names none. -/
def TracesProcess (flags : ParsedFlags) (launchPID : Int64) (tgid : UInt32) : Prop :=
  if flags.attachExpressions = [] then tgid = launchPID.toUInt64.toUInt32
  else ∃ token ∈ pidTokens flags.attachExpressions,
    (tgid.toNat : ℤ) = Strconv.decimalValue token % 2 ^ 32

section

variable {wd : Option GoString} {lookPath : GoString → Option GoString} {flags : ParsedFlags}
  {cfg : Config}

/-- An accepted command line leaves the options as they were parsed. -/
theorem toRunConfig_of_parseTarget {attachPIDs : List Int64} {args : List GoString}
    {cfg : RunConfig} {target : TargetConfig}
    (accepted : parseTarget lookPath attachPIDs args cfg = .ok target) :
    target.toRunConfig = cfg ∧ target.attachPIDs = attachPIDs := by
  by_cases attach : attachPIDs = []
  · subst attach
    obtain ⟨_, _, _, -, -, rfl⟩ := parseTarget_launch_iff.mp accepted
    exact ⟨rfl, rfl⟩
  · obtain ⟨-, rfl⟩ := (parseTarget_attach_iff attach).mp accepted
    exact ⟨rfl, rfl⟩

/-- What a command line that is accepted configures. -/
theorem config_of_accepted (accepted : parseArgs wd lookPath flags = .ok cfg) :
    cfg.trace.followForks = flags.followForks ∧
      (cfg.trace.tracePaths = [] ↔ flags.tracePaths = []) ∧
      (cfg.trace.traceSyscallIDs = ∅ ↔
        flags.traceExpressions = [] ∧ flags.traceSelectors = []) ∧
      ∀ id, id ∈ cfg.trace.traceSyscallIDs ↔
        ∃ syscallName ∈ selectedNames flags.traceExpressions flags.traceSelectors,
          Syscalls.id syscallName = some id := by
  obtain ⟨ids, pids, hids, -, -, target, -⟩ := parseArgs_eq_ok_iff.mp accepted
  obtain ⟨same, -⟩ := toRunConfig_of_parseTarget target
  rw [same]
  refine ⟨rfl, List.map_eq_nil_iff, ⟨?_, ?_⟩, (parseTraceIDs_eq_ok_iff.mp hids).2⟩
  · rintro rfl
    exact eq_nil_of_parseTraceIDs_empty hids
  · rintro ⟨none, none'⟩
    rw [none, none'] at hids
    cases hids
    rfl

/-- With a selector, the ids that `Run` passes on are the selected ones and the support. -/
theorem mem_handleTraceSyscallIDs_iff {cfg : Trace.Config} (some : cfg.traceSyscallIDs ≠ ∅)
    {id : Int64} : id ∈ handleTraceSyscallIDs cfg ↔ id ∈ cfg.traceSyscallIDs ∨
      cfg.tracePaths ≠ [] ∧ (id ∈ pathFilterSupportSyscallIDs ∨
        cfg.followForks = true ∧ id ∈ pathFilterForkSupportSyscallIDs) := by
  unfold handleTraceSyscallIDs
  by_cases paths : cfg.tracePaths = []
  · simp [paths]
  · cases cfg.followForks <;> simp [paths, some]

theorem handleTraceSyscallIDs_nonempty {cfg : Trace.Config} (some : cfg.traceSyscallIDs ≠ ∅) :
    (handleTraceSyscallIDs cfg).Nonempty := by
  obtain ⟨id, mem⟩ := Finset.nonempty_iff_ne_empty.mpr some
  exact ⟨id, (mem_handleTraceSyscallIDs_iff some).mpr (.inl mem)⟩

/-- The programs record what the command line says. -/
theorem selects_iff_records (accepted : parseArgs wd lookPath flags = .ok cfg) (id : Int64) :
    (cfg.trace.bpf).selects id = true ↔ Records flags id := by
  obtain ⟨follow, paths, none, mem⟩ := config_of_accepted accepted
  rw [Config.bpf, HandleConfig.selects_bpf, Records, ← none]
  by_cases all : cfg.trace.traceSyscallIDs = ∅
  · have nothing : handleTraceSyscallIDs cfg.trace.toConfig = ∅ := by
      rw [handleTraceSyscallIDs, if_pos (.inr all), all]
    exact iff_of_true (.inl nothing) (.inl all)
  · have asked : ∀ a, a ∈ handleTraceSyscallIDs cfg.trace.toConfig ↔ AskedFor flags a := by
      intro a
      rw [mem_handleTraceSyscallIDs_iff all, mem, Ne, paths, follow, AskedFor]
    simp only [(handleTraceSyscallIDs_nonempty all).ne_empty, all, false_or, asked]

/-- The targets are the processes that the command line says. -/
theorem mem_targets_iff_tracesProcess (accepted : parseArgs wd lookPath flags = .ok cfg)
    (launchPID : Int64) (tgid : UInt32) :
    tgid ∈ traceTargetTGIDs cfg.trace.attachPIDs launchPID ↔
      TracesProcess flags launchPID tgid := by
  obtain ⟨ids, pids, -, hpids, -, target, -⟩ := parseArgs_eq_ok_iff.mp accepted
  rw [(toRunConfig_of_parseTarget target).2]
  unfold TracesProcess
  by_cases none : flags.attachExpressions = []
  · rw [if_pos none, (eq_nil_of_accepted_iff hpids).mpr none]
    exact List.mem_singleton
  · rw [if_neg none, traceTargetTGIDs_of_some (mt (eq_nil_of_accepted_iff hpids).mp none),
      List.mem_map]
    constructor
    · rintro ⟨pid, mem, rfl⟩
      obtain ⟨token, mem', value⟩ := (mem_of_accepted hpids).mp ⟨pid, mem, rfl⟩
      exact ⟨token, mem', by rw [toNat_narrow (positive_of_accepted hpids pid mem), value]⟩
    · rintro ⟨token, mem, low⟩
      obtain ⟨pid, mem', value⟩ := (mem_of_accepted hpids).mpr ⟨token, mem, rfl⟩
      refine ⟨pid, mem', UInt32.toNat_inj.mp ?_⟩
      rw [← value, ← toNat_narrow (positive_of_accepted hpids pid mem')] at low
      exact_mod_cast low.symm

end

/-! ## Loading -/

/-- The system refuses nothing. -/
structure Grants (answers : Answers) : Prop where
  loadTracer : answers.loadTracer = none
  constants : ∀ constant, answers.hasConstant constant = true ∧ answers.setConstant constant = none
  loadAndAssign : answers.loadAndAssign = none
  filter : ∀ key, answers.putFilter key = none
  targets : ∀ tgid, answers.putTarget tgid = none
  attach : ∀ tracepoint, answers.attach tracepoint = none
  newReader : answers.newReader = none

/-- Then only a map without room makes `NewHandle` fail. -/
theorem Grants.overflows {answers : Answers} (grants : Grants answers) {ids : List Int64}
    {targets : List UInt32} {err : HandleError} (cause : err.Cause answers ids targets) :
    traceSyscallFilterMaxEntries < (ids.map filterKey).toFinset.card ∨
      targetPidsMaxEntries < targets.toFinset.card := by
  cases err with
  | attach tracepoint text => cases (grants.attach tracepoint).symm.trans cause
  | openReader text => cases grants.newReader.symm.trans cause
  | load err =>
      cases err with
      | system text =>
          rcases cause with refused | refused
          · cases grants.loadTracer.symm.trans refused
          · cases grants.loadAndAssign.symm.trans refused
      | missingConstant constant => cases (grants.constants constant).1.symm.trans cause
      | setConstant constant text => cases (grants.constants constant).2.symm.trans cause
      | populateFilter text =>
          rcases cause with ⟨id, -, refused⟩ | ⟨-, full⟩
          · cases (grants.filter _).symm.trans refused
          · exact .inl full
      | populateTargets text =>
          rcases cause with ⟨tgid, -, refused⟩ | ⟨-, full⟩
          · cases (grants.targets _).symm.trans refused
          · exact .inr full

/-- The targets of a handle have room. -/
theorem card_le_of_runs {cfg : HandleConfig} {targets : List UInt32} {handle : Handle}
    (runs : handle.Runs cfg targets) : targets.toFinset.card ≤ targetPidsMaxEntries := by
  have same : targets.toFinset = handle.objs.targetPids.keys := by
    ext tgid
    rw [List.mem_toFinset, ← runs.targets, BoundedSet.mem_def]
  rw [same]
  exact handle.objs.targetPids.bound

/-- **What is loaded for a command line.**  A command line that is accepted passes the check that
`Run` makes, and the parts of the tracer get what they rely on, if the working directory is
absolute and no program is found at an empty path.  When the system refuses nothing it is loaded
exactly if its processes have room; then the programs record the syscalls it asks for, of the
processes whose numbers modulo `2^32` it names or of the one it starts, and follow forks if it
says so. -/
theorem accepted_loads_iff {wd : Option GoString} {lookPath : GoString → Option GoString}
    {flags : ParsedFlags} {cfg : Config} (accepted : parseArgs wd lookPath flags = .ok cfg)
    {answers : Answers} (grants : Grants answers) (closing : Resource → Option GoString)
    (launchPID : Int64) (ids : List Int64)
    (visits : ids.toFinset = handleTraceSyscallIDs cfg.trace.toConfig) :
    ((∀ dir, wd = some dir → Filepath.isAbs dir = true) →
      (∀ program path, lookPath program = some path → path ≠ []) → WellFormed cfg.trace) ∧
      ((∃ handle, newHandle answers closing ids (traceTargetTGIDs cfg.trace.attachPIDs launchPID)
          ⟨cfg.trace.followForks, handleTraceSyscallIDs cfg.trace.toConfig⟩ = (.ok (), handle)) ↔
        (traceTargetTGIDs cfg.trace.attachPIDs launchPID).toFinset.card ≤
          targetPidsMaxEntries) ∧
      ∀ handle, newHandle answers closing ids (traceTargetTGIDs cfg.trace.attachPIDs launchPID)
          ⟨cfg.trace.followForks, handleTraceSyscallIDs cfg.trace.toConfig⟩ = (.ok (), handle) →
        handle.objs.config.followForks = flags.followForks ∧
          (∀ id, handle.objs.config.selects id = true ↔ Records flags id) ∧
          ∀ tgid, tgid ∈ handle.objs.targetPids ↔ TracesProcess flags launchPID tgid := by
  have room : ¬ traceSyscallFilterMaxEntries < (ids.map filterKey).toFinset.card := by
    have named : handleTraceSyscallIDs cfg.trace.toConfig ⊆ nameableIDs := by
      refine handleTraceSyscallIDs_subset fun id mem => ?_
      obtain ⟨syscallName, -, known⟩ := ((config_of_accepted accepted).2.2.2 id).mp mem
      exact ⟨syscallName, known⟩
    have keys : (ids.map filterKey).toFinset = (handleTraceSyscallIDs cfg.trace.toConfig).image
        filterKey := by
      rw [← visits]
      ext key
      simp
    rw [Nat.not_lt, keys]
    exact Finset.card_image_le.trans ((Finset.card_le_card named).trans card_nameableIDs_le)
  refine ⟨fun rooted found => wellFormed_of_accepted rooted found accepted, ?_⟩
  rcases newHandle_cases answers closing (traceTargetTGIDs cfg.trace.attachPIDs launchPID)
      ⟨cfg.trace.followForks, handleTraceSyscallIDs cfg.trace.toConfig⟩ visits with
    ⟨handle, made, runs, -, -⟩ | ⟨err, handle, made, cause, -⟩
  · refine ⟨iff_of_true ⟨handle, made⟩ (card_le_of_runs runs), fun handle' made' => ?_⟩
    cases made.symm.trans made'
    refine ⟨?_, fun id => ?_, fun tgid => ?_⟩
    · rw [runs.config]
      exact (config_of_accepted accepted).1
    · rw [runs.config]
      exact selects_iff_records accepted id
    · exact (runs.targets tgid).trans (mem_targets_iff_tracesProcess accepted launchPID tgid)
  · have full := (grants.overflows cause).resolve_left room
    refine ⟨iff_of_false ?_ (Nat.not_le.mpr full), fun handle' made' => ?_⟩
    · rintro ⟨handle', made'⟩
      cases made.symm.trans made'
    · cases made.symm.trans made'

/-- A system that refuses nothing. -/
def grantsAll : Answers where
  loadTracer := none
  hasConstant _ := true
  setConstant _ := none
  loadAndAssign := none
  putFilter _ := none
  putTarget _ := none
  mapFull := []
  attach _ := none
  newReader := none

/-- `-f --trace read true`. -/
def readsOfTrue : ParsedFlags :=
  ⟨true, false, [], [], [ascii "read"], [], [], [ascii "true"]⟩

/-- The programs are loaded for `true`, and follow the child. -/
theorem accepted_loads_iff_readsOfTrue :
    ∃ handle, newHandle grantsAll (fun _ => none) [0] (traceTargetTGIDs [] 100)
      ⟨true, {0}⟩ = (.ok (), handle) ∧
        ∀ tgid, tgid ∈ handle.objs.targetPids ↔ TracesProcess readsOfTrue 100 tgid := by
  have known : Syscalls.id (ascii "read") = some 0 :=
    Syscalls.id_eq_some_iff.mpr ⟨⟨0, ascii "read"⟩, List.mem_cons_self, rfl, rfl⟩
  have named : selectedNames [] [ascii "read"] = [ascii "read"] := by decide
  have selected : parseTraceIDs [] [ascii "read"] = .ok {0} := by
    rw [parseTraceIDs_eq_ok_iff, named]
    refine ⟨fun syscallName mem => ?_, fun id => ?_⟩
    · rw [List.mem_singleton.mp mem]
      exact ⟨0, known⟩
    · simp [known, eq_comm]
  have accepted : parseArgs none (fun _ => some (ascii "/bin/true")) readsOfTrue =
      .ok ⟨[], ⟨⟨⟨true, {0}, []⟩, false⟩, ascii "true", ascii "/bin/true", [], []⟩⟩ :=
    parseArgs_eq_ok_iff.mpr ⟨{0}, [], selected, rfl, List.forall_mem_nil _, rfl, rfl⟩
  have grants : Grants grantsAll :=
    ⟨rfl, fun _ => ⟨rfl, rfl⟩, rfl, fun _ => rfl, fun _ => rfl, fun _ => rfl, rfl⟩
  obtain ⟨-, loads, loaded⟩ := accepted_loads_iff accepted grants (fun _ => none) 100 [0] rfl
  obtain ⟨handle, made⟩ := loads.mpr (by decide)
  exact ⟨handle, made, (loaded handle made).2.2⟩

end Litrace.Cli
