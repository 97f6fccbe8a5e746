import Litrace.Bpf.SubmittedVars
import Mathlib.Data.Bool.AllAny

/-!
# Arguments typed as variable

`syscall_schemas` types some arguments by `enum var_arg_kind` and the others by
`enum arg_type`.  Both end up in the same byte with overlapping codes, so which
one was meant is not to be seen in an event: this is the table of the former.

A capture types its argument, and no other, so an argument that was not captured
has the type of the schema.

The table lists the calls in the order of `syscall_schemas`, and one walk down
both compares them (`agree`).  So the kernel evaluates a linear computation once,
where a search for each row would take it minutes.
-/

namespace Litrace.Bpf

open VarArgKind (string bytes argv)

/-- The arguments of each syscall that are typed by `enum var_arg_kind`. -/
def varArgSchemas : List (Int64 × List (Fin 6 × UInt8)) := [
  (0, [(1, bytes)]), (1, [(1, bytes)]), (2, [(0, string)]), (4, [(0, string)]),
  (6, [(0, string)]), (17, [(1, string)]), (18, [(1, string)]), (21, [(0, string)]),
  (30, [(1, string)]), (54, [(3, string)]), (55, [(3, string)]),
  (59, [(0, string), (1, argv), (2, argv)]), (67, [(0, string)]), (76, [(0, string)]),
  (79, [(0, string)]), (80, [(0, string)]), (82, [(0, string), (1, string)]), (83, [(0, string)]),
  (84, [(0, string)]), (85, [(0, string)]), (86, [(0, string), (1, string)]), (87, [(0, string)]),
  (88, [(0, string), (1, string)]), (89, [(0, string), (1, string)]), (90, [(0, string)]),
  (92, [(0, string)]), (94, [(0, string)]), (103, [(1, string)]), (132, [(0, string)]),
  (133, [(0, string)]), (137, [(0, string)]), (155, [(0, string), (1, string)]),
  (161, [(0, string)]), (163, [(0, string)]), (165, [(0, string), (1, string), (2, string)]),
  (166, [(0, string)]), (167, [(0, string)]), (168, [(0, string)]), (170, [(0, string)]),
  (171, [(0, string)]), (175, [(2, string)]), (176, [(0, string)]), (179, [(1, string)]),
  (188, [(0, string), (1, string)]), (189, [(0, string), (1, string)]), (190, [(1, string)]),
  (191, [(0, string), (1, string)]), (192, [(0, string), (1, string)]), (193, [(1, string)]),
  (194, [(0, string), (1, string)]), (195, [(0, string), (1, string)]), (196, [(1, string)]),
  (197, [(0, string), (1, string)]), (198, [(0, string), (1, string)]), (199, [(1, string)]),
  (235, [(0, string)]), (240, [(0, string)]), (241, [(0, string)]), (242, [(1, string)]),
  (243, [(1, string)]), (248, [(0, string), (1, string)]),
  (249, [(0, string), (1, string), (2, string)]), (254, [(1, string)]), (257, [(1, string)]),
  (258, [(1, string)]), (259, [(1, string)]), (260, [(1, string)]), (261, [(1, string)]),
  (262, [(1, string)]), (263, [(1, string)]), (264, [(1, string), (3, string)]),
  (265, [(1, string), (3, string)]), (266, [(0, string), (2, string)]),
  (267, [(1, string), (2, string)]), (268, [(1, string)]), (269, [(1, string)]),
  (280, [(1, string)]), (301, [(4, string)]), (303, [(1, string)]), (313, [(1, string)]),
  (316, [(1, string), (3, string)]), (318, [(0, string)]), (319, [(0, string)]),
  (320, [(3, string)]), (322, [(1, string), (2, argv), (3, argv)]), (332, [(1, string)]),
  (428, [(1, string)]), (429, [(1, string), (3, string)]), (430, [(0, string)]),
  (431, [(2, string)]), (433, [(1, string)]), (437, [(1, string)]), (439, [(1, string)]),
  (442, [(1, string)]), (452, [(1, string)]), (463, [(1, string), (3, string)]),
  (464, [(1, string), (3, string)]), (465, [(1, string), (3, string)]),
  (466, [(1, string), (3, string)]), (467, [(1, string)]), (468, [(1, string)]),
  (469, [(1, string)])]

/-- The argument is typed as a variable one of this kind. -/
def DeclaredVar (id : Int64) (i : Fin 6) (kind : UInt8) : Prop :=
  ∃ row ∈ varArgSchemas, row.1 = id ∧ (i, kind) ∈ row.2

instance (id : Int64) (i : Fin 6) (kind : UInt8) : Decidable (DeclaredVar id i kind) := by
  unfold DeclaredVar
  infer_instance

/-- What holds of each argument of the table can be checked row by row. -/
theorem forall_varArgSchemas {p : Int64 × List (Fin 6 × UInt8) → Fin 6 × UInt8 → Prop}
    [∀ row arg, Decidable (p row arg)]
    (all : (varArgSchemas.all fun row => row.2.all fun arg => p row arg) = true) :
    ∀ row ∈ varArgSchemas, ∀ arg ∈ row.2, p row arg := by
  intro row mem arg inside
  exact of_decide_eq_true (List.all_eq_true.1 (List.all_eq_true.1 all row mem) arg inside)

/-- The table is ordered by the number of the syscall, each once. -/
theorem syscallSchemas_sorted :
    (syscallSchemas.map fun schema => schema.syscallId.toInt).IsChain (· < ·) := by
  decide +kernel

/-- Each schema is the one that is found for its syscall. -/
theorem find?_of_mem_syscallSchemas {schema : SyscallArgSchema} (mem : schema ∈ syscallSchemas) :
    (syscallSchemas.find? fun other => other.syscallId = schema.syscallId) = some schema := by
  have sorted := List.pairwise_map.1 (List.isChain_iff_pairwise.1 syscallSchemas_sorted)
  obtain ⟨before, behind, split'⟩ := List.append_of_mem mem
  rw [split', List.pairwise_append] at sorted
  refine List.find?_eq_some_iff_append.2 ⟨decide_eq_true rfl, before, behind, split', ?_⟩
  intro other earlier
  have less := sorted.2.2 other earlier schema List.mem_cons_self
  rw [Bool.not_eq_true', decide_eq_false_iff_not]
  exact fun same => absurd (congrArg Int64.toInt same) (ne_of_lt less)

/-- The schema has the codes of the kinds at the arguments, all of which it counts. -/
def SyscallArgSchema.Has (schema : SyscallArgSchema) (declared : List (Fin 6 × UInt8)) : Bool :=
  declared.all fun arg =>
    schema.argTypes.get arg.1 == arg.2 && decide (arg.1.val < schema.argCount.toNat)

/-- The rows agree with the schemas of the same syscalls; both are in the same order. -/
def agree : List SyscallArgSchema → List (Int64 × List (Fin 6 × UInt8)) → Bool
  | _, [] => true
  | [], _ :: _ => false
  | schema :: schemas, row :: rows =>
      if schema.syscallId = row.1 then schema.Has row.2 && agree schemas rows
      else agree schemas (row :: rows)

/-- A check of the rows against the schemas, read back as a statement about each row. -/
theorem exists_of_agree {schemas : List SyscallArgSchema}
    {rows : List (Int64 × List (Fin 6 × UInt8))} (all : agree schemas rows = true)
    {row : Int64 × List (Fin 6 × UInt8)} (mem : row ∈ rows) :
    ∃ schema ∈ schemas, schema.syscallId = row.1 ∧ schema.Has row.2 = true := by
  induction schemas generalizing rows with
  | nil =>
      cases rows with
      | nil => cases mem
      | cons => cases all
  | cons schema schemas ih =>
      cases rows with
      | nil => cases mem
      | cons first rows =>
          rw [agree] at all
          split at all
          next same =>
            obtain ⟨has, all⟩ := Bool.and_eq_true_iff.1 all
            rcases List.mem_cons.1 mem with rfl | mem
            · exact ⟨schema, List.mem_cons_self, same, has⟩
            · obtain ⟨found, inside, rest⟩ := ih all mem
              exact ⟨found, List.mem_cons_of_mem schema inside, rest⟩
          next =>
            obtain ⟨found, inside, rest⟩ := ih all mem
            exact ⟨found, List.mem_cons_of_mem schema inside, rest⟩

/-- The declared schemas agree with the rows: a run through the table. -/
theorem agree_varArgSchemas : agree syscallSchemas varArgSchemas = true := by
  decide +kernel

/-- The kinds of variable arguments are stored as the codes they have. -/
theorem DeclaredVar.code {id : Int64} {i : Fin 6} {kind : UInt8} (declared : DeclaredVar id i kind)
    (e : Event) : (setSyscallArgSchema id e).argTypes.get i = kind := by
  obtain ⟨row, mem, rfl, arg⟩ := declared
  obtain ⟨schema, inside, same, has⟩ := exists_of_agree agree_varArgSchemas mem
  have code := List.all_eq_true.1 has _ arg
  have found := find?_of_mem_syscallSchemas inside
  rw [same] at found
  rw [setSyscallArgSchema, found]
  exact eq_of_beq (Bool.and_eq_true_iff.1 code).1

/-! ## Types of arguments that are not captured -/

section Types

variable {mem : UserMemory} {args : Vector UInt64 6} {i : Fin 6}

theorem appendVarString_argTypes (mem : UserMemory) (e : Event) (j : UInt8) (ptr : UInt64) :
    (appendVarString mem e j ptr).argTypes = e.argTypes := by
  unfold appendVarString
  dsimp only
  repeat' split
  all_goals rfl

theorem appendVarBytes_argTypes (mem : UserMemory) (e : Event) (j : UInt8) (ptr size : UInt64) :
    (appendVarBytes mem e j ptr size).argTypes = e.argTypes := by
  unfold appendVarBytes
  dsimp only
  repeat' split
  all_goals rfl

/-- A capture types its own argument only. -/
theorem Capture.run_argTypes (c : Capture) (other : c.argIndex ≠ i) (e : Event) :
    (c.run mem args e).argTypes.get i = e.argTypes.get i := by
  have away : ∀ (types : Vector UInt8 6) (j : Fin 6) (kind : UInt8), j ≠ i →
      (types.set j kind).get i = types.get i := by
    intro types j kind ne
    exact Vector.getElem_set_ne j.isLt i.isLt fun same => ne (Fin.ext same)
  cases c with
  | string j =>
      rw [Capture.run, captureString]
      dsimp only
      rw [away _ j _ other, appendVarString_argTypes]
  | struct j size =>
      rw [Capture.run, captureStruct]
      dsimp only
      rw [away _ j _ other, appendVarBytes_argTypes]
  | buffer j size => rw [Capture.run, appendVarBytes_argTypes]

/-- A plan changes the types of the arguments it captures, and of no other. -/
theorem argTypes_foldl (plan : List Capture) (uncaptured : ∀ c ∈ plan, c.argIndex ≠ i)
    (e : Event) :
    (plan.foldl (fun e c => c.run mem args e) e).argTypes.get i = e.argTypes.get i := by
  induction plan generalizing e with
  | nil => rfl
  | cons c plan ih =>
      rw [List.foldl_cons, ih fun d mem => uncaptured d (List.mem_cons_of_mem c mem),
        c.run_argTypes (uncaptured c List.mem_cons_self)]

end Types

section ExitEvent

variable (mem : UserMemory) (task : Task) (state : SyscallData) (ctx : SysExitArgs) (now : UInt64)
variable (snapshot : Option ExecveSnapshot) {i : Fin 6}

/-- An argument without a capture keeps the type that the schema gave it. -/
theorem exitEvent_argTypes_of_uncaptured (uncaptured : state.syscallId ≠ nrExecve →
      ∀ c ∈ captures state.syscallId ctx.ret state.args, c.argIndex ≠ i) :
    (exitEvent mem task state ctx now snapshot).argTypes.get i =
      (setSyscallArgSchema state.syscallId
        (eventHeader mem task state ctx now)).argTypes.get i := by
  rw [exitEvent, captureVars_eq_captures]
  split
  next exec =>
    have copied : ∀ e : Event, (copyExecveSnapshot snapshot e).argTypes = e.argTypes := by
      intro e
      cases snapshot <;> rfl
    rw [copied]
  next other => rw [argTypes_foldl _ (uncaptured other)]

/-- So a variable argument without a capture has the code of its kind. -/
theorem exitEvent_argTypes {kind : UInt8} (declared : DeclaredVar state.syscallId i kind)
    (uncaptured : state.syscallId ≠ nrExecve →
      ∀ c ∈ captures state.syscallId ctx.ret state.args, c.argIndex ≠ i) :
    (exitEvent mem task state ctx now snapshot).argTypes.get i = kind := by
  rw [exitEvent_argTypes_of_uncaptured mem task state ctx now snapshot uncaptured, declared.code]

end ExitEvent

/-! ## Types of arguments that are captured -/

/-- The code a capture leaves at its argument; a buffer has it from its schema. -/
def Capture.kind : Capture → UInt8
  | string _ => VarArgKind.string
  | struct _ _ | buffer _ _ => VarArgKind.bytes

section Codes

variable {mem : UserMemory} {args : Vector UInt64 6}

/-- After a capture the type of its argument is the capture's kind. -/
theorem Capture.run_code (c : Capture) (e : Event)
    (typed : ∀ i size, c = .buffer i size → e.argTypes.get i = VarArgKind.bytes) :
    (c.run mem args e).argTypes.get c.argIndex = c.kind := by
  cases c with
  | string i => exact Vector.getElem_set_self i.isLt
  | struct i size => exact Vector.getElem_set_self i.isLt
  | buffer i size =>
      rw [Capture.run, appendVarBytes_argTypes]
      exact typed i size rfl

/-- After all captures each has its own code, as no argument is captured twice. -/
theorem foldl_code {plan : List Capture} (fits : FitsSlots plan) {c : Capture}
    (planned : c ∈ plan) (e : Event)
    (typed : ∀ i size, c = .buffer i size → e.argTypes.get i = VarArgKind.bytes) :
    (plan.foldl (fun e c => c.run mem args e) e).argTypes.get c.argIndex = c.kind := by
  obtain ⟨before, behind, rfl⟩ := List.append_of_mem planned
  have apart : (before ++ c :: behind).Pairwise fun c d => c.argIndex ≠ d.argIndex :=
    List.pairwise_iff_getElem.mpr fun j k _ hk less => argIndex_ne_of_fitsSlots fits less hk
  obtain ⟨-, own, earlier⟩ := List.pairwise_append.mp apart
  rw [List.foldl_append, List.foldl_cons,
    argTypes_foldl behind fun d later => ((List.pairwise_cons.mp own).1 d later).symm]
  refine c.run_code _ fun i size buffer => ?_
  subst buffer
  exact (argTypes_foldl before (fun d sooner => earlier d sooner _ List.mem_cons_self) e).trans
    (typed i size rfl)

/-- The calls whose result is a structure, with its argument and size. -/
def statusResults : List (Int64 × Fin 6 × UInt64) :=
  [(nrNewstat, 1, sizeofStat), (nrNewlstat, 1, sizeofStat), (nrNewfstat, 1, sizeofStat),
    (nrNewfstatat, 2, sizeofStat), (nrStatx, 4, sizeofStatx)]

/-- The table of schemas has the capture's kind at its argument, or the capture is the result
of a call that succeeded. -/
def Capture.Declared (id ret : Int64) : Capture → Prop
  | string i => DeclaredVar id i VarArgKind.string
  | struct i size => 0 ≤ ret ∧ (id, i, size) ∈ statusResults
  | buffer i _ => DeclaredVar id i VarArgKind.bytes

/-- So are all captures. -/
def AllDeclared (id ret : Int64) (plan : List Capture) : Prop :=
  ∀ c ∈ plan, c.Declared id ret

/-- Every plan of the table is declared in the schemas. -/
theorem captures_declared (id ret : Int64) (args : Vector UInt64 6) :
    AllDeclared id ret (captures id ret args) := by
  have first : ∀ id ∈ [nrOpen, nrAccess, nrChdir, nrUnlink, nrNewstat, nrNewlstat, nrRename],
      DeclaredVar id 0 VarArgKind.string := List.all_iff_forall_prop.mp (by decide)
  have second : ∀ id ∈ [nrOpenat, nrOpenat2, nrFaccessat, nrFaccessat2, nrUnlinkat,
      nrNewfstatat, nrStatx, nrRename, nrRenameat, nrRenameat2],
      DeclaredVar id 1 VarArgKind.string := List.all_iff_forall_prop.mp (by decide)
  have fourth : ∀ id ∈ [nrRenameat, nrRenameat2], DeclaredVar id 3 VarArgKind.string :=
    List.all_iff_forall_prop.mp (by decide)
  have buffer : ∀ id ∈ [nrRead, nrWrite], DeclaredVar id 1 VarArgKind.bytes :=
    List.all_iff_forall_prop.mp (by decide)
  have nothing : AllDeclared id ret [] := fun c planned => nomatch planned
  have path {ids calls : List Int64} {i : Fin 6} {plan : List Capture}
      (declared : ∀ id ∈ ids, DeclaredVar id i VarArgKind.string) (call : id ∈ calls)
      (among : calls ⊆ ids) (others : AllDeclared id ret plan) :
      AllDeclared id ret (.string i :: plan) :=
    List.forall_mem_cons.mpr ⟨declared id (among call), others⟩
  have data {size : UInt64} (call : id ∈ [nrRead, nrWrite]) :
      AllDeclared id ret [.buffer 1 size] :=
    List.forall_mem_singleton.mpr (buffer id call)
  have result {calls : List Int64} {i : Fin 6} {size : UInt64} (call : id ∈ calls)
      (listed : (calls.all fun id => (id, i, size) ∈ statusResults) = true) :
      AllDeclared id ret (if 0 ≤ ret then [.struct i size] else []) := by
    split
    next succeeds =>
      have among := List.all_iff_forall_prop.mp listed id call
      exact List.forall_mem_singleton.mpr ⟨succeeds, among⟩
    next => exact nothing
  have single {call : Int64} (same : id = call) : id ∈ [call] := List.mem_singleton.mpr same
  unfold captures
  refine iteInduction (motive := AllDeclared id ret)
    (fun call => path first call (by decide) nothing) fun _ => ?_
  refine iteInduction (motive := AllDeclared id ret)
    (fun call => path second call (by decide) nothing) fun _ => ?_
  refine iteInduction (motive := AllDeclared id ret)
    (fun call => path first call (by decide) (result call (by decide))) fun _ => ?_
  refine iteInduction (motive := AllDeclared id ret)
    (fun call => result (single call) (by decide)) fun _ => ?_
  refine iteInduction (motive := AllDeclared id ret)
    (fun call => path second (single call) (by decide)
      (result (single call) (by decide))) fun _ => ?_
  refine iteInduction (motive := AllDeclared id ret)
    (fun call => path second (single call) (by decide)
      (result (single call) (by decide))) fun _ => ?_
  refine iteInduction (motive := AllDeclared id ret)
    (fun call => path first (single call) (by decide)
      (path second (single call) (by decide) nothing)) fun _ => ?_
  refine iteInduction (motive := AllDeclared id ret)
    (fun call => path second call (by decide) (path fourth call (by decide) nothing)) fun _ => ?_
  refine iteInduction (motive := AllDeclared id ret)
    (fun call => data (by rw [call]; decide)) fun _ => ?_
  refine iteInduction (motive := AllDeclared id ret) (fun call => ?_) fun _ => nothing
  exact iteInduction (motive := AllDeclared id ret) (fun _ => data (by rw [call]; decide))
    fun _ => nothing

end Codes

/-- The event has the code of each capture at its argument. -/
theorem exitEvent_code (mem : UserMemory) (task : Task) (state : SyscallData)
    (ctx : SysExitArgs) (now : UInt64) (snapshot : Option ExecveSnapshot) {c : Capture}
    (captured : c ∈ captures state.syscallId ctx.ret state.args)
    (other : state.syscallId ≠ nrExecve) :
    (exitEvent mem task state ctx now snapshot).argTypes.get c.argIndex = c.kind := by
  rw [exitEvent, captureVars_eq_captures, if_neg other]
  refine foldl_code (fitsSlots_captures _ _ _) captured _ fun i size buffer => ?_
  subst buffer
  exact (captures_declared _ _ _ _ captured).code _

end Litrace.Bpf
