import Litrace.Cli.Parse

/-!
# Syscall selectors

`parseTraceExpressions` and `parseTraceSelectors` read one grammar: a list of known names,
separated by commas, before which `-e` allows the label `trace=`.  As known names are not empty
and have no equals sign, all that matters of the items is which names they have
(`parseTraceIDs_eq_ok_iff`): the parsers accept them if all are known, and yield their ids.

The rewritings of `selectors_have_one_grammar` are what a user may do without a change of
meaning: move an item to the other flag, with the label or without it, cut an item at a comma,
and give the items in any order and number.  Each is a fact about the names in the items, and
none mentions a parser.
-/

namespace Litrace.Cli

open GoString (ascii)
open Loop

/-! ## The grammar -/

/-- A name of the table. -/
def Known (syscallName : GoString) : Prop := ∃ id, Syscalls.id syscallName = some id

/-- A list that is not empty, of known names that are not empty. -/
def Selector (item : GoString) : Prop :=
  item ≠ [] ∧ ∀ syscallName ∈ item.splitOn comma, syscallName ≠ [] ∧ Known syscallName

/-- The item of `-e` without its label. -/
def unlabelled (expression : GoString) : GoString :=
  if traceLabel <+: expression then expression.drop traceLabel.length else expression

/-- A selector with its label, or one without it that has no equals sign. -/
def TraceExpression (expression : GoString) : Prop :=
  Selector (unlabelled expression) ∧ (¬ traceLabel <+: expression → 61 ∉ expression)

/-- The names of an item of `-e`. -/
def expressionNames (expression : GoString) : List GoString :=
  (unlabelled expression).splitOn comma

/-- The names of all items. -/
def selectedNames (expressions selectors : List GoString) : List GoString :=
  expressions.flatMap expressionNames ++ selectors.flatMap fun selector => selector.splitOn comma

/-- Two command lines select the same: both are rejected, or both accepted with the same ids. -/
def SelectSame (expressions selectors expressions' selectors' : List GoString) : Prop :=
  ∀ ids, parseTraceIDs expressions selectors = .ok ids ↔
    parseTraceIDs expressions' selectors' = .ok ids

/-! ## What the parsers accept -/

/-- No name of the table is empty or holds an equals sign, so a name cannot be taken for a labelled
selector. -/
theorem Known.plain {syscallName : GoString} (known : Known syscallName) :
    syscallName ≠ [] ∧ 61 ∉ syscallName := by
  obtain ⟨id, known⟩ := known
  exact Syscalls.plain_of_id known

/-- A byte that does not separate is in one of the parts. -/
theorem exists_mem_splitOn {b sep : UInt8} {s : GoString} (ne : b ≠ sep) (mem : b ∈ s) :
    ∃ part ∈ s.splitOn sep, b ∈ part := by
  have whole : [sep].intercalate (s.splitOn sep) = s := List.intercalate_splitOn sep
  rw [← whole] at mem
  clear whole
  generalize s.splitOn sep = parts at mem ⊢
  induction parts with
  | nil => cases mem
  | cons part parts ih =>
      cases parts with
      | nil => simpa using mem
      | cons next parts =>
          have cut : [sep].intercalate (part :: next :: parts) =
              part ++ sep :: [sep].intercalate (next :: parts) := by
            simp [List.intercalate]
          rw [cut, List.mem_append, List.mem_cons] at mem
          rcases mem with here | same | later
          · exact ⟨part, List.mem_cons_self, here⟩
          · exact absurd same ne
          · obtain ⟨found, mem, inside⟩ := ih later
            exact ⟨found, List.mem_cons_of_mem _ mem, inside⟩

/-- The ids with that of a name. -/
def withName (ids : Finset Int64) (syscallName : GoString) : Finset Int64 :=
  (Syscalls.id syscallName).elim ids (insert · ids)

/-- The numbers collected are those of the names, in whatever order they come. -/
theorem mem_foldl_withName {syscallNames : List GoString} {id : Int64} :
    id ∈ syscallNames.foldl withName ∅ ↔
      ∃ syscallName ∈ syscallNames, Syscalls.id syscallName = some id := by
  refine (mem_foldl_insert Syscalls.id ∅ syscallNames id).trans ?_
  exact or_iff_right (Finset.notMem_empty id)

section

variable {flag : TraceFlag} {item selector expression : GoString} {ids ids' : Finset Int64}

/-- When a name is accepted, and what it adds. -/
theorem addSyscall_eq_ok_iff {syscallName : GoString} :
    addSyscall flag item ids syscallName = .ok ids' ↔
      Known syscallName ∧ ids' = withName ids syscallName := by
  unfold addSyscall withName
  by_cases none : syscallName = []
  · rw [if_pos none]
    exact iff_of_false nofun fun h => h.1.plain.1 none
  · rw [if_neg none]
    cases found : Syscalls.id syscallName with
    | none =>
        refine iff_of_false nofun fun h => ?_
        obtain ⟨id, known⟩ := h.1
        rw [found] at known
        cases known
    | some id =>
        have known : Known syscallName := ⟨id, found⟩
        rw [and_iff_right known, Except.ok.injEq, eq_comm, Option.elim_some]

/-- A selector is accepted when all its names are. -/
theorem addSelector_eq_ok_iff :
    addSelector flag item selector ids = .ok ids' ↔
      (∀ syscallName ∈ selector.splitOn comma, Known syscallName) ∧
        ids' = (selector.splitOn comma).foldl withName ids := by
  unfold addSelector
  by_cases none : selector = []
  · rw [if_pos none, none, List.splitOn_nil]
    refine iff_of_false nofun fun h => ?_
    exact (h.1 [] List.mem_cons_self).plain.1 rfl
  · rw [if_neg none]
    refine foldlM_eq_ok_iff fun ids syscallName ids' => ?_
    exact addSyscall_eq_ok_iff

theorem equals_ne_comma : (61 : UInt8) ≠ comma := by decide

/-- Without the label an equals sign would be part of a name. -/
theorem addExpression_eq_ok_iff :
    addExpression ids expression = .ok ids' ↔
      (∀ syscallName ∈ expressionNames expression, Known syscallName) ∧
        ids' = (expressionNames expression).foldl withName ids := by
  unfold addExpression selectorOf expressionNames unlabelled
  by_cases label : traceLabel <+: expression
  · rw [if_pos label, if_pos label]
    exact addSelector_eq_ok_iff
  · rw [if_neg label, if_neg label]
    by_cases equals : 61 ∈ expression
    · rw [if_pos equals]
      refine iff_of_false nofun fun h => ?_
      obtain ⟨syscallName, mem, inside⟩ := exists_mem_splitOn equals_ne_comma equals
      exact (h.1 syscallName mem).plain.2 inside
    · rw [if_neg equals]
      exact addSelector_eq_ok_iff

/-- Two loops, one within the other, go through all the names. -/
theorem parseTraceExpressions_eq_ok_iff {expressions : List GoString} :
    parseTraceExpressions expressions = .ok ids ↔
      (∀ syscallName ∈ expressions.flatMap expressionNames, Known syscallName) ∧
        ids = (expressions.flatMap expressionNames).foldl withName ∅ := by
  rw [List.forall_mem_flatMap, List.foldl_flatMap]
  refine foldlM_eq_ok_iff fun ids expression ids' => ?_
  exact addExpression_eq_ok_iff

/-- All selectors together are one list of names. -/
theorem parseTraceSelectors_eq_ok_iff {selectors : List GoString} :
    parseTraceSelectors selectors = .ok ids ↔
      (∀ syscallName ∈ selectors.flatMap (·.splitOn comma), Known syscallName) ∧
        ids = (selectors.flatMap (·.splitOn comma)).foldl withName ∅ := by
  rw [List.forall_mem_flatMap, List.foldl_flatMap]
  refine foldlM_eq_ok_iff fun ids selector ids' => ?_
  exact addSelector_eq_ok_iff

/-- **All that matters is which names are selected.** -/
theorem parseTraceIDs_eq_ok_iff {expressions selectors : List GoString} :
    parseTraceIDs expressions selectors = .ok ids ↔
      (∀ syscallName ∈ selectedNames expressions selectors, Known syscallName) ∧
        ∀ id, id ∈ ids ↔ ∃ syscallName ∈ selectedNames expressions selectors,
          Syscalls.id syscallName = some id := by
  have found : ∀ (names names' : List GoString) (id : Int64),
      id ∈ names.foldl withName ∅ ∪ names'.foldl withName ∅ ↔
        ∃ syscallName ∈ names ++ names', Syscalls.id syscallName = some id := by
    intro names names' id
    rw [Finset.mem_union, mem_foldl_withName, mem_foldl_withName]
    simp only [List.mem_append, or_and_right, exists_or]
  unfold parseTraceIDs selectedNames
  rw [List.forall_mem_append]
  simp only [bind_eq_ok_iff, parseTraceExpressions_eq_ok_iff, parseTraceSelectors_eq_ok_iff]
  constructor
  · rintro ⟨_, ⟨known, rfl⟩, _, ⟨known', rfl⟩, same⟩
    cases same
    exact ⟨⟨known, known'⟩, found _ _⟩
  · rintro ⟨⟨known, known'⟩, ids_iff⟩
    refine ⟨_, ⟨known, rfl⟩, _, ⟨known', rfl⟩, congrArg Except.ok ?_⟩
    ext id
    exact (found _ _ id).trans (ids_iff id).symm

/-! ## One grammar -/

theorem selector_iff : Selector item ↔ ∀ syscallName ∈ item.splitOn comma, Known syscallName := by
  refine ⟨fun selector name mem => (selector.2 name mem).2, fun known => ⟨?_, ?_⟩⟩
  · rintro rfl
    rw [List.splitOn_nil] at known
    exact (known [] List.mem_cons_self).plain.1 rfl
  · exact fun name mem => ⟨(known name mem).plain.1, known name mem⟩

theorem traceExpression_iff : TraceExpression expression ↔
    ∀ syscallName ∈ expressionNames expression, Known syscallName := by
  rw [TraceExpression, selector_iff]
  refine and_iff_left_of_imp fun known unlabelled equals => ?_
  obtain ⟨syscallName, mem, inside⟩ := exists_mem_splitOn equals_ne_comma equals
  refine (known syscallName ?_).plain.2 inside
  rwa [Cli.unlabelled, if_neg unlabelled]

/-- A labelled expression names what stands behind the label. -/
theorem expressionNames_label (selector : GoString) :
    expressionNames (traceLabel ++ selector) = selector.splitOn comma := by
  rw [expressionNames, unlabelled, if_pos (List.prefix_append _ _), List.drop_left]

/-- An expression without an equals sign is a plain selector. -/
theorem expressionNames_of_notMem (plain : 61 ∉ selector) :
    expressionNames selector = selector.splitOn comma := by
  rw [expressionNames, unlabelled, if_neg]
  intro label
  exact plain (label.subset (by decide))

/-- Command lines with the same names select the same calls, however the names are spread over the
flags. -/
theorem selectSame_of_names {expressions selectors expressions' selectors' : List GoString}
    (same : ∀ syscallName, syscallName ∈ selectedNames expressions selectors ↔
      syscallName ∈ selectedNames expressions' selectors') :
    SelectSame expressions selectors expressions' selectors' := by
  intro ids
  rw [parseTraceIDs_eq_ok_iff, parseTraceIDs_eq_ok_iff]
  simp only [same]

theorem mem_selectedNames {expressions selectors : List GoString} {syscallName : GoString} :
    syscallName ∈ selectedNames expressions selectors ↔
      (∃ e ∈ expressions, syscallName ∈ expressionNames e) ∨
        ∃ s ∈ selectors, syscallName ∈ s.splitOn comma := by
  rw [selectedNames, List.mem_append, List.mem_flatMap, List.mem_flatMap]

/-- The label and the flag make no difference. -/
theorem selectSame_label (expressions selectors : List GoString) (s : GoString) :
    SelectSame ((traceLabel ++ s) :: expressions) selectors expressions (s :: selectors) := by
  refine selectSame_of_names fun syscallName => ?_
  simp only [mem_selectedNames, List.exists_mem_cons_iff, expressionNames_label]
  rw [or_assoc, or_left_comm]

/-- A plain selector means the same under either flag. -/
theorem selectSame_of_notMem (expressions selectors : List GoString) {s : GoString}
    (plain : 61 ∉ s) : SelectSame (s :: expressions) selectors expressions (s :: selectors) := by
  refine selectSame_of_names fun syscallName => ?_
  simp only [mem_selectedNames, List.exists_mem_cons_iff, expressionNames_of_notMem plain]
  rw [or_assoc, or_left_comm]

/-- Nor does it whether names are in one list or in two. -/
theorem selectSame_cut (expressions selectors : List GoString) (s t : GoString) :
    SelectSame expressions ((s ++ comma :: t) :: selectors) expressions
      (s :: t :: selectors) := by
  refine selectSame_of_names fun syscallName => ?_
  simp only [mem_selectedNames, List.exists_mem_cons_iff, List.splitOn_append_cons_self,
    List.mem_append, or_assoc]

theorem parseTraceIDs_accepts_iff {expressions selectors : List GoString} :
    (∃ ids, parseTraceIDs expressions selectors = .ok ids) ↔
      (∀ e ∈ expressions, TraceExpression e) ∧ ∀ s ∈ selectors, Selector s := by
  simp only [parseTraceIDs_eq_ok_iff, exists_and_left, traceExpression_iff, selector_iff,
    selectedNames, List.forall_mem_append, List.forall_mem_flatMap]
  exact and_iff_left ⟨_, fun id => mem_foldl_withName⟩

/-- Every item has a name, and every known name an id. -/
theorem eq_nil_of_parseTraceIDs_empty {expressions selectors : List GoString}
    (accepted : parseTraceIDs expressions selectors = .ok ∅) :
    expressions = [] ∧ selectors = [] := by
  obtain ⟨known, found⟩ := parseTraceIDs_eq_ok_iff.mp accepted
  have none : ∀ syscallName, syscallName ∉ selectedNames expressions selectors := by
    intro syscallName mem
    obtain ⟨id, hid⟩ := known syscallName mem
    exact Finset.notMem_empty id ((found id).mpr ⟨syscallName, mem, hid⟩)
  have split : ∀ item : GoString, ∃ syscallName, syscallName ∈ item.splitOn comma := fun item =>
    List.exists_mem_of_ne_nil _ (List.splitOn_ne_nil comma item)
  simp only [mem_selectedNames, not_or, not_exists, not_and] at none
  constructor
  · refine List.eq_nil_iff_forall_not_mem.mpr fun e mem => ?_
    obtain ⟨syscallName, inside⟩ := split (unlabelled e)
    exact (none syscallName).1 e mem inside
  · refine List.eq_nil_iff_forall_not_mem.mpr fun s mem => ?_
    obtain ⟨syscallName, inside⟩ := split s
    exact (none syscallName).2 s mem inside

end

/-- **Two spellings of one grammar.**  The items are accepted exactly when each is a selector,
and select the ids of all their names; with `-e` and with `--trace` they say the same, in any
order, any number of times and in lists of any length; and they never select nothing. -/
theorem selectors_have_one_grammar :
    (∀ expressions selectors, (∃ ids, parseTraceIDs expressions selectors = .ok ids) ↔
      (∀ e ∈ expressions, TraceExpression e) ∧ ∀ s ∈ selectors, Selector s) ∧
    (∀ expressions selectors ids, parseTraceIDs expressions selectors = .ok ids → ∀ id, id ∈ ids ↔
      ∃ syscallName ∈ selectedNames expressions selectors, Syscalls.id syscallName = some id) ∧
    (∀ expressions selectors s,
      SelectSame ((traceLabel ++ s) :: expressions) selectors expressions (s :: selectors) ∧
        (61 ∉ s → SelectSame (s :: expressions) selectors expressions (s :: selectors))) ∧
    (∀ expressions selectors s t,
      SelectSame expressions ((s ++ comma :: t) :: selectors) expressions (s :: t :: selectors)) ∧
    (∀ expressions expressions' selectors selectors',
      (∀ e, e ∈ expressions ↔ e ∈ expressions') → (∀ s, s ∈ selectors ↔ s ∈ selectors') →
        SelectSame expressions selectors expressions' selectors') ∧
    ∀ expressions selectors, parseTraceIDs expressions selectors = .ok ∅ →
      expressions = [] ∧ selectors = [] := by
  refine ⟨fun _ _ => parseTraceIDs_accepts_iff,
    fun _ _ _ accepted => (parseTraceIDs_eq_ok_iff.mp accepted).2,
    fun expressions selectors s => ⟨selectSame_label expressions selectors s,
      selectSame_of_notMem expressions selectors⟩,
    selectSame_cut, fun _ _ _ _ items items' => ?_, fun _ _ => eq_nil_of_parseTraceIDs_empty⟩
  refine selectSame_of_names fun syscallName => ?_
  simp only [mem_selectedNames, items, items']

end Litrace.Cli
