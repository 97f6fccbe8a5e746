import Litrace.Bpf.Capture
import Litrace.Bpf.SchemaGenerator
import Litrace.Lib.Aggregate
import Mathlib.Data.Bool.AllAny

/-!
# The generated header

`generate_syscall_schema.py` loads a table of syscalls, classifies their arguments, and writes a
header (`generate`): a macro for each number, and the array `syscall_schemas`, which
`set_syscall_arg_schema` searches.  `readHeader` is what a C compiler makes of such a header.

Writing the header and reading it keeps the meaning of the table: whatever the syscall, the
search ends with what the generator has made of the first entry of the table with its number
(`generated_schema`).

The header is a text between two programs in different languages, so what it means is not given
by either.  `readHeader` reads it as C does, as far as such a header uses C: a comment ends at
the first `*/`, a macro stands for its number, an initializer lists its values in order.  It
reads every text, not only those the generator writes, and gives up on what it does not
understand.  That it never gives up on a generated header is part of the theorem.

The names in the table become macro names, and the summary of the kernel version becomes a
comment, so both are conditions on the file: a name must be an identifier, and the version must
not end the comment or the line.
-/

namespace Litrace.Bpf.Generator

open Text

/-! ## Loading the table -/

/-- What the JSON file holds. -/
inductive Json where
  | null
  | bool (b : Bool)
  | int (n : ℤ)
  | float
  | str (s : Text)
  | list (xs : List Json)
  | dict (entries : List (Text × Json))

/-- `dict.get`, of a value that is one. -/
def Json.get (key : Text) : Json → Option Json
  | .dict entries => entries.lookup key
  | _ => none

/-- An instance of `int`; the booleans are such. -/
inductive PyInt where
  | int (n : ℤ)
  | bool (b : Bool)
  deriving DecidableEq

/-- A Boolean counts as the number it is in Python. -/
def PyInt.value : PyInt → ℤ
  | .int n => n
  | .bool b => if b then 1 else 0

/-- `str`. -/
def PyInt.text : PyInt → Text
  | .int n => (if n < 0 then ['-'] else []) ++ Nat.toDigits 10 n.natAbs
  | .bool b => if b then "True".toList else "False".toList

def Json.int? : Json → Option PyInt
  | .int n => some (.int n)
  | .bool b => some (.bool b)
  | _ => none

def Json.str? : Json → Option Text
  | .str s => some s
  | _ => none

/-- `MAX_ARGS`. -/
def maxArgs : ℕ := 6

/-- An item of the list that `load_syscalls` returns. -/
structure SyscallItem where
  name : Text
  number : PyInt
  signature : List Text
  argTypes : List ArgClass
  arity : argTypes.length = min signature.length maxArgs

/-- The order of the items: the key is the number. -/
def SyscallItem.le (a b : SyscallItem) : Bool := decide (a.number.value ≤ b.number.value)

/-- Why the file is refused. -/
inductive TableError where
  | notAnObject
  | notAList

def TableError.message (path : Text) : TableError → Text
  | .notAnObject => path ++ ": expected top-level object".toList
  | .notAList => path ++ ": expected \"syscalls\" to be a list".toList

section

variable (isAlnum : Char → Bool)

/-- A round of the loop over the entries, which passes over what is not as expected. -/
def loadEntry (entry : Json) : Option SyscallItem :=
  match entry.get "name".toList, (entry.get "number".toList).bind Json.int?,
      entry.get "signature".toList with
  | some (.str name), some number, some (.list signature) =>
      let cleanSig := signature.filterMap Json.str?
      some {
        name, number
        signature := cleanSig
        argTypes := (cleanSig.take maxArgs).mapIdx (classifyArgument isAlnum name)
        arity := by rw [List.length_mapIdx, List.length_take, min_comm] }
  | _, _, _ => none

/-- `load_json`, behind the parser. -/
def loadJson : Json → Except TableError Json
  | .dict entries => .ok (.dict entries)
  | _ => .error .notAnObject

/-- `load_syscalls`. -/
def loadSyscalls (file : Json) : Except TableError (List SyscallItem) := do
  let data ← loadJson file
  match data.get "syscalls".toList with
  | some (.list syscalls) =>
      return (syscalls.filterMap (loadEntry isAlnum)).mergeSort SyscallItem.le
  | _ => throw .notAList

end

/-- A string that is not empty. -/
def Json.filled? : Json → Option Text
  | .str (c :: s) => some (c :: s)
  | _ => none

/-- `load_kernel_version`, of a file that is an object. -/
def loadKernelVersion (file : Json) : Text :=
  match file.get "kernel".toList with
  | some (.dict kernel) =>
      (((Json.dict kernel).get "version".toList).bind Json.filled?).getD "unknown".toList
  | _ => "unknown".toList

/-- The name of a part of the kernel's description and the bits that it has. -/
def describePart (part : Option Json) (unit : Text) : Text :=
  let name := ((part.bind (Json.get "name".toList)).bind Json.filled?).getD "unknown".toList
  match (part.bind (Json.get "bits".toList)).bind Json.int? with
  | some bits => name ++ (" (".toList ++ (bits.text ++ unit))
  | none => name

/-- `load_architecture_summary`, of a file that is an object. -/
def loadArchitectureSummary (file : Json) : Text :=
  match file.get "kernel".toList with
  | some (.dict kernel) =>
      describePart ((Json.dict kernel).get "architecture".toList) "-bit)".toList ++
        (", ".toList ++ describePart ((Json.dict kernel).get "abi".toList) "-bit ABI)".toList)
  | _ => "unknown".toList

/-! ## Writing the header -/

/-- The name of a class in the header. -/
def ArgClass.macroName : ArgClass → Text
  | .varArgBytes => "VAR_ARG_BYTES".toList
  | .varArgString => "VAR_ARG_STRING".toList
  | .varArgArgv => "VAR_ARG_ARGV".toList
  | .argFlags => "ARG_FLAGS".toList
  | .argFD => "ARG_FD".toList
  | .argInt => "ARG_INT".toList
  | .argMode => "ARG_MODE".toList
  | .argOff => "ARG_OFF".toList
  | .argPtr => "ARG_PTR".toList
  | .argUint => "ARG_UINT".toList
  | .argRaw => "ARG_RAW".toList

/-- One line of the header's list of numbers. -/
def renderDefine (item : SyscallItem) : Text :=
  "#define __NR_".toList ++ (item.name ++ (" ".toList ++ item.number.text))

/-- `render_nr_defines`. -/
def renderNrDefines (syscalls : List SyscallItem) : Text := joinLines (syscalls.map renderDefine)

/-- The names of the types of an item, padded to six. -/
def SyscallItem.typeNames (item : SyscallItem) : List Text :=
  ((item.argTypes.map ArgClass.macroName) ++
    List.replicate (maxArgs - item.argTypes.length) "ARG_NONE".toList).take maxArgs

def SyscallItem.schemaLines (item : SyscallItem) : List Text := [
  "\t\x7b".toList,
  "\t .syscall_id = __NR_".toList ++ (item.name ++ ",".toList),
  "\t .arg_count = ".toList ++
    (Nat.toDigits 10 (min item.signature.length maxArgs) ++ ",".toList),
  "\t .arg_types = \x7b".toList ++ (joinList item.typeNames ++ "\x7d,".toList),
  "\t \x7d,".toList]

/-- `render_schema_entry`. -/
def renderSchemaEntry (item : SyscallItem) : Text := joinLines item.schemaLines

/-- The line before the entries. -/
def tableLine : Text := "static const struct syscall_arg_schema syscall_schemas[] = \x7b".toList

/-- `render_header`. -/
def renderHeader (syscalls : List SyscallItem) (kernelVersion architecture : Text) : Text :=
  joinLines [
    "/*".toList,
    " * Autogenerated from table.json from https://syscalls.mebeim.net/.".toList,
    " * Kernel version: ".toList ++ (kernelVersion ++ ".".toList),
    " * Architecture: ".toList ++ (architecture ++ ".".toList),
    " */".toList,
    "#ifndef LITRACE_SYSCALL_SCHEMA_H".toList,
    "#define LITRACE_SYSCALL_SCHEMA_H".toList,
    [],
    renderNrDefines syscalls,
    [],
    tableLine,
    joinLines (syscalls.map renderSchemaEntry),
    "\x7d;".toList,
    [],
    "#endif".toList,
    []]

/-- `main`: the text that is written. -/
def generate (isAlnum : Char → Bool) (file : Json) : Except TableError Text := do
  let syscalls ← loadSyscalls isAlnum file
  return renderHeader syscalls (loadKernelVersion file) (loadArchitectureSummary file)

/-! ## Reading the header -/

/-- What stands for a character of an identifier. -/
def isIdentifier (c : Char) : Bool := c.isAlphanum || c == '_'

/-- The macro of a line, and its value. -/
def readDefine (line : Text) : Option (Text × ℕ) := do
  let (name, rest) ← cut isIdentifier "#define __NR_".toList line
  let (digits, rest) ← cut Char.isDigit " ".toList rest
  guard (rest = [])
  return (name, Nat.ofDigitChars 10 digits 0)

/-- The macros that come first. -/
def readDefines : List Text → List (Text × ℕ) × List Text
  | [] => ([], [])
  | line :: lines =>
      match readDefine line with
      | some define => (define :: (readDefines lines).1, (readDefines lines).2)
      | none => ([], line :: lines)

/-- The constants of `enum arg_type` and `enum var_arg_kind` by their names. -/
def argCodes : List (Text × UInt8) :=
  [("ARG_NONE".toList, ArgType.none), ("ARG_INT".toList, ArgType.int),
    ("ARG_UINT".toList, ArgType.uint), ("ARG_FD".toList, ArgType.fd),
    ("ARG_MODE".toList, ArgType.mode), ("ARG_FLAGS".toList, ArgType.flags),
    ("ARG_OFF".toList, ArgType.off), ("ARG_PTR".toList, ArgType.ptr),
    ("ARG_RAW".toList, ArgType.raw), ("VAR_ARG_STRING".toList, VarArgKind.string),
    ("VAR_ARG_BYTES".toList, VarArgKind.bytes), ("VAR_ARG_ARGV".toList, VarArgKind.argv)]

/-- An initializer of the array, by the macros; the last definition of a macro counts. -/
def readInitializer (defines : List (Text × ℕ)) (id count types : Text) :
    Option SyscallArgSchema := do
  let (name, rest) ← cut isIdentifier "\t .syscall_id = __NR_".toList id
  guard (rest = ",".toList)
  let number ← defines.reverse.lookup name
  let (digits, rest) ← cut Char.isDigit "\t .arg_count = ".toList count
  guard (rest = ",".toList)
  let (names, rest) ← cut (· != '\x7d') "\t .arg_types = \x7b".toList types
  guard (rest = "\x7d,".toList)
  let codes ← (listParts names).mapM fun name => argCodes.lookup name
  if six : codes.length = 6 then
    return {
      syscallId := Int64.ofInt number
      argCount := UInt8.ofNat (Nat.ofDigitChars 10 digits 0)
      argTypes := ⟨codes.toArray, by rw [List.size_toArray, six]⟩ }
  else none

/-- The initializers up to the end of the array. -/
def readInitializers (defines : List (Text × ℕ)) : List Text → Option (List SyscallArgSchema)
  | [close, endif] =>
      if close = "\x7d;".toList ∧ endif = "#endif".toList then some [] else none
  | first :: id :: count :: types :: last :: lines =>
      if first = "\t\x7b".toList ∧ last = "\t \x7d,".toList then do
        let schema ← readInitializer defines id count types
        let schemas ← readInitializers defines lines
        return schema :: schemas
      else none
  | _ => none

/-- The line has the end of a comment. -/
def closesComment (line : Text) : Bool := decide ("*/".toList <:+: line)

/-- The array that a header defines, behind the comment that comes first.

A header that is not understood is `none`.  What is read is the list of initializers, in order,
with the numbers that their macros stand for. -/
def readHeader (header : Text) : Option (List SyscallArgSchema) :=
  match (filledLines header).tail.dropWhile fun line => !closesComment line with
  | close :: ifndef :: define :: lines =>
      match readDefines lines with
      | (defines, table :: lines) =>
          if close = " */".toList ∧ ifndef = "#ifndef LITRACE_SYSCALL_SCHEMA_H".toList ∧
              define = "#define LITRACE_SYSCALL_SCHEMA_H".toList ∧ table = tableLine then
            readInitializers defines lines
          else none
      | _ => none
  | _ => none

/-- `set_syscall_arg_schema` with an array of its own. -/
def setSchemaOf (schemas : List SyscallArgSchema) (syscallId : Int64) (e : Event) : Event :=
  match schemas.find? fun schema => schema.syscallId = syscallId with
  | some schema => { e with argCount := schema.argCount, argTypes := schema.argTypes }
  | none => { e with argCount := 6, argTypes := Vector.replicate 6 ArgType.raw }

/-- The tracer searches the array it is compiled with. -/
theorem setSchemaOf_syscallSchemas : setSchemaOf syscallSchemas = setSyscallArgSchema := rfl

/-- What the tracer is to find for an item. -/
def SyscallItem.schema (item : SyscallItem) : SyscallArgSchema :=
  .entry (Int64.ofInt item.number.value) (item.argTypes.map ArgClass.code)

/-- The macro of an item, and its value. -/
def SyscallItem.define (item : SyscallItem) : Text × ℕ := (item.name, item.number.value.toNat)

/-! ## The types of an entry -/

/-- The six types of an entry; some may be missing. -/
def SyscallItem.slots (item : SyscallItem) : List (Option ArgClass) :=
  item.argTypes.map some ++ List.replicate (maxArgs - item.argTypes.length) none

/-- The name of a type in the header. -/
def slotName : Option ArgClass → Text
  | some argType => argType.macroName
  | none => "ARG_NONE".toList

/-- Its code. -/
def slotCode : Option ArgClass → UInt8
  | some argType => argType.code
  | none => ArgType.none

/-- The codes of the header give the name of each slot its code. -/
theorem lookup_slotName (slot : Option ArgClass) :
    argCodes.lookup (slotName slot) = some (slotCode slot) := by
  cases slot with
  | none => decide
  | some argType => cases argType <;> decide

/-- The names are identifiers. -/
theorem slotName_plain (slot : Option ArgClass) : ∀ c ∈ slotName slot, isIdentifier c = true := by
  refine List.all_eq_true.mp ?_
  cases slot with
  | none => decide
  | some argType => cases argType <;> decide

section

variable (item : SyscallItem)

theorem SyscallItem.argTypes_length_le : item.argTypes.length ≤ maxArgs :=
  item.arity.trans_le (min_le_right _ _)

/-- A row has a slot for every argument a call may have, the unused ones included. -/
theorem SyscallItem.slots_length : item.slots.length = maxArgs := by
  have le := item.argTypes_length_le
  rw [slots, List.length_append, List.length_map, List.length_replicate]
  omega

/-- The slots of a row: the types of its arguments, and after them the code for none. -/
theorem SyscallItem.getElem_slots (i : ℕ) (inside : i < item.slots.length) :
    slotCode item.slots[i] = (item.argTypes.map ArgClass.code).getD i ArgType.none := by
  rw [List.getD_eq_getElem?_getD, List.getElem?_map]
  by_cases declared : i < item.argTypes.length
  · rw [List.getElem?_eq_getElem declared]
    simp only [slots, List.getElem_append_left, List.length_map, declared, List.getElem_map]
    rfl
  · rw [List.getElem?_eq_none (not_lt.mp declared)]
    simp only [slots, List.getElem_append_right, List.length_map, not_lt.mp declared,
      List.getElem_replicate]
    rfl

/-- An item has the types of its slots. -/
theorem SyscallItem.schema_eq (six : (item.slots.map slotCode).toArray.size = 6) :
    item.schema = {
      syscallId := Int64.ofInt item.number.value
      argCount := UInt8.ofNat item.argTypes.length
      argTypes := ⟨(item.slots.map slotCode).toArray, six⟩ } := by
  have types : (item.schema).argTypes = ⟨(item.slots.map slotCode).toArray, six⟩ := by
    ext i inside
    have slot : i < item.slots.length := by rwa [item.slots_length]
    rw [schema, SyscallArgSchema.entry, Vector.getElem_ofFn, ← item.getElem_slots i slot,
      Vector.getElem_mk, List.getElem_toArray, List.getElem_map]
  have count : item.schema.argCount = UInt8.ofNat item.argTypes.length := by
    rw [schema, SyscallArgSchema.entry, List.length_map]
  rw [← types, ← count]
  rfl

theorem SyscallItem.typeNames_eq : item.typeNames = item.slots.map slotName := by
  have six := item.slots_length
  rw [typeNames, slots, List.map_append, List.map_map, List.map_replicate]
  refine List.take_of_length_le ?_
  rw [slots, List.length_append, List.length_map, List.length_replicate] at six
  rw [List.length_append, List.length_map, List.length_replicate, six]

/-- The initializer of the types holds names, commas and blanks, and so no bracket that would end it
early. -/
theorem SyscallItem.typeNames_plain {c : Char} (mem : c ∈ joinList item.typeNames) :
    c ∈ [',', ' '] ∨ isIdentifier c = true := by
  refine (mem_joinList mem).imp_right ?_
  rintro ⟨name, memName, memC⟩
  rw [item.typeNames_eq, List.mem_map] at memName
  obtain ⟨slot, -, rfl⟩ := memName
  exact slotName_plain slot c memC

/-- Reading the initializer of the types gives the codes back. -/
theorem SyscallItem.codes_typeNames :
    ((listParts (joinList item.typeNames)).mapM fun name => argCodes.lookup name) =
      some (item.slots.map slotCode) := by
  have filled : item.typeNames ≠ [] := by
    have six := item.slots_length
    rw [item.typeNames_eq, Ne, List.map_eq_nil_iff, List.eq_nil_iff_length_eq_zero, six]
    decide
  have apart : listParts (joinList item.typeNames) = item.typeNames := by
    refine listParts_joinList filled fun name mem => ?_
    rw [item.typeNames_eq, List.mem_map] at mem
    obtain ⟨slot, -, rfl⟩ := mem
    have inside := slotName_plain slot
    refine ⟨fun comma => absurd (inside _ comma) (by decide), fun c head blank => ?_⟩
    exact absurd (inside c (List.mem_of_mem_head? head)) (by rw [blank]; decide)
  have each : (fun name => argCodes.lookup name) ∘ slotName = fun slot => some (slotCode slot) :=
    funext lookup_slotName
  rw [apart, item.typeNames_eq, List.mapM_map, each]
  exact List.mapM_pure

end

/-! ## Reading what was written -/

/-- What the header can say of an item. -/
structure SyscallItem.Usable (item : SyscallItem) : Prop where
  identifier : ∀ c ∈ item.name, isIdentifier c = true
  number : ∃ n : ℕ, n < 2 ^ 63 ∧ item.number = .int n

/-- A number in decimal is read back up to the first character that is no digit. -/
theorem cut_digits (before : Text) (n : ℕ) (rest : Text)
    (outside : ∀ c ∈ rest.head?, c.isDigit = false) :
    cut Char.isDigit before (before ++ (Nat.toDigits 10 n ++ rest)) =
      some (Nat.toDigits 10 n, rest) :=
  cut_append before (fun _ mem => Nat.isDigit_of_mem_toDigits (by decide) (by decide) mem) outside

theorem newline_notMem_digits (n : ℕ) : '\n' ∉ Nat.toDigits 10 n := fun mem =>
  absurd (Nat.isDigit_of_mem_toDigits (by decide) (by decide) mem) (by decide)

section

variable {item : SyscallItem} (usable : item.Usable)

include usable

/-- A number is written without a sign. -/
theorem SyscallItem.Usable.text_number :
    item.number.text = Nat.toDigits 10 item.number.value.toNat := by
  obtain ⟨n, -, number⟩ := usable.number
  rw [number, PyInt.text, if_neg (by omega), List.nil_append]
  rfl

/-- The round trip of one line of the list of numbers. -/
theorem readDefine_renderDefine :
    readDefine (renderDefine item) = some (item.name, item.number.value.toNat) := by
  have name : cut isIdentifier "#define __NR_".toList
      ("#define __NR_".toList ++ (item.name ++ (" ".toList ++ item.number.text))) =
      some (item.name, " ".toList ++ item.number.text) :=
    cut_append _ usable.identifier (by simp [isIdentifier])
  have digits : cut Char.isDigit " ".toList (" ".toList ++ item.number.text) =
      some (Nat.toDigits 10 item.number.value.toNat, []) := by
    rw [usable.text_number]
    have all := cut_digits " ".toList item.number.value.toNat [] (by simp)
    rwa [List.append_nil] at all
  unfold readDefine renderDefine
  rw [name]
  simp only [Option.bind_eq_bind, Option.bind_some, digits, Nat.ofDigitChars_ten_toDigits]
  rfl

/-- The round trip of the three lines of one row, given what its name was defined as. -/
theorem readInitializer_entry {defines : List (Text × ℕ)}
    (defined : defines.reverse.lookup item.name = some item.number.value.toNat) :
    readInitializer defines ("\t .syscall_id = __NR_".toList ++ (item.name ++ ",".toList))
      ("\t .arg_count = ".toList ++
        (Nat.toDigits 10 (min item.signature.length maxArgs) ++ ",".toList))
      ("\t .arg_types = \x7b".toList ++ (joinList item.typeNames ++ "\x7d,".toList)) =
    some item.schema := by
  have name : cut isIdentifier "\t .syscall_id = __NR_".toList
      ("\t .syscall_id = __NR_".toList ++ (item.name ++ ",".toList)) =
      some (item.name, ",".toList) :=
    cut_append _ usable.identifier (by simp [isIdentifier])
  have count := cut_digits "\t .arg_count = ".toList (min item.signature.length maxArgs)
    ",".toList (by simp)
  have types : cut (· != '\x7d') "\t .arg_types = \x7b".toList
      ("\t .arg_types = \x7b".toList ++ (joinList item.typeNames ++ "\x7d,".toList)) =
      some (joinList item.typeNames, "\x7d,".toList) :=
    cut_append _ (fun c mem => bne_iff_ne.mpr fun close => by
      subst close
      exact absurd (item.typeNames_plain mem) (by decide)) (by simp)
  have codes : ((listParts (joinList item.typeNames)).mapM fun name => argCodes.lookup name) =
      some (item.slots.map slotCode) := item.codes_typeNames
  have six : (item.slots.map slotCode).length = 6 := by rw [List.length_map, item.slots_length]; rfl
  unfold readInitializer
  simp only [name, count, types, Option.bind_eq_bind, Option.bind_some, defined, codes,
    Nat.ofDigitChars_ten_toDigits, guard_true, six]
  obtain ⟨n, -, number⟩ := usable.number
  have nonneg : (item.number.value.toNat : ℤ) = item.number.value := by rw [number]; rfl
  rw [nonneg, ← item.arity]
  exact congrArg some (item.schema_eq _).symm

theorem SyscallItem.Usable.name_single : '\n' ∉ item.name := fun mem =>
  absurd (usable.identifier _ mem) (by decide)

theorem isLine_renderDefine : IsLine (renderDefine item) := by
  have number : '\n' ∉ " ".toList ++ (item.number.text ++ []) := by
    rw [usable.text_number]
    exact (isLine_append (by decide) (newline_notMem_digits _) List.not_mem_nil).2
  rw [List.append_nil] at number
  exact isLine_append (by decide) usable.name_single number

/-- No line of a row is broken by what the table supplies. -/
theorem isLine_of_mem_schemaLines {line : Text} (mem : line ∈ item.schemaLines) :
    IsLine line := by
  have types : '\n' ∉ joinList item.typeNames := fun mem =>
    absurd (item.typeNames_plain mem) (by decide)
  unfold SyscallItem.schemaLines at mem
  simp only [List.mem_cons, List.not_mem_nil, or_false] at mem
  obtain rfl | rfl | rfl | rfl | rfl := mem
  · decide
  · exact isLine_append (by decide) usable.name_single (by decide)
  · exact isLine_append (by decide) (newline_notMem_digits _) (by decide)
  · exact isLine_append (by decide) types (by decide)
  · decide

end

/-- A list of pairs that are a function of their first parts is looked up as that function. -/
theorem lookup_of_functional {α β : Type*} [BEq α] [LawfulBEq α] {l : List (α × β)} {k : α} {v : β}
    (mem : (k, v) ∈ l) (functional : ∀ p ∈ l, p.1 = k → p.2 = v) : l.lookup k = some v := by
  induction l with
  | nil => exact absurd mem List.not_mem_nil
  | cons p l ih =>
      obtain ⟨first, others⟩ := List.forall_mem_cons.mp functional
      by_cases here : p.1 = k
      · obtain rfl := here
        rw [List.lookup_cons, BEq.rfl, first rfl]
      · have rest := (List.mem_cons.mp mem).resolve_left fun eq => here (by rw [← eq])
        rw [List.lookup_cons, beq_false_of_ne (Ne.symm here), ih rest others]

/-- A text without a slash cannot close the comment it stands in. -/
theorem closesComment_append {part : Text} (before : Text) (inBefore : '/' ∉ before)
    (inPart : '/' ∉ part) : closesComment (before ++ (part ++ ".".toList)) = false := by
  refine decide_eq_false fun close => ?_
  have mem : '/' ∈ before ++ (part ++ ".".toList) := close.subset (by decide)
  rw [List.mem_append, List.mem_append] at mem
  obtain mem | mem | mem := mem
  · exact inBefore mem
  · exact inPart mem
  · exact absurd mem (by decide)

section

variable {items : List SyscallItem} (usable : ∀ item ∈ items, item.Usable)

include usable

/-- The round trip of the list of numbers, by induction on the rows. -/
theorem readDefines_renderDefine (lines : List Text) :
    readDefines (items.map renderDefine ++ tableLine :: lines) =
      (items.map SyscallItem.define, tableLine :: lines) := by
  induction items with
  | nil => 
      have none : readDefine tableLine = none := by decide
      rw [List.map_nil, List.nil_append, readDefines, none]
      rfl
  | cons item items ih =>
      obtain ⟨first, others⟩ := List.forall_mem_cons.mp usable
      rw [List.map_cons, List.cons_append, readDefines, readDefine_renderDefine first, ih others]
      rfl

/-- The round trip of the table of rows, by induction on the rows. -/
theorem readInitializers_schemaLines {defines : List (Text × ℕ)}
    (defined : ∀ item ∈ items, defines.reverse.lookup item.name = some item.number.value.toNat) :
    readInitializers defines (items.flatMap SyscallItem.schemaLines ++
      ["\x7d;".toList, "#endif".toList]) = some (items.map SyscallItem.schema) := by
  induction items with
  | nil => rfl
  | cons item items ih =>
      obtain ⟨first, others⟩ := List.forall_mem_cons.mp usable
      obtain ⟨firstDefined, othersDefined⟩ := List.forall_mem_cons.mp defined
      have entry := readInitializer_entry first firstDefined
      rw [List.flatMap_cons, SyscallItem.schemaLines, List.append_assoc]
      simp only [List.cons_append, List.nil_append]
      rw [readInitializers, if_pos ⟨rfl, rfl⟩, entry, ih others othersDefined]
      rfl

/-- The lines of the whole header.  The version and the architecture come from the file unchecked;
without a line break in them each stays on its line. -/
theorem filledLines_renderHeader (version architecture : Text)
    (plain : '\n' ∉ version ∧ '\n' ∉ architecture) :
    filledLines (renderHeader items version architecture) =
      ["/*".toList,
        " * Autogenerated from table.json from https://syscalls.mebeim.net/.".toList,
        " * Kernel version: ".toList ++ (version ++ ".".toList),
        " * Architecture: ".toList ++ (architecture ++ ".".toList),
        " */".toList, "#ifndef LITRACE_SYSCALL_SCHEMA_H".toList,
        "#define LITRACE_SYSCALL_SCHEMA_H".toList] ++
      (items.map renderDefine ++ tableLine ::
        (items.flatMap SyscallItem.schemaLines ++ ["\x7d;".toList, "#endif".toList])) := by
  have defines : filledLines (renderNrDefines items) = items.map renderDefine := by
    refine filledLines_joinLines_of_isLine fun line mem => ?_
    obtain ⟨item, memItem, rfl⟩ := List.mem_map.mp mem
    exact isLine_renderDefine (usable item memItem)
  have entries : filledLines (joinLines (items.map renderSchemaEntry)) =
      items.flatMap SyscallItem.schemaLines := by
    rw [filledLines_joinLines, List.flatMap_map]
    refine List.flatMap_congr fun item mem => ?_
    exact filledLines_joinLines_of_isLine fun line => isLine_of_mem_schemaLines (usable item mem)
  have versionLine : IsLine (" * Kernel version: ".toList ++ (version ++ ".".toList)) :=
    isLine_append (by decide) plain.1 (by decide)
  have architectureLine : IsLine (" * Architecture: ".toList ++ (architecture ++ ".".toList)) :=
    isLine_append (by decide) plain.2 (by decide)
  have table : IsLine tableLine := by decide
  have empty : filledLines [] = [] := rfl
  unfold renderHeader
  rw [filledLines_joinLines]
  simp (disch := decide) only [List.flatMap_cons, List.flatMap_nil, defines, entries, empty,
    versionLine.filledLines_eq, architectureLine.filledLines_eq, table.filledLines_eq,
    IsLine.filledLines_eq, List.cons_append, List.nil_append]

/-- The round trip of the whole header, which needs each name to have one number. -/
theorem readHeader_renderHeader {version architecture : Text}
    (consistent : ∀ a ∈ items, ∀ b ∈ items, a.name = b.name → a.number = b.number)
    (plain : ∀ c ∈ version ++ architecture, c ≠ '\n' ∧ c ≠ '/') :
    readHeader (renderHeader items version architecture) = some (items.map SyscallItem.schema) := by
  have defined : ∀ item ∈ items, (items.map SyscallItem.define).reverse.lookup item.name =
      some item.number.value.toNat := by
    intro item mem
    have among : item.define ∈ (items.map SyscallItem.define).reverse :=
      List.mem_reverse.mpr (List.mem_map_of_mem mem)
    refine lookup_of_functional among fun p memP same => ?_
    obtain ⟨other, memOther, rfl⟩ := List.mem_map.mp (List.mem_reverse.mp memP)
    exact congrArg (fun number => number.value.toNat) (consistent other memOther item mem same)
  have inVersion := fun mem => (plain '/' (List.mem_append_left architecture mem)).2 rfl
  have inArchitecture := fun mem => (plain '/' (List.mem_append_right version mem)).2 rfl
  have lines := filledLines_renderHeader usable version architecture
    ⟨fun mem => (plain _ (List.mem_append_left _ mem)).1 rfl,
      fun mem => (plain _ (List.mem_append_right _ mem)).1 rfl⟩
  have tool : closesComment
      " * Autogenerated from table.json from https://syscalls.mebeim.net/.".toList = false := by
    decide +kernel
  have close : closesComment " */".toList = true := by decide
  unfold readHeader
  simp only [lines, List.cons_append, List.nil_append, List.tail_cons, List.dropWhile_cons, tool,
    closesComment_append " * Kernel version: ".toList (by decide) inVersion,
    closesComment_append " * Architecture: ".toList (by decide) inArchitecture, close,
    Bool.not_false, Bool.not_true, if_true, Bool.false_eq_true, if_false,
    readDefines_renderDefine usable, true_and]
  exact readInitializers_schemaLines usable defined

end

/-! ## From the file to the tracer -/

/-- The items that the file lists, in its order. -/
def listedItems (isAlnum : Char → Bool) (file : Json) : List SyscallItem :=
  match file.get "syscalls".toList with
  | some (.list syscalls) => syscalls.filterMap (loadEntry isAlnum)
  | _ => []

/-- What an accepted table is: the rows listed in the file, sorted. -/
theorem loadSyscalls_eq_ok {isAlnum : Char → Bool} {file : Json} {items : List SyscallItem}
    (loaded : loadSyscalls isAlnum file = .ok items) :
    items = (listedItems isAlnum file).mergeSort SyscallItem.le := by
  cases file with
  | dict entries =>
      change (match Json.get "syscalls".toList (.dict entries) with
        | some (.list syscalls) => _
        | _ => _) = Except.ok items at loaded
      unfold listedItems
      split at loaded
      next => exact (Except.ok.inj loaded).symm
      next => cases loaded
  | _ => cases loaded

/-- What a generated header is: the rendering of the sorted rows. -/
theorem generate_eq_ok {isAlnum : Char → Bool} {file : Json} {header : Text}
    (generated : generate isAlnum file = .ok header) :
    header = renderHeader ((listedItems isAlnum file).mergeSort SyscallItem.le)
      (loadKernelVersion file) (loadArchitectureSummary file) := by
  unfold generate at generated
  cases loaded : loadSyscalls isAlnum file with
  | error err =>
      rw [loaded] at generated
      cases generated
  | ok items =>
      rw [loaded] at generated
      rw [← loadSyscalls_eq_ok loaded]
      exact (Except.ok.inj generated).symm

/-- The number is that of the syscall. -/
theorem SyscallItem.Usable.toInt_syscallId {item : SyscallItem} (usable : item.Usable) :
    item.schema.syscallId.toInt = item.number.value := by
  obtain ⟨n, bound, number⟩ := usable.number
  rw [schema, SyscallArgSchema.entry, number]
  exact Int64.toInt_ofInt_of_le (by simp only [PyInt.value]; omega)
    (by simp only [PyInt.value]; omega)

/-- Sorting the items does not change what the search finds. -/
theorem setSchemaOf_mergeSort {items : List SyscallItem} (usable : ∀ item ∈ items, item.Usable)
    (syscallId : Int64) (e : Event) :
    setSchemaOf ((items.mergeSort SyscallItem.le).map SyscallItem.schema) syscallId e =
      setSchemaOf (items.map SyscallItem.schema) syscallId e := by
  have found :
      ((items.mergeSort SyscallItem.le).map SyscallItem.schema).find?
          (fun schema => schema.syscallId = syscallId) =
        (items.map SyscallItem.schema).find? fun schema => schema.syscallId = syscallId := by
    rw [List.find?_map, List.find?_map]
    refine congrArg _ (Aggregate.find?_mergeSort ?trans ?total ?alike)
    case trans => exact fun a b c ab bc =>
      decide_eq_true ((of_decide_eq_true ab).trans (of_decide_eq_true bc))
    case total =>
      exact fun a b => by simpa [SyscallItem.le] using le_total a.number.value b.number.value
    case alike =>
      intro a memA b memB isA isB
      refine decide_eq_true (le_of_eq ?_)
      rw [← (usable a memA).toInt_syscallId, ← (usable b memB).toInt_syscallId,
        of_decide_eq_true isA, of_decide_eq_true isB]
  unfold setSchemaOf
  rw [found]

/-- **The tracer finds what the file lists.**  The names are identifiers, each of one number, which
is not negative and below `2 ^ 63`, and there is neither a newline nor a slash in the kernel
version and the architecture.  Then the header that is generated is read back, and the search
ends with the first entry of the file that has the number, its arguments classified. -/
theorem generated_schema {isAlnum : Char → Bool} {file : Json} {header : Text}
    (generated : generate isAlnum file = .ok header)
    (usable : ∀ item ∈ listedItems isAlnum file, item.Usable)
    (consistent : ∀ a ∈ listedItems isAlnum file, ∀ b ∈ listedItems isAlnum file,
      a.name = b.name → a.number = b.number)
    (plain : ∀ c ∈ loadKernelVersion file ++ loadArchitectureSummary file, c ≠ '\n' ∧ c ≠ '/') :
    ∃ schemas, readHeader header = some schemas ∧
      ∀ syscallId e, setSchemaOf schemas syscallId e =
        setSchemaOf ((listedItems isAlnum file).map SyscallItem.schema) syscallId e := by
  rw [generate_eq_ok generated]
  refine ⟨_, readHeader_renderHeader (fun item mem => usable item (List.mem_mergeSort.mp mem))
    (fun a memA b memB => consistent a (List.mem_mergeSort.mp memA) b (List.mem_mergeSort.mp memB))
    plain, setSchemaOf_mergeSort usable⟩

/-- An entry of the file. -/
def fileEntry (name : Text) (number : ℤ) (signature : List Text) : Json :=
  .dict [("name".toList, .str name), ("number".toList, .int number),
    ("signature".toList, .list (signature.map .str))]

/-- A file that lists two syscalls, the later one first. -/
def smallTable : Json :=
  .dict [("kernel".toList, .dict [("version".toList, .str "6.11".toList)]),
    ("syscalls".toList, .list [.null,
      fileEntry "openat".toList 257 ["int dfd".toList, "const char *filename".toList,
        "int flags".toList, "umode_t mode".toList],
      fileEntry "close".toList 3 ["unsigned int fd".toList]])]

/-- The two are found. -/
theorem generated_schema_smallTable :
    ∃ header schemas, generate (fun _ => false) smallTable = .ok header ∧
      readHeader header = some schemas ∧
      ∀ syscallId e, setSchemaOf schemas syscallId e =
        setSchemaOf [.entry 257 [ArgType.fd, VarArgKind.string, ArgType.flags, ArgType.mode],
          .entry 3 [ArgType.fd]] syscallId e := by
  have items : (listedItems (fun _ => false) smallTable).map SyscallItem.schema =
      [.entry 257 [ArgType.fd, VarArgKind.string, ArgType.flags, ArgType.mode],
        .entry 3 [ArgType.fd]] := by
    decide
  have names : (listedItems (fun _ => false) smallTable).all
      (fun item => item.name.all isIdentifier) = true := by decide
  have numbers : ∀ item ∈ listedItems (fun _ => false) smallTable,
      item.number.value.toNat < 2 ^ 63 ∧ item.number = .int item.number.value.toNat := by
    decide
  have usable : ∀ item ∈ listedItems (fun _ => false) smallTable, item.Usable := fun item mem =>
    ⟨List.all_eq_true.mp (List.all_eq_true.mp names item mem), _, numbers item mem⟩
  have plain : ∀ c ∈ loadKernelVersion smallTable ++ loadArchitectureSummary smallTable,
      c ≠ '\n' ∧ c ≠ '/' :=
    List.all_iff_forall_prop.mp (by decide)
  have generated : generate (fun _ => false) smallTable = .ok _ := rfl
  obtain ⟨schemas, read, found⟩ := generated_schema generated usable (by decide) plain
  exact ⟨_, schemas, generated, read, items ▸ found⟩

end Litrace.Bpf.Generator
