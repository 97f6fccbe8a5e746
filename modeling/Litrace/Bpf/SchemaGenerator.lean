import Litrace.Bpf.Syscall
import Litrace.Lib.Text

/-!
# The schema generator

`generate_syscall_schema.py`, which writes the table `syscall_schemas`: how it takes a C
argument apart and what it classifies it as.

`classify_argument` is a cascade of tests of the name and of the type.  All tests for scalars
that look at the name, and those for modes and offsets, come before the test for a pointer
(`pointer_is_not_scalar_iff`).

Python's strings are lists of characters.  What it counts as a letter or a digit beyond ASCII
is a parameter, since that is a table of the language and no result depends on it.  An
argument is taken apart as the script does: blanks are squeezed, the last word is the name,
and stars that stick to the name go to the type.

That a pointer stays a pointer through this normalisation is shown star by star
(`star_mem_normalizedTypeOf`): each stage keeps a star that is in the text.
-/

namespace Litrace.Bpf.Generator

open Text

/-! ## Taking an argument apart -/

/-- `TYPE_QUALIFIERS`. -/
def typeQualifiers : List Text :=
  ["const".toList, "volatile".toList, "restrict".toList, "__user".toList]

/-- `SCALAR_INT_TYPES`. -/
def scalarIntTypes : List Text :=
  ["aio_context_t".toList, "clockid_t".toList, "gid_t".toList, "int".toList, "key_t".toList,
    "mqd_t".toList, "pid_t".toList, "qid_t".toList, "timer_t".toList, "uid_t".toList,
    "__s32".toList]

/-- `SCALAR_UINT_TYPES`. -/
def scalarUintTypes : List Text :=
  ["__u32".toList, "__u64".toList, "dev_t".toList, "long".toList, "size_t".toList,
    "ssize_t".toList, "u32".toList, "u64".toList, "unsigned".toList, "unsigned char".toList,
    "unsigned int".toList, "unsigned long".toList, "unsigned short".toList]

/-- `normalize_signature`. -/
def normalizeSignature (sig : Text) : Text := join (words (strip sig))

/-- `split_type_and_name`. -/
def splitTypeAndName (sig : Text) : Text × Text :=
  let sig := normalizeSignature sig
  if sig = [] then ([], [])
  else
    match (words sig).reverse with
    | [] => ([], [])
    | [part] => (part, [])
    | name :: parts => (join parts.reverse, name)

/-- `tokens[-1] = tokens[-1] + prefix`, or a token of its own. -/
def appendToLast (stars : Text) : List Text → List Text
  | [] => [stars]
  | [token] => [token ++ stars]
  | token :: tokens => token :: appendToLast stars tokens

/-- `normalize_type`. -/
def normalizeType (typ name : Text) : Text :=
  let stars := List.replicate (name.count '*') '*'
  let bare := lstrip '*' name
  let stars := if "[]".toList <:+ bare then stars ++ ['*'] else stars
  let tokens := (words typ).filter fun token => token ∉ typeQualifiers
  let tokens := if stars = [] then tokens else appendToLast stars tokens
  let normalized := join tokens
  let normalized :=
    replace "* ".toList "*".toList (replace " *".toList "*".toList normalized)
  if normalized ∈ ["char*".toList, "const char*".toList] then
    replace "*".toList " *".toList normalized
  else if normalized ∈ ["char*const*".toList, "const char*const*".toList] then
    replace "char*".toList "char *".toList
      (replace "const*".toList "const *".toList normalized)
  else normalized

/-- `bare_name`. -/
def bareName (name : Text) : Text := removeSuffix "[]".toList (lstrip '*' name)

/-! ## Classifying -/

/-- What an argument is classified as. -/
inductive ArgClass where
  | varArgBytes | varArgString | varArgArgv
  | argFlags | argFD | argInt | argMode | argOff | argPtr | argUint | argRaw
  deriving DecidableEq

/-- The code of the class in the generated table. -/
def ArgClass.code : ArgClass → UInt8
  | varArgBytes => VarArgKind.bytes
  | varArgString => VarArgKind.string
  | varArgArgv => VarArgKind.argv
  | argFlags => ArgType.flags
  | argFD => ArgType.fd
  | argInt => ArgType.int
  | argMode => ArgType.mode
  | argOff => ArgType.off
  | argPtr => ArgType.ptr
  | argUint => ArgType.uint
  | argRaw => ArgType.raw

/-- `SPECIAL_ARG_TYPES.get`; the dictionary is empty. -/
def specialArgType (_syscallName : Text) (_argIndex : ℕ) : Option ArgClass := none

/-- The types of strings. -/
def stringTypes : List Text := ["char *".toList, "const char *".toList]

/-- The types of vectors of strings. -/
def argvTypes : List Text := ["char *const *".toList, "const char *const *".toList]

/-- `\w`; what counts as a letter or digit beyond ASCII is given by `isAlnum`. -/
def isWord (isAlnum : Char → Bool) (c : Char) : Bool :=
  c == '_' || if c.toNat < 128 then c.isAlphanum else isAlnum c

/-- The tests of `classify_argument`, on the normalized type and the bare name. -/
def classify (isAlnum : Char → Bool) (syscallName : Text) (argIndex : ℕ)
    (normalizedType argName : Text) : ArgClass :=
  if syscallName ∈ ["read".toList, "write".toList] ∧ argIndex = 1 ∧
      normalizedType ∈ stringTypes then .varArgBytes
  else if normalizedType ∈ stringTypes then .varArgString
  else if normalizedType ∈ argvTypes then .varArgArgv
  else if syscallName ∈ ["open".toList, "openat".toList] ∧ argName = "flags".toList then .argFlags
  else if "fd".toList <:+: argName ∨ argName = "fildes".toList then .argFD
  else if argName = "whence".toList then .argInt
  else if argName ∈ ["mask".toList, "mode".toList] then .argMode
  else if search (isWord isAlnum) ["umode_t".toList, "mode_t".toList] normalizedType then .argMode
  else if search (isWord isAlnum) ["off_t".toList, "loff_t".toList] normalizedType then .argOff
  else if '*' ∈ normalizedType then .argPtr
  else if normalizedType ∈ scalarIntTypes then .argInt
  else if normalizedType ∈ scalarUintTypes then .argUint
  else if "unsigned ".toList <+: normalizedType then .argUint
  else .argRaw

/-- `classify_argument`. -/
def classifyArgument (isAlnum : Char → Bool) (syscallName : Text) (argIndex : ℕ) (sig : Text) :
    ArgClass :=
  match specialArgType syscallName argIndex with
  | some special => special
  | none =>
      let (typ, name) := splitTypeAndName sig
      classify isAlnum syscallName argIndex (normalizeType typ name) (bareName name)

/-! ## Pointers -/

/-- The stars are put on the last token, so the characters of the tokens are those of before and the
stars. -/
theorem mem_appendToLast {stars : Text} {c : Char} (tokens : List Text) :
    (∃ token ∈ appendToLast stars tokens, c ∈ token) ↔ c ∈ stars ∨ ∃ token ∈ tokens, c ∈ token := by
  induction tokens with
  | nil =>
      rw [appendToLast, List.exists_mem_cons_iff]
  | cons token tokens ih =>
      cases tokens with
      | nil =>
          rw [appendToLast, List.exists_mem_cons_iff, List.exists_mem_cons_iff, List.mem_append,
            or_comm (a := c ∈ token), or_assoc]
      | cons token' tokens =>
          rw [appendToLast, List.exists_mem_cons_iff, ih, or_left_comm,
            List.exists_mem_cons_iff (a := token)]
          exact List.cons_ne_nil token' tokens

/-- Qualifiers have no star. -/
theorem star_mem_unqualified (typ : Text) :
    (∃ token ∈ (words typ).filter fun token => token ∉ typeQualifiers, '*' ∈ token) ↔
      '*' ∈ typ := by
  have bare : ∀ token ∈ typeQualifiers, '*' ∉ token := by decide
  rw [← exists_mem_words (s := typ) (c := '*') (by decide)]
  constructor
  · rintro ⟨token, mem, star⟩
    exact ⟨token, (List.mem_filter.mp mem).1, star⟩
  · rintro ⟨token, mem, star⟩
    exact ⟨token, List.mem_filter.mpr ⟨mem, decide_eq_true fun h => bare token h star⟩, star⟩

/-- The marks that a name has: one for each of its stars, and one for brackets. -/
theorem star_mem_marks (name : Text) :
    let stars := List.replicate (name.count '*') '*'
    let marks := if "[]".toList <:+ lstrip '*' name then stars ++ ['*'] else stars
    ('*' ∈ marks ↔ '*' ∈ name ∨ "[]".toList <:+ lstrip '*' name) := by
  intro stars marks
  have counted : '*' ∈ stars ↔ '*' ∈ name := by
    rw [List.mem_replicate, and_iff_left rfl, Ne, List.count_eq_zero, not_not]
  show '*' ∈ (if "[]".toList <:+ lstrip '*' name then stars ++ ['*'] else stars) ↔ _
  split
  next brackets =>
    exact iff_of_true (List.mem_append_right _ (List.mem_singleton_self '*')) (.inr brackets)
  next brackets => exact counted.trans (or_iff_left brackets).symm

/-- Stars at the last token. -/
theorem star_mem_tokens (stars typ : Text) :
    let tokens := (words typ).filter fun token => token ∉ typeQualifiers
    ('*' ∈ join (if stars = [] then tokens else appendToLast stars tokens) ↔
      '*' ∈ typ ∨ '*' ∈ stars) := by
  intro tokens
  rw [mem_join (by decide)]
  split
  next none =>
    rw [star_mem_unqualified, none]
    exact (or_iff_left List.not_mem_nil).symm
  next => rw [mem_appendToLast, star_mem_unqualified, or_comm]

/-- Spacing the stars keeps them. -/
theorem star_mem_spaced (joined : Text) :
    let normalized := replace "* ".toList "*".toList (replace " *".toList "*".toList joined)
    ('*' ∈ (if normalized ∈ ["char*".toList, "const char*".toList] then
        replace "*".toList " *".toList normalized
      else if normalized ∈ ["char*const*".toList, "const char*const*".toList] then
        replace "char*".toList "char *".toList
          (replace "const*".toList "const *".toList normalized)
      else normalized) ↔ '*' ∈ joined) := by
  intro normalized
  have normal : '*' ∈ normalized ↔ '*' ∈ joined := by
    rw [mem_replace (by decide) (by decide), mem_replace (by decide) (by decide)]
  split
  · rw [mem_replace (by decide) (by decide), normal]
  · split
    · rw [mem_replace (by decide) (by decide), mem_replace (by decide) (by decide), normal]
    · exact normal

/-- A normalized type is that of a pointer when the type or the name has a star, or the name
is that of an array. -/
theorem star_mem_normalizeType (typ name : Text) :
    '*' ∈ normalizeType typ name ↔
      '*' ∈ typ ∨ '*' ∈ name ∨ "[]".toList <:+ lstrip '*' name :=
  (star_mem_spaced _).trans ((star_mem_tokens _ typ).trans (or_congr_right (star_mem_marks name)))

/-- Type and name have the stars of the signature. -/
theorem star_mem_splitTypeAndName (sig : Text) :
    '*' ∈ (splitTypeAndName sig).1 ∨ '*' ∈ (splitTypeAndName sig).2 ↔ '*' ∈ sig := by
  have notSpace : isSpace '*' = false := by decide
  have normal : '*' ∈ normalizeSignature sig ↔ '*' ∈ sig := by
    rw [normalizeSignature, mem_join (by decide), exists_mem_words notSpace, mem_strip notSpace]
  rw [← normal, ← exists_mem_words (s := normalizeSignature sig) notSpace]
  unfold splitTypeAndName
  dsimp only
  split
  next empty =>
    rw [empty]
    decide
  next =>
    generalize hparts : (words (normalizeSignature sig)).reverse = parts
    have mem : ∀ part, part ∈ words (normalizeSignature sig) ↔ part ∈ parts := by
      intro part
      rw [← hparts, List.mem_reverse]
    simp only [mem]
    cases parts with
    | nil => exact iff_of_false (by decide) fun ⟨_, mem, _⟩ => List.not_mem_nil mem
    | cons name parts =>
        cases parts with
        | nil => simp
        | cons part parts =>
            rw [List.exists_mem_cons_iff, or_comm, mem_join (by decide)]
            simp only [List.mem_reverse]

/-- The normalized type of an argument. -/
def normalizedTypeOf (sig : Text) : Text :=
  normalizeType (splitTypeAndName sig).1 (splitTypeAndName sig).2

/-- The pointers among the arguments: those with a star somewhere, and arrays. -/
theorem star_mem_normalizedTypeOf (sig : Text) :
    '*' ∈ normalizedTypeOf sig ↔
      '*' ∈ sig ∨ "[]".toList <:+ lstrip '*' (splitTypeAndName sig).2 := by
  rw [normalizedTypeOf, star_mem_normalizeType, ← or_assoc, star_mem_splitTypeAndName]

/-- The bare name of an argument. -/
def bareNameOf (sig : Text) : Text := bareName (splitTypeAndName sig).2

/-- The classes a pointer may have. -/
def pointerClasses : List ArgClass := [.argPtr, .varArgBytes, .varArgString, .varArgArgv]

/-- One of the tests for scalars that come before the test for a pointer goes by the name, or
finds the word for a mode or an offset in the type. -/
def LooksScalar (isAlnum : Char → Bool) (syscallName normalizedType argName : Text) : Prop :=
  (syscallName ∈ ["open".toList, "openat".toList] ∧ argName = "flags".toList) ∨
    ("fd".toList <:+: argName ∨ argName = "fildes".toList) ∨ argName = "whence".toList ∨
    argName ∈ ["mask".toList, "mode".toList] ∨
    search (isWord isAlnum) ["umode_t".toList, "mode_t".toList] normalizedType = true ∨
    search (isWord isAlnum) ["off_t".toList, "loff_t".toList] normalizedType = true

section

variable {isAlnum : Char → Bool} {syscallName normalizedType argName : Text} {argIndex : ℕ}

/-- Strings and vectors of strings come first. -/
theorem classify_of_string (string : normalizedType ∈ stringTypes ++ argvTypes) :
    classify isAlnum syscallName argIndex normalizedType argName ∈ pointerClasses := by
  unfold classify
  by_cases bytes : syscallName ∈ ["read".toList, "write".toList] ∧ argIndex = 1 ∧
      normalizedType ∈ stringTypes
  · rw [if_pos bytes]
    decide
  · rw [if_neg bytes]
    by_cases isString : normalizedType ∈ stringTypes
    · rw [if_pos isString]
      decide
    · rw [if_neg isString, if_pos ((List.mem_append.mp string).resolve_left isString)]
      decide

/-- The tests for scalars come next, and then that for a pointer. -/
theorem classify_of_pointer (notString : normalizedType ∉ stringTypes ++ argvTypes)
    (pointer : '*' ∈ normalizedType) :
    classify isAlnum syscallName argIndex normalizedType argName ∈ pointerClasses ↔
      ¬ LooksScalar isAlnum syscallName normalizedType argName := by
  obtain ⟨notString, notArgv⟩ := not_or.mp (mt List.mem_append.mpr notString)
  unfold classify LooksScalar
  rw [if_neg fun h => notString h.2.2, if_neg notString, if_neg notArgv]
  split
  next h => exact iff_of_false (by decide) fun looks => looks (.inl h)
  next flags =>
    rw [or_iff_right flags]
    split
    next h => exact iff_of_false (by decide) fun looks => looks (.inl h)
    next fd =>
      rw [or_iff_right fd]
      split
      next h => exact iff_of_false (by decide) fun looks => looks (.inl h)
      next whence =>
        rw [or_iff_right whence]
        split
        next h => exact iff_of_false (by decide) fun looks => looks (.inl h)
        next mode =>
          rw [or_iff_right mode]
          split
          next h => exact iff_of_false (by decide) fun looks => looks (.inl h)
          next modeType =>
            rw [or_iff_right modeType]
            split
            next h => exact iff_of_false (by decide) fun looks => looks h
            next offType => exact iff_of_true (by decide) offType

end

/-- **A pointer is not taken for a scalar** exactly when it is a string or a vector of strings,
or does not look like a scalar. -/
theorem pointer_is_not_scalar_iff (isAlnum : Char → Bool) (syscallName : Text) (argIndex : ℕ)
    (sig : Text) (pointer : '*' ∈ normalizedTypeOf sig) :
    classifyArgument isAlnum syscallName argIndex sig ∈ pointerClasses ↔
      normalizedTypeOf sig ∈ stringTypes ++ argvTypes ∨
        ¬ LooksScalar isAlnum syscallName (normalizedTypeOf sig) (bareNameOf sig) := by
  show classify isAlnum syscallName argIndex (normalizedTypeOf sig) (bareNameOf sig) ∈ _ ↔ _
  by_cases string : normalizedTypeOf sig ∈ stringTypes ++ argvTypes
  · exact iff_of_true (classify_of_string string) (.inl string)
  · rw [or_iff_right string]
    exact classify_of_pointer string pointer

/-- The buffer of `stat` does not look like a scalar. -/
theorem pointer_is_not_scalar_iff_stat :
    '*' ∈ normalizedTypeOf "struct stat *statbuf".toList ∧
      (classifyArgument (fun _ => false) "stat".toList 1 "struct stat *statbuf".toList ∈
          pointerClasses ↔
        normalizedTypeOf "struct stat *statbuf".toList ∈ stringTypes ++ argvTypes ∨
          ¬ LooksScalar (fun _ => false) "stat".toList
            (normalizedTypeOf "struct stat *statbuf".toList)
            (bareNameOf "struct stat *statbuf".toList)) := by
  have pointer : '*' ∈ normalizedTypeOf "struct stat *statbuf".toList :=
    (star_mem_normalizedTypeOf _).mpr (.inl (by decide))
  exact ⟨pointer, pointer_is_not_scalar_iff _ _ 1 _ pointer⟩

/-- **Pointers are taken for scalars**: the array of `poll` for a descriptor, by its name, and
the offset of `sendfile64` for an offset, by the type it points to; the table has them so. -/
theorem poll_array_is_descriptor :
    ('*' ∈ normalizedTypeOf "struct pollfd *ufds".toList ∧
      classifyArgument (fun _ => false) "poll".toList 0 "struct pollfd *ufds".toList = .argFD ∧
      SyscallArgSchema.entry 7 [ArgClass.argFD.code, ArgType.fd, ArgType.int] ∈ syscallSchemas) ∧
    ('*' ∈ normalizedTypeOf "loff_t *offset".toList ∧
      classifyArgument (fun _ => false) "sendfile64".toList 2 "loff_t *offset".toList = .argOff ∧
      SyscallArgSchema.entry 40 [ArgType.fd, ArgType.fd, ArgClass.argOff.code, ArgType.uint] ∈
        syscallSchemas) := by
  decide

end Litrace.Bpf.Generator
