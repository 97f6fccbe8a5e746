import Mathlib.Data.List.Basic
import Mathlib.Data.List.Infix

/-!
# Lexical paths

Byte strings as slash-separated paths, and the two lexical operations on them
of Go's `path/filepath` on Unix: `clean` (the shortest equivalent name) and
`join`.  `clean` follows its documentation rather than its single-pass code:

* repeated separators count as one, `.` elements are dropped;
* a `..` element cancels the element before it, and one that begins a rooted
  path is dropped;
* the result ends in a slash only if it is the root, and is `.` rather than
  empty.

The main facts are about rooted paths: a clean rooted path is a slash followed
by *proper* components (`absClean_iff`), cleaning is idempotent on rooted paths
(`clean_clean`), and joining below a rooted path gives a clean rooted path
(`absClean_join`).

`clean` keeps a stack of elements, and `push` says what one element does to it.
Everything about it is an induction over the elements with the stack as its
invariant: the elements of a rooted result are proper, and a `..` in front of a
relative one stays.  The code of the language goes over the bytes once with a
lazy buffer; it is documented to give the same name.
-/

/-- A Go string: a sequence of bytes. -/
abbrev GoString := List UInt8

namespace GoString

/-- The bytes of an ASCII literal. -/
def ascii (s : String) : GoString := s.toList.map fun c => c.toNat.toUInt8

end GoString

namespace Filepath

/-- `os.PathSeparator`. -/
def separator : UInt8 := 47

/-- The element `.`. -/
def dot : GoString := [46]

/-- The element `..`. -/
def dotDot : GoString := [46, 46]

/-- A rooted path. -/
def isAbs (path : GoString) : Bool := path.head? == some separator

/-- The elements between separators, empty ones included. -/
def split : GoString → List GoString
  | [] => [[]]
  | b :: rest =>
      if b = separator then [] :: split rest
      else
        match split rest with
        | [] => [[b]]
        | c :: cs => (b :: c) :: cs

/-- Elements put together with separators between them. -/
def unsplit : List GoString → GoString
  | [] => []
  | [c] => c
  | c :: cs => c ++ separator :: unsplit cs

/-- One element onto the stack of elements kept so far, last one first. -/
def push (rooted : Bool) (stack : List GoString) (c : GoString) : List GoString :=
  if c = [] ∨ c = dot then stack
  else if c = dotDot then
    match stack with
    | [] => if rooted then [] else [dotDot]
    | top :: below => if top = dotDot then dotDot :: stack else below
  else c :: stack

/-- The elements `clean` keeps, in order. -/
def cleanElements (path : GoString) : List GoString :=
  ((split path).foldl (push (isAbs path)) []).reverse

/-- `filepath.Clean`. -/
def clean (path : GoString) : GoString :=
  if isAbs path then separator :: unsplit (cleanElements path)
  else if cleanElements path = [] then dot
  else unsplit (cleanElements path)

/-- `filepath.Join` of two elements. -/
def join (base path : GoString) : GoString :=
  if base ≠ [] then clean (base ++ separator :: path)
  else if path ≠ [] then clean path
  else []

/-- `filepath.Abs` in a working directory, which is not needed for an absolute path. -/
def abs (wd : Option GoString) (path : GoString) : Option GoString :=
  if isAbs path then some (clean path) else wd.map fun dir => join dir path

/-- An absolute path in its shortest form. -/
def AbsClean (path : GoString) : Prop := isAbs path = true ∧ clean path = path

instance (path : GoString) : Decidable (AbsClean path) :=
  inferInstanceAs (Decidable (_ ∧ _))

/-- A component that names an entry of a directory. -/
structure Proper (c : GoString) : Prop where
  ne_nil : c ≠ []
  ne_dot : c ≠ dot
  ne_dotDot : c ≠ dotDot
  noSep : separator ∉ c

/-! ## Splitting and putting together -/

@[simp] theorem split_nil : split [] = [[]] := rfl

@[simp] theorem split_separator_cons (rest : GoString) :
    split (separator :: rest) = [] :: split rest := by
  simp [split]

theorem split_ne_nil (path : GoString) : split path ≠ [] := by
  induction path with
  | nil => simp
  | cons b rest ih =>
      unfold split
      split
      · simp
      · split <;> simp

theorem split_eq_singleton {c : GoString} (h : separator ∉ c) : split c = [c] := by
  induction c with
  | nil => rfl
  | cons b rest ih =>
      have hb : b ≠ separator := fun e => h (by simp [e])
      have hrest := ih fun mem => h (by simp [mem])
      simp [split, hb, hrest]

/-- The first element of a path is what stands before its first separator. -/
theorem split_append_separator {c : GoString} (h : separator ∉ c) (rest : GoString) :
    split (c ++ separator :: rest) = c :: split rest := by
  induction c with
  | nil => simp
  | cons b tail ih =>
      have hb : b ≠ separator := fun e => h (by simp [e])
      have htail := ih fun mem => h (by simp [mem])
      simp [split, hb, htail]

/-- No element holds a separator. -/
theorem mem_split_noSep {path c : GoString} (h : c ∈ split path) : separator ∉ c := by
  induction path generalizing c with
  | nil =>
      obtain rfl : c = [] := by simpa using h
      simp
  | cons b rest ih =>
      by_cases hb : b = separator
      · subst hb
        rcases List.mem_cons.mp (by simpa using h) with rfl | mem
        · simp
        · exact ih mem
      · cases hs : split rest with
        | nil => exact absurd hs (split_ne_nil rest)
        | cons d ds =>
            have hsplit : split (b :: rest) = (b :: d) :: ds := by simp [split, hb, hs]
            rw [hsplit] at h
            rcases List.mem_cons.mp h with rfl | mem
            · have hd : separator ∉ d := ih (by rw [hs]; simp)
              simp [hd, Ne.symm hb]
            · exact ih (by rw [hs]; simp [mem])

@[simp] theorem unsplit_nil : unsplit [] = [] := rfl

@[simp] theorem unsplit_singleton (c : GoString) : unsplit [c] = c := rfl

theorem unsplit_cons_cons (c d : GoString) (cs : List GoString) :
    unsplit (c :: d :: cs) = c ++ separator :: unsplit (d :: cs) := rfl

/-- Splitting undoes putting together. -/
theorem split_unsplit {cs : List GoString} (ne : cs ≠ [])
    (noSep : ∀ c ∈ cs, separator ∉ c) : split (unsplit cs) = cs := by
  induction cs with
  | nil => exact absurd rfl ne
  | cons c cs ih =>
      have hc : separator ∉ c := noSep c (by simp)
      cases cs with
      | nil => exact split_eq_singleton hc
      | cons d ds =>
          rw [unsplit_cons_cons, split_append_separator hc,
            ih (by simp) fun e mem => noSep e (by simp [mem])]

/-! ## The stack of kept elements -/

/-- A proper element is pushed as it is. -/
theorem push_proper {rooted : Bool} {stack : List GoString} {c : GoString}
    (h : Proper c) : push rooted stack c = c :: stack := by
  simp [push, h.ne_nil, h.ne_dot, h.ne_dotDot]

@[simp] theorem push_nil_element (rooted : Bool) (stack : List GoString) :
    push rooted stack [] = stack := by
  simp [push]

/-- Proper elements are kept, in their order. -/
theorem foldl_push_proper {rooted : Bool} {cs stack : List GoString}
    (h : ∀ c ∈ cs, Proper c) : cs.foldl (push rooted) stack = cs.reverse ++ stack := by
  induction cs generalizing stack with
  | nil => rfl
  | cons c cs ih =>
      rw [List.foldl_cons, push_proper (h c (by simp)),
        ih fun d mem => h d (by simp [mem])]
      simp

/-- Below a root only proper components are kept. -/
theorem push_rooted_proper {stack : List GoString} {c : GoString}
    (hstack : ∀ d ∈ stack, Proper d) (hc : separator ∉ c) :
    ∀ d ∈ push true stack c, Proper d := by
  intro d hd
  unfold push at hd
  split at hd
  next => exact hstack d hd
  next hskip =>
    obtain ⟨hnil, hdot⟩ := not_or.mp hskip
    split at hd
    next =>
      cases stack with
      | nil => simp at hd
      | cons top below =>
          -- `..` never stays on the stack below a root, so it always cancels.
          have htop := (hstack top (by simp)).ne_dotDot
          simp only [htop, if_false] at hd
          exact hstack d (by simp [hd])
    next hdd =>
      rcases List.mem_cons.mp hd with rfl | mem
      · exact ⟨hnil, hdot, hdd, hc⟩
      · exact hstack d mem

/-- From a rooted start the stack never holds an element that climbs: at the root there is
nothing to climb to. -/
theorem foldl_push_rooted_proper {cs stack : List GoString}
    (hstack : ∀ d ∈ stack, Proper d) (hcs : ∀ c ∈ cs, separator ∉ c) :
    ∀ d ∈ cs.foldl (push true) stack, Proper d := by
  induction cs generalizing stack with
  | nil => exact hstack
  | cons c cs ih =>
      exact ih (push_rooted_proper hstack (hcs c (by simp)))
        fun e mem => hcs e (by simp [mem])

/-- The elements of a cleaned absolute path are proper. -/
theorem cleanElements_proper {path : GoString} (h : isAbs path = true) :
    ∀ c ∈ cleanElements path, Proper c := by
  intro c hc
  rw [cleanElements, h, List.mem_reverse] at hc
  exact foldl_push_rooted_proper (by simp) (fun c mem => mem_split_noSep mem) c hc

/-! ## Clean rooted paths -/

@[simp] theorem isAbs_separator_cons (rest : GoString) :
    isAbs (separator :: rest) = true := by
  simp [isAbs]

theorem isAbs_iff {path : GoString} :
    isAbs path = true ↔ ∃ rest, path = separator :: rest := by
  cases path with
  | nil => simp [isAbs]
  | cons b rest => simp [isAbs]

/-- What an absolute path is cleaned to. -/
theorem clean_of_isAbs {path : GoString} (h : isAbs path = true) :
    clean path = separator :: unsplit (cleanElements path) := by
  simp [clean, h]

@[simp] theorem isAbs_clean {path : GoString} (h : isAbs path = true) :
    isAbs (clean path) = true := by
  rw [clean_of_isAbs h, isAbs_separator_cons]

/-- Putting proper components below the root is already clean. -/
theorem cleanElements_rooted {cs : List GoString} (h : ∀ c ∈ cs, Proper c) :
    cleanElements (separator :: unsplit cs) = cs := by
  unfold cleanElements
  rw [isAbs_separator_cons, split_separator_cons, List.foldl_cons, push_nil_element]
  -- The separator in front gives an empty element, which is skipped.
  cases cs with
  | nil => rfl
  | cons c cs =>
      rw [split_unsplit (by simp) fun d mem => (h d mem).noSep, foldl_push_proper h]
      simp

/-- A rooted path of proper elements is clean already. -/
theorem clean_rooted {cs : List GoString} (h : ∀ c ∈ cs, Proper c) :
    clean (separator :: unsplit cs) = separator :: unsplit cs := by
  rw [clean_of_isAbs (isAbs_separator_cons _), cleanElements_rooted h]

/-- Cleaning is idempotent on rooted paths. -/
theorem clean_clean {path : GoString} (h : isAbs path = true) :
    clean (clean path) = clean path := by
  rw [clean_of_isAbs h, clean_rooted (cleanElements_proper h)]

/-- Cleaning makes an absolute path absolute and clean. -/
theorem absClean_clean {path : GoString} (h : isAbs path = true) :
    AbsClean (clean path) :=
  ⟨isAbs_clean h, clean_clean h⟩

/-- The clean rooted paths are the sequences of proper components. -/
theorem absClean_iff {path : GoString} :
    AbsClean path ↔ ∃ cs, (∀ c ∈ cs, Proper c) ∧ path = separator :: unsplit cs := by
  constructor
  · rintro ⟨habs, hclean⟩
    exact ⟨cleanElements path, cleanElements_proper habs,
      hclean.symm.trans (clean_of_isAbs habs)⟩
  · rintro ⟨cs, hcs, rfl⟩
    exact ⟨isAbs_separator_cons _, clean_rooted hcs⟩

/-- The elements kept are never empty, rooted path or not. -/
theorem push_ne_nil {rooted : Bool} {stack : List GoString} {c : GoString}
    (hstack : ∀ d ∈ stack, d ≠ []) : ∀ d ∈ push rooted stack c, d ≠ [] := by
  intro d hd
  unfold push at hd
  split at hd
  next => exact hstack d hd
  next hskip =>
    split at hd
    next =>
      cases stack with
      | nil => cases rooted <;> simp_all [dotDot]
      | cons top below =>
          by_cases htop : top = dotDot
          · simp only [htop, if_true] at hd
            rcases List.mem_cons.mp hd with rfl | mem
            · simp [dotDot]
            · exact hstack d (by rw [htop]; exact mem)
          · simp only [htop, if_false] at hd
            exact hstack d (by simp [hd])
    next =>
      rcases List.mem_cons.mp hd with rfl | mem
      · exact (not_or.mp hskip).1
      · exact hstack d mem

theorem foldl_push_ne_nil {rooted : Bool} {cs stack : List GoString}
    (hstack : ∀ d ∈ stack, d ≠ []) : ∀ d ∈ cs.foldl (push rooted) stack, d ≠ [] := by
  induction cs generalizing stack with
  | nil => exact hstack
  | cons c cs ih => exact ih (push_ne_nil hstack)

theorem cleanElements_ne_nil {path c : GoString} (h : c ∈ cleanElements path) :
    c ≠ [] :=
  foldl_push_ne_nil (by simp) c (List.mem_reverse.mp h)

/-- No cleaned path is empty. -/
theorem clean_ne_nil (path : GoString) : clean path ≠ [] := by
  unfold clean
  split
  next => simp
  next =>
    cases hkept : cleanElements path with
    | nil => simp [dot]
    | cons c cs =>
        have hc : c ≠ [] := cleanElements_ne_nil (by rw [hkept]; simp)
        cases cs with
        | nil => simpa using hc
        | cons d ds => simp [unsplit_cons_cons]

/-- A join to a base that is not empty cleans the two put together. -/
theorem join_of_ne_nil {base : GoString} (h : base ≠ []) (path : GoString) :
    join base path = clean (base ++ separator :: path) := by
  simp [join, h]

theorem join_ne_nil {base : GoString} (h : base ≠ []) (path : GoString) :
    join base path ≠ [] := by
  rw [join_of_ne_nil h]
  exact clean_ne_nil _

theorem isAbs_append {base : GoString} (h : isAbs base = true) (path : GoString) :
    isAbs (base ++ path) = true := by
  obtain ⟨rest, rfl⟩ := isAbs_iff.mp h
  rw [List.cons_append, isAbs_separator_cons]

/-- A path joined below a rooted one is clean and rooted. -/
theorem absClean_join {base : GoString} (h : isAbs base = true) (path : GoString) :
    AbsClean (join base path) := by
  have hne : base ≠ [] := by
    obtain ⟨rest, rfl⟩ := isAbs_iff.mp h
    simp
  rw [join_of_ne_nil hne]
  exact absClean_clean (isAbs_append h _)

/-- What `abs` returns is absolute and clean, when the working directory is absolute. -/
theorem absClean_abs {wd : Option GoString} {path absolute : GoString}
    (rooted : ∀ dir, wd = some dir → isAbs dir = true) (h : abs wd path = some absolute) :
    AbsClean absolute := by
  unfold abs at h
  split at h
  next isAbs =>
    cases h
    exact absClean_clean isAbs
  next =>
    obtain ⟨dir, known, rfl⟩ := Option.map_eq_some_iff.mp h
    exact absClean_join (rooted dir known) path

/-! ## Components -/

/-- A separator between two paths separates their elements. -/
theorem split_append (path rest : GoString) :
    split (path ++ separator :: rest) = split path ++ split rest := by
  induction path with
  | nil => exact split_separator_cons rest
  | cons b path ih =>
      rw [List.cons_append]
      by_cases hb : b = separator
      · rw [hb, split_separator_cons, split_separator_cons, ih]
        rfl
      · rw [split, split, if_neg hb, if_neg hb, ih]
        cases hs : split path with
        | nil => exact absurd hs (split_ne_nil path)
        | cons c cs => rfl

/-- Two lists of elements, put together, make one path. -/
theorem unsplit_append {cs ds : List GoString} (hcs : cs ≠ []) (hds : ds ≠ []) :
    unsplit (cs ++ ds) = unsplit cs ++ separator :: unsplit ds := by
  induction cs with
  | nil => exact absurd rfl hcs
  | cons c cs ih =>
      cases cs with
      | nil =>
          obtain ⟨d, ds, rfl⟩ := List.exists_cons_of_ne_nil hds
          rfl
      | cons c' cs =>
          have rest := ih (List.cons_ne_nil c' cs)
          rw [List.cons_append, List.cons_append, unsplit_cons_cons, unsplit_cons_cons,
            List.append_assoc, List.cons_append, ← rest]
          rfl

theorem unsplit_ne_nil {cs : List GoString} (ne : cs ≠ []) (proper : ∀ c ∈ cs, Proper c) :
    unsplit cs ≠ [] := by
  obtain ⟨c, cs, rfl⟩ := List.exists_cons_of_ne_nil ne
  have hc := (proper c List.mem_cons_self).ne_nil
  cases cs with
  | nil => exact hc
  | cons d ds => exact fun h => hc (List.append_eq_nil_iff.mp h).1

/-- The rooted path with these components. -/
def rooted (cs : List GoString) : GoString := separator :: unsplit cs

/-- An absolute clean path has its elements for components. -/
theorem AbsClean.rooted_cleanElements {path : GoString} (h : AbsClean path) :
    rooted (cleanElements path) = path :=
  (clean_of_isAbs h.1).symm.trans h.2

theorem AbsClean.proper {path : GoString} (h : AbsClean path) :
    ∀ c ∈ cleanElements path, Proper c :=
  cleanElements_proper h.1

theorem absClean_rooted {cs : List GoString} (proper : ∀ c ∈ cs, Proper c) :
    AbsClean (rooted cs) :=
  absClean_iff.mpr ⟨cs, proper, rfl⟩

/-- Absolute clean paths are equal when their elements are. -/
theorem AbsClean.eq_iff {path path' : GoString} (h : AbsClean path) (h' : AbsClean path') :
    path = path' ↔ cleanElements path = cleanElements path' := by
  refine ⟨congrArg cleanElements, fun same => ?_⟩
  rw [← h.rooted_cleanElements, ← h'.rooted_cleanElements, same]

/-- Proper components below a rooted path are kept. -/
theorem cleanElements_append {base : GoString} (h : isAbs base = true) {cs : List GoString}
    (ne : cs ≠ []) (proper : ∀ c ∈ cs, Proper c) :
    cleanElements (base ++ separator :: unsplit cs) = cleanElements base ++ cs := by
  rw [cleanElements, isAbs_append h, split_append, List.foldl_append,
    split_unsplit ne fun c mem => (proper c mem).noSep, foldl_push_proper proper, cleanElements, h,
    List.reverse_append, List.reverse_reverse]

/-- A relative path of proper elements, cleaned behind an absolute base. -/
theorem clean_append {base : GoString} (h : isAbs base = true) {cs : List GoString}
    (ne : cs ≠ []) (proper : ∀ c ∈ cs, Proper c) :
    clean (base ++ separator :: unsplit cs) = rooted (cleanElements base ++ cs) := by
  rw [clean_of_isAbs (isAbs_append h _), cleanElements_append h ne proper]
  rfl

/-- One rooted path is strictly below another when it goes on with a separator. -/
theorem rooted_append {cs ds : List GoString} (hcs : cs ≠ []) (hds : ds ≠ []) :
    rooted (cs ++ ds) = rooted cs ++ separator :: unsplit ds := by
  rw [rooted, unsplit_append hcs hds]
  rfl

/-- What goes on with a separator has components that go on. -/
theorem eq_append_of_rooted {cs ds : List GoString} {rest : GoString} (ne : ds ≠ [])
    (hcs : ∀ c ∈ cs, Proper c) (hds : ∀ d ∈ ds, Proper d)
    (below : rooted cs = rooted ds ++ separator :: rest) : cs = ds ++ split rest := by
  have cut := congrArg split below
  rw [split_append, rooted, rooted, split_separator_cons, split_separator_cons,
    split_unsplit ne fun d mem => (hds d mem).noSep, List.cons_append, List.cons.injEq] at cut
  rw [← cut.2]
  cases cs with
  | nil =>
      -- The root goes on with nothing.
      have long := congrArg List.length below
      rw [rooted, rooted, List.length_append, List.length_cons, List.length_cons] at long
      simp only [unsplit_nil, List.length_nil, List.length_cons] at long
      omega
  | cons c cs =>
      exact (split_unsplit (List.cons_ne_nil c cs) fun d mem => (hcs d mem).noSep).symm

/-! ## Paths that are not empty -/

/-- A path that is not the empty string. -/
abbrev Path := { path : GoString // path ≠ [] }

/-- `clean`, as a path. -/
def cleanPath (path : GoString) : Path := ⟨clean path, clean_ne_nil path⟩

/-- `join` below a path, as a path. -/
def joinPath (base : Path) (path : GoString) : Path :=
  ⟨join base.val path, join_ne_nil base.property path⟩

/-- An absolute clean path is not empty. -/
theorem AbsClean.exists_path {path : GoString} (h : AbsClean path) : ∃ p : Path, p.val = path := by
  refine ⟨⟨path, ?_⟩, rfl⟩
  rintro rfl
  cases h.1

@[simp] theorem cleanPath_val (path : GoString) : (cleanPath path).val = clean path := rfl

example : clean (GoString.ascii "/../a//./b/../c") = GoString.ascii "/a/c" := by decide

end Filepath
