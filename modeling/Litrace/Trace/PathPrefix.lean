import Litrace.Trace.PathFilter

/-!
# Prefixes of paths

`rewritePathPrefix` compares bytes.  On absolute clean paths it is about components: a path
changes when it lies within the old one (`Within`), and then to the path with the same rest
below the new one (`rebase`).

Bytes and components differ where a name continues: `/a` is a prefix of `/ab` and not above
it.  The code asks for a slash behind the prefix, unless the prefix is the root, which ends
in one; on clean paths these tests together are what `Within` says.
-/

namespace Litrace.Trace

open Filepath GoString

/-- The path is `base`, or below it. -/
def Within (base path : GoString) : Prop := cleanElements base <+: cleanElements path

instance (base path : GoString) : Decidable (Within base path) :=
  inferInstanceAs (Decidable (_ <+: _))

/-- The components of a path below `base`. -/
def restBelow (base path : GoString) : List GoString :=
  (cleanElements path).drop (cleanElements base).length

/-- The path with the same rest below `newBase` as `path` has below `oldBase`. -/
def rebase (oldBase newBase path : GoString) : Path :=
  ⟨rooted (cleanElements newBase ++ restBelow oldBase path), List.cons_ne_nil _ _⟩

section

variable {path oldBase newBase : GoString}

/-- What lies within a path has its elements first. -/
theorem Within.elements (within : Within oldBase path) :
    cleanElements path = cleanElements oldBase ++ restBelow oldBase path :=
  (List.prefix_iff_eq_append.mp within).symm

theorem within_refl (path : GoString) : Within path path := List.prefix_rfl

theorem proper_restBelow (hpath : AbsClean path) : ∀ c ∈ restBelow oldBase path, Proper c :=
  fun c mem => hpath.proper c (List.mem_of_mem_drop mem)

theorem proper_rebase (hpath : AbsClean path) (hnew : AbsClean newBase) :
    ∀ c ∈ cleanElements newBase ++ restBelow oldBase path, Proper c := by
  intro c mem
  rcases List.mem_append.mp mem with mem | mem
  · exact hnew.proper c mem
  · exact proper_restBelow hpath c mem

/-- A moved path needs no cleaning. -/
theorem absClean_rebase (hpath : AbsClean path) (hnew : AbsClean newBase) :
    AbsClean (rebase oldBase newBase path).val :=
  absClean_rooted (proper_rebase hpath hnew)

@[simp] theorem cleanElements_rebase (oldBase : GoString) (hpath : AbsClean path)
    (hnew : AbsClean newBase) :
    cleanElements (rebase oldBase newBase path).val =
      cleanElements newBase ++ restBelow oldBase path :=
  cleanElements_rooted (proper_rebase hpath hnew)

/-- The old path itself is moved to the new one. -/
theorem rebase_self (hnew : AbsClean newBase) : (rebase oldBase newBase oldBase).val = newBase := by
  show rooted (cleanElements newBase ++ restBelow oldBase oldBase) = newBase
  rw [restBelow, List.drop_length, List.append_nil, hnew.rooted_cleanElements]

/-- What was moved lies within the new path. -/
theorem within_rebase (hpath : AbsClean path) (hnew : AbsClean newBase) :
    Within newBase (rebase oldBase newBase path).val := by
  rw [Within, cleanElements_rebase oldBase hpath hnew]
  exact List.prefix_append _ _

/-- Moved back, it is where it was. -/
theorem rebase_rebase (within : Within oldBase path) (hpath : AbsClean path)
    (hnew : AbsClean newBase) :
    (rebase newBase oldBase (rebase oldBase newBase path).val).val = path := by
  show rooted (cleanElements oldBase ++ restBelow newBase (rebase oldBase newBase path).val) = path
  rw [restBelow, cleanElements_rebase oldBase hpath hnew, List.drop_left, ← within.elements,
    hpath.rooted_cleanElements]

/-- The test of `rewritePathPrefix`: a longer path that begins with the old one and a
separator. -/
theorem take_eq_iff {pre : GoString} :
    ¬ (path.length ≤ pre.length ∨ path.take pre.length ≠ pre) ↔
      ∃ rest, rest ≠ [] ∧ path = pre ++ rest := by
  rw [not_or, not_le, not_ne_iff]
  constructor
  · rintro ⟨longer, begins⟩
    refine ⟨path.drop pre.length, ?_, ?_⟩
    · rw [Ne, List.drop_eq_nil_iff]
      exact Nat.not_le.mpr longer
    · conv_lhs => rw [← List.take_append_drop pre.length path, begins]
  · rintro ⟨rest, ne, rfl⟩
    refine ⟨?_, List.take_left⟩
    rw [List.length_append]
    exact Nat.lt_add_of_pos_right (List.length_pos_iff.mpr ne)

theorem cleanElements_ne_nil_of_notRoot (hpath : AbsClean path) (notRoot : path ≠ [separator]) :
    cleanElements path ≠ [] := by
  intro none
  have root := hpath.rooted_cleanElements
  rw [none] at root
  exact notRoot root.symm

/-- What lies within another path goes on with a separator and its rest. -/
theorem Within.eq_append (within : Within oldBase path) (hpath : AbsClean path)
    (hold : AbsClean oldBase) (notRoot : oldBase ≠ [separator]) (differs : path ≠ oldBase) :
    restBelow oldBase path ≠ [] ∧
      path = (oldBase ++ [separator]) ++ unsplit (restBelow oldBase path) := by
  have elements := within.elements
  have more : restBelow oldBase path ≠ [] := by
    intro none
    rw [none, List.append_nil] at elements
    exact differs ((hpath.eq_iff hold).mpr elements)
  refine ⟨more, ?_⟩
  rw [List.append_assoc, List.singleton_append]
  calc path
      = rooted (cleanElements oldBase ++ restBelow oldBase path) := by
        rw [← elements, hpath.rooted_cleanElements]
    _ = rooted (cleanElements oldBase) ++ separator :: unsplit (restBelow oldBase path) :=
        rooted_append (cleanElements_ne_nil_of_notRoot hold notRoot) more
    _ = oldBase ++ separator :: unsplit (restBelow oldBase path) := by
        rw [hold.rooted_cleanElements]

/-- What goes on with a separator lies within. -/
theorem within_of_eq_append {rest : GoString} (hpath : AbsClean path) (hold : AbsClean oldBase)
    (notRoot : oldBase ≠ [separator]) (below : path = (oldBase ++ [separator]) ++ rest) :
    Within oldBase path := by
  rw [List.append_assoc, List.singleton_append, ← hpath.rooted_cleanElements,
    ← hold.rooted_cleanElements] at below
  have elements := eq_append_of_rooted (cleanElements_ne_nil_of_notRoot hold notRoot)
    hpath.proper hold.proper below
  exact ⟨split rest, elements.symm⟩

/-- **`rewritePathPrefix` by components**: what lies within the old path is moved to the same
place below the new one, and nothing else changes. -/
theorem rewritePathPrefix_eq {path oldBase newBase : Path} (hpath : AbsClean path.val)
    (hold : AbsClean oldBase.val) (hnew : AbsClean newBase.val)
    (notRoot : oldBase.val ≠ [separator]) :
    rewritePathPrefix path.val oldBase.val newBase.val =
      if Within oldBase.val path.val then (rebase oldBase.val newBase.val path.val, true)
      else (path, false) := by
  have cleaned : ∀ {p : Path}, AbsClean p.val → cleanPath p.val = p := fun h => Subtype.ext h.2
  unfold rewritePathPrefix
  dsimp only
  rw [cleaned hpath, cleaned hold, cleaned hnew]
  by_cases same : path = oldBase
  · rw [if_pos same, same, if_pos (within_refl _)]
    exact congrArg (·, true) (Subtype.ext (rebase_self hnew).symm)
  · have differs : path.val ≠ oldBase.val := fun h => same (Subtype.ext h)
    rw [if_neg same]
    by_cases within : Within oldBase.val path.val
    · obtain ⟨more, goesOn⟩ := within.eq_append hpath hold notRoot differs
      have ne := unsplit_ne_nil more (proper_restBelow hpath)
      rw [if_pos within, if_neg (take_eq_iff.mpr ⟨_, ne, goesOn⟩)]
      refine congrArg (·, true) (Subtype.ext ?_)
      show join newBase.val (path.val.drop (oldBase.val ++ [separator]).length) = _
      conv_lhs => rw [goesOn, List.drop_left, join_of_ne_nil newBase.property,
        clean_append hnew.1 more (proper_restBelow hpath)]
      rfl
    · rw [if_neg within, if_pos]
      by_contra passes
      obtain ⟨rest, -, goesOn⟩ := take_eq_iff.mp passes
      exact within (within_of_eq_append hpath hold notRoot goesOn)

/-- Moving the root moves the root alone: no clean path begins with two separators. -/
theorem rewritePathPrefix_root {path oldBase newBase : Path} (hpath : AbsClean path.val)
    (root : oldBase.val = [separator]) (differs : path ≠ oldBase) :
    rewritePathPrefix path.val oldBase.val newBase.val = (path, false) := by
  have cleaned : cleanPath oldBase.val = oldBase := by
    refine Subtype.ext ?_
    rw [root]
    decide
  unfold rewritePathPrefix
  dsimp only
  rw [show cleanPath path.val = path from Subtype.ext hpath.2, cleaned, if_neg differs, if_pos]
  by_contra passes
  obtain ⟨rest, -, goesOn⟩ := take_eq_iff.mp passes
  rw [root, ← hpath.rooted_cleanElements] at goesOn
  have tail : unsplit (cleanElements path.val) = separator :: rest := (List.cons.inj goesOn).2
  have some : cleanElements path.val ≠ [] := by
    intro none
    rw [none] at tail
    cases tail
  have elements := split_unsplit some fun c mem => (hpath.proper c mem).noSep
  rw [tail, split_separator_cons] at elements
  have first : [] ∈ cleanElements path.val := by
    rw [← elements]
    exact List.mem_cons_self
  exact (hpath.proper [] first).ne_nil rfl

/-- **Prefix rewriting goes by components and can be undone.**  A path changes exactly when the
components of the old path come first in it, and then those of the new path take their place;
unless the new path is the root, rewriting the other way gives the path back.

The exception of the root is one of paths: what is moved to the root keeps no trace of where the
moved part begins. -/
theorem rewriting_goes_by_components (hpath : AbsClean path) (hold : AbsClean oldBase)
    (hnew : AbsClean newBase) (notRoot : oldBase ≠ [separator]) :
    let rewritten := rewritePathPrefix path oldBase newBase
    (rewritten.2 = true ↔ cleanElements oldBase <+: cleanElements path) ∧
      (rewritten.2 = true → AbsClean rewritten.1.val ∧
        cleanElements rewritten.1.val =
          cleanElements newBase ++ (cleanElements path).drop (cleanElements oldBase).length) ∧
      (rewritten.2 = false → rewritten.1.val = path) ∧
      (newBase ≠ [separator] → rewritten.2 = true →
        let back := rewritePathPrefix rewritten.1.val newBase oldBase
        back.1.val = path ∧ back.2 = true) := by
  obtain ⟨path, rfl⟩ := hpath.exists_path
  obtain ⟨oldBase, rfl⟩ := hold.exists_path
  obtain ⟨newBase, rfl⟩ := hnew.exists_path
  dsimp only
  rw [rewritePathPrefix_eq hpath hold hnew notRoot]
  by_cases within : Within oldBase.val path.val
  · rw [if_pos within]
    have moved : AbsClean (rebase oldBase.val newBase.val path.val).val :=
      absClean_rebase hpath hnew
    refine ⟨iff_of_true rfl within, fun _ => ⟨moved, cleanElements_rebase _ hpath hnew⟩, nofun,
      fun newNotRoot _ => ?_⟩
    rw [rewritePathPrefix_eq moved hnew hold newNotRoot, if_pos (within_rebase hpath hnew)]
    exact ⟨rebase_rebase within hpath hnew, rfl⟩
  · rw [if_neg within]
    exact ⟨iff_of_false Bool.false_ne_true within, nofun, fun _ => rfl, nofun⟩

/-- `/a/b/c` when `/a/b` is renamed to `/x`. -/
theorem rewriting_goes_by_components_below :
    let rewritten := rewritePathPrefix (ascii "/a/b/c") (ascii "/a/b") (ascii "/x")
    (rewritten.2 = true ↔ cleanElements (ascii "/a/b") <+: cleanElements (ascii "/a/b/c")) ∧
      (rewritten.2 = true → AbsClean rewritten.1.val ∧
        cleanElements rewritten.1.val = cleanElements (ascii "/x") ++
          (cleanElements (ascii "/a/b/c")).drop (cleanElements (ascii "/a/b")).length) ∧
      (rewritten.2 = false → rewritten.1.val = ascii "/a/b/c") ∧
      (ascii "/x" ≠ [separator] → rewritten.2 = true →
        let back := rewritePathPrefix rewritten.1.val (ascii "/x") (ascii "/a/b")
        back.1.val = ascii "/a/b/c" ∧ back.2 = true) :=
  rewriting_goes_by_components ⟨by decide, by decide⟩ ⟨by decide, by decide⟩
    ⟨by decide, by decide⟩ (by decide)

/-- A sibling with the same first bytes stays. -/
example : (rewritePathPrefix (ascii "/a/bc") (ascii "/a/b") (ascii "/x")).2 = false := by decide

/-! ## The path after a renaming -/

/-- What becomes of a recorded path. -/
def movedPath (oldPath newPath path : Path) : Path :=
  let rewritten := rewritePathPrefix path.val oldPath.val newPath.val
  if rewritten.2 then rewritten.1 else path

section Moved

variable {oldPath newPath path : Path}

/-- The code moves exactly what lies within the old path; the root cannot be moved. -/
theorem movedPath_eq (hpath : AbsClean path.val) (hold : AbsClean oldPath.val)
    (hnew : AbsClean newPath.val) (notRoot : oldPath.val ≠ [separator]) :
    movedPath oldPath newPath path =
      if Within oldPath.val path.val then rebase oldPath.val newPath.val path.val else path := by
  unfold movedPath
  rw [rewritePathPrefix_eq hpath hold hnew notRoot]
  split
  · rfl
  · rfl

/-- The path is below `base`. -/
def StrictlyWithin (base path : GoString) : Prop := Within base path ∧ path ≠ base

theorem within_root (path : GoString) : Within [separator] path := List.nil_prefix

/-- A path is within the old one after the renaming if it was, and is at its new place. -/
theorem within_movedPath (hpath : AbsClean path.val) (hold : AbsClean oldPath.val)
    (hnew : AbsClean newPath.val) :
    Within oldPath.val (movedPath oldPath newPath path).val ↔
      Within oldPath.val path.val ∧
        Within oldPath.val (rebase oldPath.val newPath.val path.val).val := by
  by_cases root : oldPath.val = [separator]
  · rw [root]
    exact iff_of_true (within_root _) ⟨within_root _, within_root _⟩
  · rw [movedPath_eq hpath hold hnew root]
    split
    next within => exact (and_iff_right within).symm
    next outside => exact iff_of_false outside fun h => outside h.1

/-- A moved path is below the old one only if it was within it and its new place is below it. -/
theorem strictlyWithin_movedPath (hpath : AbsClean path.val) (hold : AbsClean oldPath.val)
    (hnew : AbsClean newPath.val) :
    StrictlyWithin oldPath.val (movedPath oldPath newPath path).val ↔
      Within oldPath.val path.val ∧
        StrictlyWithin oldPath.val (rebase oldPath.val newPath.val path.val).val := by
  by_cases root : oldPath.val = [separator]
  · rw [StrictlyWithin, StrictlyWithin, root, and_iff_right (within_root _),
      and_iff_right (within_root _), and_iff_right (within_root _)]
    by_cases same : path = oldPath
    · have rewritten : rewritePathPrefix oldPath.val oldPath.val newPath.val =
          (cleanPath newPath.val, true) := if_pos rfl
      have moved : movedPath oldPath newPath oldPath = newPath := by
        unfold movedPath
        rw [rewritten]
        exact Subtype.ext hnew.2
      rw [same, moved, ← root, rebase_self hnew]
    · have stays : movedPath oldPath newPath path = path := by
        unfold movedPath
        rw [rewritePathPrefix_root hpath root same]
        rfl
      have below : path.val ≠ [separator] := fun h => same (Subtype.ext (h.trans root.symm))
      rw [stays]
      refine iff_of_true below ?_
      intro atRoot
      have elements := cleanElements_rebase oldPath.val hpath hnew
      rw [root, atRoot] at elements
      have none := (List.append_eq_nil_iff.mp elements.symm).2
      exact cleanElements_ne_nil_of_notRoot hpath below none
  · rw [movedPath_eq hpath hold hnew root]
    split
    next within => exact (and_iff_right within).symm
    next outside => exact iff_of_false (fun h => outside h.1) fun h => outside h.1

end Moved

end

end Litrace.Trace
